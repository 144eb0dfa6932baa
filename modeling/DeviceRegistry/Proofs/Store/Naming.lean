import DeviceRegistry.Proofs.Registrar.Transactions
import DeviceRegistry.Proofs.Store.Untouched

/-! The uids under which streams are stored. Whatever the tables hold, the transactions add no stream
but the one that is recorded, and that under the uid given to them. -/
namespace DeviceRegistry

/-- Each stream is one of before, or has a uid of which `named` is true. -/
def Tables.GainsStreams (named : String → Prop) (t t' : Tables) : Prop :=
  ∀ id b, t'.streams.get? id = some b →
    t.streams.get? id = some b ∨ ∃ row : StreamRow, b = StoredRow.encode row ∧ named row.uid

namespace Tables.GainsStreams

variable {named : String → Prop} {t t' t'' : Tables}

theorem of_same (same : t'.streams = t.streams) : t.GainsStreams named t' :=
  fun _ _ there => .inl (same ▸ there)

theorem refl (t : Tables) : t.GainsStreams named t := .of_same rfl

theorem trans (h : t.GainsStreams named t') (h' : t'.GainsStreams named t'') :
    t.GainsStreams named t'' :=
  fun id b there => (h' id b there).elim (h id b) .inr

theorem of_insert {id : UInt64} {row : StreamRow}
    (rows : t'.streams = Tables.withRow t.streams id row) (name : named row.uid) :
    t.GainsStreams named t' := by
  intro place b there
  rw [rows] at there
  by_cases same : place = id
  · rw [same] at there
    cases (Table.get?_insert_self t.streams id _).symm.trans there
    exact .inr ⟨row, rfl, name⟩
  · exact .inl ((Table.get?_insert_ne t.streams _ same).symm.trans there)

theorem of_erase {gone : List StreamRow}
    (rows : t'.streams = gone.foldl (fun rows s => rows.erase s.id) t.streams) :
    t.GainsStreams named t' := by
  intro place b there
  rw [rows] at there
  exact .inl ((Table.get?_foldl_erase _ gone t.streams place b).1 there).1

end Tables.GainsStreams

variable {named : String → Prop}

namespace Transaction

theorem overlooks_gains : Overlooks fun tx tx' => tx.tables.GainsStreams named tx'.tables where
  trans := .trans
  apart _ same := .of_same same

end Transaction

namespace Registrar
open Transaction

theorem stateAfter_attempting {σ α : Type} (attempt : Attempt) (op : EStateM StoreError σ α) (s : σ) :
    stateAfter (attempting attempt op s) = stateAfter (op s) := by
  cases done : op s with
  | ok a t => rw [attempting_ok done, stateAfter, stateAfter]
  | error e t => rw [attempting_error done, stateAfter, stateAfter]

theorem keeps_attempting {R : Transaction → Transaction → Prop} {α : Type} (attempt : Attempt)
    {op : EStateM StoreError Transaction α} (h : Keeps R op) : Keeps R (attempting attempt op) := by
  intro tx
  rw [stateAfter_attempting]
  exact h tx

theorem transaction_gains {α : Type} {commit : Attempt}
    {ops : EStateM RegistrationError Transaction α}
    (h : Keeps (fun tx tx' => tx.tables.GainsStreams named tx'.tables) ops) (s : Store) :
    s.tables.GainsStreams named (stateAfter (transaction (S := Store) commit ops s)).tables := by
  refine transaction_tables (.refl _) fun a tx done => ?_
  have kept := h s.begin
  rw [done] at kept
  exact kept

theorem register_gains (r : ClaimRequest) (location : Location) (userKeys deviceKeys : KeyPair)
    (s : Store) :
    s.tables.GainsStreams named (stateAfter (register r location userKeys deviceKeys s)).tables := by
  have o := @overlooks_gains named
  apply transaction_gains
  refine o.bind (keeps_attempting _ (o.upsertUser _ _)) fun user => ?_
  exact o.bind (keeps_attempting _ (o.insertDevice _)) fun _ => o.pure _

theorem recordStream_gains (device : UInt64) {uid : String} (name : named uid) (s : Store) :
    s.tables.GainsStreams named (stateAfter (recordStream device uid s)).tables := by
  have o := @overlooks_gains named
  apply transaction_gains
  have inserts : Keeps (fun tx tx' => tx.tables.GainsStreams named tx'.tables)
      (insertStream device uid) :=
    o.insertStream fun _ _ _ _ rows => .of_insert rows name
  exact o.bind (keeps_attempting _ inserts) fun _ => o.pure _

theorem removeDevice_gains (token publicKey : String) (s : Store) :
    s.tables.GainsStreams named (stateAfter (removeDevice token publicKey s)).tables := by
  have o := @overlooks_gains named
  apply transaction_gains
  have deletes := o.deleteDevice token publicKey fun _ _ _ _ rows => .of_erase rows
  refine o.bind (keeps_attempting _ deletes) fun removed => ?_
  refine o.bind (keeps_attempting _ (o.countDevices _)) fun remaining => ?_
  split
  · exact o.bind (keeps_attempting _ (o.deleteUser _)) fun _ => o.pure _
  · exact o.bind (o.pure _) fun _ => o.pure _

end Registrar
end DeviceRegistry
