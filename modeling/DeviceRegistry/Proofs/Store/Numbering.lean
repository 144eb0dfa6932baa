import DeviceRegistry.Proofs.Store.Registry

/-! The ids that a store gives over its history. A committed id is larger than all that were
committed before it, those of deleted rows included; a transaction is issued the successors of the
committed sequence, and leaves the sequence alone unless it is committed. -/
namespace DeviceRegistry

inductive RecordKind where
  | user | device | stream

namespace RecordKind

def sequence : RecordKind → String
  | user => "users"
  | device => "devices"
  | stream => "streams"

def rows (t : Tables) : RecordKind → Table UInt64 Bytes
  | user => t.users
  | device => t.devices
  | stream => t.streams

end RecordKind

namespace Tables

variable {kind : RecordKind} {t t' : Tables} {id : UInt64} {row : Bytes}

/-- The ids of the rows that `t'` has and `t` has not. -/
def added (kind : RecordKind) (t t' : Tables) : List UInt64 :=
  (kind.rows t').keys.filter fun id => !(kind.rows t).contains id

/-- The id that was issued from `t` to `t'`, if one was. -/
def drawn (kind : RecordKind) (t t' : Tables) : List UInt64 :=
  if t'.issued kind.sequence = t.issued kind.sequence then [] else [t'.issued kind.sequence]

theorem mem_added : id ∈ t.added kind t' ↔
    (∃ row, (kind.rows t').get? id = some row) ∧ (kind.rows t).get? id = none := by
  simp [added, Table.mem_keys, Table.contains]

theorem added_of_kept (kept : ∀ id row, (kind.rows t').get? id = some row →
    ∃ row, (kind.rows t).get? id = some row) : t.added kind t' = [] := by
  rw [List.eq_nil_iff_forall_not_mem]
  intro id listed
  obtain ⟨⟨row, there⟩, new⟩ := mem_added.1 listed
  obtain ⟨row, before⟩ := kept id row there
  rw [new] at before
  contradiction

theorem added_of_same (same : kind.rows t' = kind.rows t) : t.added kind t' = [] :=
  added_of_kept fun _ row there => ⟨row, same ▸ there⟩

theorem added_of_insert (inserted : kind.rows t' = (kind.rows t).insert id row)
    (new : (kind.rows t).get? id = none) : t.added kind t' = [id] := by
  have nodup : (t.added kind t').Nodup := by
    refine List.Pairwise.filter _ (List.pairwise_map.2 ((kind.rows t').ascending.imp ?_))
    intro a b below same
    rw [same, Std.ReflOrd.compare_self] at below
    contradiction
  rw [← List.perm_singleton, List.perm_ext_iff_of_nodup nodup (List.pairwise_singleton _ id)]
  intro other
  rw [mem_added, inserted, List.mem_singleton]
  constructor
  · rintro ⟨⟨row', there⟩, unknown⟩
    by_contra different
    rw [Table.get?_insert_ne _ _ different, unknown] at there
    contradiction
  · rintro rfl
    exact ⟨⟨row, Table.get?_insert_self ..⟩, new⟩

theorem drawn_of_same (same : t'.issued kind.sequence = t.issued kind.sequence) :
    t.drawn kind t' = [] := if_pos same

theorem added_eq_drawn (inserted : kind.rows t' = (kind.rows t).insert id row)
    (new : (kind.rows t).get? id = none) (next : id = t.issued kind.sequence + 1)
    (issued : t'.issued kind.sequence = id) : t.added kind t' = t.drawn kind t' := by
  rw [added_of_insert inserted new, drawn, issued, if_neg (next ▸ add_one_ne _)]

/-- As long as the sequence has not come round, an id is issued as the successor of the last. -/
theorem drawn_consecutive (onward : Onward t t') (spare : Spare t t') :
    (t.drawn kind t').map UInt64.toNat =
        List.range' ((t.issued kind.sequence).toNat + 1) (t.drawn kind t').length ∧
      (t'.issued kind.sequence).toNat =
        (t.issued kind.sequence).toNat + (t.drawn kind t').length := by
  by_cases same : t'.issued kind.sequence = t.issued kind.sequence
  · rw [drawn_of_same same, same]
    exact ⟨rfl, rfl⟩
  · have next := (onward kind.sequence).resolve_left same
    have room := (spare kind.sequence same).toNat
    rw [drawn, if_neg same, next, List.map_singleton, room]
    exact ⟨rfl, rfl⟩

theorem added_eq_drawn_of_same (rows : kind.rows t' = kind.rows t)
    (issued : t'.issued kind.sequence = t.issued kind.sequence) : t.added kind t' = t.drawn kind t' := by
  rw [added_of_same rows, drawn_of_same issued]

end Tables

/-- Rows were filed under the ids that were issued, one under each. -/
def Files (t t' : Tables) : Prop := ∀ kind, t.added kind t' = t.drawn kind t'

namespace Files

variable {t : Tables} {c : Contents}

theorem refl (t : Tables) : Files t t := fun _ => Tables.added_eq_drawn_of_same rfl rfl

theorem withUser (h : t.Holds c) {row : UserRow} (next : row.id = c.lastUser + 1) :
    Files t (t.withUser row) := by
  have new : t.users.get? row.id = none := next ▸ h.users.get?_none h.valid.users.next_new
  intro kind
  cases kind with
  | user => exact Tables.added_eq_drawn rfl new (h.lastUser ▸ next) (t.issued_withUser row "users")
  | device => exact Tables.added_eq_drawn_of_same rfl (t.issued_withUser row "devices")
  | stream => exact Tables.added_eq_drawn_of_same rfl (t.issued_withUser row "streams")

theorem withDevice (h : t.Holds c) {row : DeviceRow} (next : row.id = c.lastDevice + 1) :
    Files t (t.withDevice row) := by
  have new : t.devices.get? row.id = none := next ▸ h.devices.get?_none h.valid.devices.next_new
  intro kind
  cases kind with
  | device => exact Tables.added_eq_drawn rfl new (h.lastDevice ▸ next) (t.issued_withDevice row "devices")
  | user => exact Tables.added_eq_drawn_of_same rfl (t.issued_withDevice row "users")
  | stream => exact Tables.added_eq_drawn_of_same rfl (t.issued_withDevice row "streams")

theorem withStream (h : t.Holds c) {row : StreamRow} (next : row.id = c.lastStream + 1) :
    Files t (t.withStream row) := by
  have new : t.streams.get? row.id = none := next ▸ h.streams.get?_none h.valid.streams.next_new
  intro kind
  cases kind with
  | stream => exact Tables.added_eq_drawn rfl new (h.lastStream ▸ next) (t.issued_withStream row "streams")
  | user => exact Tables.added_eq_drawn_of_same rfl (t.issued_withStream row "users")
  | device => exact Tables.added_eq_drawn_of_same rfl (t.issued_withStream row "devices")

theorem withoutDevice (t : Tables) (id : UInt64) (row : DeviceRow) (gone : List StreamRow) :
    Files t (t.withoutDevice id row gone) := by
  intro kind
  rw [Tables.drawn_of_same (t.issued_withoutDevice id row gone kind.sequence)]
  apply Tables.added_of_kept
  intro other stored there
  rw [Tables.withoutDevice, Tables.foldl_withoutStream] at there
  refine ⟨stored, ?_⟩
  cases kind with
  | user => exact there
  | device =>
    by_cases same : other = id
    · rw [RecordKind.rows, same, Table.get?_erase_self] at there
      contradiction
    · rwa [RecordKind.rows, Table.get?_erase_ne _ same] at there
  | stream => exact ((Table.get?_foldl_erase _ gone t.streams other stored).1 there).1

theorem withoutUser (t : Tables) (id : UInt64) (row : UserRow) : Files t (t.withoutUser id row) := by
  intro kind
  have issued : (t.withoutUser id row).issued kind.sequence = t.issued kind.sequence := rfl
  rw [Tables.drawn_of_same issued]
  apply Tables.added_of_kept
  intro other stored there
  refine ⟨stored, ?_⟩
  cases kind with
  | user =>
    by_cases same : other = id
    · rw [RecordKind.rows, same, Tables.withoutUser, Table.get?_erase_self] at there
      contradiction
    · rwa [RecordKind.rows, Tables.withoutUser, Table.get?_erase_ne _ same] at there
  | device => exact there
  | stream => exact there

end Files

/-- An operation that succeeds files a row under each id that it is issued, one that fails files
none. -/
def Numbers (t : Tables) {α : Type} : EStateM.Result StoreError Transaction α → Prop
  | .ok _ tx => Files t tx.tables
  | .error _ tx => ∀ kind, t.added kind tx.tables = []

theorem RecordStep.numbers {tx : Transaction} {c : Contents} (h : tx.tables.Holds c)
    (step : RecordStep) : Numbers tx.tables (step.perform tx) := by
  have same : ∀ kind, tx.tables.added kind tx.tables = [] := fun _ => Tables.added_of_same rfl
  cases step with
  | upsertUser uid keys =>
    have outcome := Transaction.upsertUser_outcome h uid keys
    rw [perform]
    generalize Transaction.upsertUser uid keys tx = result at outcome ⊢
    cases outcome with
    | known => exact .refl _
    | locked => exact same
    | new new next => exact .withUser h next
    | unsealed => exact fun kind => Tables.added_of_same (by cases kind <;> rfl)
  | insertDevice d =>
    have outcome := Transaction.insertDevice_outcome h d
    rw [perform]
    generalize Transaction.insertDevice d tx = result at outcome ⊢
    cases outcome with
    | taken => exact same
    | unowned => exact same
    | unsealed => exact fun kind => Tables.added_of_same (by cases kind <;> rfl)
    | inserted next => exact .withDevice h next
  | insertStream deviceId uid =>
    have outcome := Transaction.insertStream_outcome h deviceId uid
    rw [perform]
    generalize Transaction.insertStream deviceId uid tx = result at outcome ⊢
    cases outcome with
    | taken => exact same
    | unknown => exact same
    | unreadable => exact same
    | inserted next => exact .withStream h next
  | streamsOf deviceId =>
    obtain ⟨rows, -, listed⟩ := Transaction.streamsOf_eq h deviceId
    rw [perform, listed]
    exact .refl _
  | deleteDevice token publicKey =>
    have outcome := Transaction.deleteDevice_outcome h token publicKey
    rw [perform]
    generalize Transaction.deleteDevice token publicKey tx = result at outcome ⊢
    cases outcome with
    | refused => exact same
    | deleted => exact Files.withoutDevice tx.tables _ _ _
  | countDevices userId => exact .refl _
  | deleteUser userId =>
    have outcome := Transaction.deleteUser_outcome h userId
    rw [perform]
    generalize Transaction.deleteUser userId tx = result at outcome ⊢
    cases outcome with
    | owns => exact same
    | unknown => exact same
    | deleted => exact Files.withoutUser tx.tables _ _

/-- An operation files rows under no other ids than it is issued. -/
theorem RecordStep.added_sublist {tx : Transaction} {c : Contents} (h : tx.tables.Holds c)
    (step : RecordStep) (kind : RecordKind) :
    (tx.tables.added kind (step.apply tx).tables).Sublist
      (tx.tables.drawn kind (step.apply tx).tables) := by
  have numbers := step.numbers h
  rw [step.apply_eq]
  generalize step.perform tx = result at numbers ⊢
  cases result with
  | ok answer tx' => exact numbers kind ▸ .refl _
  | error e tx' => exact numbers kind ▸ List.nil_sublist _

/-- What a session has done with the ids of a kind. -/
structure Numbering where
  /-- Those under which committed transactions have filed rows, in this order. -/
  committed : List UInt64 := []
  /-- Those that the open transaction was issued. -/
  drawn : List UInt64 := []
  /-- Those under which the open transaction has filed rows. -/
  added : List UInt64 := []

def Numbering.next (kind : RecordKind) (n : Numbering) : Session → StoreStep → Numbering
  | .opened _ (some tx), .work step =>
    { n with
      drawn := n.drawn ++ tx.tables.drawn kind (step.apply tx).tables
      added := n.added ++ tx.tables.added kind (step.apply tx).tables }
  | .opened _ (some _), .commit => { committed := n.committed ++ n.added }
  | .opened _ (some _), .begin => n
  | _, _ => { committed := n.committed }

theorem Numbering.next_idle {kind : RecordKind} (n : Numbering) {session : Session}
    {step : StoreStep} (none : session.working? = none) :
    n.next kind session step = { committed := n.committed } := by
  rcases session with tables | ⟨store, _ | tx⟩
  · rfl
  · cases step <;> rfl
  · cases none

theorem Numbering.next_reopen {kind : RecordKind} (n : Numbering) (session : Session)
    (password : String) (entropy : Entropy) :
    n.next kind session (.reopen password entropy) = { committed := n.committed } := by
  rcases session with tables | ⟨store, _ | tx⟩ <;> rfl

/-- The open transaction ends without being committed. -/
inductive StoreStep.GivesUp : StoreStep → Prop where
  | rollback : GivesUp .rollback
  | drop : GivesUp .drop
  | reopen (password : String) (entropy : Entropy) : GivesUp (.reopen password entropy)

namespace Session

/-- The ids of a kind after a run that began with the given ones. -/
def numberingFrom (kind : RecordKind) : Numbering → Session → List StoreStep → Numbering
  | n, _, [] => n
  | n, session, step :: rest => numberingFrom kind (n.next kind session step) (session.next step) rest

def numbering (kind : RecordKind) (session : Session) (steps : List StoreStep) : Numbering :=
  numberingFrom kind {} session steps

structure Numbered (kind : RecordKind) (session : Session) (n : Numbering) : Prop where
  /-- Each id under which a row was filed is larger than those before it. -/
  ascending : (n.committed ++ n.added).Pairwise (· < ·)
  issued : ∀ id ∈ n.committed, id ≤ session.committed.issued kind.sequence
  /-- These are the ids of all the committed rows. -/
  filed : ∀ id row, (kind.rows session.committed).get? id = some row → id ∈ n.committed
  /-- The open transaction was issued the successors of the sequence that it began with. -/
  consecutive : n.drawn.map UInt64.toNat =
    List.range' ((session.committed.issued kind.sequence).toNat + 1) n.drawn.length
  within : n.added.Sublist n.drawn
  last : ∀ t, session.working? = some t → (t.issued kind.sequence).toNat =
    (session.committed.issued kind.sequence).toNat + n.drawn.length
  filing : ∀ t, session.working? = some t → ∀ id row, (kind.rows t).get? id = some row →
    id ∈ n.committed ∨ id ∈ n.added
  idle : session.working? = none → n.drawn = []

namespace Numbered

variable {kind : RecordKind} {session : Session} {n : Numbering} {count : String → Nat}

theorem fresh : Session.fresh.Numbered kind {} where
  ascending := .nil
  issued := nofun
  filed := by cases kind <;> nofun
  consecutive := rfl
  within := .slnil
  last := nofun
  filing := nofun
  idle _ := rfl

/-- Without work in a transaction nothing changes. -/
theorem ended (h : session.Numbered kind n) {session' : Session}
    (rows : kind.rows session'.committed = kind.rows session.committed)
    (issued : session'.committed.issued kind.sequence = session.committed.issued kind.sequence)
    (begun : ∀ t, session'.working? = some t → t = session'.committed) :
    session'.Numbered kind { committed := n.committed } where
  ascending := by
    rw [List.append_nil]
    exact (List.pairwise_append.1 h.ascending).1
  issued id listed := issued ▸ h.issued id listed
  filed id row there := h.filed id row (rows ▸ there)
  consecutive := rfl
  within := .slnil
  last t open_ := by
    rw [begun t open_]
    rfl
  filing t open_ id row there := by
    rw [begun t open_, rows] at there
    exact .inl (h.filed id row there)
  idle _ := rfl

theorem bounds (h : session.Numbered kind n) {id : UInt64} (listed : id ∈ n.drawn) :
    (session.committed.issued kind.sequence).toNat < id.toNat ∧
      id.toNat ≤ (session.committed.issued kind.sequence).toNat + n.drawn.length := by
  have placed : id.toNat ∈ n.drawn.map UInt64.toNat := List.mem_map_of_mem listed
  rw [h.consecutive, List.mem_range'_1] at placed
  omega

section
variable {store : Store} {tx : Transaction}

/-- All ids of an open transaction, and those before it, are within its sequence. -/
theorem le_last (h : (Session.opened store (some tx)).Numbered kind n) {id : UInt64}
    (listed : id ∈ n.committed ++ n.added) : id ≤ tx.tables.issued kind.sequence := by
  have last := h.last tx.tables rfl
  rw [UInt64.le_iff_toNat_le]
  rcases List.mem_append.1 listed with before | added
  · have := UInt64.le_iff_toNat_le.1 (h.issued id before)
    omega
  · have := (h.bounds (h.within.subset added)).2
    omega

theorem commit (h : (Session.opened store (some tx)).Numbered kind n) :
    (Session.opened (store.commit tx) none).Numbered kind { committed := n.committed ++ n.added } where
  ascending := by
    rw [List.append_nil]
    exact h.ascending
  issued _ listed := h.le_last listed
  filed id row there := List.mem_append.2 (h.filing tx.tables rfl id row there)
  consecutive := rfl
  within := .slnil
  last := nofun
  filing := nofun
  idle _ := rfl

/-- An operation is issued the successor of what was issued last, or nothing. -/
theorem work (h : (Session.opened store (some tx)).Numbered kind n) (step : RecordStep)
    {c : Contents} (held : tx.tables.Holds c) (spare : Spare tx.tables (step.apply tx).tables) :
    (Session.opened store (some (step.apply tx))).Numbered kind
      (n.next kind (.opened store (some tx)) (.work step)) := by
  have last := h.last tx.tables rfl
  have onward := (RecordStep.leaves held ⟨fun _ _ _ => trivial, fun _ _ _ => trivial⟩
    (step.admits_any tx.cipher)).onward
  have part := step.added_sublist held kind
  show (Session.opened store (some (step.apply tx))).Numbered kind
    ⟨n.committed, n.drawn ++ tx.tables.drawn kind (step.apply tx).tables,
      n.added ++ tx.tables.added kind (step.apply tx).tables⟩
  obtain ⟨successor, reached⟩ := @Tables.drawn_consecutive kind _ _ onward spare
  generalize step.apply tx = tx' at *
  have above : ∀ id ∈ tx.tables.added kind tx'.tables, tx.tables.issued kind.sequence < id := by
    intro id listed
    have placed : id.toNat ∈ (tx.tables.drawn kind tx'.tables).map UInt64.toNat :=
      List.mem_map_of_mem (part.subset listed)
    rw [successor, List.mem_range'_1] at placed
    rw [UInt64.lt_iff_toNat_lt]
    omega
  exact {
    ascending := by
      rw [← List.append_assoc, List.pairwise_append]
      refine ⟨h.ascending, (List.Pairwise.sublist part ?_), ?_⟩
      · have order : ((tx.tables.drawn kind tx'.tables).map UInt64.toNat).Pairwise (· < ·) :=
          successor ▸ List.pairwise_lt_range'
        exact (List.pairwise_map.1 order).imp UInt64.lt_iff_toNat_lt.2
      · intro id old id' new
        exact UInt64.lt_of_le_of_lt (h.le_last old) (above id' new)
    issued := h.issued
    filed := h.filed
    consecutive := by
      rw [List.map_append, h.consecutive, successor, last, List.length_append,
        Nat.add_right_comm, List.range'_append_1]
      rfl
    within := h.within.append part
    last := by
      rintro t ⟨⟩
      rw [reached, last, List.length_append]
      exact Nat.add_assoc ..
    filing := by
      rintro t ⟨⟩ id row there
      by_cases before : (kind.rows tx.tables).get? id = none
      · exact .inr (List.mem_append_right _ (Tables.mem_added.2 ⟨⟨row, there⟩, before⟩))
      · obtain ⟨row', before⟩ := Option.ne_none_iff_exists'.1 before
        exact (h.filing tx.tables rfl id row' before).imp_right (List.mem_append_left _)
    idle := nofun }

end

theorem next (h : session.Numbered kind n) (sound : session.Sound count) (step : StoreStep)
    (room : ∀ q, count q + session.issues q step < UInt64.size) :
    (session.next step).Numbered kind (n.next kind session step) ∧
      session.committed.issued kind.sequence ≤ (session.next step).committed.issued kind.sequence := by
  have goes := session.next_goes step
  generalize session.next step = session' at goes ⊢
  cases goes with
  | idle none =>
    rw [n.next_idle none]
    exact ⟨h.ended rfl rfl fun t open_ => absurd (none.symm.trans open_) nofun, UInt64.le_refl _⟩
  | waits => exact ⟨h, UInt64.le_refl _⟩
  | begins store =>
    refine ⟨h.ended rfl rfl ?_, UInt64.le_refl _⟩
    rintro t ⟨⟩
    rfl
  | works store tx step =>
    have working := sound.working tx.tables rfl
    obtain ⟨c, held⟩ := working.held
    exact ⟨h.work step held (working.issued.spare room), UInt64.le_refl _⟩
  | commits store tx =>
    refine ⟨h.commit, ?_⟩
    have last := h.last tx.tables rfl
    rw [UInt64.le_iff_toNat_le]
    exact Nat.le.intro last.symm
  | abandons store tx undone =>
    rcases undone with rfl | rfl <;> exact ⟨h.ended rfl rfl nofun, UInt64.le_refl _⟩
  | @reopens _ _ _ _ store done =>
    obtain ⟨metadata, tables⟩ := Store.opened_tables done
    have issued : store.tables.issued kind.sequence = session.committed.issued kind.sequence := by
      rw [tables]
      rfl
    have rows : kind.rows store.tables = kind.rows session.committed := by
      rw [tables]
      cases kind <;> rfl
    rw [n.next_reopen]
    exact ⟨h.ended rows issued nofun, UInt64.le_of_eq issued.symm⟩
  | closes =>
    rw [n.next_reopen]
    exact ⟨h.ended rfl rfl nofun, UInt64.le_refl _⟩

theorem run (h : session.Numbered kind n) (sound : session.Sound count) (steps : List StoreStep)
    (room : ∀ q, count q + session.issuesOf q steps < UInt64.size) :
    (session.run steps).Numbered kind (numberingFrom kind n session steps) ∧
      session.committed.issued kind.sequence ≤ (session.run steps).committed.issued kind.sequence := by
  induction steps generalizing session count n with
  | nil => exact ⟨h, UInt64.le_refl _⟩
  | cons step rest ih =>
    simp only [issuesOf, ← Nat.add_assoc] at room
    have first : ∀ q, count q + session.issues q step < UInt64.size := by
      intro q
      have := room q
      omega
    obtain ⟨numbered, grown⟩ := h.next sound step first
    obtain ⟨numbered, grown'⟩ := ih numbered (sound.next step first) room
    exact ⟨numbered, UInt64.le_trans grown grown'⟩

end Numbered

theorem issued_next_of_gaveUp (session : Session) {ending : StoreStep} (undone : ending.GivesUp)
    (sequence : String) :
    (session.next ending).committed.issued sequence = session.committed.issued sequence := by
  have goes := session.next_goes ending
  generalize session.next ending = session' at goes ⊢
  cases goes with
  | reopens done =>
    obtain ⟨metadata, tables⟩ := Store.opened_tables done
    rw [committed, tables]
    rfl
  | commits => cases undone
  | _ => rfl

/-- The work of a transaction that is not committed leaves the committed sequences alone. -/
theorem issued_of_gaveUp (session : Session) (works : List RecordStep) {ending : StoreStep}
    (undone : ending.GivesUp) (sequence : String) :
    (session.run (.begin :: works.map .work ++ [ending])).committed.issued sequence =
      session.committed.issued sequence := by
  have kept : ∀ session : Session, ((session.run (works.map .work)).next ending).committed.issued
      sequence = session.committed.issued sequence := by
    intro session
    induction works generalizing session with
    | nil => exact session.issued_next_of_gaveUp undone sequence
    | cons work rest ih =>
      refine (ih (session.next (.work work))).trans ?_
      rcases session with tables | ⟨store, _ | tx⟩ <;> rfl
  rw [run_append]
  refine (kept (session.next .begin)).trans ?_
  rcases session with tables | ⟨store, _ | tx⟩ <;> rfl

/-- Whatever is done with a store, as long as each sequence has issued fewer than `2^64` ids: no
committed id is given again, also after its row was deleted, and the committed sequence never goes
back. A transaction is issued the successors of the committed sequence, one row is filed under each
of them unless the operation fails, and the sequence stays where it was if the transaction is not
committed. The successor of an id that was issued last never overflows. -/
theorem run_numbered (kind : RecordKind) (steps : List StoreStep)
    (few : ∀ sequence, fresh.issuesOf sequence steps < UInt64.size) :
    (fresh.run steps).Numbered kind (fresh.numbering kind steps) ∧
      (∀ before after, steps = before ++ after →
        (fresh.run before).committed.issued kind.sequence ≤
          (fresh.run steps).committed.issued kind.sequence) ∧
      (∀ (works : List RecordStep) (ending : StoreStep), ending.GivesUp →
        ((fresh.run steps).run (.begin :: works.map .work ++ [ending])).committed.issued
          kind.sequence = (fresh.run steps).committed.issued kind.sequence) ∧
      ∀ before record after store tx, steps = before ++ .work record :: after →
        fresh.run before = .opened store (some tx) →
          Spare tx.tables (record.apply tx).tables ∧ Numbers tx.tables (record.perform tx) := by
  refine ⟨(Numbered.fresh.run sound_fresh steps (by simpa using few)).1, ?_, ?_, ?_⟩
  · rintro before after rfl
    have fewBefore := issuesOf_lt_before few
    simp only [issuesOf_append] at few
    have sound := sound_fresh.run before (by simpa using fewBefore)
    have numbered := ((@Numbered.fresh kind).run sound_fresh before
      (by simpa using fewBefore)).1
    rw [run_append]
    exact (@Numbered.run kind _ _ _ numbered sound after (by simpa using few)).2
  · intro works ending undone
    exact issued_of_gaveUp _ works undone _
  · rintro before record after store tx rfl reached
    have fewBefore := issuesOf_lt_before few
    simp only [issuesOf_append, reached, issuesOf, issues] at few
    have working := (sound_fresh.run before (by simpa using fewBefore)).working tx.tables
      (by rw [reached]; rfl)
    obtain ⟨c, held⟩ := working.held
    refine ⟨working.issued.spare ?_, record.numbers held⟩
    intro q
    have := few q
    omega

/-- The device goes for good, another one is given up, and its token is used again after the store
was opened again. -/
def goneAndBack : List StoreStep :=
  comeAndGo ++ [.commit, .begin, .work (.upsertUser "alice" ⟨"private", "public"⟩), .rollback,
    .reopen "secret" ⟨fun _ => some (List.replicate 12 9), 0⟩, .begin,
    .work (.upsertUser "alice" ⟨"private", "public"⟩),
    .work (.insertDevice ⟨"meter", 2, ⟨"private", "public"⟩, {}, .outdoor⟩), .commit]

theorem run_numbered_goneAndBack :
    (∀ sequence, fresh.issuesOf sequence goneAndBack < UInt64.size) ∧
      (fresh.run goneAndBack).Numbered .device (fresh.numbering .device goneAndBack) ∧
      (∀ before after, goneAndBack = before ++ after →
        (fresh.run before).committed.issued "devices" ≤
          (fresh.run goneAndBack).committed.issued "devices") ∧
      (∀ (works : List RecordStep) (ending : StoreStep), ending.GivesUp →
        ((fresh.run goneAndBack).run (.begin :: works.map .work ++ [ending])).committed.issued
          "devices" = (fresh.run goneAndBack).committed.issued "devices") ∧
      ∀ before record after store tx, goneAndBack = before ++ .work record :: after →
        fresh.run before = .opened store (some tx) →
          Spare tx.tables (record.apply tx).tables ∧ Numbers tx.tables (record.perform tx) := by
  have few : ∀ sequence, fresh.issuesOf sequence goneAndBack < UInt64.size := fun sequence =>
    Nat.lt_of_le_of_lt (issuesOf_le_length ..) (by decide)
  exact ⟨few, run_numbered .device goneAndBack few⟩

end Session
end DeviceRegistry
