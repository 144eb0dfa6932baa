import DeviceRegistry.Proofs.Store.Operations

/-! What operations on records leave as it was. None of them touches the metadata or the cipher, and
only two touch the streams: one inserts a stream, the other erases those of a device. -/
namespace DeviceRegistry.Transaction

variable {ε α β : Type}

/-- What no work on records touches. -/
def lock (tx : Transaction) : Table String Bytes × ColumnCipher := (tx.tables.metadata, tx.cipher)

/-- Whatever comes of the operation, what it leaves behind stands in the relation to what it found. -/
def Keeps (R : Transaction → Transaction → Prop) (op : EStateM ε Transaction α) : Prop :=
  ∀ tx, R tx (stateAfter (op tx))

/-- A relation that can be checked one step at a time, and that no change breaks which leaves the lock
and the streams alone. -/
structure Overlooks (R : Transaction → Transaction → Prop) : Prop where
  trans {tx tx' tx'' : Transaction} : R tx tx' → R tx' tx'' → R tx tx''
  apart {tx tx' : Transaction} : tx'.lock = tx.lock → tx'.tables.streams = tx.tables.streams → R tx tx'

namespace Overlooks

variable {R : Transaction → Transaction → Prop} (o : Overlooks R)
include o

theorem pure (a : α) : Keeps R (pure a : EStateM ε Transaction α) := fun _ => o.apart rfl rfl

theorem throw (e : ε) : Keeps R (throw e : EStateM ε Transaction α) := fun _ => o.apart rfl rfl

theorem bind {op : EStateM ε Transaction α} {rest : α → EStateM ε Transaction β} (first : Keeps R op)
    (later : ∀ a, Keeps R (rest a)) : Keeps R (op >>= rest) := by
  intro tx
  have kept := first tx
  cases result : op tx with
  | ok a tx' =>
    rw [result] at kept
    rw [bind_ok result]
    exact o.trans kept (later a tx')
  | error e tx' =>
    rw [result] at kept
    rw [bind_error result]
    exact kept

/-- A check that may end the operation. -/
theorem check {p : Prop} [Decidable p] {e : ε} {rest : PUnit → EStateM ε Transaction α}
    (h : Keeps R (rest ⟨⟩)) :
    Keeps R (if p then (throwThe ε e : EStateM ε Transaction PUnit) >>= rest else rest ⟨⟩) := by
  split
  · exact o.bind (o.throw e) fun _ => h
  · exact h

theorem ask (f : Tables → α) : Keeps R (ask f) := fun _ => o.apart rfl rfl

theorem tryAsk (f : Tables → Except StoreError α) : Keeps R (tryAsk f) := by
  intro tx
  cases read : f tx.tables with
  | ok a =>
    rw [tryAsk_ok read]
    exact o.apart rfl rfl
  | error e =>
    rw [tryAsk_error read]
    exact o.apart rfl rfl

theorem orFail (e : StoreError) (a : Option α) : Keeps R (orFail e a) := by
  cases a with
  | some a => exact o.pure a
  | none => exact o.throw e

theorem change {f : Tables → Tables} (metadata : ∀ t, (f t).metadata = t.metadata)
    (streams : ∀ t, (f t).streams = t.streams) : Keeps R (change f) :=
  fun tx => o.apart (congrArg (·, tx.cipher) (metadata tx.tables)) (streams tx.tables)

theorem nextId (sequence : String) : Keeps R (nextId sequence) := fun _ => o.apart rfl rfl

theorem sealKey (column plain : String) : Keeps R (sealKey column plain) := by
  intro tx
  have outcome := sealKey_outcome column plain tx
  generalize Transaction.sealKey column plain tx = result at outcome ⊢
  cases outcome <;> exact o.apart rfl rfl

theorem openKey (column : String) (value : Bytes) : Keeps R (openKey column value) := by
  intro tx
  cases opened : tx.cipher.decryptText column value with
  | ok key =>
    rw [openKey_ok opened]
    exact o.apart rfl rfl
  | error e =>
    rw [openKey_error opened]
    exact o.apart rfl rfl

theorem mapM {op : α → EStateM ε Transaction β} (each : ∀ a, Keeps R (op a)) (as : List α) :
    Keeps R (as.mapM op) := by
  induction as with
  | nil =>
    rw [List.mapM_nil]
    exact o.pure []
  | cons a as ih =>
    rw [List.mapM_cons]
    exact o.bind (each a) fun b => o.bind ih fun bs => o.pure (b :: bs)

theorem upsertUser (uid : String) (keys : KeyPair) : Keeps R (upsertUser uid keys) := by
  refine o.bind (o.ask _) fun known => ?_
  cases known with
  | some id =>
    refine o.bind (o.tryAsk _) fun row => o.bind (o.orFail _ row) fun row => ?_
    exact o.bind (o.change (fun _ => rfl) fun _ => rfl) fun _ =>
      o.bind (o.openKey _ _) fun _ => o.pure _
  | none =>
    refine o.bind (o.nextId _) fun id => o.bind (o.sealKey _ _) fun key => ?_
    exact o.bind (o.change (fun _ => rfl) fun _ => rfl) fun _ => o.pure _

theorem insertDevice (d : NewDevice) : Keeps R (insertDevice d) := by
  refine o.bind (o.ask _) fun taken => o.check ?_
  refine o.bind (o.tryAsk _) fun owner => o.check ?_
  refine o.bind (o.nextId _) fun id => o.bind (o.sealKey _ _) fun key => ?_
  exact o.bind (o.change (fun _ => rfl) fun _ => rfl) fun _ => o.pure _

/-- A stream may be inserted if the relation allows for that stream. -/
theorem insertStream {device : UInt64} {uid : String}
    (inserts : ∀ (tx tx' : Transaction) (id : UInt64), tx'.lock = tx.lock →
      tx'.tables.streams = Tables.withRow tx.tables.streams id (StreamRow.mk id uid device) →
      R tx tx') :
    Keeps R (insertStream device uid) := by
  refine o.bind (o.ask _) fun taken => o.check ?_
  refine o.bind (o.tryAsk _) fun owner => o.check (o.bind (o.nextId _) fun id => ?_)
  exact o.bind (fun tx => inserts tx _ id rfl rfl) fun _ => o.pure _

theorem streamsOf (device : UInt64) : Keeps R (streamsOf device) :=
  o.bind (o.ask _) fun ids => o.mapM (fun _ => o.bind (o.tryAsk _) fun row => o.orFail _ row) ids

/-- A device may be deleted if the relation allows for streams to be erased. -/
theorem deleteDevice (token publicKey : String)
    (erases : ∀ (tx tx' : Transaction) (gone : List StreamRow), tx'.lock = tx.lock →
      tx'.tables.streams = gone.foldl (fun rows s => rows.erase s.id) tx.tables.streams → R tx tx') :
    Keeps R (deleteDevice token publicKey) := by
  refine o.bind (o.ask _) fun id => o.bind (o.orFail _ id) fun id => ?_
  refine o.bind (o.tryAsk _) fun device => o.bind (o.orFail _ device) fun device => ?_
  refine o.bind (o.tryAsk _) fun owner => o.bind (o.orFail _ owner) fun owner => o.check ?_
  refine o.bind (o.streamsOf id) fun streams => o.bind (fun tx => ?_) fun _ => ?_
  · have gone := Tables.foldl_withoutStream streams tx.tables id
    have lock := congrArg (fun t : Tables => (t.metadata, tx.cipher)) gone
    have rows := congrArg Tables.streams gone
    exact erases tx _ streams lock rows
  · exact o.bind (o.change (fun _ => rfl) fun _ => rfl) fun _ => o.pure _

theorem countDevices (user : UInt64) : Keeps R (countDevices user) := o.ask _

theorem deleteUser (user : UInt64) : Keeps R (deleteUser user) := by
  refine o.bind (o.countDevices user) fun count => o.check ?_
  refine o.bind (o.tryAsk _) fun row => o.bind (o.orFail _ row) fun row => ?_
  exact o.change (fun _ => rfl) fun _ => rfl

end Overlooks
end DeviceRegistry.Transaction
