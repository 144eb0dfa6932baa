import DeviceRegistry.Proofs.Store.Consistency
import DeviceRegistry.Proofs.Store.Opening

/-! A store in use: transactions begin, work on records, and end; the store is closed and opened
again. Whatever the order of these steps and whatever their outcomes, the committed tables and
those of an open transaction stay consistent. -/
namespace DeviceRegistry

inductive RecordStep where
  | upsertUser (uid : String) (keys : KeyPair)
  | insertDevice (device : NewDevice)
  | insertStream (deviceId : UInt64) (uid : String)
  | streamsOf (deviceId : UInt64)
  | deleteDevice (token publicKey : String)
  | countDevices (userId : UInt64)
  | deleteUser (userId : UInt64)

/-- The transaction after an operation, which may have failed. -/
def RecordStep.apply : RecordStep → Transaction → Transaction
  | upsertUser uid keys, tx => stateAfter (Transaction.upsertUser uid keys tx)
  | insertDevice device, tx => stateAfter (Transaction.insertDevice device tx)
  | insertStream deviceId uid, tx => stateAfter (Transaction.insertStream deviceId uid tx)
  | streamsOf deviceId, tx => stateAfter (Transaction.streamsOf deviceId tx)
  | deleteDevice token publicKey, tx => stateAfter (Transaction.deleteDevice token publicKey tx)
  | countDevices userId, tx => stateAfter (Transaction.countDevices userId tx)
  | deleteUser userId, tx => stateAfter (Transaction.deleteUser userId tx)

inductive StoreStep where
  | begin
  | work (step : RecordStep)
  | commit
  | rollback
  /-- The transaction is let go without a word. -/
  | drop
  /-- The store is closed, with its transaction, and opened with a password. -/
  | reopen (password : String) (entropy : Entropy)

inductive Session where
  | closed (tables : Tables)
  | opened (store : Store) (transaction : Option Transaction)

namespace Session

def committed : Session → Tables
  | closed tables => tables
  | opened store _ => store.tables

def working? : Session → Option Tables
  | closed _ => none
  | opened _ transaction => transaction.map Transaction.tables

/-- What a step makes of the session. A step for which there is nothing to act on does nothing:
while a transaction is open a second one waits, and without one there is nothing to work on. -/
def next : Session → StoreStep → Session
  | opened store none, .begin => opened store (some store.begin)
  | opened store (some tx), .work step => opened store (some (step.apply tx))
  | opened store (some tx), .commit => opened (store.commit tx) none
  | opened store (some tx), .rollback => opened (store.abandon tx) none
  | opened store (some tx), .drop => opened (store.abandon tx) none
  | session, .reopen password entropy =>
    match Store.opened password session.committed entropy with
    | .ok store _ => opened store none
    | .error _ _ => closed session.committed
  | session, _ => session

def run (session : Session) (steps : List StoreStep) : Session := steps.foldl next session

theorem run_append (session : Session) (steps steps' : List StoreStep) :
    session.run (steps ++ steps') = (session.run steps).run steps' := List.foldl_append

/-- A store that was never opened. -/
def fresh : Session := closed {}

def issues (sequence : String) : Session → StoreStep → Nat
  | opened _ (some tx), .work step => tx.tables.issues (step.apply tx).tables sequence
  | _, _ => 0

/-- How many ids of a sequence a run issues, those of abandoned transactions included. -/
def issuesOf (sequence : String) : Session → List StoreStep → Nat
  | _, [] => 0
  | session, step :: rest =>
    session.issues sequence step + issuesOf sequence (session.next step) rest

theorem issuesOf_append (sequence : String) (session : Session) (steps steps' : List StoreStep) :
    session.issuesOf sequence (steps ++ steps') =
      session.issuesOf sequence steps + (session.run steps).issuesOf sequence steps' := by
  induction steps generalizing session with
  | nil => simp [issuesOf, run]
  | cons step rest ih =>
    rw [List.cons_append, issuesOf, issuesOf, ih, Nat.add_assoc]
    rfl

/-- There is room for the ids of a run that goes on only if there was room before. -/
theorem issuesOf_lt_before {session : Session} {before after : List StoreStep} {n : Nat}
    (few : ∀ q, session.issuesOf q (before ++ after) < n) (q : String) :
    session.issuesOf q before < n := by
  have whole := few q
  rw [issuesOf_append] at whole
  exact Nat.lt_of_le_of_lt (Nat.le_add_right ..) whole

theorem issuesOf_le_length (sequence : String) (session : Session) (steps : List StoreStep) :
    session.issuesOf sequence steps ≤ steps.length := by
  induction steps generalizing session with
  | nil => exact Nat.le_refl 0
  | cons step rest ih =>
    have one : session.issues sequence step ≤ 1 := by
      unfold issues
      split
      · exact Tables.issues_le_one ..
      · exact Nat.zero_le 1
    have := ih (session.next step)
    rw [issuesOf, List.length_cons]
    omega

end Session

/-- What an operation on records makes of tables with the contents `c`, succeeding or failing. -/
inductive RecordStep.Edits (c : Contents) (tx : Transaction) : RecordStep → Tables → Prop where
  | same (step : RecordStep) : Edits c tx step tx.tables
  | skipUser (uid : String) (keys : KeyPair) :
      Edits c tx (.upsertUser uid keys) (tx.tables.skip "users")
  | skipDevice (d : NewDevice) : Edits c tx (.insertDevice d) (tx.tables.skip "devices")
  | withUser {uid : String} {keys : KeyPair} {row : UserRow} (next : row.id = c.lastUser + 1)
      (new : tx.tables.usersByUid.get? row.uid = none)
      (opens : tx.cipher.decryptText Transaction.userKeyColumn row.privateKey =
        .ok keys.privateKey) : Edits c tx (.upsertUser uid keys) (tx.tables.withUser row)
  | withDevice {d : NewDevice} {id : UInt64} {key : Bytes} {owner : UserRow}
      (next : id = c.lastDevice + 1) (new : tx.tables.devicesByToken.get? d.token = none)
      (known : c.users.get? d.userId = some owner)
      (opens : tx.cipher.decryptText Transaction.deviceKeyColumn key = .ok d.keys.privateKey) :
      Edits c tx (.insertDevice d) (tx.tables.withDevice (d.row id key))
  | withStream {row : StreamRow} {device : DeviceRow} (next : row.id = c.lastStream + 1)
      (new : tx.tables.streamsByUid.get? row.uid = none)
      (known : c.devices.get? row.deviceId = some device) :
      Edits c tx (.insertStream row.deviceId row.uid) (tx.tables.withStream row)
  | withoutDevice {token publicKey : String} {id : UInt64} {device : DeviceRow}
      {streams : List StreamRow} (there : c.devices.get? id = some device)
      (all : c.StreamsOf id streams) :
      Edits c tx (.deleteDevice token publicKey) (tx.tables.withoutDevice id device streams)
  | withoutUser {id : UInt64} {row : UserRow} (there : c.users.get? id = some row)
      (alone : c.Alone id) : Edits c tx (.deleteUser id) (tx.tables.withoutUser id row)

theorem RecordStep.edits {tx : Transaction} {c : Contents} (h : tx.tables.Holds c)
    (step : RecordStep) :
    step.Edits c tx (step.apply tx).tables ∧ (step.apply tx).cipher = tx.cipher ∧
      tx.entropy.Later (step.apply tx).entropy := by
  cases step with
  | upsertUser uid keys =>
    have outcome := Transaction.upsertUser_outcome h uid keys
    rw [apply]
    generalize Transaction.upsertUser uid keys tx = result at outcome ⊢
    cases outcome with
    | known => exact ⟨.same _, rfl, .refl _⟩
    | locked => exact ⟨.same _, rfl, .refl _⟩
    | new new next mine given opens => exact ⟨.withUser next new opens, rfl, tx.entropy.later_next⟩
    | unsealed => exact ⟨.skipUser uid keys, rfl, tx.entropy.later_next⟩
  | insertDevice d =>
    have outcome := Transaction.insertDevice_outcome h d
    rw [apply]
    generalize Transaction.insertDevice d tx = result at outcome ⊢
    cases outcome with
    | taken => exact ⟨.same _, rfl, .refl _⟩
    | unowned => exact ⟨.same _, rfl, .refl _⟩
    | unsealed => exact ⟨.skipDevice d, rfl, tx.entropy.later_next⟩
    | inserted next new known opens =>
      exact ⟨.withDevice next new known opens, rfl, tx.entropy.later_next⟩
  | insertStream deviceId uid =>
    have outcome := Transaction.insertStream_outcome h deviceId uid
    rw [apply]
    generalize Transaction.insertStream deviceId uid tx = result at outcome ⊢
    cases outcome with
    | taken => exact ⟨.same _, rfl, .refl _⟩
    | unknown => exact ⟨.same _, rfl, .refl _⟩
    | unreadable => exact ⟨.same _, rfl, .refl _⟩
    | @inserted id device next new known =>
      exact ⟨@Edits.withStream c tx ⟨id, uid, deviceId⟩ device next new known, rfl, .refl _⟩
  | streamsOf deviceId =>
    obtain ⟨rows, -, listed⟩ := Transaction.streamsOf_eq h deviceId
    rw [apply, listed]
    exact ⟨.same _, rfl, .refl _⟩
  | deleteDevice token publicKey =>
    have outcome := Transaction.deleteDevice_outcome h token publicKey
    rw [apply]
    generalize Transaction.deleteDevice token publicKey tx = result at outcome ⊢
    cases outcome with
    | refused => exact ⟨.same _, rfl, .refl _⟩
    | deleted granted all => exact ⟨.withoutDevice granted.there all, rfl, .refl _⟩
  | countDevices userId => exact ⟨.same _, rfl, .refl _⟩
  | deleteUser userId =>
    have outcome := Transaction.deleteUser_outcome h userId
    rw [apply]
    generalize Transaction.deleteUser userId tx = result at outcome ⊢
    cases outcome with
    | owns => exact ⟨.same _, rfl, .refl _⟩
    | unknown => exact ⟨.same _, rfl, .refl _⟩
    | deleted there alone => exact ⟨.withoutUser there alone, rfl, .refl _⟩

/-- Something that is true of each row of a user and of each row of a device. -/
structure Contents.Each (user : UserRow → Prop) (device : DeviceRow → Prop) (c : Contents) :
    Prop where
  users : ∀ id row, c.users.get? id = some row → user row
  devices : ∀ id row, c.devices.get? id = some row → device row

/-- The rows that an operation adds under a cipher are such as are asked for. -/
def RecordStep.Admits (user : UserRow → Prop) (device : DeviceRow → Prop) (cipher : ColumnCipher) :
    RecordStep → Prop
  | upsertUser _ keys => ∀ row,
    cipher.decryptText Transaction.userKeyColumn row.privateKey = .ok keys.privateKey → user row
  | insertDevice d => ∀ id key,
    cipher.decryptText Transaction.deviceKeyColumn key = .ok d.keys.privateKey → device (d.row id key)
  | _ => True

/-- From `t` to `t'` each sequence stays or issues one id. If there was room for the ids that were
issued, the tables hold contents again, of which `p` is true. -/
structure Leaves (p : Contents → Prop) (t t' : Tables) : Prop where
  held : Spare t t' → ∃ c, t'.Holds c ∧ p c
  onward : Onward t t'

/-- One id was issued, and with room for it the tables hold contents. -/
theorem Leaves.of_issued {p : Contents → Prop} {t t' : Tables} (sequence : String)
    (issued : ∀ q, t'.issued q = if q = sequence then t.issued sequence + 1 else t.issued q)
    (held : Room (t.issued sequence) → ∃ c, t'.Holds c ∧ p c) : Leaves p t t' where
  held room := by
    refine held (room sequence ?_)
    rw [issued, if_pos rfl]
    exact add_one_ne _
  onward := .of_issued sequence issued

section
variable {user : UserRow → Prop} {device : DeviceRow → Prop} {tx : Transaction} {c : Contents}
  {step : RecordStep} {t : Tables}

theorem RecordStep.Edits.leaves (h : step.Edits c tx t) (held : tx.tables.Holds c)
    (each : c.Each user device) (admits : step.Admits user device tx.cipher) :
    Leaves (Contents.Each user device) tx.tables t := by
  cases h with
  | same => exact ⟨fun _ => ⟨c, held, each⟩, .refl _⟩
  | skipUser =>
    exact .of_issued "users" (tx.tables.issued_skip _) fun room =>
      ⟨_, held.skipUser (held.lastUser ▸ room), each.users, each.devices⟩
  | skipDevice =>
    exact .of_issued "devices" (tx.tables.issued_skip _) fun room =>
      ⟨_, held.skipDevice (held.lastDevice ▸ room), each.users, each.devices⟩
  | @withUser uid keys row next new opens =>
    refine .of_issued "users" (fun q => ?_) fun room => ⟨_, held.withUser (held.lastUser ▸ room) next
      new, Table.forall_insert each.users (admits row opens), each.devices⟩
    rw [tx.tables.issued_withUser, next, held.lastUser]
  | @withDevice d id key owner next new known opens =>
    refine .of_issued "devices" (fun q => ?_) fun room => ⟨_, held.withDevice
      (held.lastDevice ▸ room) next new known, each.users,
      Table.forall_insert each.devices (admits id key opens)⟩
    rw [tx.tables.issued_withDevice, held.lastDevice, ← next]
    rfl
  | withStream next new known =>
    refine .of_issued "streams" (fun q => ?_) fun room => ⟨_, held.withStream
      (held.lastStream ▸ room) next new known, each.users, each.devices⟩
    rw [tx.tables.issued_withStream, next, held.lastStream]
  | withoutDevice there all =>
    exact ⟨fun _ => ⟨_, held.withoutDevice there all, each.users, Table.forall_erase each.devices⟩,
      fun q => .inl (Tables.issued_withoutDevice ..)⟩
  | withoutUser there alone =>
    exact ⟨fun _ => ⟨_, held.withoutUser there alone, Table.forall_erase each.users, each.devices⟩,
      fun q => .inl rfl⟩

/-- What an operation on records leaves behind, succeeding or failing. -/
theorem RecordStep.leaves (h : tx.tables.Holds c) (each : c.Each user device)
    (admits : step.Admits user device tx.cipher) :
    Leaves (Contents.Each user device) tx.tables (step.apply tx).tables :=
  (RecordStep.edits h step).1.leaves h each admits

/-- That there are rows is true of any rows. -/
theorem RecordStep.admits_any (step : RecordStep) (cipher : ColumnCipher) :
    step.Admits (fun _ => True) (fun _ => True) cipher := by
  cases step <;> simp [Admits]

end

/-- The tables hold contents, and no sequence has issued more ids than were counted. -/
structure Counted (count : String → Nat) (t : Tables) : Prop where
  held : ∃ c, t.Holds c
  issued : Within count t

theorem Counted.mono {count count' : String → Nat} {t : Tables} (h : Counted count t)
    (le : ∀ q, count q ≤ count' q) : Counted count' t :=
  ⟨h.held, fun q => Nat.le_trans (h.issued q) (le q)⟩

/-- An operation that issues no more ids than there is room for keeps the count. -/
theorem Counted.work {count : String → Nat} {tx : Transaction} (h : Counted count tx.tables)
    (step : RecordStep) (room : ∀ q, count q + tx.tables.issues (step.apply tx).tables q < UInt64.size) :
    Counted (fun q => count q + tx.tables.issues (step.apply tx).tables q) (step.apply tx).tables := by
  obtain ⟨c, held⟩ := h.held
  have each : c.Each (fun _ => True) (fun _ => True) := ⟨fun _ _ _ => trivial, fun _ _ _ => trivial⟩
  have leaves := RecordStep.leaves held each (step.admits_any tx.cipher)
  obtain ⟨c', held', -⟩ := leaves.held (h.issued.spare room)
  exact ⟨⟨c', held'⟩, h.issued.onward leaves.onward⟩

namespace Session

/-- The committed tables and those of an open transaction are counted. -/
structure Sound (count : String → Nat) (session : Session) : Prop where
  committed : Counted count session.committed
  working : ∀ t, session.working? = some t → Counted count t

theorem Sound.mono {count count' : String → Nat} {session : Session} (h : session.Sound count)
    (le : ∀ q, count q ≤ count' q) : session.Sound count' :=
  ⟨h.committed.mono le, fun t open_ => (h.working t open_).mono le⟩

theorem next_reopen (session : Session) (password : String) (entropy : Entropy) :
    session.next (.reopen password entropy) =
      match Store.opened password session.committed entropy with
      | .ok store _ => opened store none
      | .error _ _ => closed session.committed := by
  unfold next
  split <;> simp_all

/-- What a step can do to a session. -/
inductive Goes : Session → StoreStep → Session → Prop where
  /-- There is no transaction to act on. -/
  | idle {session : Session} {step : StoreStep} (none : session.working? = none) :
      Goes session step session
  /-- A second transaction waits. -/
  | waits (store : Store) (tx : Transaction) :
      Goes (opened store (some tx)) .begin (opened store (some tx))
  | begins (store : Store) : Goes (opened store none) .begin (opened store (some store.begin))
  | works (store : Store) (tx : Transaction) (step : RecordStep) :
      Goes (opened store (some tx)) (.work step) (opened store (some (step.apply tx)))
  | commits (store : Store) (tx : Transaction) :
      Goes (opened store (some tx)) .commit (opened (store.commit tx) none)
  | abandons (store : Store) (tx : Transaction) {step : StoreStep}
      (undone : step = .rollback ∨ step = .drop) :
      Goes (opened store (some tx)) step (opened (store.abandon tx) none)
  | reopens {session : Session} {password : String} {entropy entropy' : Entropy} {store : Store}
      (done : Store.opened password session.committed entropy = .ok store entropy') :
      Goes session (.reopen password entropy) (opened store none)
  | closes (session : Session) (password : String) (entropy : Entropy) :
      Goes session (.reopen password entropy) (closed session.committed)

theorem next_goes (session : Session) (step : StoreStep) : session.Goes step (session.next step) := by
  have reopened : ∀ password entropy, session.Goes (.reopen password entropy)
      (session.next (.reopen password entropy)) := by
    intro password entropy
    rw [next_reopen]
    split
    next done => exact .reopens done
    next => exact .closes session password entropy
  cases session with
  | closed tables =>
    cases step with
    | reopen password entropy => exact reopened password entropy
    | _ => exact .idle rfl
  | opened store transaction =>
    cases transaction with
    | none =>
      cases step with
      | reopen password entropy => exact reopened password entropy
      | begin => exact .begins store
      | _ => exact .idle rfl
    | some tx =>
      cases step with
      | reopen password entropy => exact reopened password entropy
      | begin => exact .waits store tx
      | work step => exact .works store tx step
      | commit => exact .commits store tx
      | rollback => exact .abandons store tx (.inl rfl)
      | drop => exact .abandons store tx (.inr rfl)

theorem Sound.reopened {count : String → Nat} {session : Session} (h : session.Sound count)
    {password : String} {entropy entropy' : Entropy} {store : Store}
    (done : Store.opened password session.committed entropy = .ok store entropy') :
    (opened store none).Sound count := by
  obtain ⟨metadata, tables⟩ := Store.opened_tables done
  obtain ⟨c, held⟩ := h.committed.held
  refine ⟨⟨⟨c, ?_⟩, fun q => ?_⟩, nofun⟩
  · rw [Session.committed, tables]
    exact held.withMetadata metadata
  · rw [Session.committed, tables]
    exact h.committed.issued q

theorem Sound.next {count : String → Nat} {session : Session} (h : session.Sound count)
    (step : StoreStep) (room : ∀ q, count q + session.issues q step < UInt64.size) :
    (session.next step).Sound (fun q => count q + session.issues q step) := by
  have more : ∀ q, count q ≤ count q + session.issues q step := fun q => Nat.le_add_right ..
  have goes := session.next_goes step
  generalize session.next step = session' at goes ⊢
  cases goes with
  | idle => exact h.mono more
  | waits => exact h.mono more
  | begins store =>
    refine Sound.mono ⟨h.committed, ?_⟩ more
    rintro t ⟨⟩
    exact h.committed
  | works store tx step =>
    refine ⟨h.committed.mono more, ?_⟩
    rintro t ⟨⟩
    exact (h.working tx.tables rfl).work step room
  | commits store tx => exact Sound.mono ⟨h.working tx.tables rfl, nofun⟩ more
  | abandons => exact Sound.mono ⟨h.committed, nofun⟩ more
  | reopens done => exact (h.reopened done).mono more
  | closes => exact Sound.mono ⟨h.committed, nofun⟩ more

theorem Sound.run {count : String → Nat} {session : Session} (h : session.Sound count)
    (steps : List StoreStep) (room : ∀ q, count q + session.issuesOf q steps < UInt64.size) :
    (session.run steps).Sound (fun q => count q + session.issuesOf q steps) := by
  induction steps generalizing session count with
  | nil => simpa [Session.run, issuesOf] using h
  | cons step rest ih =>
    simp only [issuesOf, ← Nat.add_assoc] at room ⊢
    have first : ∀ q, count q + session.issues q step < UInt64.size := by
      intro q
      have := room q
      omega
    exact ih (h.next step first) room

theorem sound_fresh : fresh.Sound fun _ => 0 :=
  ⟨⟨⟨_, .empty⟩, fun _ => Nat.le_refl 0⟩, nofun⟩

/-- Whatever is done with a store, as long as each sequence has issued fewer than `2^64` ids, its
committed tables and those of an open transaction are consistent. -/
theorem run_consistent (steps : List StoreStep)
    (few : ∀ sequence, fresh.issuesOf sequence steps < UInt64.size) :
    (fresh.run steps).committed.Consistent ∧
      ∀ t, (fresh.run steps).working? = some t → t.Consistent := by
  have sound := sound_fresh.run steps (by simpa using few)
  obtain ⟨c, held⟩ := sound.committed.held
  refine ⟨held.consistent, ?_⟩
  intro t open_
  obtain ⟨c, held⟩ := (sound.working t open_).held
  exact held.consistent

/-- A device comes and goes. Recording a stream fails on the way, and the transaction goes on. -/
def comeAndGo : List StoreStep :=
  [.reopen "secret" ⟨fun n => some (List.replicate (if n = 0 then 16 else 12) 7), 0⟩, .begin,
    .work (.upsertUser "alice" ⟨"private", "public"⟩),
    .work (.insertDevice ⟨"meter", 1, ⟨"private", "public"⟩, {}, .outdoor⟩),
    .work (.insertStream 2 "stream"), .work (.insertStream 1 "stream"), .commit, .begin,
    .work (.deleteDevice "meter" "public"), .work (.deleteUser 1)]

theorem comeAndGo_consistent :
    (∀ sequence, fresh.issuesOf sequence comeAndGo < UInt64.size) ∧
      (fresh.run comeAndGo).committed.Consistent ∧
        ∀ t, (fresh.run comeAndGo).working? = some t → t.Consistent := by
  have few : ∀ sequence, fresh.issuesOf sequence comeAndGo < UInt64.size := fun sequence =>
    Nat.lt_of_le_of_lt (issuesOf_le_length ..) (by decide)
  exact ⟨few, run_consistent comeAndGo few⟩

end Session
end DeviceRegistry
