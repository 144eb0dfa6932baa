import DeviceRegistry.Proofs.Store.Depiction
import DeviceRegistry.Proofs.Store.Keeping

/-! Each operation on tables does what the same operation does on the registry that they depict, with
the same answers and the same errors. -/
namespace DeviceRegistry

/-- An operation on tables ends like one on a registry, with tables that depict the registry. -/
inductive Refines (cipher : ColumnCipher) {α : Type} :
    EStateM.Result StoreError Transaction α → EStateM.Result StoreError Registry α → Prop where
  | ok {a : α} {tx : Transaction} {m : Registry} (depicts : tx.tables.Depicts cipher m) :
      Refines cipher (.ok a tx) (.ok a m)
  | error {e : StoreError} {tx : Transaction} {m : Registry} (depicts : tx.tables.Depicts cipher m) :
      Refines cipher (.error e tx) (.error e m)

theorem Spare.room {t t' : Tables} (h : Spare t t') {sequence : String}
    (issued : t'.issued sequence = t.issued sequence + 1) : Room (t.issued sequence) := by
  apply h sequence
  rw [issued]
  exact add_one_ne _

namespace ColumnCipher

variable {c : ColumnCipher} {column plain : String} {draw : Draw} {e : CipherError}

/-- With a nonce it is for its length that a text is not sealed. -/
theorem not_sealable (drawn : draw.IsNonce) (h : c.encryptText column plain draw = .error e) :
    ¬ Sealable plain ∧ e = .notSealed := by
  obtain ⟨succeeds, fails⟩ := @encryptText_of_nonce plain draw c column drawn
  by_cases short : Sealable plain
  · obtain ⟨value, done⟩ := succeeds short
    rw [done] at h
    contradiction
  · rw [fails short] at h
    exact ⟨short, (Except.error.inj h).symm⟩

end ColumnCipher

namespace Transaction

variable {tx : Transaction} {c : Contents} {m : Registry}

theorem upsertUser_refines (held : tx.tables.Holds c) (shows : c.Shows tx.cipher m)
    (drawn : (tx.entropy.draw tx.entropy.used).IsNonce) (uid : String) (keys : KeyPair)
    (spare : Spare tx.tables (stateAfter (upsertUser uid keys tx)).tables) :
    Refines tx.cipher (upsertUser uid keys tx) (Registry.upsertUser uid keys m) := by
  have outcome := upsertUser_outcome held uid keys
  have uids : ∀ (row : UserRow) (user : User), row.Shows tx.cipher user → row.uid = user.uid :=
    fun _ _ shown => shown.uid
  generalize upsertUser uid keys tx = result at outcome spare ⊢
  cases outcome with
  | @known id row key there mine opens =>
    obtain ⟨user, found, -, shown⟩ := held.users.find?_some shows.users uids there mine
    have answer : row.Shows tx.cipher ⟨id, uid, ⟨key, row.publicKey⟩⟩ :=
      ⟨held.users.own id row there, mine, rfl, opens⟩
    rw [Registry.upsertUser, Registry.user?, found, shown.unique answer]
    exact .ok ⟨c, held, shows⟩
  | @locked id row e there mine closed =>
    obtain ⟨user, -, -, shown⟩ := held.users.find?_some shows.users uids there mine
    rw [shown.opens] at closed
    contradiction
  | @new row new next mine given opens short =>
    have room : Room c.lastUser := by
      rw [← held.lastUser]
      apply spare.room
      show (tx.tables.withUser row).issued "users" = _
      rw [Tables.issued_withUser, if_pos rfl, next, held.lastUser]
    have next' : m.lastUser + 1 = row.id := by rw [next, shows.lastUser]
    have shown : row.Shows tx.cipher ⟨row.id, uid, keys⟩ := ⟨rfl, mine, given, opens⟩
    rw [Registry.upsertUser, Registry.user?,
      held.users.find?_none shows.users uids (mine ▸ new : tx.tables.usersByUid.get? uid = none)]
    dsimp only
    rw [if_pos short, next']
    refine .ok ⟨c.withUser row, held.withUser room next new, ?_⟩
    exact { shows with
      users := shows.users.insert row.id shown
      lastUser := rfl }
  | unsealed new unsealed =>
    obtain ⟨long, rfl⟩ := ColumnCipher.not_sealable drawn unsealed
    have room : Room c.lastUser := by
      rw [← held.lastUser]
      apply spare.room
      exact (tx.tables.issued_skip ..).trans (if_pos rfl)
    rw [Registry.upsertUser, Registry.user?, held.users.find?_none shows.users uids new]
    dsimp only
    rw [if_neg long]
    refine .error ⟨_, held.skipUser room, ?_⟩
    exact { shows with lastUser := congrArg (· + 1) shows.lastUser }

theorem insertDevice_refines (held : tx.tables.Holds c) (shows : c.Shows tx.cipher m)
    (drawn : (tx.entropy.draw tx.entropy.used).IsNonce) (d : NewDevice)
    (spare : Spare tx.tables (stateAfter (insertDevice d tx)).tables) :
    Refines tx.cipher (insertDevice d tx) (Registry.insertDevice d m) := by
  have outcome := insertDevice_outcome held d
  have tokens : ∀ (row : DeviceRow) (device : Device), row.Shows tx.cipher device →
      row.token = device.token := fun _ _ shown => shown.token
  have absent : tx.tables.devicesByToken.get? d.token = none → m.device? d.token = none :=
    held.devices.find?_none shows.devices tokens
  generalize insertDevice d tx = result at outcome spare ⊢
  cases outcome with
  | taken there mine =>
    obtain ⟨device, found, -⟩ := held.devices.find?_some shows.devices tokens there mine
    rw [Registry.insertDevice, Registry.device?, found]
    exact .error ⟨c, held, shows⟩
  | unowned new unknown =>
    rw [Registry.insertDevice, absent new, shows.users.none_iff.1 unknown]
    exact .error ⟨c, held, shows⟩
  | unsealed new known unsealed =>
    obtain ⟨long, rfl⟩ := ColumnCipher.not_sealable drawn unsealed
    obtain ⟨user, there, -⟩ := shows.users.of_left known
    have room : Room c.lastDevice := by
      rw [← held.lastDevice]
      apply spare.room
      exact (tx.tables.issued_skip ..).trans (if_pos rfl)
    rw [Registry.insertDevice, absent new, there]
    simp only [Option.isSome_none, Option.isNone_some, Bool.false_eq_true, if_false]
    rw [if_neg long]
    refine .error ⟨_, held.skipDevice room, ?_⟩
    exact { shows with lastDevice := congrArg (· + 1) shows.lastDevice }
  | @inserted id key owner next new known opens short =>
    obtain ⟨user, there, -⟩ := shows.users.of_left known
    have room : Room c.lastDevice := by
      rw [← held.lastDevice]
      apply spare.room
      show (tx.tables.withDevice (d.row id key)).issued "devices" = _
      rw [Tables.issued_withDevice, if_pos rfl, held.lastDevice, ← next]
      rfl
    have next' : m.lastDevice + 1 = id := by rw [next, shows.lastDevice]
    have shown : (d.row id key).Shows tx.cipher { d with id } := ⟨rfl, opens⟩
    rw [Registry.insertDevice, absent new, there]
    simp only [Option.isSome_none, Option.isNone_some, Bool.false_eq_true, if_false]
    rw [if_pos short, next']
    refine .ok ⟨c.withDevice (d.row id key), held.withDevice room next new known, ?_⟩
    exact { shows with
      devices := shows.devices.insert id shown
      lastDevice := rfl }

theorem insertStream_refines (held : tx.tables.Holds c) (shows : c.Shows tx.cipher m)
    (finite : ∀ id row, c.devices.get? id = some row → row.IsFinite) (deviceId : UInt64)
    (uid : String) (spare : Spare tx.tables (stateAfter (insertStream deviceId uid tx)).tables) :
    Refines tx.cipher (insertStream deviceId uid tx) (Registry.insertStream deviceId uid m) := by
  have outcome := insertStream_outcome held deviceId uid
  have uids : ∀ row stream : StreamRow, row = stream → row.uid = stream.uid :=
    fun _ _ same => congrArg StreamRow.uid same
  have absent : tx.tables.streamsByUid.get? uid = none → m.stream? uid = none :=
    held.streams.find?_none shows.streams' uids
  generalize insertStream deviceId uid tx = result at outcome spare ⊢
  cases outcome with
  | taken there mine =>
    obtain ⟨stream, found, -⟩ := held.streams.find?_some shows.streams' uids there mine
    rw [Registry.insertStream, Registry.stream?, found]
    exact .error ⟨c, held, shows⟩
  | unknown new unknown =>
    rw [Registry.insertStream, absent new, shows.devices.none_iff.1 unknown]
    exact .error ⟨c, held, shows⟩
  | unreadable e there infinite => exact absurd (finite _ _ there) infinite
  | @inserted id device next new known =>
    obtain ⟨device', there, -⟩ := shows.devices.of_left known
    have room : Room c.lastStream := by
      rw [← held.lastStream]
      apply spare.room
      show (tx.tables.withStream ⟨id, uid, deviceId⟩).issued "streams" = _
      rw [Tables.issued_withStream, if_pos rfl, held.lastStream, ← next]
    have next' : m.lastStream + 1 = id := by rw [next, shows.lastStream]
    rw [Registry.insertStream, absent new, there]
    simp only [Option.isSome_none, Option.isNone_some, Bool.false_eq_true, if_false]
    rw [next']
    refine .ok ⟨c.withStream ⟨id, uid, deviceId⟩, held.withStream room next new known, ?_⟩
    exact { shows with
      streams := by rw [Contents.withStream, shows.streams]
      lastStream := rfl }

theorem streamsOf_refines (held : tx.tables.Holds c) (shows : c.Shows tx.cipher m)
    (deviceId : UInt64) :
    Refines tx.cipher (streamsOf deviceId tx) (.ok (m.streamsOf deviceId) m) := by
  obtain ⟨streams, all, listed⟩ := streamsOf_eq held deviceId
  rw [listed, all.unique (shows.streamsOf held deviceId)]
  exact .ok ⟨c, held, shows⟩

theorem countDevices_refines (held : tx.tables.Holds c) (shows : c.Shows tx.cipher m)
    (userId : UInt64) :
    Refines tx.cipher (countDevices userId tx) (.ok (m.devicesOf userId).length m) := by
  have counted : countDevices userId tx =
      .ok (Tables.members tx.tables.userDevices userId).length tx := rfl
  rw [counted, shows.length_devicesOf held]
  exact .ok ⟨c, held, shows⟩

theorem deleteDevice_refines (held : tx.tables.Holds c) (shows : c.Shows tx.cipher m)
    (finite : ∀ id row, c.devices.get? id = some row → row.IsFinite) (token publicKey : String) :
    Refines tx.cipher (deleteDevice token publicKey tx) (Registry.deleteDevice token publicKey m) := by
  have outcome := deleteDevice_outcome held token publicKey
  have tokens : ∀ (row : DeviceRow) (device : Device), row.Shows tx.cipher device →
      row.token = device.token := fun _ _ shown => shown.token
  generalize deleteDevice token publicKey tx = result at outcome ⊢
  cases outcome with
  | refused e none reason =>
    obtain rfl : e = .notFound "device" := by
      refine reason.resolve_right ?_
      rintro ⟨id, device, there, infinite⟩
      exact infinite (finite id device there)
    -- A device that the registry grants access to would be granted by the contents.
    have refused : Registry.deleteDevice token publicKey m = .error (.notFound "device") m := by
      rw [Registry.deleteDevice]
      cases found : m.device? token with
      | none => rfl
      | some device =>
        dsimp only
        rw [if_neg]
        intro granted
        obtain ⟨owner, owned, key⟩ := (Option.any_eq_true _ _).1 granted
        obtain ⟨id, there⟩ := Table.mem_rows.1 (List.mem_of_find?_eq_some found)
        have mine := List.find?_some found
        obtain ⟨row, filed, shown⟩ := shows.devices.of_right there
        obtain ⟨user, known, shown'⟩ := shows.users.of_right owned
        rw [← shown.userId] at known
        exact none id row user ⟨filed, shown.token.trans (beq_iff_eq.1 mine), finite id row filed,
          known, shown'.publicKey.trans (beq_iff_eq.1 key)⟩
    rw [refused]
    exact .error ⟨c, held, shows⟩
  | @deleted id row owner streams granted all =>
    obtain ⟨device, found, -, shown⟩ :=
      held.devices.find?_some shows.devices tokens granted.there granted.token
    obtain ⟨user, owned, shown'⟩ := shows.users.of_left granted.owned
    have mine : device.id = id := shown.id.symm.trans (held.devices.own id row granted.there)
    have key : user.keys.publicKey = publicKey := shown'.publicKey.symm.trans granted.key
    rw [shown.userId] at owned
    rw [Registry.deleteDevice, Registry.device?, found]
    dsimp only
    rw [owned, if_pos (by simp [key]), mine, ← shown.userId,
      all.unique (shows.streamsOf held id)]
    refine .ok ⟨_, held.withoutDevice granted.there (shows.streamsOf held id), ?_⟩
    exact { shows with
      devices := shows.devices.erase id
      streams := by rw [Contents.withoutDevice, shows.streams] }

theorem deleteUser_refines (held : tx.tables.Holds c) (shows : c.Shows tx.cipher m) (id : UInt64) :
    Refines tx.cipher (deleteUser id tx) (Registry.deleteUser id m) := by
  have outcome := deleteUser_outcome held id
  generalize deleteUser id tx = result at outcome ⊢
  cases outcome with
  | owns owns =>
    rw [shows.alone_iff held] at owns
    rw [Registry.deleteUser, if_pos owns]
    exact .error ⟨c, held, shows⟩
  | unknown alone unknown =>
    rw [shows.alone_iff held] at alone
    rw [Registry.deleteUser, if_neg (not_not.2 alone), shows.users.none_iff.1 unknown]
    exact .error ⟨c, held, shows⟩
  | deleted there alone =>
    obtain ⟨user, known, -⟩ := shows.users.of_left there
    have gone := held.withoutUser there alone
    rw [shows.alone_iff held] at alone
    rw [Registry.deleteUser, if_neg (not_not.2 alone), known]
    exact .ok ⟨_, gone, { shows with users := shows.users.erase id }⟩

end Transaction

/-- With room for the ids that it issues and a nonce to seal with, each operation on tables of which
the devices can be read does what it does on the registry. -/
theorem RecordStep.refines {tx : Transaction} {c : Contents} {m : Registry}
    (held : tx.tables.Holds c) (shows : c.Shows tx.cipher m)
    (finite : ∀ id row, c.devices.get? id = some row → row.IsFinite)
    (drawn : (tx.entropy.draw tx.entropy.used).IsNonce) (step : RecordStep)
    (spare : Spare tx.tables (step.apply tx).tables) :
    Refines tx.cipher (step.perform tx) (step.inRegistry m) := by
  cases step with
  | upsertUser uid keys => exact Transaction.upsertUser_refines held shows drawn uid keys spare
  | insertDevice d => exact Transaction.insertDevice_refines held shows drawn d spare
  | insertStream deviceId uid =>
    exact Transaction.insertStream_refines held shows finite deviceId uid spare
  | streamsOf deviceId => exact Transaction.streamsOf_refines held shows deviceId
  | deleteDevice token publicKey =>
    exact Transaction.deleteDevice_refines held shows finite token publicKey
  | countDevices userId => exact Transaction.countDevices_refines held shows userId
  | deleteUser userId => exact Transaction.deleteUser_refines held shows userId

/-- Devices that can be read can be read whatever contents the tables are said to hold. -/
theorem Tables.Holds.finite {t : Tables} {c c' : Contents} (held : t.Holds c)
    (finite : ∀ id row, c.devices.get? id = some row → row.IsFinite) (held' : t.Holds c') :
    ∀ id row, c'.devices.get? id = some row → row.IsFinite := by
  intro id row there
  exact finite id row ((held.stores_device finite).1 (held'.devices.get?_row there))

theorem Refines.depicts {cipher : ColumnCipher} {α : Type}
    {result : EStateM.Result StoreError Transaction α} {result' : EStateM.Result StoreError Registry α}
    (h : Refines cipher result result') :
    (stateAfter result).tables.Depicts cipher (stateAfter result') := by
  cases h with
  | ok depicts => exact depicts
  | error depicts => exact depicts

/-- A transaction in good order on the tables of a registry: its devices can be read, there is
randomness, and no sequence has issued more than `n` ids. -/
structure Depicting (n : Nat) (m : Registry) (tx : Transaction) : Prop where
  depicts : tx.tables.Depicts tx.cipher m
  readable : ∃ c, tx.tables.Holds c ∧ c.Each (fun _ => True) DeviceRow.IsFinite
  ready : tx.entropy.Ready
  issued : Within (fun _ => n) tx.tables

theorem Depicting.apply {n : Nat} {m : Registry} {tx : Transaction} (h : Depicting n m tx)
    (few : n + 1 < UInt64.size) {step : RecordStep}
    (finite : ∀ d, step = .insertDevice d → d.IsFinite) :
    Refines tx.cipher (step.perform tx) (step.inRegistry m) ∧
      (step.apply tx).cipher = tx.cipher ∧
      Depicting (n + 1) (stateAfter (step.inRegistry m)) (step.apply tx) := by
  obtain ⟨c, held, shows⟩ := h.depicts
  obtain ⟨c', held', each⟩ := h.readable
  have drawn := h.ready tx.entropy.used (Nat.le_refl _)
  have spare : Spare tx.tables (step.apply tx).tables := by
    apply h.issued.spare
    intro q
    have := tx.tables.issues_le_one (step.apply tx).tables q
    omega
  have admits : step.Admits (fun _ => True) DeviceRow.IsFinite tx.cipher := by
    cases step with
    | insertDevice d => exact fun _ _ _ => finite d rfl
    | upsertUser uid keys => exact fun _ _ => trivial
    | _ => trivial
  obtain ⟨-, cipher, later⟩ := RecordStep.edits held step
  have leaves := RecordStep.leaves held' each admits
  have refines := step.refines held shows (held'.finite each.devices held) drawn spare
  refine ⟨refines, cipher, ?_⟩
  constructor
  · rw [cipher, step.apply_eq]
    exact refines.depicts
  · exact leaves.held spare
  · exact h.ready.later later
  · intro q
    exact Nat.le_trans (h.issued.onward leaves.onward q)
      (Nat.add_le_add_left (Tables.issues_le_one ..) n)

def Transaction.after (tx : Transaction) (steps : List RecordStep) : Transaction :=
  steps.foldl (fun tx step => step.apply tx) tx

def Registry.after (m : Registry) (steps : List RecordStep) : Registry :=
  steps.foldl (fun m step => stateAfter (step.inRegistry m)) m

/-- Operations one after the other keep a transaction in step with the registry. -/
theorem Depicting.after {n : Nat} {m : Registry} {tx : Transaction} (h : Depicting n m tx)
    (steps : List RecordStep) (few : n + steps.length < UInt64.size)
    (finite : ∀ d, .insertDevice d ∈ steps → d.IsFinite) :
    (tx.after steps).cipher = tx.cipher ∧
      Depicting (n + steps.length) (m.after steps) (tx.after steps) := by
  induction steps generalizing n m tx with
  | nil => exact ⟨rfl, h⟩
  | cons step rest ih =>
    rw [List.length_cons] at few
    have own : ∀ d, step = .insertDevice d → d.IsFinite := by
      rintro d rfl
      exact finite d List.mem_cons_self
    obtain ⟨-, cipher, next⟩ := h.apply (by omega) own
    obtain ⟨cipher', done⟩ :=
      ih next (by omega) fun d listed => finite d (List.mem_cons_of_mem _ listed)
    refine ⟨cipher'.trans cipher, ?_⟩
    rw [List.length_cons, Nat.add_comm rest.length, ← Nat.add_assoc]
    exact done

/-- A device's row can be read, and its key opens. -/
def DeviceRow.Opens (cipher : ColumnCipher) (row : DeviceRow) : Prop :=
  row.IsFinite ∧ ∃ key, cipher.decryptText Transaction.deviceKeyColumn row.privateKey = .ok key

/-- Rows each of which shows a record show a table of records. -/
theorem Table.exists_shows {κ α β : Type} [Ord κ] [Std.LawfulEqOrd κ] [Std.TransOrd κ]
    {r : α → β → Prop} {t : Table κ α} (each : ∀ k a, t.get? k = some a → ∃ b, r a b) :
    ∃ u : Table κ β, Shows r t u := by
  simp only [get?_eq_some_iff] at each
  unfold Shows get?
  generalize t.entries = entries at each
  induction entries with
  | nil => exact ⟨.empty, fun _ => .none⟩
  | cons head rest ih =>
    obtain ⟨u, shows⟩ := ih fun k a listed => each k a (List.mem_cons_of_mem _ listed)
    obtain ⟨b, related⟩ := each head.1 head.2 List.mem_cons_self
    refine ⟨u.insert head.1 b, ?_⟩
    intro k
    rw [valueIn?, ← get?, get?_insert]
    split
    · exact .some related
    · exact shows k

/-- Contents of which the keys open are the rows of a registry. -/
theorem Contents.exists_shows {cipher : ColumnCipher} {c : Contents}
    (each : c.Each (UserRow.Opens cipher) (DeviceRow.Opens cipher)) : ∃ m, c.Shows cipher m := by
  have users : ∀ id row, c.users.get? id = some row → ∃ user, row.Shows cipher user := by
    intro id row there
    obtain ⟨key, opens⟩ := each.users id row there
    exact ⟨⟨row.id, row.uid, ⟨key, row.publicKey⟩⟩, rfl, rfl, rfl, opens⟩
  have devices : ∀ id row, c.devices.get? id = some row → ∃ device, row.Shows cipher device := by
    intro id row there
    obtain ⟨-, key, opens⟩ := each.devices id row there
    exact ⟨⟨⟨row.token, row.userId, ⟨key, row.publicKey⟩, row.location, row.disposition⟩, row.id⟩,
      rfl, opens⟩
  obtain ⟨shownUsers, users⟩ := Table.exists_shows users
  obtain ⟨shownDevices, devices⟩ := Table.exists_shows devices
  exact ⟨⟨shownUsers, shownDevices, c.streams, c.lastUser, c.lastDevice, c.lastStream⟩, users, devices,
    rfl, rfl, rfl, rfl⟩

namespace Session

/-- The rows of a session can be read and their keys open, if each place that is inserted is finite
and the cipher is always the same. -/
theorem run_opens {steps : List StoreStep} {cipher : ColumnCipher}
    (finite : ∀ d, .work (.insertDevice d) ∈ steps → d.IsFinite)
    (same : ∀ before after store tx, steps = before ++ after → fresh.run before = .opened store tx →
      store.cipher = cipher)
    (few : ∀ q, fresh.issuesOf q steps < UInt64.size) :
    (fresh.run steps).Keeps (Contents.Each (UserRow.Opens cipher) (DeviceRow.Opens cipher)) := by
  apply keeps_fresh.run sound_fresh steps (by simpa using few)
  rintro before record after store tx rfl reached
  rw [same before _ store _ rfl reached]
  cases record with
  | upsertUser uid keys => exact fun row opens => ⟨keys.privateKey, opens⟩
  | insertDevice d =>
    intro id key opens
    have listed : .work (.insertDevice d) ∈ before ++ .work (.insertDevice d) :: after := by simp
    exact ⟨finite d listed, d.keys.privateKey, opens⟩
  | _ => trivial

/-- Whatever is done with a store, the tables of an open transaction depict a registry, and each
operation on records does there what it does on the registry. The places that were inserted have to
be finite, the cipher has to be the same at each opening, and there is a nonce and an id for the
operation. -/
theorem run_refines {steps : List StoreStep} {store : Store} {tx : Transaction}
    {cipher : ColumnCipher} (step : RecordStep)
    (reached : fresh.run steps = .opened store (some tx))
    (finite : ∀ d, .work (.insertDevice d) ∈ steps → d.IsFinite)
    (same : ∀ before after store tx, steps = before ++ after → fresh.run before = .opened store tx →
      store.cipher = cipher)
    (few : ∀ sequence, fresh.issuesOf sequence (steps ++ [.work step]) < UInt64.size)
    (drawn : (tx.entropy.draw tx.entropy.used).IsNonce) :
    (∃ m, tx.tables.Depicts cipher m) ∧
      ∀ m, tx.tables.Depicts cipher m → Refines cipher (step.perform tx) (step.inRegistry m) := by
  simp only [issuesOf_append, reached] at few
  have fewBefore : ∀ q, fresh.issuesOf q steps < UInt64.size :=
    fun q => Nat.lt_of_le_of_lt (Nat.le_add_right ..) (few q)
  obtain ⟨inStore, c, held, each⟩ := (run_opens finite same fewBefore).working store tx reached
  have cipherOf : tx.cipher = cipher :=
    inStore.trans (same steps [] store _ (List.append_nil _).symm reached)
  have sound := sound_fresh.run steps (by simpa using fewBefore)
  have within := (sound.working tx.tables (by rw [reached]; rfl)).issued
  have spare : Spare tx.tables (step.apply tx).tables := by
    apply within.spare
    intro q
    have := few q
    simpa [issuesOf, issues] using this
  constructor
  · obtain ⟨m, shows⟩ := Contents.exists_shows each
    exact ⟨m, c, held, shows⟩
  · rintro m ⟨c', held', shows⟩
    have finite' := held.finite (fun id row there => (each.devices id row there).1) held'
    rw [← cipherOf] at shows ⊢
    exact step.refines held' shows finite' drawn spare

theorem run_works (store : Store) (tx : Transaction) (works : List RecordStep) :
    (opened store (some tx)).run (works.map .work) = .opened store (some (tx.after works)) := by
  induction works generalizing tx with
  | nil => rfl
  | cons work rest ih => exact ih (work.apply tx)

/-- Any operations can be done one after the other in the first transaction of a new store. -/
theorem exists_transaction (works : List RecordStep) (few : works.length < UInt64.size)
    (finite : ∀ d, .insertDevice d ∈ works → d.IsFinite) :
    ∃ password entropy store tx,
      fresh.next (.reopen password entropy) = .opened store none ∧
      (opened store none).run (.begin :: works.map .work) = .opened store (some tx) ∧
      tx.cipher = store.cipher ∧ Depicting works.length (Registry.after {} works) tx := by
  obtain ⟨store, isFresh, ready⟩ := Store.exists_fresh
  have start : Depicting 0 {} store.begin := {
    depicts := ⟨{}, isFresh.holds, Contents.shows_empty⟩
    readable := ⟨{}, isFresh.holds, nofun, nofun⟩
    ready
    issued := isFresh.within }
  obtain ⟨password, entropy, entropy', done⟩ := isFresh
  obtain ⟨cipher, depicting⟩ := start.after works (by simpa using few) finite
  refine ⟨password, entropy, store, store.begin.after works, ?_, ?_, cipher, ?_⟩
  · rw [next_reopen, show fresh.committed = {} from rfl, done]
  · exact run_works store store.begin works
  · simpa using depicting

/-- While it is open, a store keeps its cipher. -/
theorem run_cipher {store store' : Store} {tx tx' : Option Transaction} {steps : List StoreStep}
    (stays : ∀ password entropy, .reopen password entropy ∉ steps)
    (reached : (opened store tx).run steps = .opened store' tx') : store'.cipher = store.cipher := by
  induction steps generalizing store tx with
  | nil =>
    cases reached
    rfl
  | cons step rest ih =>
    have next : ∃ store₁ tx₁, (opened store tx).next step = .opened store₁ tx₁ ∧
        store₁.cipher = store.cipher := by
      cases tx <;> cases step <;> first
        | exact ⟨_, _, rfl, rfl⟩
        | exact absurd List.mem_cons_self (stays _ _)
    obtain ⟨store₁, tx₁, first, same⟩ := next
    have stays' : ∀ password entropy, .reopen password entropy ∉ rest :=
      fun password entropy later => stays password entropy (List.mem_cons_of_mem _ later)
    refine (@ih store₁ tx₁ stays' ?_).trans same
    rw [← first]
    exact reached

/-- Alice has a meter with two streams. -/
def meter : List RecordStep :=
  [.upsertUser "alice" ⟨"private", "public"⟩,
    .insertDevice ⟨"meter", 1, ⟨"private", "public"⟩, {}, .outdoor⟩, .insertStream 1 "first stream",
    .insertStream 1 "second stream"]

theorem finite_meter : ∀ d, .insertDevice d ∈ meter → d.IsFinite := by
  simp only [meter, List.mem_cons, reduceCtorEq, RecordStep.insertDevice.injEq, false_or, or_false,
    List.not_mem_nil, forall_eq]
  exact ⟨by decide, by decide⟩

theorem run_refines_meter :
    ∃ steps store tx cipher, fresh.run steps = .opened store (some tx) ∧
      (∀ d, .work (.insertDevice d) ∈ steps → d.IsFinite) ∧
      (∀ before after store tx, steps = before ++ after → fresh.run before = .opened store tx →
        store.cipher = cipher) ∧
      (∀ sequence, fresh.issuesOf sequence
        (steps ++ [.work (.deleteDevice "meter" "public")]) < UInt64.size) ∧
      (tx.entropy.draw tx.entropy.used).IsNonce ∧
      (∃ m, tx.tables.Depicts cipher m) ∧
      ∀ m, tx.tables.Depicts cipher m → Refines cipher
        ((RecordStep.deleteDevice "meter" "public").perform tx)
        ((RecordStep.deleteDevice "meter" "public").inRegistry m) := by
  obtain ⟨password, entropy, store, tx, opened, worked, -, depicting⟩ :=
    exists_transaction meter (by decide) finite_meter
  let steps : List StoreStep := .reopen password entropy :: .begin :: meter.map .work
  have reached : fresh.run steps = .opened store (some tx) := by
    rw [← worked, ← opened]
    rfl
  have finite' : ∀ d, .work (.insertDevice d) ∈ steps → d.IsFinite := by
    intro d listed
    refine finite_meter d ?_
    simpa [steps] using listed
  have same : ∀ before after store' tx', steps = before ++ after →
      fresh.run before = .opened store' tx' → store'.cipher = store.cipher := by
    intro before after store' tx' split reached
    cases before with
    | nil => nomatch reached
    | cons first rest =>
      obtain ⟨rfl, rest_⟩ := List.cons.inj split
      refine @run_cipher store store' none tx' rest ?_ ?_
      · intro password entropy again
        have listed : StoreStep.reopen password entropy ∈ StoreStep.begin :: meter.map .work := by
          rw [rest_]
          exact List.mem_append_left _ again
        simp at listed
      · rw [← opened]
        exact reached
  have few : ∀ sequence, fresh.issuesOf sequence
      (steps ++ [.work (.deleteDevice "meter" "public")]) < UInt64.size := fun sequence =>
    Nat.lt_of_le_of_lt (issuesOf_le_length ..) (show 7 < UInt64.size by decide)
  have drawn := depicting.ready tx.entropy.used (Nat.le_refl _)
  exact ⟨steps, store, tx, store.cipher, reached, finite', same, few, drawn,
    run_refines (.deleteDevice "meter" "public") reached finite' same few drawn⟩

end Session
end DeviceRegistry
