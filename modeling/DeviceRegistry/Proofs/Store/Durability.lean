import DeviceRegistry.Proofs.Store.Locating
import DeviceRegistry.Proofs.Store.Reopening
import Mathlib.Data.List.Induction

/-! Opening a store is atomic and durable. Whatever was done with a store, opening it with any
password changes no table, and opening it with the password that it was created with succeeds and
gives each user the keys with which it was inserted. -/
namespace DeviceRegistry

/-- The row of a user that was inserted: it has the public key, and its private key opens. -/
theorem Transaction.upsertUser_filed {tx tx' : Transaction} {c : Contents} (h : tx.tables.Holds c)
    {uid : String} {keys : KeyPair} {user : User} (new : tx.tables.usersByUid.get? uid = none)
    (inserted : upsertUser uid keys tx = .ok user tx') :
    ∃ row : UserRow, row.publicKey = keys.publicKey ∧
      tx.cipher.decryptText userKeyColumn row.privateKey = .ok keys.privateKey ∧
      tx'.tables.users.get? user.id = some (StoredRow.encode row) := by
  have outcome := upsertUser_outcome h uid keys
  rw [inserted] at outcome
  cases outcome with
  | known there mine => exact absurd mine (h.users.new_of_index new there)
  | @new row unknown next mine given opens =>
    exact ⟨row, given, opens, Table.get?_insert_self ..⟩

/-- A user that is there keeps the keys of its row, whatever keys are offered. -/
theorem Transaction.upsertUser_known {tx : Transaction} {c : Contents} (h : tx.tables.Holds c)
    {uid key : String} {id : UInt64} {row : UserRow}
    (there : tx.tables.usersByUid.get? uid = some id)
    (filed : tx.tables.users.get? id = some (StoredRow.encode row))
    (opens : tx.cipher.decryptText userKeyColumn row.privateKey = .ok key) (others : KeyPair) :
    upsertUser uid others tx = .ok ⟨id, uid, ⟨key, row.publicKey⟩⟩ tx := by
  have only : ∀ id' row', c.users.get? id' = some row' → row'.uid = uid → id' = id ∧ row' = row := by
    intro id' row' known mine
    have found := h.users.get?_index known
    rw [show Keyed.key row' = uid from mine, there] at found
    obtain rfl := Option.some.inj found
    have stored := h.users.get?_row known
    rw [filed] at stored
    exact ⟨rfl, (UserRow.encode_injective (Option.some.inj stored)).symm⟩
  have outcome := upsertUser_outcome h uid others
  generalize upsertUser uid others tx = result at outcome ⊢
  cases outcome with
  | known known mine opens' =>
    obtain ⟨rfl, rfl⟩ := only _ _ known mine
    obtain rfl := Except.ok.inj (opens.symm.trans opens')
    rfl
  | locked known mine closed =>
    obtain ⟨rfl, rfl⟩ := only _ _ known mine
    rw [opens] at closed
    contradiction
  | new new next mine =>
    rw [mine, there] at new
    contradiction
  | unsealed new =>
    rw [there] at new
    contradiction

/-- A user of the tables after an operation was there, with the same row, or it was inserted. -/
theorem RecordStep.users_apply {tx : Transaction} {c : Contents} (h : tx.tables.Holds c)
    (step : RecordStep) {uid : String} {id : UInt64}
    (there : (step.apply tx).tables.usersByUid.get? uid = some id) :
    (tx.tables.usersByUid.get? uid = some id ∧
        (step.apply tx).tables.users.get? id = tx.tables.users.get? id) ∨
      ∃ keys, step = .upsertUser uid keys ∧ tx.tables.usersByUid.get? uid = none ∧
        Transaction.upsertUser uid keys tx = .ok ⟨id, uid, keys⟩ (step.apply tx) := by
  have edits := (RecordStep.edits h step).1
  generalize tables : (step.apply tx).tables = t at edits there ⊢
  cases edits with
  | same => exact .inl ⟨there, rfl⟩
  | skipUser => exact .inl ⟨there, rfl⟩
  | skipDevice => exact .inl ⟨there, rfl⟩
  | withDevice => exact .inl ⟨there, rfl⟩
  | withStream => exact .inl ⟨there, rfl⟩
  | withoutDevice =>
    rw [Tables.withoutDevice, Tables.foldl_withoutStream] at there ⊢
    exact .inl ⟨there, rfl⟩
  | @withoutUser gone row mine =>
    rw [Tables.withoutUser] at there ⊢
    have other : uid ≠ row.uid := by
      rintro rfl
      rw [Table.get?_erase_self] at there
      contradiction
    rw [Table.get?_erase_ne _ other] at there
    refine .inl ⟨there, Table.get?_erase_ne _ ?_⟩
    rintro rfl
    obtain ⟨row', mine', rfl⟩ := (h.users.found uid id).1 there
    rw [mine] at mine'
    exact other (congrArg UserRow.uid (Option.some.inj mine')).symm
  | @withUser uid' keys row next new opens =>
    rw [← tables] at there ⊢
    have outcome := Transaction.upsertUser_outcome h uid' keys
    rw [apply] at there ⊢
    generalize done : Transaction.upsertUser uid' keys tx = result at outcome there ⊢
    cases outcome with
    | known => exact .inl ⟨there, rfl⟩
    | locked => exact .inl ⟨there, rfl⟩
    | unsealed => exact .inl ⟨there, rfl⟩
    | @new row unknown next mine =>
      rw [stateAfter, Tables.withUser] at there ⊢
      by_cases own : uid = row.uid
      · rw [own, Table.get?_insert_self] at there
        obtain rfl := Option.some.inj there
        subst own mine
        exact .inr ⟨keys, rfl, unknown, done⟩
      · rw [Table.get?_insert_ne _ _ own] at there
        refine .inl ⟨there, Table.get?_insert_ne _ _ ?_⟩
        rintro rfl
        obtain ⟨old, known, -⟩ := (h.users.found uid row.id).1 there
        rw [next, h.valid.users.next_new] at known
        contradiction

namespace Session

/-- In the run a user of that uid is inserted with the keys, and its row is filed under the id. -/
inductive Inserts (start : Session) (steps : List StoreStep) (uid : String) (keys : KeyPair)
    (id : UInt64) (row : Bytes) : Prop where
  | intro {before after : List StoreStep} {store : Store} {tx tx' : Transaction}
      (split : steps = before ++ .work (.upsertUser uid keys) :: after)
      (reached : start.run before = .opened store (some tx))
      (new : tx.tables.usersByUid.get? uid = none)
      (inserted : Transaction.upsertUser uid keys tx = .ok ⟨id, uid, keys⟩ tx')
      (filed : tx'.tables.users.get? id = some row)

/-- Each user of the tables was inserted in the run, with the row that it has. -/
def Tells (start : Session) (steps : List StoreStep) (t : Tables) : Prop :=
  ∀ uid id, t.usersByUid.get? uid = some id →
    ∃ row keys, t.users.get? id = some row ∧ start.Inserts steps uid keys id row

/-- The store is opened with the password only, unless the opening fails or gives the same cipher. -/
def Under (password : String) (cipher : ColumnCipher) (start : Session) (steps : List StoreStep) :
    Prop :=
  ∀ before other entropy after, steps = before ++ .reopen other entropy :: after →
    other = password ∨ ∀ store entropy',
      Store.opened other (start.run before).committed entropy = .ok store entropy' →
        store.cipher = cipher

variable {start : Session} {steps : List StoreStep} {uid : String} {keys : KeyPair} {id : UInt64}
  {row : Bytes}

theorem Inserts.append (h : start.Inserts steps uid keys id row) (more : List StoreStep) :
    start.Inserts (steps ++ more) uid keys id row := by
  obtain ⟨rfl, reached, new, inserted, filed⟩ := h
  exact ⟨by rw [List.append_assoc, List.cons_append], reached, new, inserted, filed⟩

theorem Tells.append {t : Tables} (h : start.Tells steps t) (more : List StoreStep) :
    start.Tells (steps ++ more) t := by
  intro uid id there
  obtain ⟨row, keys, stored, inserts⟩ := h uid id there
  exact ⟨row, keys, stored, inserts.append more⟩

/-- An operation keeps the users that were told of, and tells of the one that it inserts. -/
theorem Tells.work {store : Store} {tx : Transaction} {c : Contents}
    (h : start.Tells steps tx.tables) (reached : start.run steps = .opened store (some tx))
    (held : tx.tables.Holds c) (step : RecordStep) :
    start.Tells (steps ++ [.work step]) (step.apply tx).tables := by
  intro uid id there
  rcases step.users_apply held there with ⟨before, same⟩ | ⟨keys, rfl, new, inserted⟩
  · obtain ⟨row, keys, stored, inserts⟩ := h uid id before
    exact ⟨row, keys, same ▸ stored, inserts.append _⟩
  · obtain ⟨row, -, -, filed⟩ := Transaction.upsertUser_filed held new inserted
    exact ⟨_, keys, filed, rfl, reached, new, inserted, filed⟩

/-- The session was reached by the steps, and its committed users and those of an open transaction
were inserted on the way. -/
structure Told (start : Session) (steps : List StoreStep) (session : Session) : Prop where
  reached : start.run steps = session
  committed : start.Tells steps session.committed
  working : ∀ t, session.working? = some t → start.Tells steps t

theorem Told.next {session : Session} {count : String → Nat} (h : start.Told steps session)
    (sound : session.Sound count) {salt check : Bytes}
    (locked : Store.Locked session.committed.metadata salt check) (step : StoreStep) :
    start.Told (steps ++ [step]) (session.next step) := by
  have reached : start.run (steps ++ [step]) = session.next step := by
    rw [run_append, h.reached]
    rfl
  have stored := h.committed.append [step]
  have goes := session.next_goes step
  generalize session.next step = session' at goes reached ⊢
  cases goes with
  | idle none => exact ⟨reached, stored, fun t open_ => absurd (none.symm.trans open_) nofun⟩
  | waits store tx =>
    refine ⟨reached, stored, ?_⟩
    rintro t ⟨⟩
    exact (h.working tx.tables rfl).append _
  | begins store =>
    refine ⟨reached, stored, ?_⟩
    rintro t ⟨⟩
    exact stored
  | works store tx step =>
    refine ⟨reached, stored, ?_⟩
    rintro t ⟨⟩
    obtain ⟨c, held⟩ := (sound.working tx.tables rfl).held
    exact (h.working tx.tables rfl).work h.reached held step
  | commits store tx => exact ⟨reached, (h.working tx.tables rfl).append _, nofun⟩
  | abandons => exact ⟨reached, stored, nofun⟩
  | reopens done =>
    obtain rfl := Store.opened_locked_ok locked done
    exact ⟨reached, stored, nofun⟩
  | closes => exact ⟨reached, stored, nofun⟩

/-- The store and its open transaction have the cipher. -/
def Ciphered (cipher : ColumnCipher) (session : Session) : Prop :=
  ∀ store transaction, session = .opened store transaction →
    store.cipher = cipher ∧ ∀ tx, transaction = some tx → tx.cipher = cipher

theorem Ciphered.idle {cipher : ColumnCipher} {store : Store} (own : store.cipher = cipher) :
    (opened store none).Ciphered cipher := by
  rintro _ _ ⟨⟩
  exact ⟨own, nofun⟩

theorem Ciphered.next {cipher : ColumnCipher} {session : Session} (h : session.Ciphered cipher)
    (step : StoreStep)
    (same : ∀ password entropy store entropy', step = .reopen password entropy →
      Store.opened password session.committed entropy = .ok store entropy' → store.cipher = cipher) :
    (session.next step).Ciphered cipher := by
  have goes := session.next_goes step
  generalize session.next step = session' at goes ⊢
  cases goes with
  | idle => exact h
  | waits => exact h
  | begins store =>
    obtain ⟨own, -⟩ := h store none rfl
    rintro _ _ ⟨⟩
    refine ⟨own, ?_⟩
    rintro tx ⟨⟩
    exact own
  | works store tx step =>
    obtain ⟨own, working⟩ := h store _ rfl
    rintro _ _ ⟨⟩
    refine ⟨own, ?_⟩
    rintro _ ⟨⟩
    exact (congrArg Prod.snd (step.lock_apply tx)).trans (working tx rfl)
  | commits store tx => exact .idle (h store _ rfl).1
  | abandons store tx => exact .idle (h store _ rfl).1
  | reopens done => exact .idle (same _ _ _ _ rfl done)
  | closes => exact nofun

end Session

namespace Store

/-- The committed tables after a run of a store that was just opened. -/
def tablesAfter (s : Store) (steps : List StoreStep) : Tables :=
  ((Session.opened s none).run steps).committed

/-- After these steps the tables of a store stay as they are when it is opened, and its own password
opens it. -/
structure Durable (password : String) (created : Store) (steps : List StoreStep) : Prop where
  unchanged : ∀ other e s e', Store.opened other (created.tablesAfter steps) e = .ok s e' →
    s.tables = created.tablesAfter steps
  /-- Whether the opening succeeds or fails. -/
  kept : ∀ other e, created.tablesAfter (steps ++ [.reopen other e]) = created.tablesAfter steps
  onDisk : ∀ d d' path place other source,
    Disk.locate path d = .ok (place, created.tablesAfter steps) d' →
      stateAfter (d.openStore path other source) = d' ∧
        Disk.locate path d' = .ok (place, created.tablesAfter steps) d'
  opens : ∀ e, ∃ s, Store.opened password (created.tablesAfter steps) e = .ok s e

/-- Each user that is stored was inserted in the run, and the store, opened with its password, tells
the keys that were given for it, whatever keys are offered then. -/
def TellsKeys (password : String) (created : Store) (steps : List StoreStep) : Prop :=
  ∀ uid id, (created.tablesAfter steps).usersByUid.get? uid = some id →
    ∃ row, (created.tablesAfter steps).users.get? id = some row ∧
      (∃ keys, (Session.opened created none).Inserts steps uid keys id row) ∧
      ∀ keys, (Session.opened created none).Inserts steps uid keys id row →
        ∀ others e, ∃ s, Store.opened password (created.tablesAfter steps) e = .ok s e ∧
          Transaction.upsertUser uid others s.begin = .ok ⟨id, uid, keys⟩ s.begin

variable {password : String} {first first' : Entropy} {created : Store}

/-- The metadata after a run are still those of the first opening. -/
theorem locked_tablesAfter (h : Store.opened password {} first = .ok created first')
    (steps : List StoreStep) :
    ∃ salt check plain, Locked (created.tablesAfter steps).metadata salt check ∧
      created.cipher = cipherOf password salt ∧
      (cipherOf password salt).decrypt checkKey check = .ok plain := by
  obtain ⟨salt, check, plain, locked, same, opens⟩ := locked_of_opened h
  have start : (Session.opened created none).HasMetadata created.tables.metadata := ⟨rfl, nofun⟩
  refine ⟨salt, check, plain, ?_, same, same ▸ opens⟩
  rw [tablesAfter, (start.run locked steps).committed]
  exact locked

/-- The password with which a store was created opens it after any run, with the same cipher. -/
theorem opened_tablesAfter (h : Store.opened password {} first = .ok created first')
    (steps : List StoreStep) (e : Entropy) :
    Store.opened password (created.tablesAfter steps) e =
      .ok ⟨created.tablesAfter steps, created.cipher, e⟩ e := by
  obtain ⟨salt, check, plain, locked, same, opens⟩ := locked_tablesAfter h steps
  rw [opened_locked locked, opens, same]

/-- On a disk the tables of a store that was created stay where they are. -/
theorem openStore_locked {t : Tables} {salt check : Bytes} (locked : Locked t.metadata salt check)
    {d d' : Disk} {path : String} {place : Place} (located : Disk.locate path d = .ok (place, t) d')
    (password : String) (source : Tables → Entropy) :
    stateAfter (d.openStore path password source) = d' := by
  obtain ⟨d₁, -, -, found⟩ := Disk.locate_eq_ok.1 located
  -- The file holds tables, since an empty one would be that of a store that was never opened.
  have there : d'.entries.get? place = some (.tables t) := by
    obtain ⟨entry, there, holds⟩ := Option.bind_eq_some_iff.1 found
    rw [there]
    cases entry with
    | directory => cases holds
    | tables t' => exact congrArg (some <| DiskEntry.tables ·) (Option.some.inj holds)
    | content b =>
      cases b with
      | nil =>
        obtain rfl := Option.some.inj holds
        have none : (none : Option Bytes) = some salt := locked.salt
        contradiction
      | cons => cases holds
  rw [Disk.openStore_located located]
  cases result : Store.opened password t (source t) with
  | ok s e =>
    obtain rfl := opened_locked_ok locked result
    show Disk.put d' place (.tables t) = d'
    rw [Disk.put, Table.insert_of_get? there]
  | error e => rfl

theorem durable (h : Store.opened password {} first = .ok created first') (steps : List StoreStep) :
    Durable password created steps := by
  obtain ⟨salt, check, plain, locked, -, opens⟩ := locked_tablesAfter h steps
  refine ⟨?_, ?_, ?_, ?_⟩
  · intro other e s e' done
    rw [opened_locked_ok locked done]
  · intro other e
    rw [tablesAfter, Session.run_append]
    exact Session.next_reopen_locked locked other e
  · intro d d' path place other source located
    exact ⟨openStore_locked locked located other source, Disk.locate_again located⟩
  · intro e
    exact ⟨_, opened_tablesAfter h steps e⟩

theorem sound_created (h : Store.opened password {} first = .ok created first') :
    (Session.opened created none).Sound fun _ => 0 :=
  have fresh : created.Fresh := ⟨password, first, first', h⟩
  ⟨⟨⟨{}, fresh.holds⟩, fresh.within⟩, nofun⟩

/-- Each user that a run leaves was inserted in it. -/
theorem told_run (h : Store.opened password {} first = .ok created first') (steps : List StoreStep)
    (few : ∀ q, (Session.opened created none).issuesOf q steps < UInt64.size) :
    (Session.opened created none).Told steps ((Session.opened created none).run steps) := by
  induction steps using List.reverseRecOn with
  | nil =>
    refine ⟨rfl, ?_, nofun⟩
    intro uid id there
    obtain ⟨metadata, same⟩ := Store.opened_tables h
    have empty : (Table.empty : Table String UInt64).get? uid = some id := by
      rw [← there, Session.run, List.foldl_nil, Session.committed, same]
    contradiction
  | append_singleton steps step ih =>
    have fewBefore := Session.issuesOf_lt_before few
    have sound := (sound_created h).run steps (by simpa using fewBefore)
    obtain ⟨salt, check, plain, locked, -⟩ := locked_tablesAfter h steps
    rw [Session.run_append]
    exact (ih fewBefore).next sound locked step

/-- Under its password a store keeps its cipher. -/
theorem ciphered_run (h : Store.opened password {} first = .ok created first')
    (steps : List StoreStep)
    (under : (Session.opened created none).Under password created.cipher steps) :
    ((Session.opened created none).run steps).Ciphered created.cipher := by
  induction steps using List.reverseRecOn with
  | nil =>
    rintro _ _ ⟨⟩
    exact ⟨rfl, nofun⟩
  | append_singleton steps step ih =>
    have before : (Session.opened created none).Under password created.cipher steps := by
      rintro before other entropy after rfl
      exact under before other entropy (after ++ [step]) (by rw [List.append_assoc, List.cons_append])
    rw [Session.run_append]
    apply (ih before).next step
    rintro other entropy store entropy' rfl done
    rcases under steps other entropy [] rfl with rfl | same
    · rw [show ((Session.opened created none).run steps).committed = created.tablesAfter steps from rfl,
        opened_tablesAfter h steps entropy] at done
      cases done
      rfl
    · exact same store entropy' done

theorem tellsKeys (h : Store.opened password {} first = .ok created first') (steps : List StoreStep)
    (few : ∀ q, (Session.opened created none).issuesOf q steps < UInt64.size)
    (under : (Session.opened created none).Under password created.cipher steps) :
    TellsKeys password created steps := by
  intro uid id there
  obtain ⟨row, keys, stored, inserts⟩ := (told_run h steps few).committed uid id there
  refine ⟨row, stored, ⟨keys, inserts⟩, ?_⟩
  intro keys inserts others e
  obtain ⟨rfl, reached, new, inserted, filed⟩ := inserts
  rename_i before after store tx tx'
  have fewBefore := Session.issuesOf_lt_before few
  have underBefore : (Session.opened created none).Under password created.cipher before := by
    rintro first other entropy rest rfl
    exact under first other entropy (rest ++ .work (.upsertUser uid keys) :: after)
      (by rw [List.append_assoc, List.cons_append])
  have cipher : tx.cipher = created.cipher :=
    ((ciphered_run h before underBefore) store _ reached).2 tx rfl
  -- The row was filed for the keys, under the same cipher.
  obtain ⟨c, held⟩ := (((sound_created h).run before (by simpa using fewBefore)).working tx.tables
    (by rw [reached]; rfl)).held
  obtain ⟨written, given, opens, filed'⟩ := Transaction.upsertUser_filed held new inserted
  obtain rfl := Option.some.inj (filed.symm.trans filed')
  obtain ⟨c', held'⟩ := ((sound_created h).run _ (by simpa using few)).committed.held
  rw [cipher] at opens
  let s : Store :=
    ⟨created.tablesAfter (before ++ .work (.upsertUser uid keys) :: after), created.cipher, e⟩
  have known := @Transaction.upsertUser_known s.begin c' held' uid keys.privateKey id written there
    stored opens others
  rw [given] at known
  exact ⟨s, opened_tablesAfter h _ e, known⟩

/-- A store that fails to open for the first time is as new, in memory and on a disk. -/
theorem first_opening_fails {other : String} {source : Tables → Entropy} {error : StoreError}
    {e' : Entropy} (h : Store.opened other {} (source {}) = .error error e') :
    error = .cipher .noRandomness ∧ Session.fresh.next (.reopen other (source {})) = .fresh ∧
      ∀ d d' path place, Disk.locate path d = .ok (place, {}) d' →
        d.openStore path other source = .error error d' ∧ Disk.locate path d' = .ok (place, {}) d' := by
  refine ⟨opened_first_error h, ?_, ?_⟩
  · rw [Session.next_reopen, show Session.fresh.committed = {} from rfl, h]
    rfl
  · intro d d' path place located
    refine ⟨?_, Disk.locate_again located⟩
    rw [Disk.openStore_located located, h]

/-- Whatever was done with a store, opening it is atomic and durable: with any password no table
changes, and its own password opens it. As long as each sequence has issued fewer than `2^64` ids and
only its own password opened the store, it then tells the keys with which each user was inserted. A
first opening that fails fails for lack of randomness, and the next one is a first opening again. -/
theorem opening_durable (h : Store.opened password {} first = .ok created first')
    (steps : List StoreStep) :
    Durable password created steps ∧
      ((∀ q, (Session.opened created none).issuesOf q steps < UInt64.size) →
        (Session.opened created none).Under password created.cipher steps →
          TellsKeys password created steps) ∧
      ∀ other source error e', Store.opened other {} (source {}) = .error error e' →
        error = .cipher .noRandomness ∧ Session.fresh.next (.reopen other (source {})) = .fresh ∧
          ∀ d d' path place, Disk.locate path d = .ok (place, {}) d' →
            d.openStore path other source = .error error d' ∧
              Disk.locate path d' = .ok (place, {}) d' :=
  ⟨durable h steps, tellsKeys h steps, fun _ _ _ _ fails => first_opening_fails fails⟩

/-- Alice is inserted; the store is closed in the middle of a transaction and opened again. -/
def closedAndOpened (password : String) : List StoreStep :=
  [.begin, .work (.upsertUser "alice" ⟨"private", "public"⟩), .commit, .begin,
    .work (.upsertUser "bob" ⟨"other private", "other public"⟩),
    .reopen password ⟨fun _ => none, 0⟩, .begin, .work (.upsertUser "alice" ⟨"new", "new"⟩), .commit]

theorem opening_durable_closedAndOpened :
    ∃ password first created first', Store.opened password {} first = .ok created first' ∧
      (∀ q, (Session.opened created none).issuesOf q (closedAndOpened password) < UInt64.size) ∧
      (Session.opened created none).Under password created.cipher (closedAndOpened password) ∧
      Durable password created (closedAndOpened password) ∧
      TellsKeys password created (closedAndOpened password) := by
  obtain ⟨created, ⟨password, first, first', opened⟩, -⟩ := Store.exists_fresh
  have few : ∀ q, (Session.opened created none).issuesOf q (closedAndOpened password) < UInt64.size :=
    fun q => Nat.lt_of_le_of_lt (Session.issuesOf_le_length ..) (show 9 < UInt64.size by decide)
  have under : (Session.opened created none).Under password created.cipher
      (closedAndOpened password) := by
    intro before other entropy after split
    have listed : .reopen other entropy ∈ closedAndOpened password := by simp [split]
    simp only [closedAndOpened, List.mem_cons, reduceCtorEq, StoreStep.reopen.injEq, false_or,
      List.not_mem_nil, or_false] at listed
    exact .inl listed.1
  have done := opening_durable opened (closedAndOpened password)
  exact ⟨password, first, created, first', opened, few, under, done.1, done.2.1 few under⟩

end Store
end DeviceRegistry
