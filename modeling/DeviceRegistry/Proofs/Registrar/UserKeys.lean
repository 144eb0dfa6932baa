import DeviceRegistry.Proofs.Registrar.Life

/-! The keys of a user, from one claim to the next. The row of a user who stays is never written with
other keys, and the cipher that opens it comes back with each opening; so whoever owns a device all
the time is answered the same keys, and a user who is not there gets the keys that the claim made. -/
namespace DeviceRegistry

/-- The user's keys in the answer to a claim. -/
def ClaimResponse.userKeys (response : ClaimResponse) : KeyPair :=
  ⟨response.userPrivateKey, response.userPublicKey⟩

/-- The user with the uid owns a device. -/
def Tables.Equips (t : Tables) (uid : String) : Prop :=
  ∃ owner device, ∃ row : DeviceRow,
    t.HasUser uid owner ∧ Stores t.devices device row ∧ row.userId = owner

namespace Store

/-- The user with the uid is stored under the id, with these keys. -/
def UserKeys (s : Store) (uid : String) (id : UInt64) (keys : KeyPair) : Prop :=
  ∃ row : UserRow, Stores s.tables.users id row ∧ row.uid = uid ∧ row.publicKey = keys.publicKey ∧
    s.cipher.decryptText Transaction.userKeyColumn row.privateKey = .ok keys.privateKey

variable {s t : Store} {uid : String} {id : UInt64} {keys keys' : KeyPair}

theorem UserKeys.unique (h : s.UserKeys uid id keys) (h' : s.UserKeys uid id keys') :
    keys' = keys := by
  obtain ⟨row, stored, -, publicKey, opens⟩ := h
  obtain ⟨row', stored', -, publicKey', opens'⟩ := h'
  obtain rfl := UserRow.encode_injective (Option.some.inj (stored.symm.trans stored'))
  have same := Except.ok.inj (opens'.symm.trans opens)
  exact congrArg₂ KeyPair.mk same (publicKey'.symm.trans publicKey)

theorem UserKeys.hasUser (h : s.UserKeys uid id keys) : s.tables.HasUser uid id := by
  obtain ⟨row, stored, mine, -⟩ := h
  exact ⟨row, stored, mine⟩

/-- What is stored for a user at two times is the same. -/
theorem Evolves.user_eq (h : s.Evolves t) {b b' : Bytes} (there : s.tables.users.get? id = some b)
    (there' : t.tables.users.get? id = some b') : b' = b := by
  obtain ⟨c, held, -⟩ := h.before
  obtain ⟨row, found, -⟩ := held.users.exists_row there
  have issued : id ≤ s.tables.issued "users" := by
    rw [held.lastUser]
    exact (held.valid.users id row found).2
  have kept := h.precedes.users.kept id b' issued there'
  exact Option.some.inj (kept.symm.trans there)

/-- A user who stays keeps his keys. -/
theorem UserKeys.onward (h : s.UserKeys uid id keys) (evolves : s.Evolves t)
    (there : t.tables.HasUser uid id) : t.UserKeys uid id keys := by
  obtain ⟨row, stored, mine, publicKey, opens⟩ := h
  obtain ⟨row', stored', -⟩ := there
  have same := UserRow.encode_injective (evolves.user_eq stored stored')
  exact ⟨row, same ▸ stored', mine, publicKey, evolves.cipher ▸ opens⟩

/-- A device that was there before, and is there afterwards, was there all the time, with its owner
and the owner's keys. -/
theorem UserKeys.during {first last : Store} {device : DeviceRow} (evolves : first.Evolves s)
    (evolves' : s.Evolves last) (there : Stores first.tables.devices device.id device)
    (kept : Stores last.tables.devices device.id device)
    (filed : last.UserKeys uid device.userId keys) : s.UserKeys uid device.userId keys := by
  obtain ⟨c, held, -⟩ := evolves.before
  obtain ⟨c', held', -⟩ := evolves.after
  obtain ⟨row, found, -⟩ := held.devices.exists_row there
  have issued : device.id ≤ s.tables.issued "devices" := by
    refine UInt64.le_trans ?_ evolves.precedes.devices.le
    rw [held.lastDevice]
    exact (held.valid.devices _ row found).2
  have between := evolves'.precedes.devices.kept _ _ issued kept
  obtain ⟨row', found', same⟩ := held'.devices.exists_row between
  obtain ⟨owner, owned⟩ := held'.valid.owner _ row' found'
  rw [DeviceRow.userId_eq same] at owned
  have stored := held'.users.get?_row owned
  obtain ⟨user, stored', mine, publicKey, opens⟩ := filed
  have sameUser := evolves'.user_eq stored stored'
  exact ⟨user, stored.trans (congrArg some sameUser.symm), mine, publicKey,
    evolves'.cipher ▸ opens⟩

end Store

namespace Registrar

variable {r : ClaimRequest} {location : Location} {userKeys deviceKeys : KeyPair} {d : Registered}
  {s t : Store} {id : UInt64} {keys : KeyPair}

/-- Who is there already is registered with his own keys. -/
theorem register_known (settled : s.Settled) (spare : Spare s.tables t.tables)
    (registered : register r location userKeys deviceKeys s = .ok d t)
    (there : s.UserKeys r.userUid id keys) : d.user.keys = keys := by
  obtain ⟨c, held, -⟩ := settled
  have outcome := Registers.of_eq held registered spare
  cases outcome with
  | @registered user device key c' tables entropy later mine owner opens =>
    have known : Stores s.tables.users user.id user := by
      cases owner with
      | known there => exact held.users.get?_row there
      | new new =>
        obtain ⟨row, stored, uid, -⟩ := there
        have other := held.users.new_of_index new (held.stores_user.1 stored)
        exact absurd (uid.trans mine.symm) other
    obtain rfl : id = user.id := by
      obtain ⟨row, stored, uid, -⟩ := there
      exact held.hasUser_unique ⟨user, known, mine⟩ ⟨row, stored, uid⟩
    exact there.unique ⟨user, known, mine, rfl, opens⟩

/-- Who is not there yet is registered with the keys that were made for him. -/
theorem register_new (settled : s.Settled) (spare : Spare s.tables t.tables)
    (registered : register r location userKeys deviceKeys s = .ok d t)
    (none : ∀ id, ¬ s.tables.HasUser r.userUid id) : d.user.keys = userKeys := by
  obtain ⟨c, held, -⟩ := settled
  have outcome := Registers.of_eq held registered spare
  cases outcome with
  | @registered user device key c' tables entropy later mine owner opens =>
    cases owner with
    | known there => exact absurd ⟨user, held.users.get?_row there, mine⟩ (none user.id)
    | new new next given => exact congrArg (KeyPair.mk userKeys.privateKey) given

/-- What a claim did that arrived in the state `s` and succeeded: it registered `d` from `a` to `a'`,
and recorded its stream from `c` to `t`. -/
structure Succeeded (r : ClaimRequest) (response : ClaimResponse) (own : List Turn)
    (s a a' c t : Registrar Store) (userKeys : KeyPair) (d : Registered) : Prop where
  first : own.head? = some (a, a')
  last : own.getLast? = some (c, t)
  made : s.keys.pair s.keys.used = .ok userKeys
  registered : ∃ location deviceKeys,
    register r location userKeys deviceKeys a.store = .ok d a'.store
  since : a'.store.Evolves c.store
  recorded : ∃ uid, recordStream d.device.id uid c.store = .ok () t.store
  answer : response = Registrar.response d

theorem claim_succeeded {response : ClaimResponse} {own : List Turn} {s t : Registrar Store}
    (h : (claim r s).Reaches Meanwhile own (.finished (.ok response) t))
    (proper : ∀ turn ∈ own, Proper turn) :
    ∃ a a' c userKeys d, Succeeded r response own s a a' c t userKeys d := by
  rcases claim_begins r s with ⟨e, t, same, -, -, -, begun⟩ |
    ⟨location, userKeys, deviceKeys, start, same, -, begins, begun⟩
  · rw [begun] at h
    cases h
  · rw [begun] at h
    cases h with
    | @resumed _ a _ between _ _ pause rest =>
      rw [registering] at rest proper ⊢
      cases registered : register r location userKeys deviceKeys a.store with
      | error e store =>
        rw [registered] at rest
        cases rest
      | ok d store =>
        rw [registered] at rest proper
        have finishes := waiting_reaches rest
        generalize answered : (.ok response : Outcome ClaimResponse) = outcome at finishes
        cases finishes with
        | uncreated | unrecorded => cases answered
        | @recorded uid b b' c _ between' between'' meanwhile same' pause' recorded =>
          obtain ⟨rfl, -⟩ := pause
          obtain ⟨rfl, heard⟩ := meanwhile
          obtain ⟨rfl, paused⟩ := pause'
          rw [same'] at paused
          exact ⟨a, _, c, userKeys, d, {
            first := rfl
            last := rfl
            made := begins.userKeys
            registered := ⟨location, deviceKeys, registered⟩
            since := heard.trans paused
            recorded := ⟨uid, recorded⟩
            answer := Except.ok.inj answered }⟩

namespace Succeeded

variable {response response' : ClaimResponse} {own own' : List Turn}
  {s s' a a' b b' c c' t t' : Registrar Store} {userKeys userKeys' : KeyPair} {d d' : Registered}
  {r' : ClaimRequest}

/-- At its end a claim has left the device with its owner, who has the keys that are answered. -/
theorem filed (h : Succeeded r response own s a a' c t userKeys d) (proper : Proper (a, a'))
    (proper' : Proper (c, t)) :
    ∃ device : DeviceRow, Stores a'.store.tables.devices device.id device ∧
      Stores t.store.tables.devices device.id device ∧
      t.store.UserKeys r.userUid device.userId response.userKeys := by
  obtain ⟨location, deviceKeys, registered⟩ := h.registered
  obtain ⟨uid, recorded⟩ := h.recorded
  obtain ⟨device, owner, stream, -, -, delivers⟩ :=
    Registrar.delivers proper.1 proper.2 h.since proper'.2 registered recorded
  rw [← h.answer] at delivers
  exact ⟨device, delivers.registered.2, delivers.kept, owner, delivers.owned, delivers.uid,
    delivers.publicKey, delivers.privateKey⟩

/-- A claim answers the keys that its user had when it registered the device. -/
theorem answers_known (h : Succeeded r response own s a a' c t userKeys d) (proper : Proper (a, a'))
    (there : a.store.UserKeys r.userUid id keys) : response.userKeys = keys := by
  obtain ⟨location, deviceKeys, registered⟩ := h.registered
  rw [h.answer]
  exact register_known proper.1.before proper.2 registered there

/-- It answers the keys that it made, if the user was not there. -/
theorem answers_new (h : Succeeded r response own s a a' c t userKeys d) (proper : Proper (a, a'))
    (none : ∀ id, ¬ a.store.tables.HasUser r.userUid id) : response.userKeys = userKeys := by
  obtain ⟨location, deviceKeys, registered⟩ := h.registered
  rw [h.answer]
  exact register_new proper.1.before proper.2 registered none

end Succeeded

/-- From one claim to a later one the user owns a device all the time; or the later one registers
its device while the other is still under way. -/
inductive Unbroken (uid : String) (turns own own' : List Turn) : Prop where
  | apart {before between after : List Turn} {last next : Turn}
      (split : turns = before ++ last :: (between ++ next :: after))
      (ends : own.getLast? = some last) (begins : own'.head? = some next)
      (owned : ∀ turn ∈ between, turn.2.store.tables.Equips uid)
  | overlapping {before between between' after : List Turn} {first next last : Turn}
      (split : turns = before ++ first :: (between ++ next :: (between' ++ last :: after)))
      (begins : own.head? = some first) (ends : own.getLast? = some last)
      (begins' : own'.head? = some next)

variable {password : String} {start now : Registrar Store} {turns : List Turn}

theorem chain_evolves_steady {s t : Registrar Store}
    (chain : Chain (Passes password) s turns t) (settled : s.store.Settled)
    (steady : ∀ turn ∈ turns, Steady password turn) : s.store.Evolves t.store := by
  induction chain with
  | nil => exact .refl settled
  | cons first rest ih =>
    rw [List.forall_mem_cons] at steady
    exact steady.1.proper.1.trans (ih steady.1.proper.1.after steady.2)

/-- A user who is there after each turn keeps his id. -/
theorem chain_user_stays {s t : Registrar Store} {uid : String}
    (chain : Chain (Passes password) s turns t) (steady : ∀ turn ∈ turns, Steady password turn)
    (there : s.store.tables.HasUser uid id)
    (each : ∀ turn ∈ turns, ∃ id, turn.2.store.tables.HasUser uid id) :
    t.store.tables.HasUser uid id := by
  induction chain with
  | nil => exact there
  | cons first rest ih =>
    rw [List.forall_mem_cons] at steady each
    obtain ⟨steady, steadyRest⟩ := steady
    obtain ⟨⟨id', there'⟩, eachRest⟩ := each
    obtain rfl := first.user_stays steady.operative steady.proper.2 there there'
    exact ih steadyRest there' eachRest

/-- When the later claim registers its device, the user has the keys that the other answers. -/
theorem Unbroken.keys_kept {r r' : ClaimRequest} {response response' : ClaimResponse}
    {own own' : List Turn} {s s' a a' b b' c c' t t' : Registrar Store}
    {userKeys userKeys' : KeyPair} {d d' : Registered} (unbroken : Unbroken r.userUid turns own own')
    (chain : Chain (Passes password) start turns now)
    (steady : ∀ turn ∈ turns, Steady password turn)
    (claimed : Succeeded r response own s a a' c t userKeys d) (among : own.Sublist turns)
    (claimed' : Succeeded r' response' own' s' b b' c' t' userKeys' d') :
    ∃ id, b.store.UserKeys r.userUid id response.userKeys := by
  have proper : ∀ turn ∈ own, Proper turn := fun turn taken =>
    (steady turn (among.subset taken)).proper
  have firstTurn := proper (a, a') (List.mem_of_mem_head? claimed.first)
  have lastTurn := proper (c, t) (List.mem_of_mem_getLast? claimed.last)
  obtain ⟨device, enrolled, kept, filed⟩ := claimed.filed firstTurn lastTurn
  cases unbroken with
  | @apart before between after last next split ends begins owned =>
    obtain rfl : (c, t) = last := Option.some.inj (claimed.last.symm.trans ends)
    obtain rfl : (b, b') = next := Option.some.inj (claimed'.first.symm.trans begins)
    rw [split] at chain steady
    simp only [List.forall_mem_append, List.forall_mem_cons] at steady
    obtain ⟨-, -, steady, -⟩ := steady
    obtain ⟨chain, -⟩ := chain.between
    have evolves := chain_evolves_steady chain lastTurn.1.after steady
    have each : ∀ turn ∈ between, ∃ id, turn.2.store.tables.HasUser r.userUid id := by
      intro turn taken
      obtain ⟨id, -, -, there, -⟩ := owned turn taken
      exact ⟨id, there⟩
    have there := chain_user_stays chain steady filed.hasUser each
    exact ⟨device.userId, filed.onward evolves there⟩
  | @overlapping before between between' after first next last split begins ends begins' =>
    obtain rfl : (a, a') = first := Option.some.inj (claimed.first.symm.trans begins)
    obtain rfl : (c, t) = last := Option.some.inj (claimed.last.symm.trans ends)
    obtain rfl : (b, b') = next := Option.some.inj (claimed'.first.symm.trans begins')
    rw [split] at chain steady
    simp only [List.forall_mem_append, List.forall_mem_cons] at steady
    obtain ⟨-, -, steady, step, steady', -⟩ := steady
    obtain ⟨chain, rest⟩ := chain.between
    obtain ⟨_, chain', rest⟩ := rest.split
    obtain ⟨rfl, -⟩ := rest.after_first
    have evolves := chain_evolves_steady chain firstTurn.1.after steady
    have evolves' := chain_evolves_steady chain' step.proper.1.after steady'
    have onward := (step.proper.1.trans evolves').trans lastTurn.1
    exact ⟨device.userId, .during evolves onward enrolled kept filed⟩

/-- A state in which the user owns a device has exactly one user of that uid. -/
theorem existsUnique_user {s : Store} {uid : String} (settled : s.Settled)
    (equips : s.tables.Equips uid) : ∃! id, s.tables.HasUser uid id := by
  obtain ⟨c, held, -⟩ := settled
  obtain ⟨id, -, -, there, -⟩ := equips
  exact ⟨id, there, fun _ there' => held.hasUser_unique there there'⟩

/-- The keys of a user over the life of a store. Whenever the user owns a device, there is exactly
one user of that uid. Two claims for the uid answer the same keys if the user owns a device all the
time between them. A claim for a uid that no user has when the device is registered answers the
pair that it made first, when it arrived. -/
theorem Service.life_userKeys {e e' : Entropy} {service : Service}
    (created : Store.opened password {} e = .ok start.store e')
    (life : Service.Life password start turns service) (few : ∀ q, issuesOf q turns < UInt64.size) :
    (∀ turn ∈ turns, ∀ uid, turn.2.store.tables.Equips uid →
      ∃! id, turn.2.store.tables.HasUser uid id) ∧
    (∀ r r' own own' response response' t t', r'.userUid = r.userUid →
      (⟨.claim r, own, .finished (.ok response) t⟩ : Thread) ∈ service.threads →
      (⟨.claim r', own', .finished (.ok response') t'⟩ : Thread) ∈ service.threads →
      Unbroken r.userUid turns own own' → response'.userKeys = response.userKeys) ∧
    ∀ r own response t,
      (⟨.claim r, own, .finished (.ok response) t⟩ : Thread) ∈ service.threads →
      ∃ s, ((s, (claim r s).state) :: own).Sublist turns ∧
        (claim r s).Reaches Meanwhile own (.finished (.ok response) t) ∧
        ∀ first, own.head? = some first →
          (∀ id, ¬ first.1.store.tables.HasUser r.userUid id) →
          s.keys.pair s.keys.used = .ok response.userKeys := by
  obtain ⟨chain, attends⟩ := life.attends created few
  obtain ⟨-, -, steady⟩ := chain_steady created chain few
  refine ⟨?_, ?_, ?_⟩
  · intro turn taken uid equips
    exact existsUnique_user (steady turn taken).proper.1.after equips
  · intro r r' own own' response response' t t' same arrived arrived' unbroken
    obtain ⟨s, attends₁⟩ := attends _ arrived
    obtain ⟨s', attends₂⟩ := attends _ arrived'
    obtain ⟨a, a', c, userKeys, d, claimed⟩ := claim_succeeded attends₁.run fun turn taken =>
      (steady turn (attends₁.own turn taken)).proper
    obtain ⟨b, b', c', userKeys', d', claimed'⟩ := claim_succeeded attends₂.run fun turn taken =>
      (steady turn (attends₂.own turn taken)).proper
    have among : own.Sublist turns := (List.sublist_cons_self ..).trans attends₁.among
    obtain ⟨id, there⟩ := unbroken.keys_kept chain steady claimed among claimed'
    have registers := steady (b, b') (attends₂.own _ (List.mem_of_mem_head? claimed'.first))
    exact claimed'.answers_known registers.proper (same ▸ there)
  · intro r own response t arrived
    obtain ⟨s, attends⟩ := attends _ arrived
    obtain ⟨a, a', c, userKeys, d, claimed⟩ := claim_succeeded attends.run fun turn taken =>
      (steady turn (attends.own turn taken)).proper
    refine ⟨s, attends.among, attends.run, fun first begins none => ?_⟩
    obtain rfl : (a, a') = first := Option.some.inj (claimed.first.symm.trans begins)
    have registers := steady (a, a') (attends.own _ (List.mem_of_mem_head? claimed.first))
    rw [claimed.answers_new registers.proper none]
    exact claimed.made

/-- Alice claims a thermometer and, after the store was opened again, a spare device. -/
structure AliceClaims (password : String) (start : Registrar Store) (e e' : Entropy)
    (turns own own' : List Turn) (service : Service) (response response' : ClaimResponse)
    (t t' : Registrar Store) : Prop where
  created : Store.opened password {} e = .ok start.store e'
  life : Service.Life password start turns service
  few : ∀ q, issuesOf q turns < UInt64.size
  arrived : (⟨.claim (aliceClaims "thermometer"), own, .finished (.ok response) t⟩ : Thread) ∈
    service.threads
  arrived' : (⟨.claim (aliceClaims "spare"), own', .finished (.ok response') t'⟩ : Thread) ∈
    service.threads
  unbroken : Unbroken "alice" turns own own'
  new : ∃ first, own.head? = some first ∧ ∀ id, ¬ first.1.store.tables.HasUser "alice" id

theorem alice_claims : ∃ password start e e' turns own own' service response response' t t',
    AliceClaims password start e e' turns own own' service response response' t t' := by
  obtain ⟨start, ⟨password, e, e', created⟩, -, empty⟩ :=
    exists_fresh numberedKeys numberedKeys_usable
  obtain ⟨a, a', b, b', u, t, response, user, device, stream, c, done, enrolls, new, streams, fit⟩ :=
    @alice_claims_first _ empty "thermometer" (by decide)
  have newStream : ∀ id row, (c.withStream stream).streams.get? id = some row →
      row.uid ≠ "second stream" :=
    fun id row there => ne_of_eq_of_ne (streams id row there) (by decide)
  obtain ⟨v, v', w, w', x, t', response', user', spare, stream', c₁, c₂, done', -⟩ :=
    claim_succeeds fit (by decide) (@aliceClaims_valid "spare" (by decide)) (new _ (by decide))
      newStream {}
  let s : Registrar Store := (claim (aliceClaims "thermometer") start).state
  let s' : Registrar Store := (claim (aliceClaims "spare") t).state
  let thread : Thread := ⟨.claim (aliceClaims "thermometer"), [(a, a'), (b, b'), (u, t)],
    .finished (.ok response) t⟩
  let thread' : Thread := ⟨.claim (aliceClaims "spare"), [(v, v'), (w, w'), (x, t')],
    .finished (.ok response') t'⟩
  have first : Service.Life password start [(start, s), (a, a'), (b, b'), (u, t)] ⟨t, [thread]⟩ :=
    Service.Life.alone (.step .start (.arrived _ (.claim (aliceClaims "thermometer")))) done
  have length : [(start, s), (a, a'), (b, b'), (u, t)].length = 4 := rfl
  have fewBefore := issuesOf_lt length (by decide)
  obtain ⟨chain, -⟩ := first.attends created fewBefore
  obtain ⟨-, operative, -⟩ := chain_steady created chain fewBefore
  -- The opening in between leaves the registrar as it is.
  have second : Service.Life password start [(start, s), (a, a'), (b, b'), (u, t), (t, t), (t, s'),
      (v, v'), (w, w'), (x, t')] ⟨t', [thread, thread']⟩ :=
    Service.Life.alone (.step (.reopened first operative.2.opens)
      (.arrived _ (.claim (aliceClaims "spare")))) done'
  have length' : [(start, s), (a, a'), (b, b'), (u, t), (t, t), (t, s'), (v, v'), (w, w'),
      (x, t')].length = 9 := rfl
  have equips : t.store.tables.Equips "alice" := by
    refine ⟨user.id, device.id, device, ?_, ?_, enrolls.enrolled.owner⟩
    · exact fit.held.hasUser_iff.2 ⟨user, enrolls.enrolled.user_get?, enrolls.uid⟩
    · exact fit.held.devices.get?_row enrolls.enrolled.device_get?
  have same : s.store = start.store := ((Call.claim (aliceClaims "thermometer")).work_turns start).1
  have same' : s'.store = t.store := ((Call.claim (aliceClaims "spare")).work_turns t).1
  obtain ⟨-, chain⟩ := chain.after_first
  obtain ⟨begins, -⟩ := chain.after_first
  dsimp only at begins
  have none : ∀ id, ¬ a.store.tables.HasUser "alice" id := by
    intro id there
    rw [begins, same] at there
    obtain ⟨row, found, -⟩ := empty.held.hasUser_iff.1 there
    cases found
  refine ⟨password, start, e, e', _, thread.turns, thread'.turns, ⟨t', [thread, thread']⟩, response,
    response', t, t', {
      created
      life := second
      few := issuesOf_lt length' (by decide)
      arrived := List.mem_cons_self
      arrived' := List.mem_cons_of_mem _ List.mem_cons_self
      unbroken := @Unbroken.apart _ _ _ _ [(start, s), (a, a'), (b, b')] [(t, t), (t, s')]
        [(w, w'), (x, t')] (u, t) (v, v') rfl rfl rfl ?_
      new := ⟨(a, a'), rfl, none⟩ }⟩
  simp only [List.forall_mem_cons]
  exact ⟨equips, same'.symm ▸ equips, nofun⟩

/-- Both claims answer the keys that were made for the first. -/
theorem Service.life_userKeys_alice :
    ∃ password start e e' turns own own' service response response' t t',
      AliceClaims password start e e' turns own own' service response response' t t' ∧
      response'.userKeys = response.userKeys ∧
      ∃ s : Registrar Store, s.keys.pair s.keys.used = .ok response.userKeys := by
  obtain ⟨password, start, e, e', turns, own, own', service, response, response', t, t', alice⟩ :=
    alice_claims
  obtain ⟨-, keys, made⟩ := Service.life_userKeys alice.created alice.life alice.few
  obtain ⟨first, begins, none⟩ := alice.new
  obtain ⟨s, -, -, made⟩ := made (aliceClaims "thermometer") own response t alice.arrived
  have same := keys (aliceClaims "thermometer") (aliceClaims "spare") own own' response response' t t'
    rfl alice.arrived alice.arrived' alice.unbroken
  exact ⟨password, start, e, e', turns, own, own', service, response, response', t, t', alice, same, s,
    made first begins none⟩

end Registrar
end DeviceRegistry
