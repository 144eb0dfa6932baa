import DeviceRegistry.Proofs.Registrar.Accounting
import DeviceRegistry.Proofs.Registrar.Interleaving
import DeviceRegistry.Proofs.Store.Bearers

/-! Each key pair serves one principal. A claim sets two keys aside when it arrives; they come into the
store with its registration, or are given up. A ledger of the keys that each claim has set aside or
answered shows that none of them is used twice, through failures, removals and returns. -/
namespace DeviceRegistry

namespace KeySource

/-- The source never makes a public key twice. -/
def Distinct (keys : KeySource) : Prop :=
  ∀ m n p q, keys.pair m = .ok p → keys.pair n = .ok q → p.publicKey = q.publicKey → m = n

/-- The public key was made before. -/
def Drew (keys : KeySource) (key : String) : Prop :=
  ∃ n < keys.used, ∃ pair, keys.pair n = .ok pair ∧ pair.publicKey = key

variable {keys keys' : KeySource} {key : String} {pair : KeyPair}

theorem Drew.later (h : keys.Drew key) (same : keys'.pair = keys.pair)
    (later : keys.used ≤ keys'.used) : keys'.Drew key := by
  obtain ⟨n, before, pair, made, mine⟩ := h
  exact ⟨n, Nat.lt_of_lt_of_le before later, pair, same ▸ made, mine⟩

theorem Distinct.not_drew (h : keys.Distinct) {n : Nat} (later : keys.used ≤ n)
    (made : keys.pair n = .ok pair) : ¬ keys.Drew pair.publicKey := by
  rintro ⟨m, before, other, made', same⟩
  obtain rfl := h m n other pair made' made same
  omega

end KeySource

namespace Registrar

/-- Which keys the store has after a registration, and with which keys it answers. -/
theorem register_bears {r : ClaimRequest} {location : Location} {userKeys deviceKeys : KeyPair}
    {s : Store} (settled : s.Settled) (valid : r.validate = .ok location)
    (spare : Spare s.tables (stateAfter (register r location userKeys deviceKeys s)).tables) :
    s.tables.Gains (stateAfter (register r location userKeys deviceKeys s)).tables
        userKeys.publicKey deviceKeys.publicKey ∧
      ∀ d t, register r location userKeys deviceKeys s = .ok d t → d.device.keys = deviceKeys ∧
        (d.user.keys.publicKey = userKeys.publicKey ∨ ∃ p, s.tables.Bears p d.user.keys.publicKey) := by
  obtain ⟨c, held, settled⟩ := settled
  have outcome := register_outcome held spare
  clear spare
  generalize register r location userKeys deviceKeys s = result at outcome ⊢
  cases outcome with
  | refused e entropy => exact ⟨.of_fewer fun _ _ => id, nofun⟩
  | @registered user device key c' tables entropy later uid owner opens described enrolled held' =>
    have known : user.publicKey = userKeys.publicKey ∨ c.users.get? user.id = some user := by
      cases owner with
      | known there => exact .inr there
      | new new next given => exact .inl given
    have finite : device.IsFinite := by
      obtain ⟨-, finite⟩ := ClaimRequest.location_of_validate valid
      rw [← described.place] at finite
      exact finite
    have settled' := enrolled.settled held.valid settled finite
    constructor
    · refine ⟨user.id, device.id, fun p key bears => ?_⟩
      rw [held.bears_iff settled.finite]
      have bears' : c'.Bears p key := (held'.bears_iff settled'.finite).1 bears
      rcases enrolled.bears bears' with old | ⟨rfl, rfl⟩ | ⟨rfl, rfl⟩
      · exact .inl old
      · rcases known with given | there
        · exact .inr (.inl ⟨rfl, given⟩)
        · exact .inl ⟨user, there, rfl⟩
      · exact .inr (.inr ⟨rfl, described.publicKey⟩)
    · rintro d t ⟨⟩
      refine ⟨rfl, known.imp id fun there => ?_⟩
      exact ⟨.user user.id, user, held.users.get?_row there, rfl⟩

/-- Without a registration nobody comes to have a key. -/
theorem ActsWith.bears {s t : Store} (h : ActsWith (fun _ => False) s t) (settled : s.Settled)
    (spare : Spare s.tables t.tables) {p : Principal} {key : String} (bears : t.tables.Bears p key) :
    s.tables.Bears p key := by
  obtain ⟨c, held, settled⟩ := settled
  rw [held.bears_iff settled.finite]
  cases h with
  | idle => exact (held.bears_iff settled.finite).1 bears
  | registers valid none => exact none.elim
  | records device uid =>
    have outcome := recordStream_outcome held device uid spare
    clear spare
    generalize recordStream device uid s = result at outcome bears
    cases outcome with
    | refused => exact (held.bears_iff settled.finite).1 bears
    | recorded mine attached held' =>
      have bears' := (held'.bears_iff (attached.settled settled).finite).1 bears
      rw [attached.made] at bears'
      cases p <;> exact bears'
  | removes token publicKey =>
    have outcome := removeDevice_outcome held token publicKey
    clear spare
    generalize removeDevice token publicKey s = result at outcome bears
    cases outcome with
    | refused => exact (held.bears_iff settled.finite).1 bears
    | removed granted all removed held' =>
      have finite := (removed.settled granted.there settled).finite
      exact removed.bears ((held'.bears_iff finite).1 bears)

/-- A claim that set these keys aside answers the one of them as its device's, if it answers, and
another one as its user's. -/
def Call.Gives : (call : Call) → List String → Outcome call.Response → Prop
  | .claim _, keys, .ok response =>
    keys = [response.devicePublicKey] ∧ response.userPublicKey ≠ response.devicePublicKey
  | .claim _, _, .error _ => True
  | .revoke _, _, _ => True

/-- The public keys that a call has set aside, or may still answer as its device's. -/
inductive Thread.Keeps (t : Tables) : Thread → List String → Prop where
  /-- A claim that is to register has two keys that nobody has yet. -/
  | awaits {r : ClaimRequest} {location : Location} {userKeys deviceKeys : KeyPair}
      {turns : List Turn} {s : Registrar Store} (valid : r.validate = .ok location)
      (user : ∀ p, ¬ t.Bears p userKeys.publicKey) (device : ∀ p, ¬ t.Bears p deviceKeys.publicKey) :
      Keeps t ⟨.claim r, turns, .paused s (registering r location userKeys deviceKeys)⟩
        [userKeys.publicKey, deviceKeys.publicKey]
  /-- From then on it registers no more. -/
  | goes {call : Call} {turns : List Turn} {p : Progress (Registrar Store) (Outcome call.Response)}
      {keys : List String} (registersNot : p.Turns (TurningWith fun _ => False))
      (gives : p.Accounts fun _ => call.Gives keys) : Keeps t ⟨call, turns, p⟩ keys

/-- Keys that nobody else comes to have stay set aside. -/
theorem Thread.Keeps.later {t t' : Tables} {thread : Thread} {keys : List String}
    (h : thread.Keeps t keys) (fewer : ∀ p, ∀ key ∈ keys, t'.Bears p key → t.Bears p key) :
    thread.Keeps t' keys := by
  cases h with
  | awaits valid user device =>
    exact .awaits valid (fun p bears => user p (fewer p _ (by simp) bears))
      fun p bears => device p (fewer p _ (by simp) bears)
  | goes registersNot gives => exact .goes registersNot gives

/-- A claim that has registered keeps its device's key, and one that was refused keeps none. -/
theorem registering_keeps {r : ClaimRequest} {location : Location} {userKeys deviceKeys : KeyPair}
    {now : Registrar Store} (t : Tables) (turns : List Turn)
    (answers : ∀ d u, register r location userKeys deviceKeys now.store = .ok d u →
      d.device.keys = deviceKeys ∧ d.user.keys.publicKey ≠ deviceKeys.publicKey) :
    ∃ keys, keys.Sublist [userKeys.publicKey, deviceKeys.publicKey] ∧
      Thread.Keeps t ⟨.claim r, turns, registering r location userKeys deviceKeys now⟩ keys := by
  cases registered : register r location userKeys deviceKeys now.store with
  | error e u =>
    refine ⟨[], List.nil_sublist _, ?_⟩
    rw [registering, registered]
    exact .goes trivial trivial
  | ok d u =>
    obtain ⟨mine, apart⟩ := answers d u registered
    refine ⟨[deviceKeys.publicKey], .cons _ (.refl _), ?_⟩
    rw [registering, registered]
    refine .goes (fun answer time t => ?_) ((waiting_accounts r location d _).mono ?_)
    · obtain ⟨⟨acts, source⟩, turns⟩ := @answered_turns (fun _ => False) r d answer
        { t with metrics := t.metrics.observe .createStream (.of answer) time }
      exact ⟨⟨acts, source⟩, turns⟩
    · intro exchanges outcome tally
      cases tally with
      | claimed request uid given =>
        obtain rfl := given
        exact ⟨by rw [response, mine], by rw [response, mine]; exact apart⟩
      | early | uncreated | unrecorded => trivial

/-- A call that arrives in the state `s`, and leaves the state `t`, sets these keys aside. They were
never made before. -/
structure SetsAside (s t : Registrar Store) (thread : Thread) (keys : List String) : Prop where
  store : t.store = s.store
  source : t.keys.pair = s.keys.pair
  used : s.keys.used ≤ t.keys.used
  keeps : thread.Keeps s.store.tables keys
  nodup : keys.Nodup
  new : ∀ key ∈ keys, t.keys.Drew key ∧ ¬ s.keys.Drew key

theorem SetsAside.none {s t : Registrar Store} {thread : Thread} (store : t.store = s.store)
    (source : t.keys.pair = s.keys.pair) (used : s.keys.used ≤ t.keys.used)
    (keeps : thread.Keeps s.store.tables []) : SetsAside s t thread [] :=
  ⟨store, source, used, keeps, List.nodup_nil, by simp⟩

theorem revoke_setsAside (r : RevokeRequest) (s : Registrar Store) :
    SetsAside s (revoke r s).state ⟨.revoke r, [], revoke r s⟩ [] := by
  obtain ⟨store, source, turns⟩ := @revoke_turns (fun _ => False) r s
  have same : (revoke r s).state.keys = s.keys := by
    rw [revoke_eq]
    cases r.validate with
    | error e => rfl
    | ok => exact (Unmoved.noted (.revoking r) s).keys
  have gives : (revoke r s).Accounts fun _ => Call.Gives (.revoke r) [] :=
    (revoke_accounts r s).2.mono fun _ _ _ => trivial
  exact .none store source (Nat.le_of_eq (congrArg KeySource.used same.symm)) (.goes turns gives)

theorem claim_setsAside (r : ClaimRequest) {s : Registrar Store} (distinct : s.keys.Distinct)
    (borne : ∀ p key, s.store.tables.Bears p key → s.keys.Drew key) :
    ∃ keys, SetsAside s (claim r s).state ⟨.claim r, [], claim r s⟩ keys := by
  rw [claim_eq]
  cases valid : r.validate with
  | error e => exact ⟨[], .none rfl rfl (Nat.le_refl _) (.goes trivial trivial)⟩
  | ok location =>
    obtain ⟨same, source, -⟩ := Unmoved.noted (.claiming r) s
    dsimp only
    generalize (if s.verbose then { s with log := s.log ++ [.claiming r] } else s) = s'
      at same source ⊢
    have pairs : s'.keys.pair = s.keys.pair := congrArg KeySource.pair source
    have used : s'.keys.used = s.keys.used := congrArg KeySource.used source
    rw [pairs, used]
    cases made : s.keys.pair s.keys.used with
    | error e => exact ⟨[], .none same rfl (Nat.le_succ _) (.goes trivial trivial)⟩
    | ok userKeys =>
      dsimp only
      cases made' : s.keys.pair (s.keys.used + 1) with
      | error e => exact ⟨[], .none same rfl (Nat.le_add_right _ 2) (.goes trivial trivial)⟩
      | ok deviceKeys =>
        have user := distinct.not_drew (Nat.le_refl _) made
        have device := distinct.not_drew (Nat.le_succ _) made'
        have different : userKeys.publicKey ≠ deviceKeys.publicKey := fun same =>
          absurd (distinct _ _ _ _ made made' same) (by omega)
        refine ⟨[userKeys.publicKey, deviceKeys.publicKey], same, rfl, Nat.le_add_right _ 2, ?_,
          by simpa using different, ?_⟩
        · exact .awaits valid (fun p bears => user (borne p _ bears))
            fun p bears => device (borne p _ bears)
        · rw [List.forall_mem_cons, List.forall_mem_singleton]
          exact ⟨⟨⟨_, Nat.lt_add_of_pos_right (by decide), _, made, rfl⟩, user⟩,
            ⟨_, Nat.lt_succ_self _, _, made', rfl⟩, device⟩

theorem work_setsAside (call : Call) {s : Registrar Store} (distinct : s.keys.Distinct)
    (borne : ∀ p key, s.store.tables.Bears p key → s.keys.Drew key) :
    ∃ keys, SetsAside s (call.work s).state ⟨call, [], call.work s⟩ keys := by
  cases call with
  | claim r => exact claim_setsAside r distinct borne
  | revoke r => exact ⟨[], revoke_setsAside r s⟩

/-- The keys come from the same source all the time. -/
theorem chain_source {kind : KeyPair → Prop} {s t : Registrar Store} {turns : List Turn}
    (h : Chain (TurningWith kind) s turns t) : t.keys.pair = s.keys.pair := by
  induction h with
  | nil => rfl
  | cons first rest ih => exact ih.trans first.source

namespace Service

/-- The calls with the keys that they keep. No key is kept twice or belongs to two principals, and all
of them were made before. -/
structure Ledger (service : Service) (entries : List (Thread × List String)) : Prop where
  threads : entries.map Prod.fst = service.threads
  keeps : ∀ entry ∈ entries, entry.1.Keeps service.registrar.store.tables entry.2
  apart : (entries.flatMap Prod.snd).Nodup
  drew : ∀ entry ∈ entries, ∀ key ∈ entry.2, service.registrar.keys.Drew key
  rows : service.registrar.store.tables.KeysApart
  borne : ∀ p key, service.registrar.store.tables.Bears p key → service.registrar.keys.Drew key

namespace Ledger

variable {registrar now : Registrar Store} {threads before after : List Thread}
  {entries : List (Thread × List String)}

/-- A call that arrives enters its keys. -/
theorem arrive (h : Ledger ⟨registrar, threads⟩ entries) (distinct : registrar.keys.Distinct)
    (call : Call) :
    ∃ entries', Ledger ⟨(call.work registrar).state,
      threads ++ [⟨call, [], call.work registrar⟩]⟩ entries' := by
  obtain ⟨keys, store, source, later, keeps, nodup, new⟩ := work_setsAside call distinct h.borne
  have drewBefore : ∀ key ∈ entries.flatMap Prod.snd, registrar.keys.Drew key := by
    intro key listed
    obtain ⟨entry, member, mine⟩ := List.mem_flatMap.1 listed
    exact h.drew entry member key mine
  refine ⟨entries ++ [(⟨call, [], call.work registrar⟩, keys)], ?_, ?_, ?_, ?_, ?_, ?_⟩
  · rw [List.map_append, h.threads]
    rfl
  · rw [store, List.forall_mem_append, List.forall_mem_singleton]
    exact ⟨h.keeps, keeps⟩
  · rw [List.flatMap_append, List.flatMap_singleton]
    refine h.apart.append nodup fun key before now => ?_
    exact (new key now).2 (drewBefore key before)
  · rw [List.forall_mem_append, List.forall_mem_singleton]
    exact ⟨fun entry member key mine => (h.drew entry member key mine).later source later,
      fun key mine => (new key mine).1⟩
  · rw [store]
    exact h.rows
  · rw [store]
    exact fun p key bears => (h.borne p key bears).later source later

/-- A call goes on. Only keys that it keeps come into the store, and it keeps no others afterwards. -/
theorem goOn {entered entered' : List (Thread × List String)} {thread thread' : Thread}
    {keys keys' : List String} {next : Registrar Store}
    (h : Ledger ⟨now, before ++ thread :: after⟩ (entered ++ (thread, keys) :: entered'))
    (front : entered.map Prod.fst = before) (back : entered'.map Prod.fst = after)
    (source : next.keys = now.keys)
    (fewer : ∀ p key, next.store.tables.Bears p key → now.store.tables.Bears p key ∨ key ∈ keys)
    (rows : next.store.tables.KeysApart) (keeps : thread'.Keeps next.store.tables keys')
    (sublist : keys'.Sublist keys) :
    Ledger ⟨next, before ++ thread' :: after⟩ (entered ++ (thread', keys') :: entered') := by
  obtain ⟨-, keeps₀, apart, drew, -, borne⟩ := h
  simp only [List.forall_mem_append, List.forall_mem_cons] at keeps₀ drew
  obtain ⟨keepsFront, -, keepsBack⟩ := keeps₀
  obtain ⟨drewFront, drewOwn, drewBack⟩ := drew
  rw [List.flatMap_append, List.flatMap_cons] at apart
  -- The others keep other keys, so nobody has come to have one of theirs.
  obtain ⟨-, right, apartFront⟩ := List.nodup_append.1 apart
  obtain ⟨-, -, apartBack⟩ := List.nodup_append.1 right
  have others : ∀ (entry : Thread × List String), (∀ key ∈ entry.2, key ∉ keys) →
      entry.1.Keeps now.store.tables entry.2 → entry.1.Keeps next.store.tables entry.2 :=
    fun entry other kept => kept.later fun p key mine bears =>
      (fewer p key bears).resolve_right (other key mine)
  refine ⟨by rw [List.map_append, List.map_cons, front, back], ?_, ?_, ?_, rows, ?_⟩
  · rw [List.forall_mem_append, List.forall_mem_cons]
    refine ⟨fun entry member => ?_, keeps, fun entry member => ?_⟩
    · refine others entry (fun key mine own => ?_) (keepsFront entry member)
      exact apartFront key (List.mem_flatMap.2 ⟨entry, member, mine⟩) key
        (List.mem_append_left _ own) rfl
    · refine others entry (fun key mine own => ?_) (keepsBack entry member)
      exact apartBack key own key (List.mem_flatMap.2 ⟨entry, member, mine⟩) rfl
  · rw [List.flatMap_append, List.flatMap_cons]
    exact apart.sublist ((List.Sublist.refl _).append (sublist.append (.refl _)))
  · rw [List.forall_mem_append, List.forall_mem_cons, source]
    exact ⟨drewFront, fun key mine => drewOwn key (sublist.subset mine), drewBack⟩
  · rw [source]
    exact fun p key bears => (fewer p key bears).elim (borne p key) (drewOwn key)

/-- A call that registers no more goes on with the keys that it keeps. -/
theorem goOn_without {entered entered' : List (Thread × List String)} {call : Call}
    {turns turns' : List Turn} {p q : Progress (Registrar Store) (Outcome call.Response)}
    {keys : List String}
    (h : Ledger ⟨now, before ++ ⟨call, turns, p⟩ :: after⟩
      (entered ++ (⟨call, turns, p⟩, keys) :: entered'))
    (front : entered.map Prod.fst = before) (back : entered'.map Prod.fst = after)
    (settled : now.store.Settled) (spare : Spare now.store.tables q.state.store.tables)
    (turn : TurningWith (fun _ => False) now q.state ∧ q.Turns (TurningWith fun _ => False))
    {metrics : Metrics} (counts : Counts now metrics q.state)
    (gives : q.Accounts fun _ => call.Gives keys) :
    Ledger ⟨q.state, before ++ ⟨call, turns', q⟩ :: after⟩
      (entered ++ (⟨call, turns', q⟩, keys) :: entered') := by
  have fewer : ∀ p key, q.state.store.tables.Bears p key → now.store.tables.Bears p key :=
    fun p key bears => turn.1.acts.bears settled spare bears
  exact h.goOn front back counts.keys (fun p key bears => .inl (fewer p key bears))
    (h.rows.of_fewer fewer) (.goes turn.2 gives) (.refl _)

/-- A claim registers: its keys come into the store, or it gives them up. -/
theorem register {entered entered' : List (Thread × List String)} {r : ClaimRequest}
    {location : Location} {userKeys deviceKeys : KeyPair} {turns turns' : List Turn}
    {s : Registrar Store}
    (h : Ledger ⟨now, before ++
        ⟨.claim r, turns, .paused s (registering r location userKeys deviceKeys)⟩ :: after⟩
      (entered ++ (⟨.claim r, turns, .paused s (registering r location userKeys deviceKeys)⟩,
        [userKeys.publicKey, deviceKeys.publicKey]) :: entered'))
    (front : entered.map Prod.fst = before) (back : entered'.map Prod.fst = after)
    (settled : now.store.Settled) (valid : r.validate = .ok location)
    (spare : Spare now.store.tables
      (registering r location userKeys deviceKeys now).state.store.tables)
    (user : ∀ p, ¬ now.store.tables.Bears p userKeys.publicKey)
    (device : ∀ p, ¬ now.store.tables.Bears p deviceKeys.publicKey) :
    ∃ entries', Ledger ⟨(registering r location userKeys deviceKeys now).state, before ++
      ⟨.claim r, turns', registering r location userKeys deviceKeys now⟩ :: after⟩ entries' := by
  have different : userKeys.publicKey ≠ deviceKeys.publicKey := by
    have apart := h.apart
    rw [List.flatMap_append, List.flatMap_cons] at apart
    have own := (List.nodup_append.1 (List.nodup_append.1 apart).2.1).1
    simpa using own
  have state : (registering r location userKeys deviceKeys now).state.store =
      stateAfter (Registrar.register r location userKeys deviceKeys now.store) ∧
      (registering r location userKeys deviceKeys now).state.keys = now.keys := by
    rw [registering]
    cases Registrar.register r location userKeys deviceKeys now.store <;> exact ⟨rfl, rfl⟩
  obtain ⟨store, source⟩ := state
  rw [store] at spare
  obtain ⟨gains, answers⟩ := register_bears settled valid spare
  rw [← store] at gains
  have rows := h.rows.gains gains different user device
  have fewer : ∀ p key,
      (registering r location userKeys deviceKeys now).state.store.tables.Bears p key →
      now.store.tables.Bears p key ∨ key ∈ [userKeys.publicKey, deviceKeys.publicKey] := by
    obtain ⟨id, id', added⟩ := gains
    intro p key bears
    rcases added p key bears with old | ⟨-, rfl⟩ | ⟨-, rfl⟩
    · exact .inl old
    · exact .inr (by simp)
    · exact .inr (by simp)
  have own : ∀ d t, Registrar.register r location userKeys deviceKeys now.store = .ok d t →
      d.device.keys = deviceKeys ∧ d.user.keys.publicKey ≠ deviceKeys.publicKey := by
    intro d t registered
    obtain ⟨mine, owner⟩ := answers d t registered
    refine ⟨mine, ?_⟩
    rcases owner with new | ⟨p, bears⟩
    · exact new ▸ different
    · exact fun same => device p (same ▸ bears)
  obtain ⟨keys, sublist, keeps⟩ := registering_keeps
    (registering r location userKeys deviceKeys now).state.store.tables turns' own
  exact ⟨_, h.goOn front back source fewer rows keeps sublist⟩

end Ledger

/-- Each turn keeps the ledger. -/
theorem Step.ledger {service service' : Service} {turn : Turn} (h : Step service turn service')
    {entries : List (Thread × List String)} (ledger : service.Ledger entries)
    (distinct : service.registrar.keys.Distinct) (settled : service.registrar.store.Settled)
    (spare : Spare service.registrar.store.tables service'.registrar.store.tables) :
    ∃ entries', service'.Ledger entries' := by
  have split : ∀ {before after : List Thread} {thread : Thread},
      entries.map Prod.fst = before ++ thread :: after →
      ∃ entered keys entered', entries = entered ++ (thread, keys) :: entered' ∧
        entered.map Prod.fst = before ∧ entered'.map Prod.fst = after := by
    intro before after thread same
    obtain ⟨entered, rest, rfl, front, same⟩ := List.map_eq_append_iff.1 same
    obtain ⟨⟨_, keys⟩, entered', rfl, rfl, back⟩ := List.map_eq_cons_iff.1 same
    exact ⟨entered, keys, entered', rfl, front, back⟩
  cases h with
  | arrived service call => exact ledger.arrive distinct call
  | @resumed now before after call turns s resume =>
    obtain ⟨entered, keys, entered', rfl, front, back⟩ := split ledger.threads
    have keeps := ledger.keeps _ (List.mem_append_right _ List.mem_cons_self)
    cases keeps with
    | awaits valid user device => exact ledger.register front back settled valid spare user device
    | goes registersNot gives =>
      exact ⟨_, ledger.goOn_without front back settled spare (registersNot now) (gives now).1
        (gives now).2⟩
  | @answered now before after call turns s asked resume answer time =>
    obtain ⟨entered, keys, entered', rfl, front, back⟩ := split ledger.threads
    have keeps := ledger.keeps _ (List.mem_append_right _ List.mem_cons_self)
    cases keeps with
    | goes registersNot gives =>
      exact ⟨_, ledger.goOn_without front back settled spare (registersNot answer time now)
        (gives answer time now).1 (gives answer time now).2⟩

theorem ledger_start {start : Registrar Store} (fresh : start.store.Fresh) :
    Ledger ⟨start, []⟩ [] := by
  have nobody : ∀ p key, ¬ start.store.tables.Bears p key := by
    intro p key bears
    rw [fresh.holds.bears_iff nofun] at bears
    cases p <;> exact nomatch bears
  exact {
    threads := rfl
    keeps := nofun
    apart := List.nodup_nil
    drew := nofun
    rows := fun p _ key bears => absurd bears (nobody p key)
    borne := fun p key bears => absurd bears (nobody p key) }

/-- In every run there is a ledger. -/
theorem Run.ledger {start : Registrar Store} {turns : List Turn} {service : Service}
    (fresh : start.store.Fresh) (distinct : start.keys.Distinct) (run : Run start turns service)
    (few : ∀ q, issuesOf q turns < UInt64.size) : ∃ entries, service.Ledger entries := by
  induction run with
  | start => exact ⟨[], ledger_start fresh⟩
  | @step turns turn service service' run next ih =>
    have before := issuesOf_lt_before few
    obtain ⟨entries, ledger⟩ := ih before
    have makes : start.keys.Makes fun _ => True := fun _ _ _ => trivial
    obtain ⟨supplied, -⟩ := run.supplied makes
    have distinct : service.registrar.keys.Distinct := by
      rw [KeySource.Distinct, chain_source supplied]
      exact distinct
    obtain ⟨first, last, -⟩ := next.kind (run.follows fresh before).2
    obtain ⟨evolves, spare⟩ :=
      (fresh_evolves fresh ((run.step next).follows fresh few).1 few).2 turn (by simp)
    rw [first] at evolves spare
    rw [last] at spare
    exact next.ledger ledger distinct evolves.before spare

end Service

/-- A claim that has succeeded, with its answer. -/
inductive Thread.Succeeded : Thread → ClaimResponse → Prop where
  | claimed (r : ClaimRequest) (turns : List Turn) (response : ClaimResponse) (s : Registrar Store) :
      Succeeded ⟨.claim r, turns, .finished (.ok response) s⟩ response

/-- A claim that has succeeded keeps the key that it answered as its device's. -/
theorem Thread.Keeps.succeeded {t : Tables} {thread : Thread} {keys : List String}
    {response : ClaimResponse} (h : thread.Keeps t keys) (succeeded : thread.Succeeded response) :
    keys = [response.devicePublicKey] ∧ response.userPublicKey ≠ response.devicePublicKey := by
  cases succeeded with
  | claimed => cases h with
    | goes registersNot gives => exact gives

/-- If the source never makes a public key twice, then after any turns of any claims and revokes no two
users or devices have the same public key, and each claim that has succeeded answered a device's key
that is neither its user's nor another claim's device's. -/
theorem Service.run_keysApart {start : Registrar Store} {turns : List Turn} {service : Service}
    (fresh : start.store.Fresh) (distinct : start.keys.Distinct)
    (run : Service.Run start turns service) (few : ∀ q, issuesOf q turns < UInt64.size) :
    service.registrar.store.tables.KeysApart ∧
      (∀ thread ∈ service.threads, ∀ response, thread.Succeeded response →
        response.devicePublicKey ≠ response.userPublicKey) ∧
      service.threads.Pairwise fun earlier later => ∀ response response',
        earlier.Succeeded response → later.Succeeded response' →
        response'.devicePublicKey ≠ response.devicePublicKey := by
  obtain ⟨entries, ledger⟩ := run.ledger fresh distinct few
  refine ⟨ledger.rows, ?_, ?_⟩
  · rw [← ledger.threads]
    intro thread listed response succeeded
    obtain ⟨entry, member, rfl⟩ := List.mem_map.1 listed
    exact ((ledger.keeps entry member).succeeded succeeded).2.symm
  · rw [← ledger.threads, List.pairwise_map]
    refine (List.nodup_flatMap.1 ledger.apart).2.imp_of_mem ?_
    intro entry entry' member member' apart response response' succeeded succeeded' same
    obtain ⟨keys, -⟩ := (ledger.keeps entry member).succeeded succeeded
    obtain ⟨keys', -⟩ := (ledger.keeps entry' member').succeeded succeeded'
    have mine : response.devicePublicKey ∈ entry.2 := by rw [keys]; exact List.mem_singleton_self _
    have other : response.devicePublicKey ∈ entry'.2 := by
      rw [keys', same]
      exact List.mem_singleton_self _
    exact apart mine other

theorem numberedKeys_distinct : numberedKeys.Distinct := by
  rintro m n _ _ ⟨⟩ ⟨⟩ same
  have digits : m.repr = n.repr := (String.append_right_inj "public ").1 same
  calc m = Nat.ofDigitChars 10 m.repr.toList 0 := by
        rw [Nat.toList_repr, Nat.ofDigitChars_ten_toDigits]
    _ = Nat.ofDigitChars 10 n.repr.toList 0 := by rw [digits]
    _ = n := by rw [Nat.toList_repr, Nat.ofDigitChars_ten_toDigits]

/-- Alice claims two devices, one after the other. -/
theorem Service.run_keysApart_alice :
    ∃ (start : Registrar Store) (turns : List Turn) (service : Service) (first second : Thread)
      (response response' : ClaimResponse),
      start.store.Fresh ∧ start.keys.Distinct ∧ Service.Run start turns service ∧
      (∀ q, issuesOf q turns < UInt64.size) ∧ service.threads = [first, second] ∧
      first.Succeeded response ∧ second.Succeeded response' ∧
      service.registrar.store.tables.KeysApart ∧
      response.devicePublicKey ≠ response.userPublicKey ∧
      response'.devicePublicKey ≠ response'.userPublicKey ∧
      response'.devicePublicKey ≠ response.devicePublicKey := by
  obtain ⟨start, fresh, keys, fit⟩ := exists_fresh numberedKeys numberedKeys_usable
  have distinct : start.keys.Distinct := keys ▸ numberedKeys_distinct
  obtain ⟨a, a', b, b', u, s, response, user, spare, stream, c, done, -, new, streams, fit⟩ :=
    @alice_claims_first _ fit "spare" (by decide)
  have newStream : ∀ id row, (c.withStream stream).streams.get? id = some row →
      row.uid ≠ "second stream" :=
    fun id row there => ne_of_eq_of_ne (streams id row there) (by decide)
  obtain ⟨v, v', w, w', x, t, response', user', device, stream', c₁, c₂, done', -⟩ :=
    claim_succeeds fit (by decide) (@aliceClaims_valid "thermometer" (by decide))
      (new _ (by decide)) newStream {}
  have once := Service.Run.alone (.step .start (.arrived _ (.claim (aliceClaims "spare")))) done
  obtain ⟨turns, length, run⟩ : ∃ turns : List Turn, turns.length = 8 ∧
      Service.Run start turns _ :=
    ⟨_, rfl, Service.Run.alone (once.step (.arrived _ (.claim (aliceClaims "thermometer")))) done'⟩
  have few := issuesOf_lt length (by decide)
  obtain ⟨apart, own, others⟩ := Service.run_keysApart fresh distinct run few
  have first := Thread.Succeeded.claimed (aliceClaims "spare") ([] ++ [(a, a'), (b, b'), (u, s)])
    response s
  have second := Thread.Succeeded.claimed (aliceClaims "thermometer")
    ([] ++ [(v, v'), (w, w'), (x, t)]) response' t
  have ordered := (List.pairwise_cons.1 others).1 _ (List.mem_singleton_self _)
  exact ⟨start, turns, _, _, _, response, response', fresh, distinct, run, few, rfl, first, second,
    apart, own _ List.mem_cons_self _ first,
    own _ (List.mem_cons_of_mem _ (List.mem_singleton_self _)) _ second,
    ordered response response' first second⟩

end Registrar
end DeviceRegistry
