import DeviceRegistry.Proofs.Registrar.Runs

/-! The run of a claim, with what others do between its turns. -/
namespace DeviceRegistry.Registrar

variable {others : Registrar Store → List Turn → Registrar Store → Prop}
  {r : ClaimRequest} {d : Registered} {s t : Registrar Store} {turns : List Turn}

/-- From `s` to `t` nothing but the record may have changed. -/
structure Unmoved (s t : Registrar Store) : Prop where
  store : t.store = s.store
  keys : t.keys = s.keys
  metrics : t.metrics = s.metrics

theorem Unmoved.refl (s : Registrar Store) : Unmoved s s := ⟨rfl, rfl, rfl⟩

theorem Unmoved.trans {s t u : Registrar Store} (h : Unmoved s t) (h' : Unmoved t u) : Unmoved s u :=
  ⟨h'.store.trans h.store, h'.keys.trans h.keys, h'.metrics.trans h.metrics⟩

theorem Unmoved.noted (n : Notice) (s : Registrar Store) :
    Unmoved s (if s.verbose then { s with log := s.log ++ [n] } else s) := by
  split <;> exact ⟨rfl, rfl, rfl⟩

/-- From `s` to `t` notices were put on record, none of them of a claim that could not be undone. -/
def Clear (s t : Registrar Store) : Prop :=
  ∃ notices, t.log = s.log ++ notices ∧ ∀ token error, .undoFailed token error ∉ notices

namespace Clear

variable {s t u : Registrar Store}

theorem of_same (same : t.log = s.log) : Clear s t := ⟨[], by rw [same, List.append_nil], by simp⟩

theorem note {n : Notice} (noted : t.log = s.log ++ [n])
    (other : ∀ token error, .undoFailed token error ≠ n) : Clear s t :=
  ⟨[n], noted, by simpa using other⟩

theorem trans (h : Clear s t) (h' : Clear t u) : Clear s u := by
  obtain ⟨notices, noted, none⟩ := h
  obtain ⟨notices', noted', none'⟩ := h'
  refine ⟨notices ++ notices', by rw [noted', noted, List.append_assoc], ?_⟩
  intro token error failed
  rcases List.mem_append.1 failed with failed | failed
  · exact none token error failed
  · exact none' token error failed

end Clear

/-- Undoing gives the claim's own error. It is clear if there is a device to remove. -/
theorem undoing_finishes (token publicKey : String) (e : RegistrationError) (s : Registrar Store) :
    ∃ t : Registrar Store, t.store = stateAfter (removeDevice token publicKey s.store) ∧
      (∀ removed u, removeDevice token publicKey s.store = .ok removed u → Clear s t) ∧
      (undoing token publicKey e s : Progress _ (Outcome ClaimResponse)) =
        .finished (.error e) t := by
  rw [undoing]
  cases removeDevice token publicKey s.store with
  | ok =>
    refine ⟨_, ?_, ?_, rfl⟩
    · rfl
    · exact fun _ _ _ => .of_same rfl
  | error =>
    refine ⟨_, ?_, ?_, rfl⟩
    · rfl
    · simp

theorem undoing_reaches {token publicKey : String} {e : RegistrationError}
    {outcome : Outcome ClaimResponse}
    (h : (Progress.paused s (undoing token publicKey e)).Reaches others turns (.finished outcome t)) :
    outcome = .error e ∧ ∃ between u, turns = between ++ [(u, t)] ∧ others s between u ∧
      t.store = stateAfter (removeDevice token publicKey u.store) := by
  cases h with
  | @resumed _ u _ between turns _ meanwhile rest =>
    obtain ⟨t', undone, -, finished⟩ := undoing_finishes token publicKey e u
    rw [finished] at rest ⊢
    cases rest
    exact ⟨rfl, between, u, rfl, meanwhile, undone⟩

/-- What comes of a claim that has registered `d` and waits for the encoder. -/
inductive Finishes (others : Registrar Store → List Turn → Registrar Store → Prop)
    (r : ClaimRequest) (d : Registered) (s : Registrar Store) :
    List Turn → Outcome ClaimResponse → Registrar Store → Prop where
  /-- The encoder created no stream, and the claim was undone. -/
  | uncreated {e : RegistrationError} {b b' u t : Registrar Store} {between between' : List Turn}
      (meanwhile : others s between b) (same : b'.store = b.store) (pause : others b' between' u)
      (undone : t.store = stateAfter (removeDevice r.deviceToken d.user.keys.publicKey u.store)) :
      Finishes others r d s (between ++ (b, b') :: (between' ++ [(u, t)])) (.error e) t
  /-- The stream was not recorded, and the claim was undone. -/
  | unrecorded {uid : String} {e : RegistrationError} {b b' c c' u t : Registrar Store}
      {between between' between'' : List Turn} (meanwhile : others s between b)
      (same : b'.store = b.store) (pause : others b' between' c)
      (unrecorded : recordStream d.device.id uid c.store = .error e c'.store)
      (pause' : others c' between'' u)
      (undone : t.store = stateAfter (removeDevice r.deviceToken d.user.keys.publicKey u.store)) :
      Finishes others r d s
        (between ++ (b, b') :: (between' ++ (c, c') :: (between'' ++ [(u, t)]))) (.error e) t
  | recorded {uid : String} {b b' c t : Registrar Store} {between between' : List Turn}
      (meanwhile : others s between b) (same : b'.store = b.store) (pause : others b' between' c)
      (recorded : recordStream d.device.id uid c.store = .ok () t.store) :
      Finishes others r d s (between ++ (b, b') :: (between' ++ [(c, t)])) (.ok (response d)) t

theorem waiting_reaches {location : Location} {outcome : Outcome ClaimResponse}
    (h : (waiting r location d s).Reaches others turns (.finished outcome t)) :
    Finishes others r d s turns outcome t := by
  cases h with
  | @answered _ _ b _ answer time between _ _ meanwhile rest =>
    cases answer with
    | error e =>
      obtain ⟨rfl, between', u, rfl, pause, undone⟩ := undoing_reaches rest
      exact .uncreated meanwhile rfl pause undone
    | ok uid =>
      cases rest with
      | @resumed _ c _ between' _ _ pause rest =>
        rw [recording] at rest ⊢
        cases recorded : recordStream d.device.id uid c.store with
        | ok done store =>
          rw [recorded] at rest
          cases rest
          exact .recorded meanwhile rfl pause recorded
        | error e store =>
          rw [recorded] at rest
          obtain ⟨rfl, between'', u, rfl, pause', undone⟩ := undoing_reaches rest
          exact .unrecorded meanwhile rfl pause recorded pause' undone

/-- What a claim needs before it can wait for its turn: a valid request and two key pairs. -/
structure Begins (r : ClaimRequest) (s : Registrar Store) (location : Location)
    (userKeys deviceKeys : KeyPair) : Prop where
  valid : r.validate = .ok location
  userKeys : s.keys.pair s.keys.used = .ok userKeys
  deviceKeys : s.keys.pair (s.keys.used + 1) = .ok deviceKeys

/-- A claim that has not registered a device yet waits for its turn, or is refused: at once if the
request cannot be worked on, else for want of keys. -/
theorem claim_begins (r : ClaimRequest) (s : Registrar Store) :
    (∃ e t, t.store = s.store ∧ Clear s t ∧
        (r.validate = .error e ∧ t = s ∨ ∃ attempt failure, e = .failed attempt (.keys failure)) ∧
        (∀ location userKeys deviceKeys, ¬ Begins r s location userKeys deviceKeys) ∧
        claim r s = .finished (.error e) t) ∨
      ∃ location userKeys deviceKeys t, t.store = s.store ∧ Clear s t ∧
        Begins r s location userKeys deviceKeys ∧
        claim r s = .paused t (registering r location userKeys deviceKeys) := by
  rw [claim_eq]
  cases valid : r.validate with
  | error e =>
    refine .inl ⟨e, s, rfl, .of_same rfl, .inl ⟨rfl, rfl⟩, ?_, rfl⟩
    rintro _ _ _ ⟨valid', -, -⟩
    rw [valid] at valid'
    contradiction
  | ok location =>
    obtain ⟨announced, told, store, keys, clear⟩ : ∃ t : Registrar Store,
        (if s.verbose then { s with log := s.log ++ [.claiming r] } else s) = t ∧
          t.store = s.store ∧ t.keys = s.keys ∧ Clear s t := by
      refine ⟨_, rfl, ?_⟩
      split
      · exact ⟨rfl, rfl, .note rfl (by simp)⟩
      · exact ⟨rfl, rfl, .of_same rfl⟩
    dsimp only
    rw [told]
    cases users : announced.keys.pair announced.keys.used with
    | error e =>
      refine .inl ⟨_, _, ?_, ?_, .inr ⟨.userKeys, e, rfl⟩, ?_, rfl⟩
      · exact store
      · exact clear
      · rintro _ _ _ ⟨-, users', -⟩
        rw [keys, users'] at users
        contradiction
    | ok userKeys =>
      dsimp only
      cases devices : announced.keys.pair (announced.keys.used + 1) with
      | error e =>
        refine .inl ⟨_, _, ?_, ?_, .inr ⟨.deviceKeys, e, rfl⟩, ?_, rfl⟩
        · exact store
        · exact clear
        · rintro _ _ _ ⟨-, -, devices'⟩
          rw [keys, devices'] at devices
          contradiction
      | ok deviceKeys =>
        rw [keys] at users devices
        refine .inr ⟨location, userKeys, deviceKeys, _, ?_, ?_, ⟨valid, users, devices⟩, rfl⟩
        · exact store
        · exact clear

inductive Claims (others : Registrar Store → List Turn → Registrar Store → Prop)
    (r : ClaimRequest) (s : Registrar Store) :
    List Turn → Outcome ClaimResponse → Registrar Store → Prop where
  | refused {e : RegistrationError} {t : Registrar Store} (same : t.store = s.store) :
      Claims others r s [] (.error e) t
  | unregistered {location : Location} {userKeys deviceKeys : KeyPair} {e : RegistrationError}
      {start a t : Registrar Store} {between : List Turn} (same : start.store = s.store)
      (pause : others start between a)
      (unregistered : register r location userKeys deviceKeys a.store = .error e t.store) :
      Claims others r s (between ++ [(a, t)]) (.error e) t
  | registered {location : Location} {userKeys deviceKeys : KeyPair} {d : Registered}
      {start a a' t : Registrar Store} {between turns : List Turn} {outcome : Outcome ClaimResponse}
      (same : start.store = s.store) (pause : others start between a)
      (valid : r.validate = .ok location)
      (registered : register r location userKeys deviceKeys a.store = .ok d a'.store)
      (finishes : Finishes others r d a' turns outcome t) :
      Claims others r s (between ++ (a, a') :: turns) outcome t

theorem claim_reaches {outcome : Outcome ClaimResponse}
    (h : (claim r s).Reaches others turns (.finished outcome t)) :
    Claims others r s turns outcome t := by
  rcases claim_begins r s with ⟨e, t, same, -, -, -, begun⟩ |
    ⟨location, userKeys, deviceKeys, start, same, -, begins, begun⟩
  · rw [begun] at h
    cases h
    exact .refused same
  · rw [begun] at h
    cases h with
    | @resumed _ a _ between _ _ pause rest =>
      rw [registering] at rest ⊢
      cases registered : register r location userKeys deviceKeys a.store with
      | ok d store =>
        rw [registered] at rest
        exact .registered same pause begins.valid registered (waiting_reaches rest)
      | error e store =>
        rw [registered] at rest
        cases rest
        exact .unregistered same pause registered

theorem undoing_silent {token publicKey : String} {e : RegistrationError} (s : Registrar Store) :
    (undoing token publicKey e s : Progress _ (Outcome ClaimResponse)).Silent := by
  obtain ⟨t, -, -, finished⟩ := undoing_finishes token publicKey e s
  rw [finished]
  trivial

theorem answered_silent (r : ClaimRequest) (d : Registered) (answer : Except EncoderError String)
    (s : Registrar Store) : (answered r d answer s).Silent := by
  cases answer with
  | error e =>
    intro t
    exact undoing_silent t
  | ok uid =>
    intro t
    rw [recording]
    cases recordStream d.device.id uid t.store with
    | ok => trivial
    | error =>
      intro t
      exact undoing_silent t

/-- A claim that waits for the encoder has just registered its device. -/
theorem claim_reaches_calling {asked : EncoderCall}
    {resume : Except EncoderError asked.Answer → Duration → Registrar Store →
      Progress (Registrar Store) (Outcome ClaimResponse)}
    (h : (claim r s).Reaches others turns (.calling asked t resume)) :
    ∃ location userKeys deviceKeys d between a, r.validate = .ok location ∧
      turns = between ++ [(a, t)] ∧
      register r location userKeys deviceKeys a.store = .ok d t.store ∧
      Progress.calling asked t resume = waiting r location d t := by
  rcases claim_begins r s with ⟨e, t, same, -, -, -, begun⟩ |
    ⟨location, userKeys, deviceKeys, start, same, -, begins, begun⟩
  · rw [begun] at h
    cases h
  · rw [begun] at h
    cases h with
    | @resumed _ a _ between _ _ pause rest =>
      rw [registering] at rest ⊢
      cases registered : register r location userKeys deviceKeys a.store with
      | error e store =>
        rw [registered] at rest
        cases rest
      | ok d store =>
        rw [registered] at rest
        cases rest with
        | here =>
          exact ⟨location, userKeys, deviceKeys, d, between, a, begins.valid, rfl, registered, rfl⟩
        | answered _ rest => exact (rest.silent (answered_silent ..)).elim

end DeviceRegistry.Registrar
