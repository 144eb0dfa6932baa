import DeviceRegistry.Proofs.Registrar.ClaimEffect
import DeviceRegistry.Proofs.Registrar.RevokeEffect
import DeviceRegistry.Proofs.Registrar.Validation

/-! Who has to mend an argument has done nothing yet: validation refuses arguments before a call does
anything, and whatever fails later fails inside. -/
namespace DeviceRegistry.Registrar

/-- The operation fails only in something that it attempts. -/
def FailsInside {σ α : Type} (op : EStateM RegistrationError σ α) : Prop :=
  ∀ s e t, op s = .error e t → ∃ attempt fault, e = .failed attempt fault

/-- The operation fails only in one of these attempts. -/
def FailsAt {σ α : Type} (attempts : List Attempt) (op : EStateM RegistrationError σ α) : Prop :=
  ∀ s e t, op s = .error e t → ∃ attempt ∈ attempts, ∃ fault, e = .failed attempt fault

namespace FailsAt

variable {σ α β : Type} {attempts : List Attempt} {attempt : Attempt}

theorem pure (a : α) : FailsAt attempts (pure a : EStateM RegistrationError σ α) := nofun

theorem attempting (listed : attempt ∈ attempts) (op : EStateM StoreError σ α) :
    FailsAt attempts (attempting attempt op) := by
  intro s e t failed
  cases run : op s with
  | ok a u =>
    rw [attempting_ok run] at failed
    contradiction
  | error fault u =>
    rw [attempting_error run] at failed
    cases failed
    exact ⟨attempt, listed, .store fault, rfl⟩

theorem bind {op : EStateM RegistrationError σ α} {rest : α → EStateM RegistrationError σ β}
    (h : FailsAt attempts op) (h' : ∀ a, FailsAt attempts (rest a)) :
    FailsAt attempts (op >>= rest) := by
  intro s e t failed
  cases run : op s with
  | ok a u =>
    rw [bind_ok run] at failed
    exact h' a u e t failed
  | error e' u =>
    rw [bind_error run] at failed
    cases failed
    exact h s _ _ run

/-- A transaction on this store fails in its operations only. -/
theorem transaction {commit : Attempt} {ops : EStateM RegistrationError Transaction α}
    (h : FailsAt attempts ops) :
    FailsAt attempts (transaction commit ops : EStateM RegistrationError Store α) := by
  intro s e t failed
  cases run : ops s.begin with
  | ok a tx =>
    rw [transaction_ok run] at failed
    contradiction
  | error e' tx =>
    rw [transaction_error run] at failed
    cases failed
    exact h _ _ _ run

section Operations

variable {S T : Type} [Records T] [Backend S T]

/-- A transaction on any store may fail to begin and to be committed, too. -/
theorem any_transaction {commit : Attempt} {ops : EStateM RegistrationError T α}
    (h : FailsAt attempts ops) :
    FailsAt (.startTransaction :: commit :: attempts)
      (Registrar.transaction commit ops : EStateM RegistrationError S α) := by
  refine bind (attempting (by simp) _) fun tx s e t failed => ?_
  cases run : ops tx with
  | ok a tx =>
    simp only [run] at failed
    exact bind (attempting (by simp) _) (fun _ => pure a) s e t failed
  | error e' tx =>
    simp only [run] at failed
    cases failed
    obtain ⟨attempt, listed, failure⟩ := h _ _ _ run
    exact ⟨attempt, by simp [listed], failure⟩

theorem register_transaction (r : ClaimRequest) (location : Location)
    (userKeys deviceKeys : KeyPair) :
    ∃ ops : EStateM RegistrationError T Registered,
      Registrar.register (S := S) r location userKeys deviceKeys =
        Registrar.transaction .commitClaim ops ∧
      FailsAt [.upsertUser, .insertDevice] ops :=
  ⟨_, rfl, (attempting (by decide) _).bind fun _ =>
    (attempting (by decide) _).bind fun _ => pure _⟩

theorem recordStream_transaction (device : UInt64) (uid : String) :
    ∃ ops : EStateM RegistrationError T Unit,
      Registrar.recordStream (S := S) device uid = Registrar.transaction .commitStream ops ∧
      FailsAt [.recordStream] ops :=
  ⟨_, rfl, (attempting (by decide) _).bind fun _ => pure _⟩

theorem removeDevice_transaction (token publicKey : String) :
    ∃ ops : EStateM RegistrationError T RemovedDevice,
      Registrar.removeDevice (S := S) token publicKey = Registrar.transaction .commitRevoke ops ∧
      FailsAt [.deleteDevice, .countDevices, .deleteUser] ops := by
  refine ⟨_, rfl, (attempting (by decide) _).bind fun removed =>
    (attempting (by decide) _).bind fun remaining => ?_⟩
  dsimp only
  split
  · exact (attempting (by decide) _).bind fun _ => pure _
  · exact pure _

end Operations

theorem register (r : ClaimRequest) (location : Location) (userKeys deviceKeys : KeyPair) :
    FailsAt [.upsertUser, .insertDevice]
      (register (S := Store) r location userKeys deviceKeys) := by
  obtain ⟨ops, equal, fails⟩ :=
    @register_transaction Store Transaction _ _ r location userKeys deviceKeys
  exact equal ▸ transaction fails

theorem recordStream (device : UInt64) (uid : String) :
    FailsAt [.recordStream] (recordStream (S := Store) device uid) := by
  obtain ⟨ops, equal, fails⟩ := @recordStream_transaction Store Transaction _ _ device uid
  exact equal ▸ transaction fails

theorem removeDevice (token publicKey : String) :
    FailsAt [.deleteDevice, .countDevices, .deleteUser]
      (removeDevice (S := Store) token publicKey) := by
  obtain ⟨ops, equal, fails⟩ := @removeDevice_transaction Store Transaction _ _ token publicKey
  exact equal ▸ transaction fails

theorem inside {op : EStateM RegistrationError σ α} (h : FailsAt attempts op) : FailsInside op := by
  intro s e t failed
  obtain ⟨attempt, -, fault, failure⟩ := h s e t failed
  exact ⟨attempt, fault, failure⟩

end FailsAt

/-- The work changed nothing but the record, and called nobody. -/
structure Untouched {E α : Type} (s : Registrar Store) (done : Attended (Registrar Store) E α) :
    Prop where
  state : Unmoved s done.state
  exchanges : done.exchanges = []

variable {E : Type} {enc : Encoder E} {e : E} {s : Registrar Store} {argument message : String}

theorem ClaimEnds.invalid {r : ClaimRequest}
    {done : Attended (Registrar Store) E (Outcome ClaimResponse)} (h : ClaimEnds enc e r s done)
    (refused : done.value = .error (.invalidArgument argument message)) :
    r.validate = .error (.invalidArgument argument message) ∧ Untouched s done := by
  cases h with
  | refused same none early =>
    obtain rfl := Except.error.inj refused
    -- The claim ended before its registration: by validation, or else for want of keys.
    rcases early with ⟨invalid, rfl⟩ | ⟨attempt, failure, other⟩
    · exact ⟨invalid, .refl _, rfl⟩
    · cases other
  | unregistered begins same unregistered =>
    obtain rfl := Except.error.inj refused
    obtain ⟨attempt, fault, other⟩ := (FailsAt.register _ _ _ _).inside _ _ _ unregistered
    cases other
  | uncreated => cases refused
  | unrecorded begins same registered asked heard unrecorded =>
    obtain rfl := Except.error.inj refused
    obtain ⟨attempt, fault, other⟩ := (FailsAt.recordStream _ _).inside _ _ _ unrecorded
    cases other
  | claimed => cases refused

/-- A claim that is refused for an argument was refused by validation, and has done nothing. -/
theorem claim_invalid {r : ClaimRequest}
    (refused : ((claim r s).attend enc e).value = .error (.invalidArgument argument message)) :
    r.validate = .error (.invalidArgument argument message) ∧
      Untouched s ((claim r s).attend enc e) :=
  (claim_attend enc e r s).invalid refused

/-- A revoke that is refused for an argument was refused by validation, and has done nothing. -/
theorem revoke_invalid {r : RevokeRequest}
    (refused : ((revoke r s).attend enc e).value = .error (.invalidArgument argument message)) :
    r.validate = .error (.invalidArgument argument message) ∧
      Untouched s ((revoke r s).attend enc e) := by
  cases valid : r.validate with
  | error error =>
    rw [revoke_eq, valid] at refused ⊢
    obtain rfl := Except.error.inj refused
    exact ⟨rfl, .refl s, rfl⟩
  | ok =>
    obtain ⟨s', -, -, run⟩ := @revoke_attend _ s r enc e valid
    rw [run] at refused
    cases removed : removeDevice r.deviceToken r.userPublicKey s'.store with
    | error error store =>
      rw [removing_attend_error enc e removed] at refused
      obtain rfl := Except.error.inj refused
      obtain ⟨attempt, fault, other⟩ := (FailsAt.removeDevice _ _).inside _ _ _ removed
      cases other
    | ok gone store =>
      obtain ⟨-, swept, -⟩ := removing_attend_ok enc e removed
      change ((removing r s').attend enc e).value = _ at refused
      rw [refused] at swept
      obtain ⟨failure, other⟩ := swept.failure
      cases other

end DeviceRegistry.Registrar
