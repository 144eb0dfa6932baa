import DeviceRegistry.Proofs.Number.Rounding
import DeviceRegistry.Proofs.Stateful
import DeviceRegistry.Registrar.Validation
import Mathlib.Algebra.Order.Field.Rat
import Mathlib.Tactic.Positivity

/-! What validation accepts, told by the numbers and texts of a request, and how it refuses the
rest. -/
namespace DeviceRegistry

namespace Binary64

/-- The number that a finite encoding stands for. -/
def value (x : Binary64) : ℚ := (if x.isNegative then -1 else 1) * (units x.code / oneUnits)

theorem units_eq_zero {c : Nat} : units c = 0 ↔ c = 0 := by
  rw [units]
  split
  · rfl
  next large =>
    have positive : 0 < fractionCount := by rw [fractionCount_eq]; exact Nat.two_pow_pos 52
    have scaled : 0 < Nat.pow 2 (c / fractionCount - 1) := Nat.two_pow_pos _
    have sum : 0 < fractionCount + c % fractionCount := by omega
    have product := Nat.mul_pos sum scaled
    omega

theorem oneUnits_pos : 0 < oneUnits := by
  obtain ⟨k, -, power⟩ := oneUnits_eq
  rw [power]
  exact Nat.two_pow_pos k

theorem abs_value (x : Binary64) : |x.value| = (units x.code : ℚ) / oneUnits := by
  have positive : 0 ≤ (units x.code : ℚ) / oneUnits := by positivity
  rw [value, abs_mul, abs_of_nonneg positive]
  split
  · rw [abs_neg, abs_one, one_mul]
  · rw [abs_one, one_mul]

/-- A coordinate: a finite number other than zero, from `-bound` to `bound`. -/
structure IsDegrees (bound : Nat) (x : Binary64) : Prop where
  finite : x.isFinite = true
  nonzero : x.value ≠ 0
  within : |x.value| ≤ bound

theorem value_eq_zero {x : Binary64} : x.value = 0 ↔ x.isZero = true := by
  have one : (oneUnits : ℚ) ≠ 0 := by exact_mod_cast oneUnits_pos.ne'
  rw [← abs_eq_zero, abs_value, div_eq_zero_iff, or_iff_left one, Nat.cast_eq_zero, units_eq_zero,
    isZero, beq_iff_eq]

theorem within_iff {bound : Nat} {x : Binary64} :
    x.within bound = true ↔ x.isFinite = true ∧ |x.value| ≤ bound := by
  have one : (0 : ℚ) < oneUnits := by exact_mod_cast oneUnits_pos
  have range : |x.value| ≤ bound ↔ units x.code ≤ bound * oneUnits := by
    rw [abs_value, div_le_iff₀ one]
    exact_mod_cast Iff.rfl
  rw [within, Bool.and_eq_true, decide_eq_true_iff, ← range]

theorem isDegrees_iff {bound : Nat} {x : Binary64} :
    x.IsDegrees bound ↔ x.isZero = false ∧ x.within bound = true := by
  have zero : x.value ≠ 0 ↔ x.isZero = false := by simp [value_eq_zero]
  rw [within_iff, ← zero]
  exact ⟨fun h => ⟨h.nonzero, h.finite, h.within⟩, fun h => ⟨h.2.1, h.1, h.2.2⟩⟩

/-- A coordinate that is zero stands for one that was not given. -/
def IsMissing (x : Binary64) : Prop := x.isFinite = true ∧ x.value = 0

theorem isMissing_iff {x : Binary64} : x.IsMissing ↔ x.isZero = true := by
  rw [IsMissing, value_eq_zero, and_iff_right_iff_imp]
  intro zero
  have none : x.code = 0 := by simpa [isZero] using zero
  rw [isFinite, none]
  decide

end Binary64

/-- Coordinates of a place on earth other than those that stand for a missing one. -/
structure Location.IsPlace (l : Location) : Prop where
  longitude : l.longitude.IsDegrees 180
  latitude : l.latitude.IsDegrees 90

theorem requireText_ok {argument text : String} : requireText argument text = .ok () ↔ text ≠ "" := by
  simp [requireText]

theorem requireCoordinate_ok {argument : String} {x : Binary64} :
    requireCoordinate argument x = .ok () ↔ x.isZero = false := by
  simp [requireCoordinate]

theorem requireDegrees_ok {argument : String} {bound : Nat} {x : Binary64} :
    requireDegrees argument bound x = .ok () ↔ x.within bound = true := by
  simp [requireDegrees]

theorem Location.isPlace_iff {l : Location} :
    l.IsPlace ↔ (l.longitude.isZero = false ∧ l.longitude.within 180 = true) ∧
      l.latitude.isZero = false ∧ l.latitude.within 90 = true := by
  rw [← Binary64.isDegrees_iff, ← Binary64.isDegrees_iff]
  exact ⟨fun h => ⟨h.longitude, h.latitude⟩, fun h => ⟨h.1, h.2⟩⟩

/-- A request can be worked on if it names a device, a broker and a user, and tells a place. -/
theorem ClaimRequest.validate_ok {r : ClaimRequest} {l : Location} :
    r.validate = .ok l ↔
      r.deviceToken ≠ "" ∧ r.broker ≠ "" ∧ r.userUid ≠ "" ∧ r.location = some l ∧ l.IsPlace := by
  rw [validate]
  cases r.location with
  | none => simp [except_check_bind_eq_ok]
  | some given =>
    simp only [except_check_bind_eq_ok, requireText_ok, requireCoordinate_ok, requireDegrees_ok,
      Location.isPlace_iff, pure, Except.pure, Except.ok.injEq, Option.some.injEq]
    constructor
    · rintro ⟨token, broker, uid, longitude, latitude, range, range', rfl⟩
      exact ⟨token, broker, uid, rfl, ⟨longitude, range⟩, latitude, range'⟩
    · rintro ⟨token, broker, uid, rfl, ⟨longitude, range⟩, latitude, range'⟩
      exact ⟨token, broker, uid, longitude, latitude, range, range', rfl⟩

/-- A request can be worked on if it names a device and a key. -/
theorem RevokeRequest.validate_ok {r : RevokeRequest} :
    r.validate = .ok () ↔ r.deviceToken ≠ "" ∧ r.userPublicKey ≠ "" := by
  rw [validate, except_check_bind_eq_ok, requireText_ok, requireText_ok]

/-- What a request has to meet, and how it is refused if it does not. -/
structure Requirement where
  met : Prop
  argument : String
  message : String

namespace Requirement

def refusal (q : Requirement) : RegistrationError := .invalidArgument q.argument q.message

/-- The check refuses exactly what does not meet the requirement. -/
structure CheckedBy (q : Requirement) (check : Except RegistrationError Unit) : Prop where
  ok : q.met → check = .ok ()
  error : ¬ q.met → check = .error q.refusal

end Requirement

/-- A request is refused for the first requirement that it does not meet. -/
inductive FirstUnmet : List Requirement → RegistrationError → Prop where
  | here {q : Requirement} {rest : List Requirement} (unmet : ¬ q.met) :
      FirstUnmet (q :: rest) q.refusal
  | later {q : Requirement} {rest : List Requirement} {e : RegistrationError} (met : q.met)
      (unmet : FirstUnmet rest e) : FirstUnmet (q :: rest) e

namespace FirstUnmet

variable {q : Requirement} {rest : List Requirement} {e : RegistrationError} {α : Type}

theorem iff_of_met (met : q.met) : FirstUnmet (q :: rest) e ↔ FirstUnmet rest e := by
  constructor
  · rintro (unmet | ⟨-, unmet⟩)
    · exact absurd met unmet
    · exact unmet
  · exact .later met

theorem iff_of_unmet (unmet : ¬ q.met) : FirstUnmet (q :: rest) e ↔ q.refusal = e := by
  constructor
  · rintro (- | ⟨met, -⟩)
    · rfl
    · exact absurd met unmet
  · rintro rfl
    exact .here unmet

theorem ok_iff {a : α} : Except.ok a = .error e ↔ FirstUnmet [] e := ⟨nofun, nofun⟩

/-- A check comes before what is checked after it. -/
theorem bind {check : Except RegistrationError Unit} {next : Unit → Except RegistrationError α}
    (checked : q.CheckedBy check) (h : next () = .error e ↔ FirstUnmet rest e) :
    check >>= next = .error e ↔ FirstUnmet (q :: rest) e := by
  by_cases met : q.met
  · rw [checked.ok met, iff_of_met met]
    exact h
  · rw [checked.error met, iff_of_unmet met]
    exact ⟨Except.error.inj, congrArg Except.error⟩

theorem last {check : Except RegistrationError Unit} (checked : q.CheckedBy check) :
    check = .error e ↔ FirstUnmet [q] e := by
  have followed : check >>= Except.ok = .error e ↔ FirstUnmet [q] e := bind checked ok_iff
  rwa [show check >>= Except.ok = check by cases check <;> rfl] at followed

end FirstUnmet

theorem requireText_checks (argument text : String) :
    Requirement.CheckedBy ⟨text ≠ "", argument, argument ++ " is required"⟩
      (requireText argument text) where
  ok given := requireText_ok.2 given
  error none := if_pos (not_not.1 none)

theorem requireCoordinate_checks (argument : String) (x : Binary64) :
    Requirement.CheckedBy ⟨¬ x.IsMissing, argument, argument ++ " is required"⟩
      (requireCoordinate argument x) where
  ok given := by
    rw [Binary64.isMissing_iff, Bool.not_eq_true] at given
    exact requireCoordinate_ok.2 given
  error missing := if_pos (Binary64.isMissing_iff.1 (not_not.1 missing))

theorem requireDegrees_checks (argument : String) (bound : Nat) (x : Binary64) :
    Requirement.CheckedBy ⟨x.isFinite = true ∧ |x.value| ≤ bound, argument,
        argument ++ " must be between -" ++ toString bound ++ " and " ++ toString bound ++ " degrees"⟩
      (requireDegrees argument bound x) where
  ok inside := requireDegrees_ok.2 (Binary64.within_iff.2 inside)
  error outside := if_neg fun inside => outside (Binary64.within_iff.1 inside)

/-- What a claim has to meet, in the order in which it is told. -/
def ClaimRequest.requirements (r : ClaimRequest) : List Requirement := [
  ⟨r.deviceToken ≠ "", "device_token", "device_token is required"⟩,
  ⟨r.broker ≠ "", "broker", "broker is required"⟩,
  ⟨r.userUid ≠ "", "user_uid", "user_uid is required"⟩,
  ⟨r.location ≠ none, "location", "location is required"⟩,
  ⟨∀ l ∈ r.location, ¬ l.longitude.IsMissing, "longitude", "longitude is required"⟩,
  ⟨∀ l ∈ r.location, ¬ l.latitude.IsMissing, "latitude", "latitude is required"⟩,
  ⟨∀ l ∈ r.location, l.longitude.isFinite = true ∧ |l.longitude.value| ≤ 180, "longitude",
    "longitude must be between -180 and 180 degrees"⟩,
  ⟨∀ l ∈ r.location, l.latitude.isFinite = true ∧ |l.latitude.value| ≤ 90, "latitude",
    "latitude must be between -90 and 90 degrees"⟩]

def RevokeRequest.requirements (r : RevokeRequest) : List Requirement := [
  ⟨r.deviceToken ≠ "", "device_token", "device_token is required"⟩,
  ⟨r.userPublicKey ≠ "", "user_public_key", "user_public_key is required"⟩]

theorem ClaimRequest.validate_eq_error {r : ClaimRequest} {e : RegistrationError} :
    r.validate = .error e ↔ FirstUnmet r.requirements e := by
  refine FirstUnmet.bind (requireText_checks ..) <| FirstUnmet.bind (requireText_checks ..) <|
    FirstUnmet.bind (requireText_checks ..) ?_
  cases given : r.location with
  | none =>
    rw [FirstUnmet.iff_of_unmet (by simp)]
    exact ⟨Except.error.inj, congrArg Except.error⟩
  | some l =>
    rw [FirstUnmet.iff_of_met (by simp)]
    simp only [Option.mem_some_iff, forall_eq']
    exact FirstUnmet.bind (requireCoordinate_checks ..) <|
      FirstUnmet.bind (requireCoordinate_checks ..) <|
        FirstUnmet.bind (requireDegrees_checks ..) <|
          FirstUnmet.bind (requireDegrees_checks ..) FirstUnmet.ok_iff

theorem RevokeRequest.validate_eq_error {r : RevokeRequest} {e : RegistrationError} :
    r.validate = .error e ↔ FirstUnmet r.requirements e :=
  FirstUnmet.bind (requireText_checks ..) (FirstUnmet.last (requireText_checks ..))

/-- The error names an argument. -/
def NamesArgument (e : RegistrationError) : Prop :=
  ∃ argument message, e = .invalidArgument argument message

theorem FirstUnmet.namesArgument {requirements : List Requirement} {e : RegistrationError}
    (h : FirstUnmet requirements e) : NamesArgument e := by
  induction h with
  | here => exact ⟨_, _, rfl⟩
  | later _ _ ih => exact ih

theorem ClaimRequest.validate_error {r : ClaimRequest} {e : RegistrationError}
    (h : r.validate = .error e) : NamesArgument e :=
  (validate_eq_error.1 h).namesArgument

theorem RevokeRequest.validate_error {r : RevokeRequest} {e : RegistrationError}
    (h : r.validate = .error e) : NamesArgument e :=
  (validate_eq_error.1 h).namesArgument

end DeviceRegistry
