/-! How a computation with state and failures runs, one step after the other. -/
namespace DeviceRegistry

variable {ε σ α β : Type} {x : EStateM ε σ α} {f : α → EStateM ε σ β} {s s' : σ}

theorem get_ok (s : σ) : (get : EStateM ε σ σ) s = .ok s s := rfl

theorem set_ok (t s : σ) : (set t : EStateM ε σ PUnit) s = .ok ⟨⟩ t := rfl

theorem bind_ok {a : α} (h : x s = .ok a s') : (x >>= f) s = f a s' := by
  simp [bind, EStateM.bind, h]

theorem bind_error {e : ε} (h : x s = .error e s') : (x >>= f) s = .error e s' := by
  simp [bind, EStateM.bind, h]

/-- What comes next depends only on how the first computation ends. -/
theorem bind_of_eq {y : EStateM ε σ α} {t : σ} (h : x s = y t) : (x >>= f) s = (y >>= f) t := by
  simp [bind, EStateM.bind, h]

theorem bind_eq_ok {b : β} (h : (x >>= f) s = .ok b s') :
    ∃ a t, x s = .ok a t ∧ f a t = .ok b s' := by
  simp only [bind, EStateM.bind] at h
  cases first : x s with
  | ok a t => exact ⟨a, t, rfl, by simpa [first] using h⟩
  | error e t => simp [first] at h

theorem except_bind_eq_ok {x : Except ε α} {f : α → Except ε β} {b : β} (h : x >>= f = .ok b) :
    ∃ a, x = .ok a ∧ f a = .ok b := by
  cases x with
  | ok a => exact ⟨a, rfl, h⟩
  | error e => contradiction

/-- A check that comes first has to succeed. -/
theorem except_check_bind_eq_ok {x : Except ε PUnit} {f : PUnit → Except ε β} {b : β} :
    x >>= f = .ok b ↔ x = .ok ⟨⟩ ∧ f ⟨⟩ = .ok b := by
  cases x with
  | ok => exact ⟨fun h => ⟨rfl, h⟩, And.right⟩
  | error e => exact ⟨nofun, nofun⟩

/-- The state that a computation leaves behind, whether it succeeds or fails. -/
def stateAfter : EStateM.Result ε σ α → σ
  | .ok _ s => s
  | .error _ s => s

end DeviceRegistry
