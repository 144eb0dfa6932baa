import DeviceRegistry.Proofs.Stateful

/-! Two runs side by side. They fail together, with the same error, or they succeed together, with
values that are related; and from related states they come to related states. -/
namespace DeviceRegistry

variable {ε σ α α' β β' : Type}

/-- Both have failed with the same error, or have succeeded with related values. -/
inductive Agree (value : α → α' → Prop) : Except ε α → Except ε α' → Prop where
  | ok {a : α} {a' : α'} (values : value a a') : Agree value (.ok a) (.ok a')
  | error (e : ε) : Agree value (.error e) (.error e)

namespace Agree

variable {value : α → α' → Prop} {value' : β → β' → Prop} {x : Except ε α} {y : Except ε α'}

theorem refl {value : α → α → Prop} (same : ∀ a, value a a) (x : Except ε α) : Agree value x x := by
  cases x with
  | ok a => exact .ok (same a)
  | error e => exact .error e

theorem map {f : α → β} {f' : α' → β'} (h : Agree value x y)
    (values : ∀ a a', value a a' → value' (f a) (f' a')) : Agree value' (x.map f) (y.map f') := by
  cases h with
  | ok related => exact .ok (values _ _ related)
  | error e => exact .error e

end Agree

/-- The same of results that come with a state. -/
inductive AgreeOn (state : σ → σ → Prop) (value : α → α' → Prop) :
    EStateM.Result ε σ α → EStateM.Result ε σ α' → Prop where
  | ok {a : α} {a' : α'} {s s' : σ} (values : value a a') (states : state s s') :
      AgreeOn state value (.ok a s) (.ok a' s')
  | error (e : ε) {s s' : σ} (states : state s s') : AgreeOn state value (.error e s) (.error e s')

/-- Computations that agree whenever they begin in related states. -/
def Alongside (state : σ → σ → Prop) (value : α → α' → Prop) (x : EStateM ε σ α)
    (y : EStateM ε σ α') : Prop :=
  ∀ s s', state s s' → AgreeOn state value (x s) (y s')

namespace Alongside

variable {state : σ → σ → Prop} {value : α → α' → Prop} {value' : β → β' → Prop}

theorem pure {a : α} {a' : α'} (values : value a a') :
    Alongside state value (pure a : EStateM ε σ α) (pure a') :=
  fun _ _ states => .ok values states

theorem throw (e : ε) : Alongside state value (throw e : EStateM ε σ α) (throw e) :=
  fun _ _ states => .error e states

theorem bind {x : EStateM ε σ α} {y : EStateM ε σ α'} {f : α → EStateM ε σ β}
    {g : α' → EStateM ε σ β'} (first : Alongside state value x y)
    (rest : ∀ a a', value a a' → Alongside state value' (f a) (g a')) :
    Alongside state value' (x >>= f) (y >>= g) := by
  intro s s' states
  have outcome := first s s' states
  generalize left : x s = result at outcome
  generalize right : y s' = result' at outcome
  cases outcome with
  | ok values states =>
    rw [bind_ok left, bind_ok right]
    exact rest _ _ values _ _ states
  | error e states =>
    rw [bind_error left, bind_error right]
    exact .error e states

/-- Both go on with the same value. -/
theorem bind_same {x y : EStateM ε σ α} {f : α → EStateM ε σ β} {g : α → EStateM ε σ β'}
    (first : Alongside state Eq x y) (rest : ∀ a, Alongside state value' (f a) (g a)) :
    Alongside state value' (x >>= f) (y >>= g) := by
  refine .bind first ?_
  rintro a _ rfl
  exact rest a

theorem ite {p : Prop} [Decidable p] {x x' : EStateM ε σ α} {y y' : EStateM ε σ α'}
    (yes : Alongside state value x y) (no : Alongside state value x' y') :
    Alongside state value (if p then x else x') (if p then y else y') := by
  split
  · exact yes
  · exact no

theorem mapM {γ : Type} {f f' : γ → EStateM ε σ β} (each : ∀ a, Alongside state Eq (f a) (f' a))
    (as : List γ) : Alongside state Eq (as.mapM f) (as.mapM f') := by
  induction as with
  | nil =>
    rw [List.mapM_nil, List.mapM_nil]
    exact .pure rfl
  | cons a as ih =>
    rw [List.mapM_cons, List.mapM_cons]
    exact .bind_same (each a) fun b => .bind_same ih fun bs => .pure rfl

end Alongside
end DeviceRegistry
