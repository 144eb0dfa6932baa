import DeviceRegistry.Encoder.Flow

/-! Work in turns. A turn begins when the work goes on, with the state as it is by then, and ends
where the work stops again. -/
namespace DeviceRegistry

/-- Turns of a kind, each beginning with the state that the one before it left. A turn is told by
the states at its beginning and at its end. -/
inductive Chain {σ : Type} (turn : σ → σ → Prop) : σ → List (σ × σ) → σ → Prop where
  | nil (s : σ) : Chain turn s [] s
  | cons {s t u : σ} {turns : List (σ × σ)} (first : turn s t) (rest : Chain turn t turns u) :
      Chain turn s ((s, t) :: turns) u

namespace Chain

variable {σ : Type} {turn : σ → σ → Prop} {s t u : σ} {turns turns' : List (σ × σ)}

theorem append (h : Chain turn s turns t) (h' : Chain turn t turns' u) :
    Chain turn s (turns ++ turns') u := by
  induction h with
  | nil => exact h'
  | cons first _ ih => exact .cons first (ih h')

theorem after_first {first : σ × σ} (h : Chain turn s (first :: turns) u) :
    first.1 = s ∧ Chain turn first.2 turns u := by
  cases h with
  | cons _ rest => exact ⟨rfl, rest⟩

theorem split (h : Chain turn s (turns ++ turns') u) :
    ∃ t, Chain turn s turns t ∧ Chain turn t turns' u := by
  induction turns generalizing s with
  | nil => exact ⟨s, .nil s, h⟩
  | cons first rest ih =>
    cases h with
    | cons taken h =>
      obtain ⟨t, h, h'⟩ := ih h
      exact ⟨t, .cons taken h, h'⟩

/-- The turns between two others lead from the end of one to the beginning of the other. -/
theorem between {first last : σ × σ} {before between after : List (σ × σ)}
    (h : Chain turn s (before ++ first :: (between ++ last :: after)) u) :
    Chain turn first.2 between last.1 ∧ Chain turn last.2 after u := by
  obtain ⟨_, -, h⟩ := h.split
  obtain ⟨-, h⟩ := h.after_first
  obtain ⟨_, inside, h⟩ := h.split
  obtain ⟨rfl, outside⟩ := h.after_first
  exact ⟨inside, outside⟩

end Chain

namespace Progress

variable {σ α β : Type} {turn : σ → σ → Prop} {others : σ → List (σ × σ) → σ → Prop}

def state : Progress σ α → σ
  | finished _ s => s
  | paused s _ => s
  | calling _ s _ => s

/-- All the turns of the work are of a kind, whatever it finds when it goes on. -/
def Turns (turn : σ → σ → Prop) : Progress σ α → Prop
  | finished _ _ => True
  | paused _ resume => ∀ s, turn s (resume s).state ∧ (resume s).Turns turn
  | calling _ _ resume => ∀ answer time s,
    turn s (resume answer time s).state ∧ (resume answer time s).Turns turn

def map (f : α → β) (p : Progress σ α) : Progress σ β := p.bind fun a s => .finished (f a) s

@[simp] theorem state_map (f : α → β) (p : Progress σ α) : (p.map f).state = p.state := by
  cases p <;> rfl

theorem turns_map (f : α → β) (p : Progress σ α) (h : p.Turns turn) : (p.map f).Turns turn := by
  induction p with
  | finished => trivial
  | paused s resume ih =>
    intro s
    refine ⟨?_, ih s (h s).2⟩
    have state := state_map f (resume s)
    exact state ▸ (h s).1
  | calling call s resume ih =>
    intro answer time s
    refine ⟨?_, ih answer time s (h answer time s).2⟩
    have state := state_map f (resume answer time s)
    exact state ▸ (h answer time s).1

theorem turns_mono {turn' : σ → σ → Prop} (weaker : ∀ s t, turn s t → turn' s t) (p : Progress σ α)
    (h : p.Turns turn) : p.Turns turn' := by
  induction p with
  | finished => trivial
  | paused s resume ih => exact fun s => ⟨weaker _ _ (h s).1, ih s (h s).2⟩
  | calling call s resume ih =>
    exact fun answer time s => ⟨weaker _ _ (h answer time s).1, ih answer time s (h answer time s).2⟩

/-- The work calls the encoder no more, whatever it finds when it goes on. -/
def Silent : Progress σ α → Prop
  | finished _ _ => True
  | paused _ resume => ∀ s, (resume s).Silent
  | calling _ _ _ => False

/-- The work can end with such values only, whatever it finds when it goes on. -/
def Ends (ending : α → Prop) : Progress σ α → Prop
  | finished a _ => ending a
  | paused _ resume => ∀ s, (resume s).Ends ending
  | calling _ _ resume => ∀ answer time s, (resume answer time s).Ends ending

/-- After some turns the work stands where `q` says. Between two of its turns others take theirs,
which are told as well. -/
inductive Reaches (others : σ → List (σ × σ) → σ → Prop) :
    Progress σ α → List (σ × σ) → Progress σ α → Prop where
  | here (p : Progress σ α) : Reaches others p [] p
  | resumed {s t : σ} {resume : σ → Progress σ α} {between turns : List (σ × σ)} {q : Progress σ α}
      (meanwhile : others s between t) (rest : Reaches others (resume t) turns q) :
      Reaches others (.paused s resume) (between ++ (t, (resume t).state) :: turns) q
  | answered {call : EncoderCall} {s t : σ}
      {resume : Except EncoderError call.Answer → Duration → σ → Progress σ α}
      {answer : Except EncoderError call.Answer} {time : Duration}
      {between turns : List (σ × σ)} {q : Progress σ α} (meanwhile : others s between t)
      (rest : Reaches others (resume answer time t) turns q) :
      Reaches others (.calling call s resume)
        (between ++ (t, (resume answer time t).state) :: turns) q

def Alone (s : σ) (between : List (σ × σ)) (t : σ) : Prop := between = [] ∧ t = s

namespace Reaches

variable {p q : Progress σ α} {turns : List (σ × σ)}

theorem trans {turns' : List (σ × σ)} {q' : Progress σ α} (h : p.Reaches others turns q)
    (h' : q.Reaches others turns' q') : p.Reaches others (turns ++ turns') q' := by
  induction h with
  | here => exact h'
  | resumed meanwhile _ ih =>
    rw [List.append_assoc, List.cons_append]
    exact .resumed meanwhile (ih h')
  | answered meanwhile _ ih =>
    rw [List.append_assoc, List.cons_append]
    exact .answered meanwhile (ih h')

theorem mono {others' : σ → List (σ × σ) → σ → Prop}
    (weaker : ∀ s between t, others s between t → others' s between t)
    (h : p.Reaches others turns q) : p.Reaches others' turns q := by
  induction h with
  | here => exact .here _
  | resumed meanwhile _ ih => exact .resumed (weaker _ _ _ meanwhile) ih
  | answered meanwhile _ ih => exact .answered (weaker _ _ _ meanwhile) ih

/-- The turns that are taken make a chain, if all of them are of the kind. -/
theorem chain (meanwhile : ∀ s between t, others s between t → Chain turn s between t)
    (h : p.Reaches others turns q) (own : p.Turns turn) : Chain turn p.state turns q.state := by
  induction h with
  | here => exact .nil _
  | resumed between _ ih =>
    exact (meanwhile _ _ _ between).append (.cons (own _).1 (ih (own _).2))
  | answered between _ ih =>
    exact (meanwhile _ _ _ between).append (.cons (own _ _ _).1 (ih (own _ _ _).2))

theorem to_come (h : p.Reaches others turns q) (own : p.Turns turn) : q.Turns turn := by
  induction h with
  | here => exact own
  | resumed _ _ ih => exact ih (own _).2
  | answered _ _ ih => exact ih (own _ _ _).2

theorem map (f : α → β) (h : p.Reaches others turns q) :
    (p.map f).Reaches others turns (q.map f) := by
  induction h with
  | here => exact .here _
  | @resumed s t resume between turns q meanwhile _ ih =>
    have next : (Progress.map f (.paused s resume)).Reaches others
        (between ++ (t, ((resume t).map f).state) :: turns) (q.map f) := .resumed meanwhile ih
    rwa [state_map] at next
  | @answered call s t resume answer time between turns q meanwhile _ ih =>
    have next : (Progress.map f (.calling call s resume)).Reaches others
        (between ++ (t, ((resume answer time t).map f).state) :: turns) (q.map f) :=
      .answered meanwhile ih
    rwa [state_map] at next

theorem silent (h : p.Reaches others turns q) (silent : p.Silent) : q.Silent := by
  induction h with
  | here => exact silent
  | resumed _ _ ih => exact ih (silent _)
  | answered => exact silent.elim

theorem ends {ending : α → Prop} (h : p.Reaches others turns q) (own : p.Ends ending) :
    q.Ends ending := by
  induction h with
  | here => exact own
  | resumed _ _ ih => exact ih (own _)
  | answered _ _ ih => exact ih (own _ _ _)

end Reaches

theorem Alone.chain {s t : σ} {between : List (σ × σ)} (h : Alone s between t) :
    Chain turn s between t := by
  obtain ⟨rfl, rfl⟩ := h
  exact .nil _

theorem Alone.resumed (s : σ) (resume : σ → Progress σ α) :
    (paused s resume).Reaches Alone [(s, (resume s).state)] (resume s) :=
  have alone : Alone s [] s := ⟨rfl, rfl⟩
  .resumed alone (.here _)

theorem Alone.answered {call : EncoderCall} (s : σ)
    (resume : Except EncoderError call.Answer → Duration → σ → Progress σ α)
    (answer : Except EncoderError call.Answer) (time : Duration) :
    (calling call s resume).Reaches Alone [(s, (resume answer time s).state)]
      (resume answer time s) :=
  have alone : Alone s [] s := ⟨rfl, rfl⟩
  .answered alone (.here _)

end Progress
end DeviceRegistry
