import DeviceRegistry.Proofs.Encoder.Flow

/-! Work that an encoder attends to from beginning to end. The encoder may answer as it likes, by
what it was asked before. -/
namespace DeviceRegistry

/-- An encoder with states of type `E`. -/
structure Encoder (E : Type) where
  answer : (call : EncoderCall) → E → (Except EncoderError call.Answer × Duration) × E

/-- A call to the encoder, with its answer. -/
structure Exchange where
  call : EncoderCall
  answer : Except EncoderError call.Answer

/-- What came of work that was attended to: what it gave, the states that it left behind, its turns,
and what was exchanged with the encoder. -/
structure Attended (σ E α : Type) where
  value : α
  state : σ
  encoder : E
  turns : List (σ × σ)
  exchanges : List Exchange

namespace Attended

variable {σ E α β : Type}

/-- The work as it is with one more turn at its beginning. -/
def after (turn : σ × σ) (exchanges : List Exchange) (a : Attended σ E α) : Attended σ E α :=
  { a with turns := turn :: a.turns, exchanges := exchanges ++ a.exchanges }

def map (f : α → β) (a : Attended σ E α) : Attended σ E β :=
  { a with value := f a.value }

end Attended

namespace Progress

variable {σ E α β : Type} (enc : Encoder E)

/-- The work is done to its end. Nobody else takes a turn. -/
def attend (e : E) : Progress σ α → Attended σ E α
  | finished value state => ⟨value, state, e, [], []⟩
  | paused s resume => (attend e (resume s)).after (s, (resume s).state) []
  | calling call s resume =>
    match enc.answer call e with
    | ((answer, time), e') =>
      (attend e' (resume answer time s)).after (s, (resume answer time s).state) [⟨call, answer⟩]

@[simp] theorem attend_finished (e : E) (value : α) (state : σ) :
    (finished value state).attend enc e = ⟨value, state, e, [], []⟩ := rfl

@[simp] theorem attend_paused (e : E) (s : σ) (resume : σ → Progress σ α) :
    (paused s resume).attend enc e =
      ((resume s).attend enc e).after (s, (resume s).state) [] := rfl

theorem attend_calling {call : EncoderCall} {answer : Except EncoderError call.Answer}
    {time : Duration} {e e' : E} (answered : enc.answer call e = ((answer, time), e')) (s : σ)
    (resume : Except EncoderError call.Answer → Duration → σ → Progress σ α) :
    (calling call s resume).attend enc e =
      ((resume answer time s).attend enc e').after (s, (resume answer time s).state)
        [⟨call, answer⟩] := by
  rw [attend, answered]

theorem attend_map (f : α → β) (e : E) (p : Progress σ α) :
    (p.map f).attend enc e = (p.attend enc e).map f := by
  induction p generalizing e with
  | finished => rfl
  | paused s resume ih =>
    have state := state_map f (resume s)
    have rest := ih s e
    show ((Progress.map f (resume s)).attend enc e).after (s, ((resume s).map f).state) [] = _
    rw [rest, state]
    rfl
  | calling call s resume ih =>
    rcases answered : enc.answer call e with ⟨⟨answer, time⟩, e'⟩
    have state := state_map f (resume answer time s)
    have rest := ih answer time s e'
    have goes : (Progress.map f (.calling call s resume)).attend enc e =
        ((Progress.map f (resume answer time s)).attend enc e').after
          (s, ((resume answer time s).map f).state) [⟨call, answer⟩] :=
      attend_calling enc answered s _
    rw [goes, attend_calling enc answered, rest, state]
    rfl

/-- Work goes on with what came of the work before it. -/
theorem attend_bind (f : α → σ → Progress σ β) (e : E) (p : Progress σ α) :
    let first := p.attend enc e
    let rest := (f first.value first.state).attend enc first.encoder
    let done := (p.bind f).attend enc e
    done.value = rest.value ∧ done.state = rest.state ∧
      done.exchanges = first.exchanges ++ rest.exchanges := by
  induction p generalizing e with
  | finished => exact ⟨rfl, rfl, rfl⟩
  | paused s resume ih => exact ih s e
  | calling call s resume ih =>
    rcases answered : enc.answer call e with ⟨⟨answer, time⟩, e'⟩
    obtain ⟨value, state, exchanges⟩ := ih answer time s e'
    have goes : (Progress.bind (.calling call s resume) f).attend enc e =
        ((Progress.bind (resume answer time s) f).attend enc e').after
          (s, (Progress.bind (resume answer time s) f).state) [⟨call, answer⟩] :=
      attend_calling enc answered s _
    rw [goes, attend_calling enc answered]
    exact ⟨value, state, congrArg (List.cons (Exchange.mk call answer)) exchanges⟩

/-- What is exchanged first is answered by the encoder as it was at the beginning. -/
theorem attend_first (e : E) (p : Progress σ α) {first : Exchange} {later : List Exchange}
    (exchanged : (p.attend enc e).exchanges = first :: later) :
    (enc.answer first.call e).1.1 = first.answer := by
  induction p generalizing e with
  | finished => cases exchanged
  | paused s resume ih => exact ih s e exchanged
  | calling call s resume ih =>
    rcases answered : enc.answer call e with ⟨⟨answer, time⟩, e'⟩
    rw [attend_calling enc answered] at exchanged
    obtain rfl := (List.cons.inj exchanged).1
    rw [answered]

/-- Work that was attended to came to its end on its own. -/
theorem attend_reaches (e : E) (p : Progress σ α) :
    p.Reaches Alone (p.attend enc e).turns
      (.finished (p.attend enc e).value (p.attend enc e).state) := by
  induction p generalizing e with
  | finished value state => exact .here _
  | paused s resume ih => exact (Alone.resumed s resume).trans (ih s e)
  | calling call s resume ih =>
    rcases answered : enc.answer call e with ⟨⟨answer, time⟩, e'⟩
    rw [attend_calling enc answered]
    exact (Alone.answered s resume answer time).trans (ih answer time s e')

end Progress

namespace Encoder

variable {σ E α : Type} (enc : Encoder E)

/-- The encoder as one that is called, and that writes down what it is asked and what it answers. -/
def serve (call : EncoderCall) (s : σ) :
    StateM (E × List Exchange) (Except EncoderError call.Answer × Duration × σ) :=
  fun (e, exchanges) =>
    match enc.answer call e with
    | ((answer, time), e') => ((answer, time, s), (e', exchanges ++ [⟨call, answer⟩]))

/-- Running work with the encoder gives what attending to it tells. -/
theorem run_serve (e : E) (exchanges : List Exchange) (p : Progress σ α) :
    (p.run enc.serve).run (e, exchanges) =
      (((p.attend enc e).value, (p.attend enc e).state),
        ((p.attend enc e).encoder, exchanges ++ (p.attend enc e).exchanges)) := by
  induction p generalizing e exchanges with
  | finished =>
    rw [Progress.attend_finished, List.append_nil]
    rfl
  | paused s resume ih => exact ih s e exchanges
  | calling call s resume ih =>
    rcases answered : enc.answer call e with ⟨⟨answer, time⟩, e'⟩
    have goes : ((Progress.calling call s resume).run enc.serve).run (e, exchanges) =
        ((resume answer time s).run enc.serve).run (e', exchanges ++ [⟨call, answer⟩]) := by
      simp [Progress.run, serve, answered, StateT.run, bind, StateT.bind]
    rw [goes, ih, Progress.attend_calling enc answered]
    simp [Attended.after]

end Encoder
end DeviceRegistry
