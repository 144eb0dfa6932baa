import DeviceRegistry.Proofs.Encoder.Attendance
import Mathlib.Data.Set.Insert

/-! Encoders that keep account of their streams. Which streams live after some work is told by the
calls that were made and by how they were answered. -/
namespace DeviceRegistry

/-- An encoder that creates streams with uids that are new to it and deletes the streams that it is
asked to delete. It may fail at any call, and then nothing has changed. -/
structure Keeper (E : Type) extends Encoder E where
  live : E → Set String
  created : ∀ {request : StreamRequest} {e e' : E} {uid : String} {time : Duration},
    answer (.createStream request) e = ((.ok uid, time), e') →
      uid ∉ live e ∧ live e' = insert uid (live e)
  deleted : ∀ {uid : String} {e e' : E} {time : Duration},
    answer (.deleteStream uid) e = ((.ok (), time), e') → live e' = live e \ {uid}
  failed : ∀ {call : EncoderCall} {e e' : E} {failure : EncoderError} {time : Duration},
    answer call e = ((.error failure, time), e') → live e' = live e

/-- The streams that live after an exchange. -/
def Exchange.effect (live : Set String) : Exchange → Set String
  | ⟨.createStream _, .ok uid⟩ => insert uid live
  | ⟨.deleteStream uid, .ok ()⟩ => live \ {uid}
  | ⟨_, .error _⟩ => live

namespace Keeper

variable {E σ α : Type} (keeper : Keeper E)

theorem live_answer {call : EncoderCall} {answer : Except EncoderError call.Answer}
    {time : Duration} {e e' : E} (answered : keeper.answer call e = ((answer, time), e')) :
    keeper.live e' = Exchange.effect (keeper.live e) ⟨call, answer⟩ := by
  cases answer with
  | error failure => cases call <;> exact keeper.failed answered
  | ok a =>
    cases call with
    | createStream request => exact (keeper.created answered).2
    | deleteStream uid => exact keeper.deleted answered

/-- Whatever work the encoder attends to, the exchanges account for the streams that live in the
end. -/
theorem live_attend (e : E) (p : Progress σ α) :
    keeper.live (p.attend keeper.toEncoder e).encoder =
      (p.attend keeper.toEncoder e).exchanges.foldl Exchange.effect (keeper.live e) := by
  induction p generalizing e with
  | finished => rfl
  | paused s resume ih => exact ih s e
  | calling call s resume ih =>
    rcases answered : keeper.answer call e with ⟨⟨answer, time⟩, e'⟩
    have first := keeper.live_answer answered
    rw [Progress.attend_calling keeper.toEncoder answered, Attended.after, List.singleton_append,
      List.foldl_cons, ← first]
    exact ih answer time s e'

end Keeper
end DeviceRegistry
