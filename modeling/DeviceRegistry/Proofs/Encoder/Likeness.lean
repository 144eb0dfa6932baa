import DeviceRegistry.Proofs.Agreement
import DeviceRegistry.Proofs.Encoder.Attendance
import Mathlib.Data.List.Forall2

/-! Two pieces of work that go the same way side by side. They stop at the same places and make the
same calls, but for the private keys of devices that the calls carry. An encoder that does not look
at these keys attends to both alike. -/
namespace DeviceRegistry

/-- Requests that differ in the private key of the device only. -/
structure StreamRequest.Alike (secret : String → String → Prop) (request request' : StreamRequest) :
    Prop where
  same : request' = { request with devicePrivateKey := request'.devicePrivateKey }
  secret : secret request.devicePrivateKey request'.devicePrivateKey

/-- Exchanges that differ in the private key of the device only. -/
inductive Exchange.Alike (secret : String → String → Prop) : Exchange → Exchange → Prop where
  | created {request request' : StreamRequest} (requests : request.Alike secret request')
      (answer : Except EncoderError String) :
      Exchange.Alike secret ⟨.createStream request, answer⟩ ⟨.createStream request', answer⟩
  | deleted (uid : String) (answer : Except EncoderError Unit) :
      Exchange.Alike secret ⟨.deleteStream uid, answer⟩ ⟨.deleteStream uid, answer⟩

theorem Exchange.Alike.eq {exchange exchange' : Exchange} (h : exchange.Alike Eq exchange') :
    exchange' = exchange := by
  cases h with
  | created requests =>
    rw [requests.same, ← requests.secret]
  | deleted => rfl

/-- The encoder does not look at the private keys of devices. -/
def Encoder.Blind {E : Type} (enc : Encoder E) : Prop :=
  ∀ request key e, enc.answer (.createStream { request with devicePrivateKey := key }) e =
    enc.answer (.createStream request) e

namespace Progress

variable {σ E α α' β β' : Type} {state : σ → σ → Prop} {value : α → α' → Prop}
  {value' : β → β' → Prop} {secret : String → String → Prop}

/-- Both stand at the same place, in related states, and go on alike from any related states. -/
inductive Matches (state : σ → σ → Prop) (value : α → α' → Prop) (secret : String → String → Prop) :
    Progress σ α → Progress σ α' → Prop where
  | finished {a : α} {a' : α'} {s s' : σ} (values : value a a') (states : state s s') :
      Matches state value secret (.finished a s) (.finished a' s')
  | paused {s s' : σ} {resume : σ → Progress σ α} {resume' : σ → Progress σ α'}
      (rest : ∀ t t', state t t' → Matches state value secret (resume t) (resume' t'))
      (states : state s s') :
      Matches state value secret (.paused s resume) (.paused s' resume')
  | created {request request' : StreamRequest} {s s' : σ}
      {resume : Except EncoderError String → Duration → σ → Progress σ α}
      {resume' : Except EncoderError String → Duration → σ → Progress σ α'}
      (requests : request.Alike secret request')
      (rest : ∀ answer time t t', state t t' →
        Matches state value secret (resume answer time t) (resume' answer time t'))
      (states : state s s') :
      Matches state value secret (.calling (.createStream request) s resume)
        (.calling (.createStream request') s' resume')
  | deleted {uid : String} {s s' : σ}
      {resume : Except EncoderError Unit → Duration → σ → Progress σ α}
      {resume' : Except EncoderError Unit → Duration → σ → Progress σ α'}
      (rest : ∀ answer time t t', state t t' →
        Matches state value secret (resume answer time t) (resume' answer time t'))
      (states : state s s') :
      Matches state value secret (.calling (.deleteStream uid) s resume)
        (.calling (.deleteStream uid) s' resume')

theorem Matches.bind {p : Progress σ α} {q : Progress σ α'} (h : p.Matches state value secret q)
    {f : α → σ → Progress σ β} {g : α' → σ → Progress σ β'}
    (rest : ∀ a a' s s', value a a' → state s s' → (f a s).Matches state value' secret (g a' s')) :
    (p.bind f).Matches state value' secret (q.bind g) := by
  induction h with
  | finished values states => exact rest _ _ _ _ values states
  | paused _ states ih => exact .paused ih states
  | created requests _ states ih => exact .created requests ih states
  | deleted _ states ih => exact .deleted ih states

end Progress

/-- Work that was attended to alike, by encoders that are in the same state afterwards. -/
structure Attended.Alike {σ E α α' : Type} (state : σ → σ → Prop) (value : α → α' → Prop)
    (secret : String → String → Prop) (a : Attended σ E α) (a' : Attended σ E α') : Prop where
  value : value a.value a'.value
  state : state a.state a'.state
  encoder : a'.encoder = a.encoder
  exchanges : List.Forall₂ (Exchange.Alike secret) a.exchanges a'.exchanges

theorem Progress.Matches.attend {σ E α α' : Type} {state : σ → σ → Prop} {value : α → α' → Prop}
    {secret : String → String → Prop} {enc : Encoder E} (blind : enc.Blind) {p : Progress σ α}
    {q : Progress σ α'} (h : p.Matches state value secret q) (e : E) :
    (p.attend enc e).Alike state value secret (q.attend enc e) := by
  induction h generalizing e with
  | finished values states => exact ⟨values, states, rfl, .nil⟩
  | paused _ states ih =>
    obtain ⟨values, states, encoder, exchanges⟩ := ih _ _ states e
    exact ⟨values, states, encoder, exchanges⟩
  | @created request request' s s' resume resume' requests _ states ih =>
    rcases answered : enc.answer (.createStream request) e with ⟨⟨answer, time⟩, e'⟩
    have answered' : enc.answer (.createStream request') e = ((answer, time), e') := by
      rw [requests.same]
      exact (blind request request'.devicePrivateKey e).trans answered
    obtain ⟨values, states, encoder, exchanges⟩ := ih answer time _ _ states e'
    rw [attend_calling enc answered, attend_calling enc answered']
    exact ⟨values, states, encoder, .cons (.created requests answer) exchanges⟩
  | @deleted uid s s' resume resume' _ states ih =>
    rcases answered : enc.answer (.deleteStream uid) e with ⟨⟨answer, time⟩, e'⟩
    obtain ⟨values, states, encoder, exchanges⟩ := ih answer time _ _ states e'
    rw [attend_calling enc answered, attend_calling enc answered]
    exact ⟨values, states, encoder, .cons (.deleted uid answer) exchanges⟩

end DeviceRegistry
