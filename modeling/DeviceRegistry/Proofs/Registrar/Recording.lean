import DeviceRegistry.Proofs.Registrar.Accounting
import DeviceRegistry.Proofs.Store.Naming

/-! The streams that claims and revokes add to the store, turn by turn. A claim adds the one that the
encoder created for it, and neither adds any other. -/
namespace DeviceRegistry
open Registrar

/-- A stream that was created in the exchange has a uid of which `named` is true. -/
def Exchange.Names (named : String → Prop) (x : Exchange) : Prop :=
  ∀ request uid, x = ⟨.createStream request, .ok uid⟩ → named uid

/-- The store holds the streams of before, and others only under uids of which `named` is true. -/
def Registrar.GainsStreams (named : String → Prop) (s t : Registrar Store) : Prop :=
  s.store.tables.GainsStreams named t.store.tables

theorem Registrar.GainsStreams.of_same {named : String → Prop} {s t : Registrar Store}
    (same : t.store = s.store) : s.GainsStreams named t := by
  rw [Registrar.GainsStreams, same]
  exact .refl _

namespace Progress

variable {named : String → Prop} {α β : Type}

/-- No turn adds other streams than `named` tells, as long as the encoder creates no others. -/
def Records (named : String → Prop) : Progress (Registrar Store) α → Prop
  | finished _ _ => True
  | paused _ resume => ∀ s, s.GainsStreams named (resume s).state ∧ (resume s).Records named
  | calling call _ resume => ∀ answer time s, Exchange.Names named ⟨call, answer⟩ →
    s.GainsStreams named (resume answer time s).state ∧ (resume answer time s).Records named

theorem Records.bind {p : Progress (Registrar Store) α}
    {f : α → Registrar Store → Progress (Registrar Store) β} (h : p.Records named)
    (same : ∀ a s, (f a s).state.store = s.store) (rest : ∀ a s, (f a s).Records named) :
    (p.bind f).Records named := by
  have store (p : Progress (Registrar Store) α) : (p.bind f).state.store = p.state.store :=
    state_bind Registrar.store same
  have gains {s : Registrar Store} {p : Progress (Registrar Store) α}
      (h : s.GainsStreams named p.state) : s.GainsStreams named (p.bind f).state := by
    rw [Registrar.GainsStreams, store]
    exact h
  induction p with
  | finished a s => exact rest a s
  | paused s resume ih => exact fun s => ⟨gains (h s).1, ih s (h s).2⟩
  | calling call s resume ih =>
    intro answer time s names
    obtain ⟨first, later⟩ := h answer time s names
    exact ⟨gains first, ih answer time s later⟩

end Progress

namespace Registrar

variable {named : String → Prop} {α : Type}

theorem undoing_records (token publicKey : String) (e : RegistrationError) (s : Registrar Store) :
    s.GainsStreams named (undoing token publicKey e s : Progress _ (Outcome α)).state ∧
      (undoing token publicKey e s : Progress _ (Outcome α)).Records named := by
  have gains := @removeDevice_gains named token publicKey s.store
  rw [undoing]
  cases removed : removeDevice token publicKey s.store with
  | ok => exact ⟨by rw [removed] at gains; exact gains, trivial⟩
  | error => exact ⟨by rw [removed] at gains; exact gains, trivial⟩

theorem recording_records (r : ClaimRequest) (d : Registered) {uid : String} (name : named uid)
    (s : Registrar Store) :
    s.GainsStreams named (recording r d uid s).state ∧ (recording r d uid s).Records named := by
  have gains := recordStream_gains d.device.id name s.store
  rw [recording]
  cases recorded : recordStream d.device.id uid s.store with
  | ok => exact ⟨by rw [recorded] at gains; exact gains, trivial⟩
  | error =>
    exact ⟨by rw [recorded] at gains; exact gains, fun t => undoing_records _ _ _ t⟩

theorem answered_records (r : ClaimRequest) (d : Registered) {answer : Except EncoderError String}
    (names : ∀ uid, answer = .ok uid → named uid) (s : Registrar Store) :
    s.GainsStreams named (answered r d answer s).state ∧ (answered r d answer s).Records named := by
  cases answer with
  | ok uid => exact ⟨.of_same rfl, fun t => recording_records r d (names uid rfl) t⟩
  | error e => exact ⟨.of_same rfl, fun t => undoing_records _ _ _ t⟩

theorem registering_records (r : ClaimRequest) (location : Location) (userKeys deviceKeys : KeyPair)
    (s : Registrar Store) :
    s.GainsStreams named (registering r location userKeys deviceKeys s).state ∧
      (registering r location userKeys deviceKeys s).Records named := by
  have gains := @register_gains named r location userKeys deviceKeys s.store
  rw [registering]
  cases registered : register r location userKeys deviceKeys s.store with
  | ok d =>
    rw [registered] at gains
    refine ⟨gains, fun answer time t names => ?_⟩
    have named (uid : String) (given : answer = .ok uid) : named uid := names _ uid (by rw [given])
    exact answered_records r d named
      { t with metrics := t.metrics.observe .createStream (.of answer) time }
  | error => exact ⟨by rw [registered] at gains; exact gains, trivial⟩

theorem claim_records (r : ClaimRequest) (s : Registrar Store) : (claim r s).Records named := by
  rw [claim_eq]
  cases r.validate with
  | error => trivial
  | ok location =>
    dsimp only
    generalize (if s.verbose then { s with log := s.log ++ [.claiming r] } else s) = s'
    cases s'.keys.pair s'.keys.used with
    | error => trivial
    | ok userKeys =>
      dsimp only
      cases s'.keys.pair (s'.keys.used + 1) with
      | error => trivial
      | ok deviceKeys => exact registering_records r location userKeys deviceKeys

theorem deleteStreams_records (token : String) (streams : List StreamRow) (s : Registrar Store) :
    (deleteStreams token streams s : Progress _ (Outcome Unit)).Records named := by
  induction streams generalizing s with
  | nil => trivial
  | cons stream rest ih =>
    rw [deleteStreams, measured_bind]
    intro answer time t _
    cases answer with
    | ok done =>
      obtain ⟨state, -⟩ := @deleteStreams_turns (fun _ => True) token rest
        { t with metrics := t.metrics.observe .deleteStream (.of (.ok done)) time }
      have store := congrArg Registrar.store state
      exact ⟨.of_same store, ih _⟩
    | error e => exact ⟨.of_same rfl, trivial⟩

theorem removing_records (r : RevokeRequest) (s : Registrar Store) :
    s.GainsStreams named (removing r s).state ∧ (removing r s).Records named := by
  have gains := @removeDevice_gains named r.deviceToken r.userPublicKey s.store
  rw [removing]
  cases removed : removeDevice r.deviceToken r.userPublicKey s.store with
  | error => exact ⟨by rw [removed] at gains; exact gains, trivial⟩
  | ok d store =>
    rw [removed] at gains
    obtain ⟨same, -⟩ :=
      @deleteStreams_turns (fun _ => True) r.deviceToken d.streams { s with store }
    have records := @deleteStreams_records named r.deviceToken d.streams { s with store }
    dsimp only
    rw [map_eq]
    refine ⟨?_, records.bind (fun _ _ => rfl) fun _ _ => trivial⟩
    rw [Progress.state_map, same]
    exact gains

theorem revoke_records (r : RevokeRequest) (s : Registrar Store) : (revoke r s).Records named := by
  rw [revoke_eq]
  cases r.validate with
  | error => trivial
  | ok => exact removing_records r

end Registrar
end DeviceRegistry
