import DeviceRegistry.Proofs.Registrar.RevokeEffect
import DeviceRegistry.Proofs.Registrar.ClaimEffect
import DeviceRegistry.Proofs.Registrar.Soundness

/-! What the registrar files stays readable, and the store refuses it nothing but a token or a uid
that is taken and a device that is not there. -/
namespace DeviceRegistry
open StoredRow

/-- Every row can be read. Users have uids, and their keys open; devices have tokens and places. -/
structure Store.Intact (s : Store) : Prop where
  users : ∀ id b, s.tables.users.get? id = some b →
    ∃ row : UserRow, decode b = .ok row ∧ row.uid ≠ "" ∧ row.Opens s.cipher
  devices : ∀ id b, s.tables.devices.get? id = some b →
    ∃ row : DeviceRow, decode b = .ok row ∧ row.token ≠ "" ∧ row.location.IsPlace
  streams : ∀ id b, s.tables.streams.get? id = some b → ∃ row : StreamRow, decode b = .ok row

theorem Store.Sound.intact {kind : KeyPair → Prop} {s : Store} (h : s.Sound kind) : s.Intact := by
  obtain ⟨c, held, settled, sound⟩ := h
  refine ⟨?_, ?_, ?_⟩
  · intro id b stored
    obtain ⟨row, there, rfl⟩ := held.users.exists_row stored
    exact ⟨row, row.decode_encode, (sound.users id row there).uid, (sound.users id row there).opens⟩
  · intro id b stored
    obtain ⟨row, there, rfl⟩ := held.devices.exists_row stored
    exact ⟨row, DeviceRow.decode_encode (settled.finite id row there),
      (sound.devices id row there).token, (sound.devices id row there).place⟩
  · intro id b stored
    obtain ⟨row, -, rfl⟩ := held.streams.exists_row stored
    exact ⟨row, row.decode_encode⟩

namespace Registrar

/-- What the store refuses to a call, and why. -/
inductive StoreRefusal (t : Tables) (exchanges : List Exchange) : Call → Attempt → StoreError → Prop
    where
  | token {r : ClaimRequest} (taken : InUse DeviceRow t.devices r.deviceToken) :
      StoreRefusal t exchanges (.claim r) .insertDevice (.duplicate "devices.token")
  /-- The encoder gave the stream a uid that is recorded already. -/
  | uid {r : ClaimRequest} {request : StreamRequest} {uid : String}
      (created : exchanges = [⟨.createStream request, .ok uid⟩])
      (taken : InUse StreamRow t.streams uid) :
      StoreRefusal t exchanges (.claim r) .recordStream (.duplicate "streams.uid")
  | device {r : RevokeRequest}
      (none : ∀ id device owner, ¬ t.Grants r.deviceToken r.userPublicKey id device owner) :
      StoreRefusal t exchanges (.revoke r) .deleteDevice (.notFound "device")

variable {E : Type} {enc : Encoder E} {e : E} {s : Registrar Store} {c : Contents}
  {attempt : Option Attempt} {failure : StoreError}

theorem ClaimEnds.refusal {r : ClaimRequest}
    {done : Attended (Registrar Store) E (Outcome ClaimResponse)} (h : ClaimEnds enc e r s done)
    (held : s.store.tables.Holds c)
    (opens : ∀ id row, c.users.get? id = some row → row.Opens s.store.cipher)
    (ready : s.store.entropy.Ready) (short : s.keys.Makes fun keys => Sealable keys.privateKey)
    (spare : ∀ turn ∈ done.turns, Spare turn.1.store.tables turn.2.store.tables)
    (failed : done.value = .error (.internal attempt (.store failure))) :
    ∃ a, attempt = some a ∧ StoreRefusal s.store.tables done.exchanges (.claim r) a failure := by
  cases h with
  | refused same none early =>
    obtain rfl := Except.error.inj failed
    rcases early with ⟨invalid, -⟩ | ⟨a, keys, other⟩
    · obtain ⟨argument, message, other⟩ := ClaimRequest.validate_error invalid
      cases other
    · cases other
  | @unregistered location userKeys deviceKeys error start t begins same unregistered =>
    obtain rfl := Except.error.inj failed
    have spare := spare (start, t) (by simp)
    rw [same] at unregistered spare
    have outcome := Registers.of_eq held unregistered spare
    generalize t.store = store at outcome
    cases outcome with
    | refused _ _ obstacle =>
      obtain ⟨error, id, row, there, mine⟩ := obstacle.is_taken opens ready
        (short _ _ begins.userKeys) (short _ _ begins.deviceKeys)
      cases error
      exact ⟨_, rfl, .token ⟨id, row, held.devices.get?_row there, mine⟩⟩
  | uncreated => cases failed
  | @unrecorded location userKeys deviceKeys d uid error time e' start a b t u begins same registered
      asked heard unrecorded =>
    obtain rfl := Except.error.inj failed
    have first := spare (start, a) (by simp)
    have last := spare (b, t) (by simp)
    rw [same] at registered first
    rw [heard] at unrecorded last
    obtain ⟨error, taken⟩ :=
      recordStream_register held begins.valid registered first unrecorded last
    cases error
    exact ⟨_, rfl, .uid rfl taken⟩
  | claimed => cases failed

/-- Whenever a claim is undone, its device is there to be removed. -/
theorem ClaimEnds.clear {r : ClaimRequest}
    {done : Attended (Registrar Store) E (Outcome ClaimResponse)} (h : ClaimEnds enc e r s done)
    (held : s.store.tables.Holds c)
    (spare : ∀ turn ∈ done.turns, Spare turn.1.store.tables turn.2.store.tables) :
    Clear s done.state := by
  cases h with
  | refused _ _ _ clear => exact clear
  | unregistered _ _ _ clear => exact clear
  | @uncreated location userKeys deviceKeys d failure time e' start a b t begins same registered asked
      heard clear =>
    have first := spare (start, a) (by simp)
    rw [same] at registered first
    obtain ⟨_, _, _, gone, v, _, -, removed, -⟩ := removeDevice_registered held begins.valid
      registered first (congrArg Store.tables heard)
    exact clear gone v removed
  | @unrecorded location userKeys deviceKeys d uid error time e' start a b u t begins same registered
      asked heard unrecorded clear =>
    have first := spare (start, a) (by simp)
    rw [same] at registered first
    have kept := (transaction_eq_error unrecorded).trans (congrArg Store.tables heard)
    obtain ⟨_, _, _, gone, v, _, -, removed, -⟩ := removeDevice_registered held begins.valid
      registered first kept
    exact clear gone v removed
  | claimed _ _ _ _ _ _ clear => exact clear

/-- A revoke is refused by the store if there is no device to remove, and for no other reason. -/
theorem revoke_refusal (held : s.store.tables.Holds c)
    (finite : ∀ id row, c.devices.get? id = some row → row.IsFinite) (enc : Encoder E) (e : E)
    (r : RevokeRequest) :
    let done := (revoke r s).attend enc e
    Clear s done.state ∧
      ∀ attempt failure, done.value = .error (.internal attempt (.store failure)) →
        ∃ a, attempt = some a ∧
          StoreRefusal s.store.tables done.exchanges (.revoke r) a failure := by
  cases valid : r.validate with
  | error error =>
    obtain ⟨argument, message, rfl⟩ := RevokeRequest.validate_error valid
    rw [revoke_eq, valid]
    exact ⟨.of_same rfl, nofun⟩
  | ok =>
    have outcome := removeDevice_outcome held r.deviceToken r.userPublicKey
    generalize removed : removeDevice r.deviceToken r.userPublicKey s.store = result at outcome
    cases outcome with
    | refused error none =>
      obtain ⟨value, -, clear, -⟩ := revoke_attend_none held finite valid none enc e
      refine ⟨clear, ?_⟩
      intro attempt failure failed
      rw [value] at failed
      cases failed
      refine ⟨_, rfl, .device ?_⟩
      simp only [held.grants_iff finite]
      exact none
    | removed =>
      obtain ⟨s', same, clear, run⟩ := @revoke_attend _ s r enc e valid
      rw [← same.store] at removed
      obtain ⟨-, swept, clear'⟩ := removing_attend_ok enc e removed
      rw [run]
      refine ⟨clear.trans clear', ?_⟩
      intro attempt failure failed
      change ((removing r s').attend enc e).value = _ at failed
      rw [failed] at swept
      obtain ⟨e, other⟩ := swept.failure
      cases other

/-- After any turns of any calls every row can be read, and so it is after a call that comes next.
No claim fails to be undone. The store refuses a token or a uid that is taken and a device that is not
there, and nothing else, as long as there is randomness and the private keys are short enough to be
sealed, as generated ones are. -/
theorem Service.run_intact {start : Registrar Store} {history : List Turn} {service : Service}
    (fresh : start.store.Fresh) (run : Service.Run start history service) (enc : Encoder E) (e : E)
    (call : Call)
    (few : ∀ q, issuesOf q (history ++ ((call.work service.registrar).attend enc e).turns) <
      UInt64.size) :
    let s := service.registrar
    let done := (call.work s).attend enc e
    s.store.Intact ∧ done.state.store.Intact ∧ Clear s done.state ∧
      (s.store.entropy.Ready → (s.keys.Makes fun keys => Sealable keys.privateKey) →
        ∀ attempt failure, done.value = .error (.internal attempt (.store failure)) →
          ∃ a, attempt = some a ∧ StoreRefusal s.store.tables done.exchanges call a failure) := by
  have makes : start.keys.Makes fun _ => True := fun _ _ _ => trivial
  obtain ⟨before, after, -, spare, -⟩ := run.attended fresh makes enc e call few
  refine ⟨before.intact, after.intact, ?_⟩
  obtain ⟨c, held, settled, sound⟩ := before
  cases call with
  | claim r =>
    have ends := claim_attend enc e r service.registrar
    refine ⟨ends.clear held spare, ?_⟩
    intro ready short attempt failure failed
    exact ends.refusal held (fun id row there => (sound.users id row there).opens) ready short spare
      failed
  | revoke r =>
    obtain ⟨clear, refusal⟩ := revoke_refusal held settled.finite enc e r
    exact ⟨clear, fun _ _ => refusal⟩

/-- Alice claims a spare device twice. -/
theorem Service.run_intact_alice :
    ∃ (start : Registrar Store) (history : List Turn) (service : Service) (call : Call),
      let s := service.registrar
      let done := (call.work s).attend willing ()
      call = .claim (aliceClaims "spare") ∧ start.store.Fresh ∧ Service.Run start history service ∧
      (∀ q, issuesOf q (history ++ done.turns) < UInt64.size) ∧ s.store.entropy.Ready ∧
      (s.keys.Makes fun keys => Sealable keys.privateKey) ∧
      s.store.Intact ∧ done.state.store.Intact ∧ Clear s done.state ∧
      ∀ attempt failure, done.value = .error (.internal attempt (.store failure)) →
        ∃ a, attempt = some a ∧ StoreRefusal s.store.tables done.exchanges call a failure := by
  obtain ⟨start, fresh, -, fit⟩ := exists_fresh numberedKeys numberedKeys_usable
  obtain ⟨a, a', b, b', u, t, response, user, device, stream, c, done, -, -, -, fit⟩ :=
    @alice_claims_first _ fit "spare" (by decide)
  obtain ⟨history, service, run, length, rfl⟩ : ∃ (history : List Turn) (service : Service),
      Service.Run start history service ∧ history.length = 4 ∧ service.registrar = t :=
    ⟨_, _, Service.Run.alone (.step .start (.arrived _ (.claim (aliceClaims "spare")))) done, rfl,
      rfl⟩
  have small : 8 < UInt64.size := by decide
  have own := (claim_attend willing () (aliceClaims "spare") service.registrar).length
  obtain ⟨call, claims, own⟩ : ∃ call : Call, call = .claim (aliceClaims "spare") ∧
      ((call.work service.registrar).attend willing ()).turns.length ≤ 4 := ⟨_, rfl, own⟩
  have few : ∀ q, issuesOf q (history ++ ((call.work service.registrar).attend willing ()).turns) <
      UInt64.size := by
    intro q
    have bound := issuesOf_le_length q
      (history ++ ((call.work service.registrar).attend willing ()).turns)
    rw [List.length_append, length] at bound
    omega
  have short : service.registrar.keys.Makes fun keys => Sealable keys.privateKey := by
    intro n pair made
    obtain ⟨pair', made', usable⟩ := fit.keys n
    rw [made] at made'
    exact Except.ok.inj made' ▸ usable.sealable
  obtain ⟨before, after, clear, refusal⟩ := Service.run_intact fresh run willing () call few
  exact ⟨start, history, service, call, claims, fresh, run, few, fit.ready, short, before, after,
    clear, refusal fit.ready short⟩

end Registrar
end DeviceRegistry
