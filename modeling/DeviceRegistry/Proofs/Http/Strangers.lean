import DeviceRegistry.Proofs.Http.Answers

/-! Who does not own a device learns nothing about it. To him the answer is the same whether there is
no such device or it is somebody else's, and his request leaves everything as it is. -/
namespace DeviceRegistry.Http
open Registrar

/-- The request asks to have a device revoked. -/
structure Request.Revokes (r : Request) (q : RevokeRequest) : Prop where
  method : r.method = "POST"
  route : Route.ofPath? r.path = some .revoke
  asks : r.decode RevokeRequest.shape = .ok q

/-- The request asks to have a device revoked that nobody with its key owns, at a registrar whose store
is what some use of it has left behind, in which only finite places were inserted. -/
structure Stranger (s : Registrar Store) (r : Request) : Prop where
  reached : ∃ steps, s.store.tables = (Session.fresh.run steps).committed ∧
    (∀ d, .work (.insertDevice d) ∈ steps → d.IsFinite) ∧
    ∀ sequence, Session.fresh.issuesOf sequence steps < UInt64.size
  asks : ∃ q, r.Revokes q ∧ q.deviceToken ≠ "" ∧ q.userPublicKey ≠ "" ∧
    ∀ id device owner, ¬ s.store.tables.Grants q.deviceToken q.userPublicKey id device owner

variable {E E' : Type} {s s' : Registrar Store} {r r' : Request}

theorem revoke_routed {q : RevokeRequest} (revokes : r.Revokes q) :
    routed r s = answer "RevokeDevice" (revoke q) RevokeResponse.toJson s := by
  have posted : Route.revoke.answers r.method = true := by rw [revokes.method]; rfl
  rw [routed_known revokes.route posted, Route.respond, handle, revokes.asks]

/-- What a stranger is told. -/
def noDevice : Problem := .internal "failed to delete device: device not found"

theorem Stranger.respond (stranger : Stranger s r) (freshId : String) (enc : Encoder E) (e : E) :
    let done := (respond freshId r s).attend enc e
    done.value.status = 500 ∧ done.value.body = noDevice.toJson.write ∧ Untouched s done := by
  obtain ⟨⟨steps, reached, finite, few⟩, q, revokes, token, key, none⟩ := stranger
  obtain ⟨c, held, each⟩ := (Session.run_finite finite few).committed
  rw [← reached] at held
  simp only [held.grants_iff each.devices] at none
  have valid := RevokeRequest.validate_ok.2 ⟨token, key⟩
  have options : r.method ≠ "OPTIONS" := by
    rw [revokes.method]
    decide
  have head : r.method ≠ "HEAD" := by
    rw [revokes.method]
    decide
  obtain ⟨status, body, state, exchanges⟩ := @respond_attend _ enc e s r freshId options head
  rw [revoke_routed revokes] at status body state exchanges
  obtain ⟨value, unmoved, exchanges'⟩ :=
    @answer_attend _ _ enc e s "RevokeDevice" (revoke q) RevokeResponse.toJson
  obtain ⟨refused, unmoved', -, exchanges''⟩ :=
    revoke_attend_none held each.devices valid none enc e
  rw [refused] at value
  rw [value] at status body
  refine ⟨status, body, ?_, ?_⟩
  · rw [state]
    exact unmoved'.trans unmoved
  · rw [exchanges, exchanges', exchanges'']

/-- Two strangers, who may ask different registrars for different devices, are answered the same, and
neither of them has any effect. For one of them the device may be somebody else's, for the other it may
not exist. -/
theorem strangers_answered_alike (stranger : Stranger s r) (stranger' : Stranger s' r')
    (freshId freshId' : String) (enc : Encoder E) (e : E) (enc' : Encoder E') (e' : E') :
    let done := (respond freshId r s).attend enc e
    let done' := (respond freshId' r' s').attend enc' e'
    done'.value.status = done.value.status ∧ done'.value.body = done.value.body ∧
      Untouched s done ∧ Untouched s' done' := by
  obtain ⟨status, body, untouched⟩ := stranger.respond freshId enc e
  obtain ⟨status', body', untouched'⟩ := stranger'.respond freshId' enc' e'
  exact ⟨status'.trans status.symm, body'.trans body.symm, untouched, untouched'⟩

theorem posted_revokes {q : RevokeRequest} (short : q.toJson.write.length ≤ bodyLimit) :
    (posted .revoke q.toJson).Revokes q where
  method := rfl
  route := by
    show Route.ofPath? (targetPath Route.revoke.path) = _
    decide +kernel
  asks := posted_decode short q.reads

/-- Somebody asks for a meter with a key of his own: where the meter is Alice's, and where there is
none. -/
theorem strangers_answered_alike_meter : ∃ s s' : Registrar Store,
    let r := posted .revoke (RevokeRequest.toJson ⟨"meter", "another"⟩)
    let done := (respond "1" r s).attend willing ()
    let done' := (respond "2" r s').attend willing ()
    (∃ id device owner, s.store.tables.Grants "meter" "public" id device owner) ∧
    s'.store.tables = {} ∧ Stranger s r ∧ Stranger s' r ∧
    done'.value.status = done.value.status ∧ done'.value.body = done.value.body ∧
    Untouched s done ∧ Untouched s' done' := by
  obtain ⟨steps, s, reached, finite, few, id, device, owner, granted⟩ := alice_can_revoke
  have revokes : (posted .revoke (RevokeRequest.toJson ⟨"meter", "another"⟩)).Revokes
      ⟨"meter", "another"⟩ := posted_revokes (by decide +kernel)
  have stranger : Stranger s (posted .revoke (RevokeRequest.toJson ⟨"meter", "another"⟩)) := by
    refine ⟨⟨steps, reached, finite, few⟩, _, revokes, by decide, by decide, ?_⟩
    intro id' device' owner' granted'
    obtain ⟨c, held, each⟩ := (Session.run_finite finite few).committed
    rw [← reached] at held
    exact absurd (granted.same_key held each.devices granted') (by decide)
  let s' : Registrar Store := { s with store.tables := {} }
  have few' : ∀ sequence, Session.fresh.issuesOf sequence [] < UInt64.size := fun sequence =>
    Nat.lt_of_le_of_lt (Session.issuesOf_le_length ..) (by decide)
  have stranger' : Stranger s' (posted .revoke (RevokeRequest.toJson ⟨"meter", "another"⟩)) := by
    refine ⟨⟨[], rfl, nofun, few'⟩, _, revokes, by decide, by decide, ?_⟩
    intro id' device' owner' granted'
    exact nomatch granted'.there
  exact ⟨s, s', ⟨id, device, owner, granted⟩, rfl, stranger, stranger',
    strangers_answered_alike stranger stranger' "1" "2" willing () willing ()⟩

end DeviceRegistry.Http
