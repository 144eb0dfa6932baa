import DeviceRegistry.Proofs.Registrar.FailedClaim

/-! What undoing a claim removes. It looks for the device by its token and the owner's key, not by
the id that was registered, so that what others did meanwhile decides what it finds. -/
namespace DeviceRegistry
open StoredRow

/-- From `t` to `t'` nothing went but the device `own`, its streams and perhaps its owner. -/
structure OnlyGone (own : UInt64) (t t' : Tables) : Prop where
  devices : ∀ id (row : DeviceRow), id ≠ own → Stores t.devices id row → Stores t'.devices id row
  streams : ∀ id (row : StreamRow), row.deviceId ≠ own → Stores t.streams id row →
    Stores t'.streams id row
  owners : ∀ id (row : DeviceRow), id ≠ own → Stores t.devices id row →
    t'.users.get? row.userId = t.users.get? row.userId

/-- A device other than `own` has the token, and its owner has the public key. -/
def TakenOver (own : UInt64) (token publicKey : String) (t : Tables) : Prop :=
  ∃ id, ∃ row : DeviceRow, ∃ owner : UserRow, id ≠ own ∧ Stores t.devices id row ∧
    row.token = token ∧ Stores t.users row.userId owner ∧ owner.publicKey = publicKey

theorem OnlyGone.of_tables {own : UInt64} {t t' : Tables} (same : t' = t) : OnlyGone own t t' := by
  subst same
  exact ⟨fun _ _ _ stored => stored, fun _ _ _ stored => stored, fun _ _ _ _ => rfl⟩

theorem Contents.Removed.onlyGone {own owner : UInt64} {t t' : Tables} {c c' : Contents}
    (h : c.Removed own owner c') (held : t.Holds c) (held' : t'.Holds c') : OnlyGone own t t' := by
  refine ⟨?_, ?_, ?_⟩
  · intro id row other stored
    obtain ⟨row', there, same⟩ := held.devices.of_stores stored
    rw [Stores, ← same]
    exact held'.devices.get?_row ((h.devices_get? other).trans there)
  · intro id row other stored
    obtain ⟨row', there, same⟩ := held.streams.of_stores stored
    obtain rfl := StreamRow.encode_injective same
    exact held'.streams.get?_row (h.streams_get? there other)
  · intro id row other stored
    obtain ⟨row', there, same⟩ := held.devices.of_stores stored
    have kept := h.users_get? there other
    rw [DeviceRow.userId_eq same] at kept
    rw [held'.users.stored, kept, held.users.stored]

/-- A device that was taken over is what the token and the key give access to. -/
theorem TakenOver.grants {own : UInt64} {token publicKey : String} {t : Tables} {c : Contents}
    (h : TakenOver own token publicKey t) (held : t.Holds c) (settled : c.Settled) :
    ∃ id device owner, id ≠ own ∧ c.Grants token publicKey id device owner := by
  obtain ⟨id, row, owner, other, stored, mine, storedOwner, key⟩ := h
  obtain ⟨device, there, same⟩ := held.devices.of_stores stored
  obtain ⟨user, known, sameOwner⟩ := held.users.of_stores storedOwner
  obtain rfl := UserRow.encode_injective sameOwner
  rw [← DeviceRow.userId_eq same] at known
  exact ⟨id, device, user, other, there, (TellsKey.key_eq same).trans mine,
    settled.finite id device there, known, key⟩

theorem Contents.Grants.takenOver {own id : UInt64} {token publicKey : String} {t : Tables}
    {c : Contents} {device : DeviceRow} {owner : UserRow}
    (h : c.Grants token publicKey id device owner) (held : t.Holds c) (other : id ≠ own) :
    TakenOver own token publicKey t :=
  ⟨id, device, owner, other, held.devices.get?_row h.there, h.token, held.users.get?_row h.owned,
    h.key⟩

namespace Registrar

/-- Removing a device by token and key removes `own` at most, unless another one was taken over. -/
theorem removeDevice_onlyGone_iff {s : Store} (settled : s.Settled) (own : UInt64)
    (token publicKey : String) :
    OnlyGone own s.tables (stateAfter (removeDevice token publicKey s)).tables ↔
      ¬ TakenOver own token publicKey s.tables := by
  obtain ⟨c, held, settled⟩ := settled
  have outcome := removeDevice_outcome held token publicKey
  generalize removeDevice token publicKey s = result at outcome ⊢
  cases outcome with
  | refused e none =>
    apply iff_of_true (.of_tables rfl)
    intro taken
    obtain ⟨id, device, owner, -, granted⟩ := taken.grants held settled
    exact none id device owner granted
  | @removed id device owner streams c' tables granted all removed held' =>
    by_cases mine : id = own
    · subst mine
      apply iff_of_true (removed.onlyGone held held')
      intro taken
      obtain ⟨other, device', owner', ne, granted'⟩ := taken.grants held settled
      exact ne (granted'.unique held granted)
    · refine iff_of_false ?_ (not_not.2 (granted.takenOver held mine))
      intro only
      have kept := only.devices id device mine (held.devices.get?_row granted.there)
      obtain ⟨row, there, -⟩ := held'.devices.of_stores kept
      rw [removed.devices_gone] at there
      contradiction

namespace AliceWaits

variable {start s a a' : Registrar Store} {history : List Turn} {d : Registered} {user : UserRow}
  {spare device : DeviceRow} {c c' : Contents}

/-- While she waits, she may revoke the thermometer. -/
theorem revokes (alice : AliceWaits start s a a' history d user spare device c c') :
    ∃ window t c'', Calls a' window t ∧ window.length = 2 ∧
      c'.Removed device.id device.userId c'' ∧ Fit 3 c'' t := by
  have enrolled := alice.enrolls.enrolled
  have finite := alice.fit.settled.finite _ _ enrolled.device_get?
  have granted := enrolled.grants finite
  rw [alice.enrolls.token] at granted
  have named := alice.fit.named _ _ enrolled.user_get?
  have asked : "thermometer" ≠ "" := by decide
  obtain ⟨streams, turns, t, c'', all, length, run, gone, fit⟩ :=
    @revoke_succeeds _ _ _ alice.fit ⟨"thermometer", user.publicKey⟩
      (RevokeRequest.validate_ok.2 ⟨asked, named⟩) _ _ _ granted {}
  have none : streams = [] := by
    apply List.eq_nil_iff_forall_not_mem.2
    intro row listed
    obtain ⟨there, mine⟩ := (all.mem row).1 listed
    rw [enrolled.streams] at there
    have fresh := Contents.valid_fresh alice.held.valid enrolled.room enrolled.next
    exact alice.held.valid.streams_ne fresh there mine
  refine ⟨_, t, c'', .one (.revoke ⟨"thermometer", user.publicKey⟩) run, ?_, gone, fit⟩
  rw [List.length_cons, length, none]
  rfl

/-- Then she may claim it again, with success. -/
theorem claims_again (alice : AliceWaits start s a a' history d user spare device c c') :
    ∃ window t, Calls a' window t ∧ window.length = 6 ∧ t.store.Settled ∧
      TakenOver d.device.id "thermometer" d.user.keys.publicKey t.store.tables := by
  have enrolled := alice.enrolls.enrolled
  obtain ⟨window, t, c₁, revokes, length, gone, fit⟩ := alice.revokes
  have new : ∀ id row, c₁.devices.get? id = some row → row.token ≠ "thermometer" := by
    intro id row there mine
    have other : id ≠ device.id := by
      rintro rfl
      rw [gone.devices_gone] at there
      cases there
    rw [gone.devices_get? other] at there
    exact other (alice.fit.held.devices.id_eq there enrolled.device_get?
      (mine.trans alice.enrolls.token.symm))
  have newStream : ∀ id row, c₁.streams.get? id = some row → row.uid ≠ "second stream" := by
    intro id row there
    rw [alice.streams id row (gone.old_stream there)]
    decide
  obtain ⟨x, x', y, y', z, u, response, owner, again, stream, c₂, c₃, run, enrolls, attached, -, -,
    fit'⟩ := claim_succeeds fit (by decide) (@aliceClaims_valid "thermometer" (by decide)) new
      newStream {}
  obtain rfl := attached.made
  -- The spare device has kept alice, with her keys.
  have kept : c₂.users.get? user.id = some user := by
    apply enrolls.enrolled.keeps_user fit.held.valid
    rw [← alice.owner, gone.users_get? alice.there alice.other, alice.owner]
    exact enrolled.user_get?
  obtain rfl : owner = user := by
    have owned := enrolls.enrolled.user_get?
    have same := fit'.held.users.id_eq owned kept (enrolls.uid.trans alice.enrolls.uid.symm)
    rw [same, kept] at owned
    exact (Option.some.inj owned).symm
  have later : again.id ≠ device.id := by
    intro same
    have issued := (alice.fit.held.valid.devices _ _ enrolled.device_get?).2
    have issued := UInt64.le_trans issued gone.precedes.devices.le
    rw [← same, enrolls.enrolled.next] at issued
    exact enrolls.enrolled.room.not_le issued
  refine ⟨_, u, revokes.append (.one (.claim (aliceClaims "thermometer")) run), ?_,
    fit'.settledStore, again.id, again, owner, ?_, ?_, enrolls.token, ?_, alice.key.symm⟩
  · rw [List.length_append, length]
    rfl
  · rw [alice.id]
    exact later
  · exact fit'.held.devices.get?_row enrolls.enrolled.device_get?
  · rw [enrolls.enrolled.owner]
    exact fit'.held.users.get?_row kept

end AliceWaits

/-- The encoder creates no stream for alice's thermometer. Meanwhile she revokes it and claims it
again, with success. -/
theorem alice_claims_again :
    ∃ (start s a waits u t : Registrar Store) (history window : List Turn) (d : Registered),
      start.store.Fresh ∧ Calls start history s ∧
      (claim (aliceClaims "thermometer") s).Reaches Calls [(a, waits)]
        (waiting (aliceClaims "thermometer") aliceStands d waits) ∧
      (waiting (aliceClaims "thermometer") aliceStands d waits).Reaches Calls (window ++ [(u, t)])
        (.finished (.error (.failed .createStream (.encoder (.transport "down")))) t) ∧
      (∀ q, issuesOf q (history ++ [(a, waits)] ++ (window ++ [(u, t)])) < UInt64.size) ∧
      u.store.Settled ∧
      t.store = stateAfter (removeDevice "thermometer" d.user.keys.publicKey u.store) ∧
      TakenOver d.device.id "thermometer" d.user.keys.publicKey u.store.tables := by
  obtain ⟨start, s, a, a', history, d, user, spare, device, c, c', alice⟩ := alice_waits
  obtain ⟨window, b, calls, length, settled, taken⟩ := alice.claims_again
  obtain ⟨b', t, same, undone, fails⟩ :=
    waiting_fails (r := aliceClaims "thermometer") (d := d) .nil calls (.transport "down") {}
  rw [← same] at settled undone taken
  refine ⟨start, s, a, a', b', t, history, window ++ [(b, b')], d, alice.fresh, alice.calls,
    alice.run.mono fun s between t alone => ?_, ?_, ?_, settled, undone, taken⟩
  · obtain ⟨rfl, rfl⟩ := alone
    exact .nil _
  · rw [List.append_assoc]
    exact fails
  · refine issuesOf_lt (n := 13) ?_ (by decide)
    simp only [List.length_append, alice.length, length]
    rfl

/-- A claim has registered `d` and waits for the encoder; then it fails. Its undoing removes its own
device and nothing else if and only if by then no other device has the token under the same owner's
key. -/
theorem undo_onlyGone_iff {start s waits t : Registrar Store} {history before after : List Turn}
    {r : ClaimRequest} {asked : EncoderCall}
    {resume : Except EncoderError asked.Answer → Duration → Registrar Store →
      Progress (Registrar Store) (Outcome ClaimResponse)}
    {e : RegistrationError} (fresh : start.store.Fresh) (calls : Calls start history s)
    (begun : (claim r s).Reaches Calls before (.calling asked waits resume))
    (failed : (Progress.calling asked waits resume).Reaches Calls after (.finished (.error e) t))
    (few : ∀ q, issuesOf q (history ++ before ++ after) < UInt64.size) :
    ∃ location userKeys deviceKeys d between a between' u,
      before = between ++ [(a, waits)] ∧ r.validate = .ok location ∧
      register r location userKeys deviceKeys a.store = .ok d waits.store ∧
      after = between' ++ [(u, t)] ∧
      (OnlyGone d.device.id u.store.tables t.store.tables ↔
        ¬ TakenOver d.device.id r.deviceToken d.user.keys.publicKey u.store.tables) := by
  obtain ⟨-, -, proper⟩ := claim_evolves fresh calls (fun _ _ _ => Calls.chain)
    (begun.trans failed) (by simpa using few)
  obtain ⟨location, userKeys, deviceKeys, d, between, a, valid, rfl, registered, same⟩ :=
    claim_reaches_calling begun
  rw [same] at failed
  have undone : ∀ u, (u, t) ∈ after → t.store =
      stateAfter (removeDevice r.deviceToken d.user.keys.publicKey u.store) →
      (OnlyGone d.device.id u.store.tables t.store.tables ↔
        ¬ TakenOver d.device.id r.deviceToken d.user.keys.publicKey u.store.tables) := by
    intro u taken undone
    have settled := (proper (u, t) (List.mem_append_right _ taken)).1.before
    rw [undone]
    exact removeDevice_onlyGone_iff settled _ _ _
  refine ⟨location, userKeys, deviceKeys, d, between, a, ?_⟩
  cases waiting_reaches failed with
  | @uncreated _ b b' u _ wait pause _ _ _ gone =>
    exact ⟨wait ++ (b, b') :: pause, u, rfl, valid, registered, by simp, undone u (by simp) gone⟩
  | @unrecorded uid e b b' c c' u t wait pause pause' _ _ _ _ _ gone =>
    exact ⟨wait ++ (b, b') :: (pause ++ (c, c') :: pause'), u, rfl, valid, registered, by simp,
      undone u (by simp) gone⟩

/-- The theorem at the run in which alice claims her thermometer twice. -/
theorem undo_onlyGone_iff_thermometer :
    ∃ (start s first waits t : Registrar Store) (history after : List Turn) (own : Registered),
      start.store.Fresh ∧ Calls start history s ∧
      (claim (aliceClaims "thermometer") s).Reaches Calls [(first, waits)]
        (waiting (aliceClaims "thermometer") aliceStands own waits) ∧
      (waiting (aliceClaims "thermometer") aliceStands own waits).Reaches Calls after
        (.finished (.error (.failed .createStream (.encoder (.transport "down")))) t) ∧
      (∀ q, issuesOf q (history ++ [(first, waits)] ++ after) < UInt64.size) ∧
      ∃ location userKeys deviceKeys d between a between' u,
        [(first, waits)] = between ++ [(a, waits)] ∧
        (aliceClaims "thermometer").validate = .ok location ∧
        register (aliceClaims "thermometer") location userKeys deviceKeys a.store =
          .ok d waits.store ∧
        after = between' ++ [(u, t)] ∧
        (OnlyGone d.device.id u.store.tables t.store.tables ↔
          ¬ TakenOver d.device.id "thermometer" d.user.keys.publicKey u.store.tables) := by
  obtain ⟨start, s, first, waits, u, t, history, window, d, fresh, calls, begun, failed, few, -⟩ :=
    alice_claims_again
  exact ⟨start, s, first, waits, t, history, _, d, fresh, calls, begun, failed, few,
    undo_onlyGone_iff fresh calls begun failed few⟩

/-- The undoing of alice's first claim removes the device of her second one. -/
theorem undo_not_onlyGone :
    ∃ (start s a waits u t : Registrar Store) (history window : List Turn) (d : Registered),
      start.store.Fresh ∧ Calls start history s ∧
      (claim (aliceClaims "thermometer") s).Reaches Calls [(a, waits)]
        (waiting (aliceClaims "thermometer") aliceStands d waits) ∧
      (waiting (aliceClaims "thermometer") aliceStands d waits).Reaches Calls (window ++ [(u, t)])
        (.finished (.error (.failed .createStream (.encoder (.transport "down")))) t) ∧
      (∀ q, issuesOf q (history ++ [(a, waits)] ++ (window ++ [(u, t)])) < UInt64.size) ∧
      ¬ OnlyGone d.device.id u.store.tables t.store.tables := by
  obtain ⟨start, s, a, waits, u, t, history, window, d, fresh, calls, begun, failed, few, settled,
    undone, taken⟩ := alice_claims_again
  refine ⟨start, s, a, waits, u, t, history, window, d, fresh, calls, begun, failed, few, ?_⟩
  rw [undone, removeDevice_onlyGone_iff settled]
  exact not_not.2 taken

end Registrar
end DeviceRegistry
