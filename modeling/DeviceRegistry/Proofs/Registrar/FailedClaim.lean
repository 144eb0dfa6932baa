import DeviceRegistry.Proofs.Registrar.Success

/-! A claim that fails leaves no trace. When it fails after its registration, the device and perhaps
its owner are removed again; this restores the rows because an owner that was there before owns
another device. -/
namespace DeviceRegistry

/-- What was registered can be removed with the token and the owner's key. -/
theorem Contents.Enrolled.grants {c c' : Contents} {user : UserRow} {device : DeviceRow}
    (h : c.Enrolled user device c') (finite : device.IsFinite) :
    c'.Grants device.token user.publicKey device.id device user :=
  ⟨h.device_get?, rfl, finite, h.owner ▸ h.user_get?, rfl⟩

namespace Registrar

variable {r : ClaimRequest} {location : Location} {userKeys deviceKeys : KeyPair} {d : Registered}

/-- A device that was just registered is there to be removed. -/
theorem removeDevice_registered {a a' u : Store} {c : Contents} (held : a.tables.Holds c)
    (valid : r.validate = .ok location)
    (registered : register r location userKeys deviceKeys a = .ok d a')
    (spare : Spare a.tables a'.tables) (same : u.tables = a'.tables) :
    ∃ user device c' gone v c'', c.Enrolled user device c' ∧
      removeDevice r.deviceToken d.user.keys.publicKey u = .ok gone v ∧
      c'.Removed device.id device.userId c'' ∧ v.tables.Holds c'' := by
  have outcome := Registers.of_eq held registered spare
  cases outcome with
  | @registered user device key c' tables entropy later uid owner opens described enrolled held' =>
    obtain ⟨-, finite⟩ := ClaimRequest.location_of_validate valid
    rw [← described.place] at finite
    have mine := enrolled.grants finite
    rw [described.token] at mine
    have heldNow : u.tables.Holds c' := same ▸ held'
    have outcome := removeDevice_outcome heldNow r.deviceToken user.publicKey
    generalize removeDevice r.deviceToken user.publicKey u = result at outcome ⊢
    cases outcome with
    | refused e none => exact absurd mine (none _ _ _)
    | @removed id row owner streams c'' tables' granted all removed held'' =>
      obtain rfl := granted.unique heldNow mine
      obtain rfl : row = device := Option.some.inj (granted.there.symm.trans mine.there)
      exact ⟨user, row, c', _, _, c'', enrolled, rfl, removed, held''⟩

/-- Removing a device right after its registration restores the records. -/
theorem removeDevice_register {a a' u : Store} (settled : a.Settled)
    (valid : r.validate = .ok location)
    (registered : register r location userKeys deviceKeys a = .ok d a')
    (spare : Spare a.tables a'.tables) (same : u.tables = a'.tables) :
    (stateAfter (removeDevice r.deviceToken d.user.keys.publicKey u)).tables.SameRecords a.tables ∧
      (stateAfter (removeDevice r.deviceToken d.user.keys.publicKey u)).tables.issued "streams" =
        a.tables.issued "streams" := by
  obtain ⟨c, held, settled⟩ := settled
  obtain ⟨user, device, c', gone, v, c'', enrolled, done, removed, held'⟩ :=
    removeDevice_registered held valid registered spare same
  obtain ⟨sameRows, lastStream⟩ := enrolled.undone held.valid settled removed
  rw [done]
  refine ⟨held'.sameRecords held sameRows, ?_⟩
  rw [held.lastStream, ← lastStream]
  exact held'.lastStream

/-- The records are the same, and the same ids of streams were issued. -/
structure Restored (s t : Store) : Prop where
  records : t.tables.SameRecords s.tables
  streams : t.tables.issued "streams" = s.tables.issued "streams"

theorem Restored.of_tables {s t : Store} (same : t.tables = s.tables) : Restored s t := by
  constructor
  · rw [same]
    exact .refl _
  · rw [same]

/-- What a claim restores that nobody comes between. -/
theorem Claims.restored {s t : Registrar Store} {turns : List Turn} {e : RegistrationError}
    (h : Claims Progress.Alone r s turns (.error e) t) (settled : s.store.Settled)
    (spare : ∀ turn ∈ turns, Spare turn.1.store.tables turn.2.store.tables) :
    Restored s.store t.store := by
  cases h with
  | refused same => exact .of_tables (congrArg Store.tables same)
  | unregistered same pause unregistered =>
    obtain ⟨rfl, rfl⟩ := pause
    rw [← same]
    exact .of_tables (transaction_eq_error unregistered)
  | @registered location userKeys deviceKeys d start a a' _ _ rest _ same pause valid registered
      finishes =>
    obtain ⟨rfl, rfl⟩ := pause
    rw [← same] at settled ⊢
    have first := spare (a, a') (by simp)
    -- Both ways of failing after the registration end with its undoing, on the same tables.
    have undone : ∀ u : Registrar Store, u.store.tables = a'.store.tables → t.store =
        stateAfter (removeDevice r.deviceToken d.user.keys.publicKey u.store) →
        Restored a.store t.store := by
      intro u same undone
      obtain ⟨records, streams⟩ := removeDevice_register settled valid registered first same
      rw [undone]
      exact ⟨records, streams⟩
    cases finishes with
    | uncreated meanwhile same pause gone =>
      obtain ⟨rfl, rfl⟩ := meanwhile
      obtain ⟨rfl, rfl⟩ := pause
      exact undone _ (congrArg Store.tables same) gone
    | unrecorded meanwhile same pause unrecorded pause' gone =>
      obtain ⟨rfl, rfl⟩ := meanwhile
      obtain ⟨rfl, rfl⟩ := pause
      obtain ⟨rfl, rfl⟩ := pause'
      exact undone _ ((transaction_eq_error unrecorded).trans (congrArg Store.tables same)) gone

/-- A claim that fails, after any calls that came one after the other, leaves the records of the
store as they were, and with them the sequence of the streams; ids of users and devices may have
been issued in vain. A sequence is a 64-bit counter: `few` says that none has come round. -/
theorem claim_error_restores {start s t : Registrar Store} {history turns : List Turn}
    {e : RegistrationError} (fresh : start.store.Fresh) (calls : Calls start history s)
    (failed : (claim r s).Reaches Progress.Alone turns (.finished (.error e) t))
    (few : ∀ q, issuesOf q (history ++ turns) < UInt64.size) :
    t.store.tables.SameRecords s.store.tables ∧
      t.store.tables.issued "streams" = s.store.tables.issued "streams" ∧
      s.store.tables.issued "users" ≤ t.store.tables.issued "users" ∧
      s.store.tables.issued "devices" ≤ t.store.tables.issued "devices" := by
  obtain ⟨settled, evolves, own⟩ :=
    claim_evolves fresh calls (fun _ _ _ => Progress.Alone.chain) failed few
  have restored := (claim_reaches failed).restored settled fun turn taken => (own turn taken).2
  exact ⟨restored.records, restored.streams, evolves.precedes.users.le, evolves.precedes.devices.le⟩

/-- Alice has a device and claims another one, for which the encoder creates no stream. -/
theorem claim_error_restores_thermometer :
    ∃ (start s t : Registrar Store) (history turns : List Turn),
      start.store.Fresh ∧ Calls start history s ∧
      (claim (aliceClaims "thermometer") s).Reaches Progress.Alone turns
        (.finished (.error (.failed .createStream (.encoder (.transport "down")))) t) ∧
      (∀ q, issuesOf q (history ++ turns) < UInt64.size) ∧
      t.store.tables.SameRecords s.store.tables ∧
        t.store.tables.issued "streams" = s.store.tables.issued "streams" ∧
        s.store.tables.issued "users" ≤ t.store.tables.issued "users" ∧
        s.store.tables.issued "devices" ≤ t.store.tables.issued "devices" := by
  obtain ⟨start, s, a, a', history, d, user, spare, device, c, c', alice⟩ := alice_waits
  have alone : Progress.Alone a' [] a' := ⟨rfl, rfl⟩
  obtain ⟨b, t, -, -, fails⟩ := waiting_fails (fun _ => ⟨rfl, rfl⟩) alone (.transport "down") {}
  have failed := alice.run.trans fails
  have length : (history ++ [(a, a'), (a', b), (b, t)]).length = 7 := by
    rw [List.length_append, alice.length]
    rfl
  have few := issuesOf_lt length (by decide)
  exact ⟨start, s, t, history, _, alice.fresh, alice.calls, failed, few,
    claim_error_restores alice.fresh alice.calls failed few⟩

end Registrar
end DeviceRegistry
