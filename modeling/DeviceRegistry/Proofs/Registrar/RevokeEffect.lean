import DeviceRegistry.Proofs.Encoder.Attendance
import DeviceRegistry.Proofs.Registrar.Undo
import DeviceRegistry.Proofs.Store.Refinement

/-! What a revoke removes, and what it has the encoder delete. The removal is committed before the
encoder is called, so that it does not depend on the answers. -/
namespace DeviceRegistry.Registrar

variable {E : Type}

/-- A stream is deleted at the encoder. -/
def deletion (stream : StreamRow) : Exchange := ⟨.deleteStream stream.uid, .ok ()⟩

/-- How streams are deleted at the encoder: all of them, or up to the first that it does not
delete. -/
inductive Sweeps {α : Type} (answer : α) (streams : List StreamRow) :
    List Exchange → Outcome α → Prop where
  | all : Sweeps answer streams (streams.map deletion) (.ok answer)
  | stopped {gone rest : List StreamRow} {stream : StreamRow} {e : EncoderError}
      {error : RegistrationError} (split : streams = gone ++ stream :: rest)
      (failed : error = .failed .deleteStream (.encoder e))
      (message : error.message = "failed to delete stream: " ++ e.message) :
      Sweeps answer streams (gone.map deletion ++ [⟨.deleteStream stream.uid, .error e⟩])
        (.error error)

namespace Sweeps

variable {α β : Type} {answer : α} {streams : List StreamRow} {exchanges : List Exchange}
  {outcome : Outcome α}

theorem cons (h : Sweeps answer streams exchanges outcome) (stream : StreamRow) :
    Sweeps answer (stream :: streams) (deletion stream :: exchanges) outcome := by
  cases h with
  | all => exact @all _ answer (stream :: streams)
  | @stopped gone rest other e error split failed message =>
    exact @stopped _ answer _ (stream :: gone) rest other e error (congrArg (stream :: ·) split)
      failed message

theorem map (h : Sweeps answer streams exchanges outcome) (f : α → β) :
    Sweeps (f answer) streams exchanges (outcome.map f) := by
  cases h with
  | all => exact all
  | stopped split failed message => exact stopped split failed message

theorem failure {error : RegistrationError} (h : Sweeps answer streams exchanges (.error error)) :
    ∃ e, error = .failed .deleteStream (.encoder e) := by
  cases h with
  | stopped split failed => exact ⟨_, failed⟩

end Sweeps

theorem deleteStreams_attend (enc : Encoder E) (token : String) (streams : List StreamRow)
    (s : Registrar Store) (e : E) :
    let done := (deleteStreams token streams s : Progress _ (Outcome Unit)).attend enc e
    done.state.store = s.store ∧ Sweeps () streams done.exchanges done.value ∧
      Clear s done.state := by
  induction streams generalizing s e with
  | nil => exact ⟨rfl, .all, .of_same rfl⟩
  | cons stream rest ih =>
    rcases answered : enc.answer (.deleteStream stream.uid) e with ⟨⟨answer, time⟩, e'⟩
    rw [deleteStreams, measured_bind, Progress.attend_calling enc answered]
    cases answer with
    | ok done =>
      obtain ⟨same, swept, clear⟩ :=
        ih { s with metrics := s.metrics.observe .deleteStream (.of (.ok done)) time } e'
      exact ⟨same, swept.cons stream, clear⟩
    | error failure =>
      exact ⟨rfl, @Sweeps.stopped _ () _ [] rest stream failure _ rfl rfl rfl, .note rfl (by simp)⟩

variable {s : Registrar Store} {r : RevokeRequest}

/-- A revoke that can be worked on begins with the removal. -/
theorem revoke_attend (enc : Encoder E) (e : E) (valid : r.validate = .ok ()) :
    ∃ s' : Registrar Store, Unmoved s s' ∧ Clear s s' ∧ (revoke r s).attend enc e =
      ((removing r s').attend enc e).after (s', (removing r s').state) [] := by
  rw [revoke_eq, valid]
  refine ⟨if s.verbose then { s with log := s.log ++ [.revoking r] } else s, .noted _ s, ?_, rfl⟩
  split
  · exact .note rfl (by simp)
  · exact .of_same rfl

theorem removing_attend_ok (enc : Encoder E) (e : E) {d : RemovedDevice} {store : Store}
    (removed : removeDevice r.deviceToken r.userPublicKey s.store = .ok d store) :
    let done := (removing r s).attend enc e
    done.state.store = store ∧ Sweeps {} d.streams done.exchanges done.value ∧
      Clear s done.state := by
  obtain ⟨same, swept, clear⟩ := deleteStreams_attend enc r.deviceToken d.streams { s with store } e
  rw [removing, removed]
  dsimp only
  rw [map_eq, Progress.attend_map]
  have mapped := swept.map fun _ => ({} : RevokeResponse)
  exact ⟨same, mapped, clear⟩

/-- A device with one stream, which the encoder deletes, is revoked with one exchange. -/
theorem removing_attend_single (enc : Encoder E) (e : E) {d : RemovedDevice} {store : Store}
    {stream : StreamRow}
    (removed : removeDevice r.deviceToken r.userPublicKey s.store = .ok d store)
    (only : d.streams = [stream])
    (accepted : (enc.answer (.deleteStream stream.uid) e).1.1 = .ok ()) :
    let done := (removing r s).attend enc e
    done.state.store = store ∧ done.value = .ok {} ∧ done.exchanges = [deletion stream] := by
  dsimp only
  obtain ⟨same, swept, -⟩ := removing_attend_ok enc e removed
  refine ⟨same, ?_⟩
  rw [only] at swept
  have answered := fun exchange => @Progress.attend_first _ _ _ enc e (removing r s) exchange []
  generalize (removing r s).attend enc e = done at swept answered ⊢
  cases done with
  | mk value state encoder turns exchanges =>
    cases swept with
    | all => exact ⟨rfl, rfl⟩
    | @stopped gone rest other failure error split =>
      obtain ⟨rfl, rfl, rfl⟩ : gone = [] ∧ other = stream ∧ rest = [] := by
        simpa [List.cons_eq_append_iff] using split
      have refused := answered _ rfl
      rw [accepted] at refused
      contradiction

theorem removing_attend_error (enc : Encoder E) (e : E) {error : RegistrationError} {store : Store}
    (refused : removeDevice r.deviceToken r.userPublicKey s.store = .error error store) :
    (removing r s).attend enc e = ⟨.error error, { s with store }, e, [], []⟩ := by
  rw [removing, refused]
  rfl

/-- If there is no device to remove, the revoke says so and leaves everything as it is. -/
theorem revoke_attend_none {c : Contents} (held : s.store.tables.Holds c)
    (finite : ∀ id row, c.devices.get? id = some row → row.IsFinite) (valid : r.validate = .ok ())
    (none : ∀ id device owner, ¬ c.Grants r.deviceToken r.userPublicKey id device owner)
    (enc : Encoder E) (e : E) :
    let done := (revoke r s).attend enc e
    done.value = .error (.failed .deleteDevice (.store (.notFound "device"))) ∧
      Unmoved s done.state ∧ Clear s done.state ∧ done.exchanges = [] := by
  obtain ⟨s', same, clear, run⟩ := @revoke_attend _ s r enc e valid
  have outcome := removeDevice_outcome held r.deviceToken r.userPublicKey
  generalize removed : removeDevice r.deviceToken r.userPublicKey s.store = result at outcome
  cases outcome with
  | removed granted => exact absurd granted (none _ _ _)
  | refused error _ reason =>
    have missing : error = .failed .deleteDevice (.store (.notFound "device")) := by
      refine reason.resolve_right ?_
      rintro ⟨id, device, there, infinite⟩
      exact infinite (finite id device there)
    rw [← same.store] at removed
    rw [run, removing_attend_error enc e removed, missing]
    exact ⟨rfl, same, clear, rfl⟩

/-- A revoke that finds no device. Nothing changes, and the encoder is not called. -/
def RevokesNone (r : RevokeRequest) (s : Registrar Store) : Prop :=
  ∀ (E : Type) (enc : Encoder E) (e : E),
    let done := (revoke r s).attend enc e
    (∃ error, done.value = .error error ∧
      error.message = "failed to delete device: device not found") ∧
    done.state.store.tables = s.store.tables ∧ done.exchanges = []

/-- A revoke that takes a device away with its streams, and with its owner if it was the last one. The
tables that are left are the same whatever the encoder answers when it has to delete the streams. -/
def Revokes (r : RevokeRequest) (s : Registrar Store) (id owner : UInt64) : Prop :=
  ∃ streams t, s.store.tables.StreamsOf id streams ∧
    s.store.tables.Sheds id owner (s.store.tables.IsLast id owner) (streams.map StreamRow.id) t ∧
    ∀ (E : Type) (enc : Encoder E) (e : E),
      let done := (revoke r s).attend enc e
      done.state.store.tables = t ∧ Sweeps {} streams done.exchanges done.value

/-- A revoke that can be worked on takes a device away, unless there is none. -/
theorem revoke_outcome {c : Contents} (held : s.store.tables.Holds c)
    (finite : ∀ id row, c.devices.get? id = some row → row.IsFinite) (valid : r.validate = .ok ()) :
    ((∀ id device owner, ¬ s.store.tables.Grants r.deviceToken r.userPublicKey id device owner) ∧
      RevokesNone r s) ∨
    ∃ id device owner, s.store.tables.Grants r.deviceToken r.userPublicKey id device owner ∧
      Revokes r s id device.userId := by
  have outcome := removeDevice_outcome held r.deviceToken r.userPublicKey
  generalize removed : removeDevice r.deviceToken r.userPublicKey s.store = result at outcome
  simp only [held.grants_iff finite]
  cases outcome with
  | refused error none =>
    refine .inl ⟨none, ?_⟩
    intro E enc e
    obtain ⟨value, same, -, exchanges⟩ := revoke_attend_none held finite valid none enc e
    exact ⟨⟨_, value, rfl⟩, congrArg Store.tables same.store, exchanges⟩
  | @removed id device owner streams c' tables granted all gone held' sequences metadata =>
    have sheds := gone.sheds held held' all sequences metadata
    rw [← held.isLast_iff finite] at sheds
    refine .inr ⟨id, device, owner, granted, streams, tables, held.streamsOf_iff.2 all, sheds, ?_⟩
    intro E enc e
    obtain ⟨s', same, -, run⟩ := @revoke_attend _ s r enc e valid
    rw [← same.store] at removed
    obtain ⟨store, swept, -⟩ := removing_attend_ok enc e removed
    rw [run]
    exact ⟨congrArg Store.tables store, swept⟩

/-- What a revoke does, after any use of the store in which only finite places were inserted, depends
on whether there is a device with the token of which the owner has the key. -/
theorem revoke_exact {steps : List StoreStep}
    (reached : s.store.tables = (Session.fresh.run steps).committed)
    (finite : ∀ d, .work (.insertDevice d) ∈ steps → d.IsFinite)
    (few : ∀ sequence, Session.fresh.issuesOf sequence steps < UInt64.size)
    (token : r.deviceToken ≠ "") (key : r.userPublicKey ≠ "") :
    ((∀ id device owner, ¬ s.store.tables.Grants r.deviceToken r.userPublicKey id device owner) →
      RevokesNone r s) ∧
    ∀ id device owner, s.store.tables.Grants r.deviceToken r.userPublicKey id device owner →
      Revokes r s id device.userId := by
  obtain ⟨c, held, each⟩ := (Session.run_finite finite few).committed
  rw [← reached] at held
  have valid := RevokeRequest.validate_ok.2 ⟨token, key⟩
  rcases revoke_outcome held each.devices valid with ⟨none, revokes⟩ |
    ⟨id, device, owner, granted, revokes⟩
  · exact ⟨fun _ => revokes, fun id device owner granted => absurd granted (none id device owner)⟩
  · refine ⟨fun none => absurd granted (none id device owner), ?_⟩
    intro id' device' owner' granted'
    obtain ⟨rfl, rfl⟩ := granted.unique held each.devices granted'
    exact revokes

/-- A registrar can come to have what any operations leave in a new store. -/
theorem exists_stored (works : List RecordStep) (short : works.length + 3 < UInt64.size)
    (places : ∀ d, .insertDevice d ∈ works → d.IsFinite) :
    ∃ (steps : List StoreStep) (s : Registrar Store) (cipher : ColumnCipher),
      s.store.tables = (Session.fresh.run steps).committed ∧
      (∀ d, .work (.insertDevice d) ∈ steps → d.IsFinite) ∧
      (∀ sequence, Session.fresh.issuesOf sequence steps < UInt64.size) ∧
      s.store.tables.Depicts cipher (Registry.after {} works) := by
  obtain ⟨password, entropy, store, tx, opened, worked, -, depicting⟩ :=
    Session.exists_transaction works (by omega) places
  let steps : List StoreStep :=
    .reopen password entropy :: (.begin :: works.map .work) ++ [.commit]
  let s : Registrar Store := ⟨store.commit tx, numberedKeys, {}, false, []⟩
  have reached : s.store.tables = (Session.fresh.run steps).committed := by
    have run : Session.fresh.run steps = ((Session.opened store none).run
        (.begin :: works.map .work)).next .commit := by
      rw [← opened]
      simp [steps, Session.run]
    rw [run, worked]
    rfl
  have finite : ∀ d, .work (.insertDevice d) ∈ steps → d.IsFinite := by
    intro d listed
    refine places d ?_
    simpa [steps] using listed
  have length : steps.length = works.length + 3 := by simp [steps]
  have few : ∀ sequence, Session.fresh.issuesOf sequence steps < UInt64.size := fun sequence =>
    Nat.lt_of_le_of_lt (Session.issuesOf_le_length ..) (length ▸ short)
  exact ⟨steps, s, tx.cipher, reached, finite, few, depicting.depicts⟩

/-- Alice's meter, which has two streams, can be revoked with her key. -/
theorem alice_can_revoke : ∃ (steps : List StoreStep) (s : Registrar Store),
    s.store.tables = (Session.fresh.run steps).committed ∧
    (∀ d, .work (.insertDevice d) ∈ steps → d.IsFinite) ∧
    (∀ sequence, Session.fresh.issuesOf sequence steps < UInt64.size) ∧
    ∃ id device owner, s.store.tables.Grants "meter" "public" id device owner := by
  obtain ⟨steps, s, cipher, reached, finite, few, c, held, shows⟩ :=
    exists_stored Session.meter (by decide) Session.finite_meter
  have there : (Registry.after {} Session.meter).devices.get? 1 =
      some ⟨⟨"meter", 1, ⟨"private", "public"⟩, {}, .outdoor⟩, 1⟩ := by decide
  have owned : (Registry.after {} Session.meter).users.get? 1 =
      some ⟨1, "alice", ⟨"private", "public"⟩⟩ := by decide
  have granted : ∃ row owner, s.store.tables.Grants "meter" "public" 1 row owner :=
    shows.grants held there owned
  exact ⟨steps, s, reached, finite, few, 1, granted⟩

theorem revoke_exact_meter : ∃ (steps : List StoreStep) (s : Registrar Store),
    s.store.tables = (Session.fresh.run steps).committed ∧
    (∀ d, .work (.insertDevice d) ∈ steps → d.IsFinite) ∧
    (∀ sequence, Session.fresh.issuesOf sequence steps < UInt64.size) ∧
    (∃ id device owner, s.store.tables.Grants "meter" "public" id device owner) ∧
    ((∀ id device owner, ¬ s.store.tables.Grants "meter" "public" id device owner) →
      RevokesNone ⟨"meter", "public"⟩ s) ∧
    ∀ id device owner, s.store.tables.Grants "meter" "public" id device owner →
      Revokes ⟨"meter", "public"⟩ s id device.userId := by
  obtain ⟨steps, s, reached, finite, few, granted⟩ := alice_can_revoke
  exact ⟨steps, s, reached, finite, few, granted,
    @revoke_exact s ⟨"meter", "public"⟩ steps reached finite few (by decide) (by decide)⟩

end DeviceRegistry.Registrar
