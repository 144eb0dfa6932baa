import DeviceRegistry.Proofs.Store.Session

/-! What is true of each row that a session adds is true of each row that its tables hold. -/
namespace DeviceRegistry

def NewDevice.IsFinite (d : NewDevice) : Prop :=
  d.location.longitude.isFinite = true ∧ d.location.latitude.isFinite = true

namespace Session

/-- The committed tables and those of an open transaction hold contents of which `p` is true. A
transaction has the cipher of its store. -/
structure Keeps (p : Contents → Prop) (session : Session) : Prop where
  committed : ∃ c, session.committed.Holds c ∧ p c
  working : ∀ store tx, session = .opened store (some tx) →
    tx.cipher = store.cipher ∧ ∃ c, tx.tables.Holds c ∧ p c

variable {p : Contents → Prop} {user : UserRow → Prop} {device : DeviceRow → Prop}
  {count : String → Nat} {session : Session}

theorem Keeps.idle {store : Store} (h : ∃ c, store.tables.Holds c ∧ p c) :
    (Session.opened store none).Keeps p := by
  refine ⟨h, ?_⟩
  intro _ _ same
  cases (Session.opened.inj same).2

theorem Keeps.reopened (h : session.Keeps p) {password : String} {entropy entropy' : Entropy}
    {store : Store} (done : Store.opened password session.committed entropy = .ok store entropy') :
    (Session.opened store none).Keeps p := by
  obtain ⟨metadata, tables⟩ := Store.opened_tables done
  obtain ⟨c, held, true_⟩ := h.committed
  refine .idle ⟨c, ?_, true_⟩
  rw [tables]
  exact held.withMetadata metadata

theorem Keeps.next (h : session.Keeps (Contents.Each user device)) (sound : session.Sound count)
    (step : StoreStep) (room : ∀ q, count q + session.issues q step < UInt64.size)
    (admits : ∀ store tx record, session = .opened store (some tx) → step = .work record →
      record.Admits user device store.cipher) :
    (session.next step).Keeps (Contents.Each user device) := by
  have goes := session.next_goes step
  generalize session.next step = session' at goes ⊢
  cases goes with
  | idle => exact h
  | waits => exact h
  | begins store =>
    refine ⟨h.committed, ?_⟩
    rintro _ _ ⟨⟩
    exact ⟨rfl, h.committed⟩
  | works store tx record =>
    obtain ⟨same, c, held, each⟩ := h.working store tx rfl
    have cipher := (RecordStep.edits held record).2.1
    have admitted := admits store tx record rfl rfl
    rw [← same] at admitted
    have spare : Spare tx.tables (record.apply tx).tables :=
      (sound.working tx.tables rfl).issued.spare room
    have working := (RecordStep.leaves held each admitted).held spare
    refine ⟨h.committed, ?_⟩
    rintro _ _ ⟨⟩
    exact ⟨cipher.trans same, working⟩
  | commits store tx => exact .idle (h.working store tx rfl).2
  | abandons => exact .idle h.committed
  | reopens done => exact h.reopened done
  | closes => exact ⟨h.committed, nofun⟩

theorem Keeps.run (h : session.Keeps (Contents.Each user device)) (sound : session.Sound count)
    (steps : List StoreStep) (room : ∀ q, count q + session.issuesOf q steps < UInt64.size)
    (admits : ∀ before record after store tx, steps = before ++ .work record :: after →
      session.run before = .opened store (some tx) → record.Admits user device store.cipher) :
    (session.run steps).Keeps (Contents.Each user device) := by
  induction steps generalizing session count with
  | nil => exact h
  | cons step rest ih =>
    simp only [issuesOf, ← Nat.add_assoc] at room
    have first : ∀ q, count q + session.issues q step < UInt64.size := by
      intro q
      have := room q
      omega
    have next : (session.next step).Keeps (Contents.Each user device) := by
      apply h.next sound step first
      rintro store tx record rfl rfl
      exact admits [] record rest store tx rfl rfl
    apply ih next (sound.next step first) room
    rintro before record after store tx rfl reached
    exact admits (step :: before) record after store tx rfl reached

theorem keeps_fresh : fresh.Keeps (Contents.Each user device) := by
  refine ⟨⟨{}, .empty, nofun, nofun⟩, ?_⟩
  intro _ _ same
  cases same

/-- If each place that is inserted is finite, the devices of a session can be read. -/
theorem run_finite {steps : List StoreStep}
    (finite : ∀ d, .work (.insertDevice d) ∈ steps → d.IsFinite)
    (few : ∀ q, fresh.issuesOf q steps < UInt64.size) :
    (fresh.run steps).Keeps (Contents.Each (fun _ => True) DeviceRow.IsFinite) := by
  apply keeps_fresh.run sound_fresh steps (by simpa using few)
  rintro before record after store tx rfl -
  cases record with
  | insertDevice d =>
    intro id key _
    have listed : .work (.insertDevice d) ∈ before ++ .work (.insertDevice d) :: after := by simp
    exact finite d listed
  | upsertUser uid keys => exact fun _ _ => trivial
  | _ => trivial

end Session
end DeviceRegistry
