import DeviceRegistry.Proofs.Registrar.ClaimEffect
import DeviceRegistry.Proofs.Registrar.RevokeEffect
import DeviceRegistry.Proofs.Store.Without

/-! Revokes of different devices do not depend on their order. Each of them takes its own device
away, and finds it as it was before the other one. -/
namespace DeviceRegistry

variable {E : Type}

/-- The device that a revoke takes away, if it can be worked on. -/
def Contents.TakenBy (c : Contents) (r : RevokeRequest) (id : UInt64) : Prop :=
  r.validate = .ok () ∧ ∃ device owner, c.Grants r.deviceToken r.userPublicKey id device owner

/-- An encoder that answers a deletion the same way whenever it is asked. -/
def Encoder.Steady (enc : Encoder E) : Prop :=
  ∀ uid e e', (enc.answer (.deleteStream uid) e').1.1 = (enc.answer (.deleteStream uid) e).1.1

namespace Registrar

variable {enc : Encoder E} {s s' : Registrar Store} {c c' : Contents} {r r' : RevokeRequest}

/-- The same streams are deleted in the same way, whatever happened before. -/
theorem deleteStreams_attend_same (steady : enc.Steady) (token : String) (streams : List StreamRow)
    (s s' : Registrar Store) (e e' : E) :
    let done := (deleteStreams token streams s : Progress _ (Outcome Unit)).attend enc e
    let done' := (deleteStreams token streams s' : Progress _ (Outcome Unit)).attend enc e'
    done'.value = done.value ∧ done'.exchanges = done.exchanges := by
  induction streams generalizing s s' e e' with
  | nil => exact ⟨rfl, rfl⟩
  | cons stream rest ih =>
    have same := steady stream.uid e e'
    rcases asked : enc.answer (.deleteStream stream.uid) e with ⟨⟨answer, time⟩, next⟩
    rcases asked' : enc.answer (.deleteStream stream.uid) e' with ⟨⟨answer', time'⟩, next'⟩
    rw [asked, asked'] at same
    obtain rfl : answer' = answer := same
    rw [deleteStreams, measured_bind, measured_bind, Progress.attend_calling enc asked,
      Progress.attend_calling enc asked']
    cases answer' with
    | ok done =>
      obtain ⟨value, exchanges⟩ :=
        ih { s with metrics := s.metrics.observe .deleteStream (.of (.ok done)) time }
          { s' with metrics := s'.metrics.observe .deleteStream (.of (.ok done)) time' } next next'
      exact ⟨value, congrArg (_ :: ·) exchanges⟩
    | error failure => exact ⟨rfl, rfl⟩

/-- A revoke leaves the contents without the device that it takes away. -/
theorem revoke_attend_without (held : s.store.tables.Holds c)
    (finite : ∀ id row, c.devices.get? id = some row → row.IsFinite) (r : RevokeRequest)
    (enc : Encoder E) (e : E) :
    let left := ((revoke r s).attend enc e).state.store.tables
    ∃ c', left.Holds c' ∧ c.Without (c.TakenBy r) c' ∧
      left.sequences = s.store.tables.sequences ∧ left.metadata = s.store.tables.metadata := by
  cases valid : r.validate with
  | error failure =>
    have none : ∀ id, ¬ c.TakenBy r id := by
      rintro id ⟨ok, -⟩
      rw [valid] at ok
      contradiction
    rw [revoke_eq, valid]
    exact ⟨c, held, .none none, rfl, rfl⟩
  | ok done =>
    have outcome := removeDevice_outcome held r.deviceToken r.userPublicKey
    generalize removed : removeDevice r.deviceToken r.userPublicKey s.store = result at outcome
    cases outcome with
    | refused error none =>
      obtain ⟨-, same, -⟩ := revoke_attend_none held finite valid none enc e
      dsimp only
      rw [same.store]
      refine ⟨c, held, .none ?_, rfl, rfl⟩
      rintro id ⟨-, device, owner, granted⟩
      exact none id device owner granted
    | @removed id device owner streams c' tables granted all gone held' sequences metadata =>
      have taken : c.TakenBy r = (· = id) := by
        funext other
        refine propext ⟨?_, ?_⟩
        · rintro ⟨-, device', owner', granted'⟩
          exact granted'.unique held granted
        · rintro rfl
          exact ⟨valid, device, owner, granted⟩
      obtain ⟨s', same, -, run⟩ := @revoke_attend _ s r enc e valid
      rw [← same.store] at removed
      obtain ⟨store, -⟩ := removing_attend_ok enc e removed
      have left : ((revoke r s).attend enc e).state.store.tables = tables := by
        rw [run]
        exact congrArg Store.tables store
      dsimp only
      rw [left, taken]
      exact ⟨c', held', gone.without granted.there, sequences, metadata⟩

/-- What a revoke gives and exchanges is told by the streams of its device. -/
theorem revoke_attend_granted (held : s.store.tables.Holds c) (valid : r.validate = .ok ())
    {id : UInt64} {device : DeviceRow} {owner : UserRow}
    (granted : c.Grants r.deviceToken r.userPublicKey id device owner) (enc : Encoder E) (e : E) :
    ∃ (streams : List StreamRow) (t : Registrar Store), c.StreamsOf id streams ∧
      let done := (revoke r s).attend enc e
      let swept := (deleteStreams r.deviceToken streams t : Progress _ (Outcome Unit)).attend enc e
      done.value = swept.value.map (fun _ => ({} : RevokeResponse)) ∧
        done.exchanges = swept.exchanges := by
  have outcome := removeDevice_outcome held r.deviceToken r.userPublicKey
  generalize removed : removeDevice r.deviceToken r.userPublicKey s.store = result at outcome
  cases outcome with
  | refused error none => exact absurd granted (none id device owner)
  | @removed id' device' owner' streams c' tables granted' all =>
    obtain rfl := granted'.unique held granted
    obtain ⟨s', same, -, run⟩ := @revoke_attend _ s r enc e valid
    rw [← same.store] at removed
    refine ⟨streams, { s' with store := { s.store with tables } }, all, ?_⟩
    dsimp only
    rw [run, removing, removed]
    dsimp only
    rw [map_eq, Progress.attend_map, same.store]
    exact ⟨rfl, rfl⟩

/-- A revoke that finds the same device with the same streams gives the same and exchanges the same. -/
theorem revoke_attend_same (steady : enc.Steady) (held : s.store.tables.Holds c)
    (finite : ∀ id row, c.devices.get? id = some row → row.IsFinite)
    (held' : s'.store.tables.Holds c')
    (finite' : ∀ id row, c'.devices.get? id = some row → row.IsFinite)
    (grants : ∀ id device owner, c'.Grants r.deviceToken r.userPublicKey id device owner ↔
      c.Grants r.deviceToken r.userPublicKey id device owner)
    (streamsOf : ∀ id, c.TakenBy r id → ∀ rows, c'.StreamsOf id rows ↔ c.StreamsOf id rows)
    (e e' : E) :
    let done := (revoke r s).attend enc e
    let done' := (revoke r s').attend enc e'
    done'.value = done.value ∧ done'.exchanges = done.exchanges := by
  cases valid : r.validate with
  | error failure =>
    rw [revoke_eq, revoke_eq, valid]
    exact ⟨rfl, rfl⟩
  | ok done =>
    by_cases found : ∃ id device owner, c.Grants r.deviceToken r.userPublicKey id device owner
    · obtain ⟨id, device, owner, granted⟩ := found
      have granted' := (grants id device owner).2 granted
      obtain ⟨streams, t, all, value, exchanges⟩ := revoke_attend_granted held valid granted enc e
      obtain ⟨streams', t', all', value', exchanges'⟩ :=
        revoke_attend_granted held' valid granted' enc e'
      have mine := streamsOf id ⟨valid, device, owner, granted⟩ streams'
      obtain rfl : streams' = streams := (mine.1 all').unique all
      obtain ⟨same, alike⟩ := deleteStreams_attend_same steady r.deviceToken streams' t t' e e'
      dsimp only
      rw [value, value', exchanges, exchanges', same, alike]
      exact ⟨rfl, rfl⟩
    · push Not at found
      have none : ∀ id device owner,
          ¬ c'.Grants r.deviceToken r.userPublicKey id device owner :=
        fun id device owner => (grants id device owner).not.2 (found id device owner)
      obtain ⟨value, -, -, exchanges⟩ := revoke_attend_none held finite valid found enc e
      obtain ⟨value', -, -, exchanges'⟩ := revoke_attend_none held' finite' valid none enc e'
      dsimp only
      rw [value, value', exchanges, exchanges']
      exact ⟨rfl, rfl⟩

/-- A revoke after another one gives what it would have given before it. -/
theorem revoke_attend_after (steady : enc.Steady) (held : s.store.tables.Holds c)
    (finite : ∀ id row, c.devices.get? id = some row → row.IsFinite)
    (different : r.deviceToken ≠ r'.deviceToken) (e : E) :
    let first := (revoke r s).attend enc e
    let second := (revoke r' first.state).attend enc first.encoder
    let alone := (revoke r' s).attend enc e
    second.value = alone.value ∧ second.exchanges = alone.exchanges ∧
      ∃ c', second.state.store.tables.Holds c' ∧
        c.Without (fun id => c.TakenBy r id ∨ c.TakenBy r' id) c' ∧
        second.state.store.tables.sequences = s.store.tables.sequences ∧
        second.state.store.tables.metadata = s.store.tables.metadata := by
  intro first second alone
  obtain ⟨c₁, held₁, without, sequences, metadata⟩ := revoke_attend_without held finite r enc e
  have finite₁ := without.finite finite
  -- The device of the second revoke has another token than the one that was taken away.
  have stays : ∀ id row, c.devices.get? id = some row → row.token = r'.deviceToken →
      ¬ c.TakenBy r id := by
    rintro id row there mine ⟨-, device, owner, granted⟩
    rw [granted.there] at there
    obtain rfl := Option.some.inj there
    exact different (granted.token.symm.trans mine)
  have grants : ∀ id device owner, c₁.Grants r'.deviceToken r'.userPublicKey id device owner ↔
      c.Grants r'.deviceToken r'.userPublicKey id device owner :=
    fun _ _ _ => without.grants_iff stays
  have streamsOf : ∀ id, c.TakenBy r' id → ∀ rows, c₁.StreamsOf id rows ↔ c.StreamsOf id rows := by
    rintro id ⟨-, device, owner, granted⟩ rows
    exact without.streamsOf_iff (stays id device granted.there granted.token)
  have taken : c₁.TakenBy r' = c.TakenBy r' := by
    funext id
    simp only [Contents.TakenBy, grants]
  obtain ⟨value, exchanges⟩ :=
    revoke_attend_same steady held finite held₁ finite₁ grants streamsOf e first.encoder
  obtain ⟨c₂, held₂, without', sequences', metadata'⟩ :=
    revoke_attend_without held₁ finite₁ r' enc first.encoder
  rw [taken] at without'
  exact ⟨value, exchanges, c₂, held₂, without.trans without', sequences'.trans sequences,
    metadata'.trans metadata⟩

/-- Two revokes are worked on one after the other. In either order each of them gives the same
and exchanges the same with the encoder, and the same tables are left. -/
def Commute (enc : Encoder E) (e : E) (s : Registrar Store) (r r' : RevokeRequest) : Prop :=
  let first := (revoke r s).attend enc e
  let second := (revoke r' first.state).attend enc first.encoder
  let first' := (revoke r' s).attend enc e
  let second' := (revoke r first'.state).attend enc first'.encoder
  second'.value = first.value ∧ second'.exchanges = first.exchanges ∧
    first'.value = second.value ∧ first'.exchanges = second.exchanges ∧
    second'.state.store.tables = second.state.store.tables

/-- Revokes with different tokens commute, after any use of the store in which only finite places were
inserted, and whether or not they can be worked on and find their devices. -/
theorem revokes_commute {steps : List StoreStep}
    (reached : s.store.tables = (Session.fresh.run steps).committed)
    (finite : ∀ d, .work (.insertDevice d) ∈ steps → d.IsFinite)
    (few : ∀ sequence, Session.fresh.issuesOf sequence steps < UInt64.size)
    (steady : enc.Steady) (e : E) (different : r.deviceToken ≠ r'.deviceToken) :
    Commute enc e s r r' := by
  obtain ⟨c, held, each⟩ := (Session.run_finite finite few).committed
  rw [← reached] at held
  obtain ⟨value, exchanges, c₂, held₂, without, sequences, metadata⟩ :=
    revoke_attend_after steady held each.devices different e
  obtain ⟨value', exchanges', c₂', held₂', without', sequences', metadata'⟩ :=
    revoke_attend_after steady held each.devices different.symm e
  have either : (fun id => c.TakenBy r' id ∨ c.TakenBy r id) =
      fun id => c.TakenBy r id ∨ c.TakenBy r' id := funext fun _ => propext or_comm
  rw [either] at without'
  have records := held₂'.sameRecords held₂ (without'.sameRows without)
  refine ⟨value', exchanges', value.symm, exchanges.symm, ?_⟩
  rw [records.eq (metadata'.trans metadata.symm), sequences'.trans sequences.symm]

/-- Two devices of Alice's, each with its stream. -/
def household : List RecordStep :=
  [.upsertUser "alice" ⟨"private", "public"⟩,
    .insertDevice ⟨"meter", 1, ⟨"private", "public"⟩, {}, .outdoor⟩,
    .insertDevice ⟨"thermometer", 1, ⟨"private", "public"⟩, {}, .indoor⟩,
    .insertStream 1 "first stream", .insertStream 2 "second stream"]

theorem finite_household : ∀ d, .insertDevice d ∈ household → d.IsFinite := by
  simp only [household, List.mem_cons, reduceCtorEq, RecordStep.insertDevice.injEq, false_or,
    or_false, List.not_mem_nil, forall_eq_or_imp, forall_eq]
  exact ⟨⟨by decide, by decide⟩, ⟨by decide, by decide⟩⟩

/-- Alice's two devices can be revoked in either order. Whichever goes last takes her with it. -/
theorem revokes_commute_household : ∃ (steps : List StoreStep) (s : Registrar Store),
    s.store.tables = (Session.fresh.run steps).committed ∧
    (∀ d, .work (.insertDevice d) ∈ steps → d.IsFinite) ∧
    (∀ sequence, Session.fresh.issuesOf sequence steps < UInt64.size) ∧
    (∃ device owner, s.store.tables.Grants "meter" "public" 1 device owner) ∧
    (∃ device owner, s.store.tables.Grants "thermometer" "public" 2 device owner) ∧
    willing.Steady ∧ "meter" ≠ "thermometer" ∧
    Commute willing () s ⟨"meter", "public"⟩ ⟨"thermometer", "public"⟩ := by
  obtain ⟨steps, s, cipher, reached, finite, few, c, held, shows⟩ :=
    exists_stored household (by decide) finite_household
  have owned : (Registry.after {} household).users.get? 1 =
      some ⟨1, "alice", ⟨"private", "public"⟩⟩ := by decide
  have meter : (Registry.after {} household).devices.get? 1 =
      some ⟨⟨"meter", 1, ⟨"private", "public"⟩, {}, .outdoor⟩, 1⟩ := by decide
  have thermometer : (Registry.after {} household).devices.get? 2 =
      some ⟨⟨"thermometer", 1, ⟨"private", "public"⟩, {}, .indoor⟩, 2⟩ := by decide
  have steady : willing.Steady := fun _ _ _ => rfl
  exact ⟨steps, s, reached, finite, few, shows.grants held meter owned,
    shows.grants held thermometer owned, steady, by decide,
    revokes_commute reached finite few steady () (by decide)⟩

end Registrar
end DeviceRegistry
