import DeviceRegistry.Proofs.Encoder.Keeper
import DeviceRegistry.Proofs.Registrar.ClaimEffect
import DeviceRegistry.Proofs.Registrar.RevokeEffect
import Mathlib.Data.List.Induction

/-! Calls that are attended to one after the other. The streams that are stored live at the encoder,
and the others that live there are those that revokes gave up. -/
namespace DeviceRegistry
open StoredRow

section Streams

variable {rows : Table UInt64 Bytes} {stream row : StreamRow} {id : UInt64} {uid : String}

theorem stores_withRow (free : rows.get? stream.id = none) :
    Stores (Tables.withRow rows stream.id stream) id row ↔
      (id = stream.id ∧ row = stream) ∨ Stores rows id row := by
  rw [Stores, Stores, Tables.withRow]
  by_cases same : id = stream.id
  · rw [same, Table.get?_insert_self, free]
    constructor
    · intro stored
      exact .inl ⟨rfl, (StreamRow.encode_injective (Option.some.inj stored)).symm⟩
    · rintro (⟨-, rfl⟩ | ⟨⟨⟩⟩)
      rfl
  · rw [Table.get?_insert_ne _ _ same]
    simp [same]

theorem inUse_withRow (free : rows.get? stream.id = none) :
    InUse StreamRow (Tables.withRow rows stream.id stream) uid ↔
      uid = stream.uid ∨ InUse StreamRow rows uid := by
  simp only [InUse, stores_withRow free]
  constructor
  · rintro ⟨id, row, ⟨-, rfl⟩ | stored, rfl⟩
    · exact .inl rfl
    · exact .inr ⟨id, row, stored, rfl⟩
  · rintro (rfl | ⟨id, row, stored, mine⟩)
    · exact ⟨stream.id, stream, .inl ⟨rfl, rfl⟩, rfl⟩
    · exact ⟨id, row, .inr stored, mine⟩

variable {t t' : Tables} {streams : List StreamRow}

/-- A device that is new has no other stream than the one stored for it. -/
theorem Tables.Consistent.streamsOf_new (h : t.Consistent)
    (free : t.streams.get? stream.id = none) (new : t.devices.get? stream.deviceId = none)
    (stored : t'.streams = Tables.withRow t.streams stream.id stream) :
    t'.StreamsOf stream.deviceId [stream] := by
  refine ⟨?_, List.pairwise_singleton _ _⟩
  intro row
  rw [List.mem_singleton, stored, stores_withRow free]
  constructor
  · rintro rfl
    exact ⟨.inl ⟨rfl, rfl⟩, rfl⟩
  · rintro ⟨⟨-, rfl⟩ | old, mine⟩
    · rfl
    · have known := h.device row.id row old
      rw [mine, new] at known
      contradiction

theorem Tables.StreamsOf.withRow (h : t.StreamsOf id streams)
    (free : t.streams.get? stream.id = none) (other : stream.deviceId ≠ id)
    (stored : t'.streams = Tables.withRow t.streams stream.id stream) :
    t'.StreamsOf id streams := by
  refine ⟨?_, h.ascending⟩
  intro row
  rw [h.mem, stored, stores_withRow free]
  constructor
  · rintro ⟨old, mine⟩
    exact ⟨.inr old, mine⟩
  · rintro ⟨⟨-, rfl⟩ | old, mine⟩
    · exact absurd mine other
    · exact ⟨old, mine⟩

/-- The streams of the other devices stay when a device goes with its own. -/
theorem Tables.Sheds.streamsOf {device owner : UInt64} {last : Prop} {gone : List StreamRow}
    (h : t.Sheds device owner last (gone.map StreamRow.id) t') (all : t.StreamsOf device gone)
    (other : id ≠ device) (own : t.StreamsOf id streams) : t'.StreamsOf id streams := by
  refine ⟨?_, own.ascending⟩
  intro row
  rw [own.mem, Stores, Stores, h.streams]
  constructor
  · rintro ⟨old, mine⟩
    refine ⟨⟨old, ?_⟩, mine⟩
    intro listed
    obtain ⟨row', member, same⟩ := List.mem_map.1 listed
    obtain ⟨old', mine'⟩ := (all.mem row').1 member
    rw [Stores, same, old] at old'
    obtain rfl := StreamRow.encode_injective (Option.some.inj old')
    exact other (mine.symm.trans mine')
  · rintro ⟨⟨old, -⟩, mine⟩
    exact ⟨old, mine⟩

end Streams

/-- What a device leaves in use when it goes with its streams. -/
theorem Tables.Sheds.inUse {t t' : Tables} {c : Contents} {device owner : UInt64} {last : Prop}
    {streams : List StreamRow} (h : t.Sheds device owner last (streams.map StreamRow.id) t')
    (held : t.Holds c) (all : t.StreamsOf device streams) (uid : String) :
    InUse StreamRow t'.streams uid ↔
      InUse StreamRow t.streams uid ∧ uid ∉ streams.map StreamRow.uid := by
  constructor
  · rintro ⟨id, row, stored, rfl⟩
    obtain ⟨stored, kept⟩ := (h.streams id _).1 stored
    refine ⟨⟨id, row, stored, rfl⟩, ?_⟩
    intro listed
    obtain ⟨other, member, same⟩ := List.mem_map.1 listed
    have there := held.stores_stream.1 stored
    have there' := held.stores_stream.1 ((all.mem other).1 member).1
    exact kept (List.mem_map.2 ⟨other, member, held.streams.id_eq there' there same⟩)
  · rintro ⟨⟨id, row, stored, rfl⟩, others⟩
    refine ⟨id, row, (h.streams id _).2 ⟨stored, ?_⟩, rfl⟩
    intro listed
    obtain ⟨other, member, rfl⟩ := List.mem_map.1 listed
    have there := held.stores_stream.1 stored
    have there' := held.stores_stream.1 ((all.mem other).1 member).1
    obtain rfl := Option.some.inj (there.symm.trans there')
    exact others (List.mem_map_of_mem member)

/-- No two streams of a device have the same uid. -/
theorem Tables.StreamsOf.nodup {t : Tables} {c : Contents} {device : UInt64}
    {streams : List StreamRow} (h : t.StreamsOf device streams) (held : t.Holds c) :
    (streams.map StreamRow.uid).Nodup := by
  refine List.pairwise_map.2 ((List.pairwise_map.1 h.ascending).imp_of_mem ?_)
  intro row row' member member' below same
  have there := held.stores_stream.1 ((h.mem row).1 member).1
  have there' := held.stores_stream.1 ((h.mem row').1 member').1
  exact UInt64.ne_of_lt below (held.streams.id_eq there there' same)

namespace Keeper

variable {E : Type} {keeper : Keeper E} {e e' : E} {t t' : Tables}

/-- The streams that live at the encoder and are not stored. -/
def orphans (keeper : Keeper E) (e : E) (t : Tables) : Set String :=
  {uid | uid ∈ keeper.live e ∧ ¬ InUse StreamRow t.streams uid}

/-- The streams that are stored live at the encoder, and each device has one. -/
structure InStep (keeper : Keeper E) (e : E) (t : Tables) : Prop where
  live : ∀ uid, InUse StreamRow t.streams uid → uid ∈ keeper.live e
  one : ∀ id b, t.devices.get? id = some b → ∃ stream, t.StreamsOf id [stream]

/-- The encoder and the tables got from one state to the next in step, giving up some streams. -/
structure Steps (keeper : Keeper E) (e : E) (t : Tables) (lost : String → Prop) (e' : E)
    (t' : Tables) : Prop where
  inStep : keeper.InStep e' t'
  orphans : ∀ uid, uid ∈ keeper.orphans e' t' ↔ uid ∈ keeper.orphans e t ∨ lost uid

theorem Steps.of_iff {lost lost' : String → Prop} (h : keeper.Steps e t lost e' t')
    (same : ∀ uid, lost' uid ↔ lost uid) : keeper.Steps e t lost' e' t' :=
  ⟨h.inStep, fun uid => by rw [same, h.orphans]⟩

theorem InStep.same (h : keeper.InStep e t) (live : keeper.live e' = keeper.live e)
    (records : t'.SameRecords t) : keeper.Steps e t (fun _ => False) e' t' where
  inStep := by
    constructor
    · rw [live, records.streams]
      exact h.live
    · rw [records.devices]
      intro id b there
      obtain ⟨stream, mem, ascending⟩ := h.one id b there
      exact ⟨stream, by rw [records.streams]; exact mem, ascending⟩
  orphans uid := by
    rw [or_false, Keeper.orphans, Keeper.orphans, live, records.streams]

/-- A stream with a new uid is recorded for a new device. -/
theorem InStep.claimed (h : keeper.InStep e t) (consistent : t.Consistent) {r : ClaimRequest}
    {location : Location} {userKeys deviceKeys : KeyPair} {uid : String} {cipher : ColumnCipher}
    {user : UserRow} {device : DeviceRow} {stream : StreamRow} {response : ClaimResponse}
    (claimed : Registrar.Claimed r location userKeys deviceKeys uid cipher t user device stream
      response t') (new : uid ∉ keeper.live e)
    (live : keeper.live e' = insert uid (keeper.live e)) :
    keeper.Steps e t (fun _ => False) e' t' := by
  obtain rfl := claimed.streamUid
  obtain ⟨streams, devices⟩ : t'.streams = Tables.withRow t.streams stream.id stream ∧
      t'.devices = Tables.withRow t.devices device.id device := by
    obtain ⟨tables, owner, rfl⟩ := claimed.rows
    generalize response.userPrivateKey = key at owner
    cases owner <;> exact ⟨rfl, rfl⟩
  have used : ∀ {uid}, InUse StreamRow t'.streams uid ↔
      uid = stream.uid ∨ InUse StreamRow t.streams uid := by
    rw [streams]
    exact inUse_withRow claimed.newStream.free
  have free : t.devices.get? device.id = none := claimed.newDevice.free
  refine ⟨⟨?_, ?_⟩, ?_⟩
  · intro uid inUse
    rw [live]
    exact (used.1 inUse).imp_right (h.live uid)
  · intro id b there
    rw [devices, Tables.withRow] at there
    by_cases same : id = device.id
    · obtain rfl := same.trans claimed.belongs.symm
      rw [← claimed.belongs] at free
      exact ⟨stream, consistent.streamsOf_new claimed.newStream.free free streams⟩
    · rw [Table.get?_insert_ne _ _ same] at there
      obtain ⟨first, own⟩ := h.one id b there
      have other : stream.deviceId ≠ id := fun mine => same (mine.symm.trans claimed.belongs)
      exact ⟨first, own.withRow claimed.newStream.free other streams⟩
  · intro uid
    simp only [Keeper.orphans, Set.mem_ofPred_eq, live, used, Set.mem_insert_iff]
    constructor
    · rintro ⟨alive, unused⟩
      exact .inl ⟨alive.resolve_left fun same => unused (.inl same),
        fun inUse => unused (.inr inUse)⟩
    · rintro (⟨alive, unused⟩ | ⟨⟨⟩⟩)
      refine ⟨.inr alive, ?_⟩
      rintro (rfl | inUse)
      · exact new alive
      · exact unused inUse

/-- A device goes with its streams, of which the encoder has deleted the first ones. -/
theorem InStep.removed (h : keeper.InStep e t) {c : Contents} (held : t.Holds c)
    {device owner : UInt64} {last : Prop} {gone left : List StreamRow}
    (all : t.StreamsOf device (gone ++ left))
    (sheds : t.Sheds device owner last ((gone ++ left).map StreamRow.id) t')
    (live : keeper.live e' = keeper.live e \ {uid | uid ∈ gone.map StreamRow.uid}) :
    keeper.Steps e t (· ∈ left.map StreamRow.uid) e' t' := by
  have used := sheds.inUse held all
  have stored : ∀ {uid}, uid ∈ (gone ++ left).map StreamRow.uid →
      InUse StreamRow t.streams uid := by
    intro uid listed
    obtain ⟨row, member, rfl⟩ := List.mem_map.1 listed
    exact ⟨row.id, row, ((all.mem row).1 member).1, rfl⟩
  have apart := all.nodup held
  simp only [List.map_append, List.mem_append] at used stored
  rw [List.map_append, List.nodup_append] at apart
  refine ⟨⟨?_, ?_⟩, ?_⟩
  · intro uid inUse
    obtain ⟨inUse, others⟩ := (used uid).1 inUse
    rw [live]
    exact ⟨h.live uid inUse, fun listed => others (.inl listed)⟩
  · intro id b there
    obtain ⟨there, other⟩ := (sheds.devices id b).1 there
    obtain ⟨stream, own⟩ := h.one id b there
    exact ⟨stream, sheds.streamsOf all other own⟩
  · intro uid
    simp only [Keeper.orphans, Set.mem_ofPred_eq, live, used, Set.mem_sdiff]
    constructor
    · rintro ⟨⟨alive, kept⟩, unused⟩
      by_cases listed : uid ∈ left.map StreamRow.uid
      · exact .inr listed
      · exact .inl ⟨alive, fun inUse => unused ⟨inUse, not_or.2 ⟨kept, listed⟩⟩⟩
    · rintro (⟨alive, unused⟩ | listed)
      · exact ⟨⟨alive, fun listed => unused (stored (.inl listed))⟩, fun inUse => unused inUse.1⟩
      · exact ⟨⟨h.live uid (stored (.inr listed)), fun deleted => apart.2.2 _ deleted _ listed rfl⟩,
          fun inUse => inUse.2 (.inr listed)⟩

end Keeper

namespace Registrar

variable {E : Type} {r : RevokeRequest} {s : Registrar Store} {c : Contents}

/-- What a revoke gives up when the encoder fails to delete a stream: that one and those behind
it. -/
def RevokeAbandons (r : RevokeRequest) (s : Registrar Store)
    (done : Attended (Registrar Store) E (Outcome RevokeResponse)) (uid : String) : Prop :=
  ∃ id device owner gone stream rest failure,
    s.store.tables.Grants r.deviceToken r.userPublicKey id device owner ∧
    s.store.tables.StreamsOf id (gone ++ stream :: rest) ∧
    done.value = .error (.failed .deleteStream (.encoder failure)) ∧
    done.exchanges = gone.map deletion ++ [⟨.deleteStream stream.uid, .error failure⟩] ∧
    uid ∈ (stream :: rest).map StreamRow.uid

/-- A call that was attended to: what it found, and what came of it. -/
structure Served (E : Type) where
  call : Call
  registrar : Registrar Store
  encoder : E
  done : Attended (Registrar Store) E (Outcome call.Response)

/-- Only revokes give up streams. -/
def Served.Abandons : Served E → String → Prop
  | ⟨.claim _, _, _, _⟩, _ => False
  | ⟨.revoke r, s, _, done⟩, uid => RevokeAbandons r s done uid

/-- The turns of the call, with the one in which it arrived. -/
def Served.turns (served : Served E) : List Turn :=
  (served.registrar, (served.call.work served.registrar).state) :: served.done.turns

/-- A registrar and its encoder, with the calls that were attended to so far. -/
structure Desk (E : Type) where
  registrar : Registrar Store
  encoder : E
  served : List (Served E) := []

namespace Desk

def turns (desk : Desk E) : List Turn := desk.served.flatMap Served.turns

def serve (enc : Encoder E) (desk : Desk E) (call : Call) : Desk E :=
  let done := (call.work desk.registrar).attend enc desk.encoder
  ⟨done.state, done.encoder, desk.served ++ [⟨call, desk.registrar, desk.encoder, done⟩]⟩

def run (enc : Encoder E) (desk : Desk E) (calls : List Call) : Desk E :=
  calls.foldl (serve enc) desk

end Desk

theorem foldl_deletion (gone : List StreamRow) (live : Set String) :
    (gone.map deletion).foldl Exchange.effect live =
      live \ {uid | uid ∈ gone.map StreamRow.uid} := by
  induction gone generalizing live with
  | nil => simp
  | cons stream gone ih =>
    rw [List.map_cons, List.foldl_cons, ih]
    ext uid
    simp [Exchange.effect, deletion, and_assoc]

variable {keeper : Keeper E} {e : E}

/-- What a revoke gives up is what it was to delete when the encoder failed. -/
theorem revokeAbandons_iff (held : s.store.tables.Holds c)
    (finite : ∀ id row, c.devices.get? id = some row → row.IsFinite)
    {done : Attended (Registrar Store) E (Outcome RevokeResponse)} {id : UInt64}
    {device : DeviceRow} {owner : UserRow} {gone rest : List StreamRow} {stream : StreamRow} {failure : EncoderError}
    (granted : s.store.tables.Grants r.deviceToken r.userPublicKey id device owner)
    (all : s.store.tables.StreamsOf id (gone ++ stream :: rest))
    (failed : done.value = .error (.failed .deleteStream (.encoder failure)))
    (stopped : done.exchanges = gone.map deletion ++ [⟨.deleteStream stream.uid, .error failure⟩])
    (uid : String) : RevokeAbandons r s done uid ↔ uid ∈ (stream :: rest).map StreamRow.uid := by
  constructor
  · rintro ⟨id', device', owner', gone', stream', rest', failure', granted', all', -, stopped',
      lost⟩
    obtain ⟨rfl, rfl⟩ := granted.unique held finite granted'
    have same := (held.streamsOf_iff.1 all').unique (held.streamsOf_iff.1 all)
    rw [stopped] at stopped'
    have length := congrArg List.length stopped'
    simp only [List.length_append, List.length_map, List.length_singleton] at length
    obtain ⟨-, behind⟩ := List.append_inj same (by omega)
    exact behind ▸ lost
  · intro lost
    exact ⟨id, device, owner, gone, stream, rest, failure, granted, all, failed, stopped, lost⟩

theorem revoke_steps (held : s.store.tables.Holds c)
    (finite : ∀ id row, c.devices.get? id = some row → row.IsFinite)
    (h : keeper.InStep e s.store.tables) (r : RevokeRequest) :
    let done := (revoke r s).attend keeper.toEncoder e
    keeper.Steps e s.store.tables (RevokeAbandons r s done) done.encoder
      done.state.store.tables := by
  intro done
  have live : keeper.live done.encoder = done.exchanges.foldl Exchange.effect (keeper.live e) :=
    keeper.live_attend e (revoke r s)
  -- Without a call to the encoder nothing is given up.
  have idle : done.exchanges = [] → done.state.store.tables = s.store.tables →
      keeper.Steps e s.store.tables (RevokeAbandons r s done) done.encoder
        done.state.store.tables := by
    intro silent same
    have none : ∀ uid, RevokeAbandons r s done uid ↔ False := by
      intro uid
      rw [iff_false]
      rintro ⟨_, _, _, _, _, _, _, -, -, -, stopped, -⟩
      rw [silent] at stopped
      exact List.append_ne_nil_of_right_ne_nil _ (List.cons_ne_nil _ _) stopped.symm
    rw [silent] at live
    rw [same]
    exact (h.same live (.refl _)).of_iff none
  cases valid : r.validate with
  | error failure =>
    have refused : done = ⟨.error failure, s, e, [], []⟩ := by
      show (revoke r s).attend keeper.toEncoder e = _
      rw [revoke_eq, valid]
      rfl
    exact idle (by rw [refused]) (by rw [refused])
  | ok checked =>
    rcases revoke_outcome held finite valid with ⟨-, revokes⟩ |
      ⟨id, device, owner, granted, streams, t, all, sheds, revokes⟩
    · obtain ⟨-, same, silent⟩ := revokes E keeper.toEncoder e
      exact idle silent same
    · obtain ⟨same, swept⟩ : done.state.store.tables = t ∧
          Sweeps {} streams done.exchanges done.value := revokes E keeper.toEncoder e
      rw [same]
      generalize exchanged : done.exchanges = exchanges at swept
      generalize answered : done.value = value at swept
      cases swept with
      | all =>
        rw [exchanged, foldl_deletion] at live
        rw [← List.append_nil streams] at all sheds
        refine (h.removed held all sheds live).of_iff ?_
        intro uid
        rw [List.map_nil, iff_false_right List.not_mem_nil]
        rintro ⟨_, _, _, _, _, _, _, -, -, failed, -⟩
        rw [answered] at failed
        contradiction
      | stopped split failed =>
        rw [exchanged, List.foldl_append, foldl_deletion] at live
        subst split failed
        exact (h.removed held all sheds live).of_iff
          (revokeAbandons_iff held finite granted all answered exchanged)

theorem claim_steps (held : s.store.tables.Holds c) (settled : c.Settled) (r : ClaimRequest)
    (h : keeper.InStep e s.store.tables)
    (spare : ∀ turn ∈ ((claim r s).attend keeper.toEncoder e).turns,
      Spare turn.1.store.tables turn.2.store.tables) :
    let done := (claim r s).attend keeper.toEncoder e
    keeper.Steps e s.store.tables (fun _ => False) done.encoder done.state.store.tables := by
  intro done
  have live : keeper.live done.encoder = done.exchanges.foldl Exchange.effect (keeper.live e) :=
    keeper.live_attend e (claim r s)
  have failed : ∀ error, done.value = .error error →
      done.state.store.tables.SameRecords s.store.tables := by
    intro error failed
    have run := Progress.attend_reaches keeper.toEncoder e (claim r s)
    rw [show ((claim r s).attend keeper.toEncoder e).value = .error error from failed] at run
    exact ((claim_reaches run).restored ⟨c, held, settled⟩ spare).records
  have ends : ClaimEnds keeper.toEncoder e r s done := claim_attend ..
  replace spare : ∀ turn ∈ done.turns, Spare turn.1.store.tables turn.2.store.tables := spare
  clear_value done
  cases ends with
  | refused => exact h.same live (failed _ rfl)
  | unregistered => exact h.same live (failed _ rfl)
  | uncreated => exact h.same live (failed _ rfl)
  | @unrecorded _ _ _ d uid error time e' start a b t u begins same registered asked heard
      unrecorded =>
    -- A uid that is new to the encoder is not in use, so that the stream can be recorded.
    have unused : ¬ InUse StreamRow s.store.tables.streams uid :=
      fun inUse => (keeper.created asked).1 (h.live uid inUse)
    have first := spare (start, a) (by simp)
    have last := spare (b, t) (by simp)
    rw [same] at registered first
    rw [heard] at unrecorded last
    exact absurd (recordStream_register held begins.valid registered first unrecorded last).2 unused
  | @claimed _ _ _ d uid time e' start a b t begins same registered asked heard recorded =>
    have first := spare (start, a) (by simp)
    have last := spare (b, t) (by simp)
    rw [same] at registered first
    rw [heard] at recorded last
    obtain ⟨-, user, device, stream, -, claimed⟩ :=
      claimed_of_recorded held begins.valid registered first recorded last
    exact h.claimed held.consistent claimed (keeper.created asked).1 live

namespace Desk

variable {start : Registrar Store} {desk : Desk E}

theorem turns_serve (enc : Encoder E) (desk : Desk E) (call : Call) :
    (desk.serve enc call).turns =
      desk.turns ++ (desk.registrar, (call.work desk.registrar).state) ::
      ((call.work desk.registrar).attend enc desk.encoder).turns := by
  rw [turns, serve, List.flatMap_append, List.flatMap_singleton]
  rfl

/-- The calls so far came one after the other, and the streams were kept in step. -/
structure Kept (keeper : Keeper E) (start : Registrar Store) (desk : Desk E) : Prop where
  calls : Calls start desk.turns desk.registrar
  inStep : keeper.InStep desk.encoder desk.registrar.store.tables
  orphans : ∀ uid, uid ∈ keeper.orphans desk.encoder desk.registrar.store.tables ↔
    ∃ served ∈ desk.served, served.Abandons uid
  claims : ∀ served ∈ desk.served, ∀ r, served.call = .claim r →
    keeper.orphans served.done.encoder served.done.state.store.tables =
      keeper.orphans served.encoder served.registrar.store.tables

theorem Kept.serve (h : desk.Kept keeper start) (fresh : start.store.Fresh) (call : Call)
    (few : ∀ q, issuesOf q (desk.serve keeper.toEncoder call).turns < UInt64.size) :
    (desk.serve keeper.toEncoder call).Kept keeper start := by
  have run := Progress.attend_reaches keeper.toEncoder desk.encoder (call.work desk.registrar)
  have split := turns_serve keeper.toEncoder desk call
  have fewOwn : ∀ q, issuesOf q (desk.turns ++
      ((call.work desk.registrar).attend keeper.toEncoder desk.encoder).turns) < UInt64.size := by
    intro q
    have := few q
    rw [split, issuesOf_append, issuesOf] at this
    rw [issuesOf_append]
    omega
  obtain ⟨⟨c, held, settled, -⟩, -, own⟩ := call_evolves fresh h.calls.chain
    (fun _ _ _ => Progress.Alone.chain) run fewOwn
  have steps : keeper.Steps desk.encoder desk.registrar.store.tables
      (Served.Abandons ⟨call, desk.registrar, desk.encoder,
        (call.work desk.registrar).attend keeper.toEncoder desk.encoder⟩)
      (desk.serve keeper.toEncoder call).encoder
      (desk.serve keeper.toEncoder call).registrar.store.tables := by
    cases call with
    | claim r => exact claim_steps held settled r h.inStep fun turn taken => (own turn taken).2
    | revoke r => exact revoke_steps held settled.finite h.inStep r
  refine ⟨?_, steps.inStep, ?_, ?_⟩
  · rw [split]
    exact h.calls.append (.one call run)
  · intro uid
    rw [steps.orphans, h.orphans]
    simp [Desk.serve, or_and_right, exists_or]
  · intro served listed r claim
    rcases List.mem_append.1 listed with before | now
    · exact h.claims served before r claim
    · obtain rfl := List.mem_singleton.1 now
      obtain rfl : call = .claim r := claim
      ext uid
      exact (steps.orphans uid).trans (or_iff_left id)

theorem run_kept (keeper : Keeper E) {e : E} (fresh : start.store.Fresh)
    (empty : keeper.live e = ∅) (calls : List Call)
    (few : ∀ q, issuesOf q (run keeper.toEncoder ⟨start, e, []⟩ calls).turns < UInt64.size) :
    (run keeper.toEncoder ⟨start, e, []⟩ calls).Kept keeper start := by
  induction calls using List.reverseRecOn with
  | nil =>
    have held := fresh.holds
    rw [run, List.foldl_nil]
    refine ⟨.nil start, ⟨?_, ?_⟩, ?_, by simp⟩
    · intro uid inUse
      have unused : ¬ InUse StreamRow start.store.tables.streams uid :=
        held.streams.not_inUse.2 nofun
      exact absurd inUse unused
    · intro id b there
      have nothing : start.store.tables.devices.get? id = none := held.devices.get?_none rfl
      exact absurd (nothing.symm.trans there) (Option.some_ne_none b).symm
    · simp [Keeper.orphans, empty]
  | append_singleton calls call ih =>
    have last : run keeper.toEncoder ⟨start, e, []⟩ (calls ++ [call]) =
        (run keeper.toEncoder ⟨start, e, []⟩ calls).serve keeper.toEncoder call := by
      rw [run, List.foldl_append]
      rfl
    rw [last] at few ⊢
    refine (ih ?_).serve fresh call few
    intro q
    have := few q
    rw [turns_serve, issuesOf_append] at this
    omega

/-- What is stored and what lives at the encoder, after some calls. -/
structure Accounted (keeper : Keeper E) (desk : Desk E) : Prop where
  /-- The streams that are stored live at the encoder. -/
  live : ∀ id (row : StreamRow), Stores desk.registrar.store.tables.streams id row →
    row.uid ∈ keeper.live desk.encoder
  distinct : ∀ id id' (row row' : StreamRow), Stores desk.registrar.store.tables.streams id row →
    Stores desk.registrar.store.tables.streams id' row' → row.uid = row'.uid → id = id'
  /-- The others that live there are those that revokes gave up. -/
  orphans : ∀ uid, uid ∈ keeper.orphans desk.encoder desk.registrar.store.tables ↔
    ∃ served ∈ desk.served, served.Abandons uid
  /-- No claim has added to them. -/
  claims : ∀ served ∈ desk.served, ∀ r, served.call = .claim r →
    keeper.orphans served.done.encoder served.done.state.store.tables =
      keeper.orphans served.encoder served.registrar.store.tables
  /-- Each device has exactly one stream. -/
  one : ∀ id b, desk.registrar.store.tables.devices.get? id = some b →
    ∃ stream, desk.registrar.store.tables.StreamsOf id [stream]

/-- However many calls come one after the other, and whichever calls to the encoder fail, the
encoder has the streams that are stored and those that revokes gave up when it failed, and no others. -/
theorem run_accounted (keeper : Keeper E) {e : E} (fresh : start.store.Fresh)
    (empty : keeper.live e = ∅) (calls : List Call)
    (few : ∀ q, issuesOf q (run keeper.toEncoder ⟨start, e, []⟩ calls).turns < UInt64.size) :
    (run keeper.toEncoder ⟨start, e, []⟩ calls).Accounted keeper := by
  have kept := run_kept keeper fresh empty calls few
  obtain ⟨c, held, -⟩ := (fresh_evolves fresh kept.calls.chain few).1.after
  refine ⟨?_, ?_, kept.orphans, kept.claims, kept.inStep.one⟩
  · intro id row stored
    exact kept.inStep.live row.uid ⟨id, row, stored, rfl⟩
  · intro id id' row row' stored stored' same
    exact held.streams.id_eq (held.stores_stream.1 stored) (held.stores_stream.1 stored') same

end Desk

/-- An encoder that has room for one stream and does not delete it. -/
def hoarder : Keeper Bool where
  answer
    | .createStream _, false => ((.ok "stream", {}), true)
    | .createStream _, true => ((.error (.transport "full"), {}), true)
    | .deleteStream _, e => ((.error (.transport "full"), {}), e)
  live e := if e then {"stream"} else ∅
  created {request e e' uid time} answered := by
    cases e <;> cases answered
    simp
  deleted answered := by cases answered
  failed {call e e' failure time} answered := by
    cases call <;> cases e <;> cases answered <;> rfl

theorem Desk.length_claim (enc : Encoder E) (desk : Desk E) (r : ClaimRequest) :
    (desk.serve enc (.claim r)).turns.length ≤ desk.turns.length + 5 := by
  have own := (claim_attend enc desk.encoder r desk.registrar).length
  rw [turns_serve, List.length_append, List.length_cons]
  exact Nat.add_le_add_left (Nat.succ_le_succ own) _

theorem Desk.length_revoke (desk : Desk Bool) (r : RevokeRequest) :
    (desk.serve hoarder.toEncoder (.revoke r)).turns.length ≤ desk.turns.length + 3 := by
  have own :
      ((revoke r desk.registrar).attend hoarder.toEncoder desk.encoder).turns.length ≤ 2 := by
    cases valid : r.validate with
    | error =>
      rw [revoke_eq, valid]
      exact Nat.zero_le 2
    | ok =>
      obtain ⟨s', -, -, run⟩ := @revoke_attend _ desk.registrar r hoarder.toEncoder desk.encoder valid
      rw [run, removing]
      cases removeDevice r.deviceToken r.userPublicKey s'.store with
      | error => exact Nat.le_succ 1
      | ok d store =>
        dsimp only
        rw [map_eq, Progress.attend_map]
        cases d.streams with
        | nil => exact Nat.le_succ 1
        | cons stream rest => exact Nat.le_refl 2
  rw [turns_serve, List.length_append, List.length_cons]
  exact Nat.add_le_add_left (Nat.succ_le_succ own) _

/-- Alice claims a device and revokes it. -/
theorem Desk.run_accounted_alice : ∃ start : Registrar Store,
    let desk := run hoarder.toEncoder ⟨start, false, []⟩
      [.claim (aliceClaims "spare"), .revoke ⟨"spare", "public 0"⟩]
    start.store.Fresh ∧ hoarder.live false = ∅ ∧ (∀ q, issuesOf q desk.turns < UInt64.size) ∧
      desk.Accounted hoarder := by
  obtain ⟨start, fresh, -, -⟩ := exists_fresh numberedKeys numberedKeys_usable
  have empty : hoarder.live false = ∅ := rfl
  let first : Desk Bool := serve hoarder.toEncoder ⟨start, false, []⟩ (.claim (aliceClaims "spare"))
  let last : Desk Bool := first.serve hoarder.toEncoder (.revoke ⟨"spare", "public 0"⟩)
  have few : ∀ q, issuesOf q last.turns < UInt64.size := by
    intro q
    have claimed : first.turns.length ≤ 0 + 5 := length_claim ..
    have revoked : last.turns.length ≤ first.turns.length + 3 := length_revoke ..
    have bound := issuesOf_le_length q last.turns
    have small : 8 < UInt64.size := by decide
    omega
  exact ⟨start, fresh, empty, few, run_accounted hoarder fresh empty _ few⟩

end Registrar
end DeviceRegistry
