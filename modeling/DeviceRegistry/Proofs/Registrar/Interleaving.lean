import DeviceRegistry.Proofs.Registrar.Success

/-! Any number of claims and revokes at once. Their turns come in any order; between two turns of
one call the others may register, record and remove what they like. -/
namespace DeviceRegistry
open StoredRow

namespace Registrar

/-- A call that has arrived: the turns it took and where it stands. -/
structure Thread where
  call : Call
  turns : List Turn
  progress : Progress (Registrar Store) (Outcome call.Response)

/-- The calls that have arrived, and the state that they share. -/
structure Service where
  registrar : Registrar Store
  threads : List Thread

namespace Service

/-- One turn: a call arrives, goes on after a pause, or goes on with some answer of the encoder. -/
inductive Step : Service → Turn → Service → Prop where
  | arrived (service : Service) (call : Call) :
      Step service (service.registrar, (call.work service.registrar).state)
        ⟨(call.work service.registrar).state,
          service.threads ++ [⟨call, [], call.work service.registrar⟩]⟩
  | resumed (now : Registrar Store) {before after : List Thread} {call : Call} {turns : List Turn}
      {s : Registrar Store}
      {resume : Registrar Store → Progress (Registrar Store) (Outcome call.Response)} :
      Step ⟨now, before ++ ⟨call, turns, .paused s resume⟩ :: after⟩ (now, (resume now).state)
        ⟨(resume now).state,
          before ++ ⟨call, turns ++ [(now, (resume now).state)], resume now⟩ :: after⟩
  | answered (now : Registrar Store) {before after : List Thread} {call : Call} {turns : List Turn}
      {s : Registrar Store} {asked : EncoderCall}
      {resume : Except EncoderError asked.Answer → Duration → Registrar Store →
        Progress (Registrar Store) (Outcome call.Response)}
      (answer : Except EncoderError asked.Answer) (time : Duration) :
      Step ⟨now, before ++ ⟨call, turns, .calling asked s resume⟩ :: after⟩
        (now, (resume answer time now).state)
        ⟨(resume answer time now).state,
          before ++ ⟨call, turns ++ [(now, (resume answer time now).state)],
            resume answer time now⟩ :: after⟩

/-- Turns of any calls in any order, from a registrar that nobody has called yet. -/
inductive Run (start : Registrar Store) : List Turn → Service → Prop where
  | start : Run start [] ⟨start, []⟩
  | step {turns : List Turn} {turn : Turn} {service service' : Service}
      (run : Run start turns service) (next : Step service turn service') :
      Run start (turns ++ [turn]) service'

end Service

/-- Between two turns of a call the store evolves. -/
def Meanwhile (s : Registrar Store) (between : List Turn) (t : Registrar Store) : Prop :=
  between = [] ∧ s.store.Evolves t.store

/-- A turn in which the store evolves and no sequence comes round. -/
def Proper (turn : Turn) : Prop :=
  turn.1.store.Evolves turn.2.store ∧ Spare turn.1.store.tables turn.2.store.tables

/-- The call took its turns in a store that evolved meanwhile, up to now. -/
structure Thread.Follows (thread : Thread) (now : Registrar Store) : Prop where
  run : ∃ s, (thread.call.work s).Reaches Meanwhile thread.turns thread.progress
  proper : ∀ turn ∈ thread.turns, Proper turn
  since : thread.progress.state.store.Evolves now.store

namespace Thread.Follows

variable {thread : Thread} {now : Registrar Store}

theorem later {next : Registrar Store} (h : thread.Follows now)
    (evolves : now.store.Evolves next.store) : thread.Follows next :=
  ⟨h.run, h.proper, h.since.trans evolves⟩

theorem turns_to_come (h : thread.Follows now) : thread.progress.Turns Turning := by
  obtain ⟨s, run⟩ := h.run
  exact run.to_come (thread.call.work_turns s).2

/-- The call takes a turn of its own. -/
theorem next {call : Call} {turns : List Turn}
    {p q : Progress (Registrar Store) (Outcome call.Response)} (h : Thread.Follows ⟨call, turns, p⟩ now)
    (goes : Meanwhile p.state [] now → p.Reaches Meanwhile [(now, q.state)] q)
    (proper : Proper (now, q.state)) :
    Thread.Follows ⟨call, turns ++ [(now, q.state)], q⟩ q.state := by
  obtain ⟨s, run⟩ := h.run
  refine ⟨⟨s, run.trans (goes ⟨rfl, h.since⟩)⟩, ?_, .refl proper.1.after⟩
  rw [List.forall_mem_append, List.forall_mem_singleton]
  exact ⟨h.proper, proper⟩

end Thread.Follows

namespace Service

variable {service service' : Service} {turn : Turn}

/-- One call goes on, and the others wait. -/
theorem forall_goesOn {own own' : Thread → Prop} {before after : List Thread} {thread thread' : Thread}
    (each : ∀ other ∈ before ++ thread :: after, own other)
    (waits : ∀ other, own other → own' other) (goes : own thread → own' thread') :
    ∀ other ∈ before ++ thread' :: after, own' other := by
  rw [List.forall_mem_append, List.forall_mem_cons] at each ⊢
  obtain ⟨front, mine, back⟩ := each
  exact ⟨fun other there => waits other (front other there), goes mine,
    fun other there => waits other (back other there)⟩

theorem Step.kind (h : Step service turn service')
    (follows : ∀ thread ∈ service.threads, thread.Follows service.registrar) :
    turn.1 = service.registrar ∧ turn.2 = service'.registrar ∧ Turning turn.1 turn.2 := by
  cases h with
  | arrived service call => exact ⟨rfl, rfl, call.work_turning _⟩
  | resumed now =>
    have come := (follows _ (List.mem_append_right _ List.mem_cons_self)).turns_to_come
    exact ⟨rfl, rfl, (come now).1⟩
  | answered now answer time =>
    have come := (follows _ (List.mem_append_right _ List.mem_cons_self)).turns_to_come
    exact ⟨rfl, rfl, (come answer time now).1⟩

theorem Step.follows (h : Step service turn service') (proper : Proper turn)
    (follows : ∀ thread ∈ service.threads, thread.Follows service.registrar) :
    ∀ thread ∈ service'.threads, thread.Follows service'.registrar := by
  cases h with
  | arrived service call =>
    rw [List.forall_mem_append, List.forall_mem_singleton]
    exact ⟨fun thread arrived => (follows thread arrived).later proper.1,
      ⟨_, .here _⟩, by simp, .refl proper.1.after⟩
  | resumed now =>
    refine forall_goesOn follows (fun _ waits => waits.later proper.1) ?_
    exact fun goes => goes.next (fun meanwhile => .resumed meanwhile (.here _)) proper
  | answered now answer time =>
    refine forall_goesOn follows (fun _ waits => waits.later proper.1) ?_
    exact fun goes => goes.next (fun meanwhile => .answered meanwhile (.here _)) proper

/-- In a run the store evolves, and the calls follow it. -/
theorem Run.follows {start : Registrar Store} {turns : List Turn} (fresh : start.store.Fresh)
    (run : Run start turns service) (few : ∀ q, issuesOf q turns < UInt64.size) :
    Chain Turning start turns service.registrar ∧
      ∀ thread ∈ service.threads, thread.Follows service.registrar := by
  -- A turn of one call is an evolution between two turns of the others.
  induction run with
  | start => exact ⟨.nil _, by simp⟩
  | @step turns turn service service' run next ih =>
    obtain ⟨chain, follows⟩ := ih (issuesOf_lt_before few)
    obtain ⟨first, last, kind⟩ := next.kind follows
    obtain ⟨s, t⟩ := turn
    obtain rfl : s = _ := first
    obtain rfl : t = _ := last
    have chain' := chain.append (.cons kind (.nil _))
    obtain ⟨-, proper⟩ := fresh_evolves fresh chain' few
    exact ⟨chain', next.follows (proper _ (by simp)) follows⟩

end Service

/-- What a claim has brought about when its stream is recorded. It registered the device between `a`
and `a'`, and recorded the stream between `c` and `c'`. -/
structure Delivers (r : ClaimRequest) (response : ClaimResponse) (a a' c c' : Store)
    (device : DeviceRow) (owner : UserRow) (stream : StreamRow) : Prop where
  registered : a.tables.devices.get? device.id = none ∧ Stores a'.tables.devices device.id device
  recorded : c.tables.streams.get? stream.id = none ∧ Stores c'.tables.streams stream.id stream
  belongs : stream.deviceId = device.id
  kept : Stores c'.tables.devices device.id device
  token : device.token = r.deviceToken
  owned : Stores c'.tables.users device.userId owner
  uid : owner.uid = r.userUid
  publicKey : owner.publicKey = response.userPublicKey
  privateKey : c'.cipher.decryptText Transaction.userKeyColumn owner.privateKey =
    .ok response.userPrivateKey

/-- What was registered is still the same when a stream is recorded for it, because its id and that
of its owner cannot have come to name other rows. -/
theorem delivers {r : ClaimRequest} {location : Location} {userKeys deviceKeys : KeyPair}
    {d : Registered} {uid : String} {a a' c c' : Store} (first : a.Evolves a')
    (spare : Spare a.tables a'.tables) (since : a'.Evolves c)
    (spare' : Spare c.tables c'.tables)
    (registered : register r location userKeys deviceKeys a = .ok d a')
    (recorded : recordStream d.device.id uid c = .ok () c') :
    ∃ device owner stream, device.id = d.device.id ∧ stream.uid = uid ∧
      Delivers r (response d) a a' c c' device owner stream := by
  obtain ⟨start, held, -⟩ := first.before
  obtain ⟨now, heldNow, -⟩ := since.after
  have outcome := Registers.of_eq held registered spare
  have outcome' := Recorded.of_eq heldNow recorded spare'
  cases outcome with
  | @registered user device key then_ tables entropy later mine owner opens described enrolled held' =>
    cases outcome' with
    | @recorded stream last tables' named attached held'' =>
      obtain rfl := attached.made
      obtain ⟨row, found⟩ := attached.known
      obtain ⟨same, owned⟩ := since.enrolled enrolled held' heldNow found
      have fresh : start.devices.get? device.id = none :=
        Contents.valid_fresh held.valid enrolled.room enrolled.next
      have freshStream : now.streams.get? stream.id = none := by
        rw [attached.next]
        exact heldNow.valid.streams.fresh attached.room
      refine ⟨device, user, stream, rfl, named, ?_⟩
      exact {
        registered := ⟨held.devices.get?_none fresh, held'.devices.get?_row enrolled.device_get?⟩
        recorded := ⟨heldNow.streams.get?_none freshStream,
          held''.streams.get?_row (Table.get?_insert_self ..)⟩
        belongs := attached.mine
        kept := by
          rw [Stores, ← same]
          exact held''.devices.get?_row found
        token := described.token
        owned := enrolled.owner ▸ held''.users.get?_row owned
        uid := mine
        publicKey := rfl
        privateKey := by
          show c.cipher.decryptText _ _ = _
          rw [since.cipher]
          exact opens }

/-- A claim that is answered took three turns: it registered its device, it heard of the stream from
the encoder, and it recorded the stream, which leaves the registrar in the state `t`. -/
def Delivered (r : ClaimRequest) (response : ClaimResponse) (turns : List Turn)
    (t : Registrar Store) : Prop :=
  ∃ a a' b b' c location userKeys deviceKeys d uid device owner stream,
    turns = [(a, a'), (b, b'), (c, t)] ∧
    register r location userKeys deviceKeys a.store = .ok d a'.store ∧
    recordStream d.device.id uid c.store = .ok () t.store ∧
    device.id = d.device.id ∧ stream.uid = uid ∧
    Delivers r response a.store a'.store c.store t.store device owner stream

/-- A claim that succeeds has delivered, however the store evolved between its turns. -/
theorem Claims.delivered {r : ClaimRequest} {response : ClaimResponse} {s t : Registrar Store}
    {turns : List Turn} (h : Claims Meanwhile r s turns (.ok response) t)
    (proper : ∀ turn ∈ turns, Proper turn) : Delivered r response turns t := by
  cases h with
  | @registered location userKeys deviceKeys d start a a' _ _ _ _ same pause valid registered
      finishes =>
    cases finishes with
    | @recorded uid b b' c _ _ _ meanwhile same' pause' recorded =>
      obtain ⟨rfl, -⟩ := pause
      obtain ⟨rfl, heard⟩ := meanwhile
      obtain ⟨rfl, paused⟩ := pause'
      have first := proper (a, a') (by simp)
      have last := proper (c, t) (by simp)
      rw [same'] at paused
      obtain ⟨device, owner, stream, id, named, delivers⟩ :=
        Registrar.delivers first.1 first.2 (heard.trans paused) last.2 registered recorded
      exact ⟨a, a', b, b', c, location, userKeys, deviceKeys, d, uid, device, owner, stream, rfl,
        registered, recorded, id, named, delivers⟩

def EachOwns (t : Tables) : Prop :=
  ∀ id b, t.users.get? id = some b →
    ∃ device, ∃ row : DeviceRow, Stores t.devices device row ∧ row.userId = id

/-- Whatever the order of the turns, every user owns a device; and when a claim succeeds, then at
the commit of its stream the stream belongs to the very device that the claim registered, which has
the token of the request and an owner with the user's uid and the keys that are answered. -/
theorem Service.run_safe {start : Registrar Store} {turns : List Turn} {service : Service}
    (fresh : start.store.Fresh) (run : Run start turns service)
    (few : ∀ q, issuesOf q turns < UInt64.size) :
    EachOwns service.registrar.store.tables ∧
      ∀ r own response t,
        (⟨.claim r, own, .finished (.ok response) t⟩ : Thread) ∈ service.threads →
        Delivered r response own t := by
  obtain ⟨chain, follows⟩ := run.follows fresh few
  obtain ⟨c, held, settled⟩ := (fresh_evolves fresh chain few).1.after
  constructor
  · intro id b stored
    obtain ⟨user, there, -⟩ := held.users.exists_row stored
    obtain ⟨device, row, owned, mine⟩ := Contents.not_alone.1 (settled.owns id user there)
    exact ⟨device, row, held.devices.get?_row owned, mine⟩
  · intro r own response t arrived
    have follows := follows _ arrived
    obtain ⟨s, run⟩ := follows.run
    exact (claim_reaches run).delivered follows.proper

/-- Turns of any kind that good registrars take, and that leave them good. -/
theorem Service.Step.chain {turn : Registrar Store → Registrar Store → Prop}
    {good : Registrar Store → Prop}
    (work : ∀ (call : Call) s, good s → turn s (call.work s).state ∧ (call.work s).Turns turn)
    {service service' : Service} {taken : Turn} (h : Step service taken service')
    (before : good service.registrar)
    (turns : ∀ thread ∈ service.threads, thread.progress.Turns turn) :
    taken = (service.registrar, service'.registrar) ∧ turn service.registrar service'.registrar ∧
      ∀ thread ∈ service'.threads, thread.progress.Turns turn := by
  cases h with
  | arrived service call =>
    obtain ⟨first, later⟩ := work call service.registrar before
    refine ⟨rfl, first, ?_⟩
    rw [List.forall_mem_append, List.forall_mem_singleton]
    exact ⟨turns, later⟩
  | resumed now =>
    have own := turns _ (List.mem_append_right _ List.mem_cons_self)
    exact ⟨rfl, (own now).1, forall_goesOn turns (fun _ waits => waits) fun _ => (own now).2⟩
  | answered now answer time =>
    have own := turns _ (List.mem_append_right _ List.mem_cons_self)
    exact ⟨rfl, (own answer time now).1,
      forall_goesOn turns (fun _ waits => waits) fun _ => (own answer time now).2⟩

theorem Service.Run.chain {turn : Registrar Store → Registrar Store → Prop}
    {good : Registrar Store → Prop}
    (work : ∀ (call : Call) s, good s → turn s (call.work s).state ∧ (call.work s).Turns turn)
    (keeps : ∀ {s t}, turn s t → good s → good t) {start : Registrar Store} {turns : List Turn}
    {service : Service} (first : good start) (run : Run start turns service) :
    Chain turn start turns service.registrar ∧ good service.registrar ∧
      ∀ thread ∈ service.threads, thread.progress.Turns turn := by
  induction run with
  | start => exact ⟨.nil _, first, by simp⟩
  | step run next ih =>
    obtain ⟨chain, before, turns⟩ := ih
    obtain ⟨rfl, taken, turns'⟩ := next.chain work before turns
    exact ⟨chain.append (.cons taken (.nil _)), keeps taken before, turns'⟩

/-- In a run the keys are of the kind that the source makes. -/
theorem Service.Run.supplied {kind : KeyPair → Prop} {start : Registrar Store} {turns : List Turn}
    {service : Service} (makes : start.keys.Makes kind) (run : Run start turns service) :
    Chain (TurningWith kind) start turns service.registrar ∧ service.registrar.keys.Makes kind := by
  have work : ∀ (call : Call) (s : Registrar Store), s.keys.Makes kind →
      TurningWith kind s (call.work s).state ∧ (call.work s).Turns (TurningWith kind) := by
    intro call s makes
    obtain ⟨store, source, turns⟩ := call.work_turns_with makes
    exact ⟨.of_same store source, turns⟩
  have keeps : ∀ {s t : Registrar Store}, TurningWith kind s t → s.keys.Makes kind →
      t.keys.Makes kind := by
    intro s t turn makes n pair made
    rw [turn.source] at made
    exact makes n pair made
  obtain ⟨chain, makes, -⟩ := run.chain work keeps makes
  exact ⟨chain, makes⟩

/-- The call that arrived last may go on alone, in whatever is reached by turns. -/
theorem Service.Step.alone {reached : List Turn → Service → Prop}
    (step : ∀ turns service turn service', reached turns service → Step service turn service' →
      reached (turns ++ [turn]) service')
    {past turns own : List Turn} {threads : List Thread} {call : Call}
    {p q : Progress (Registrar Store) (Outcome call.Response)}
    (before : reached past ⟨p.state, threads ++ [⟨call, own, p⟩]⟩)
    (h : p.Reaches Progress.Alone turns q) :
    reached (past ++ turns) ⟨q.state, threads ++ [⟨call, own ++ turns, q⟩]⟩ := by
  induction h generalizing past own with
  | here => simpa using before
  | @resumed s t resume between turns q meanwhile rest ih =>
    obtain ⟨rfl, rfl⟩ := meanwhile
    have next := ih (step _ _ _ _ before (.resumed t))
    rwa [List.append_assoc, List.append_assoc] at next
  | @answered asked s t resume answer time between turns q meanwhile rest ih =>
    obtain ⟨rfl, rfl⟩ := meanwhile
    have next := ih (step _ _ _ _ before (.answered t answer time))
    rwa [List.append_assoc, List.append_assoc] at next

theorem Service.Run.alone {start : Registrar Store} {past turns own : List Turn}
    {threads : List Thread} {call : Call}
    {p q : Progress (Registrar Store) (Outcome call.Response)}
    (run : Run start past ⟨p.state, threads ++ [⟨call, own, p⟩]⟩)
    (h : p.Reaches Progress.Alone turns q) :
    Run start (past ++ turns) ⟨q.state, threads ++ [⟨call, own ++ turns, q⟩]⟩ :=
  Step.alone (fun _ _ _ _ => .step) run h

/-- Alice claims a spare device while her claim of a thermometer waits for the encoder. -/
theorem Service.run_safe_alice :
    ∃ (start : Registrar Store) (turns own : List Turn) (service : Service)
      (response : ClaimResponse) (t : Registrar Store),
      start.store.Fresh ∧ Run start turns service ∧ (∀ q, issuesOf q turns < UInt64.size) ∧
      (⟨.claim (aliceClaims "spare"), own, .finished (.ok response) t⟩ : Thread) ∈
        service.threads ∧
      EachOwns service.registrar.store.tables ∧
      Delivered (aliceClaims "spare") response own t := by
  obtain ⟨start, fresh, -, fit⟩ := exists_fresh numberedKeys numberedKeys_usable
  obtain ⟨userKeys, deviceKeys, a, a', d, user, device, c, waits, -, -, -, enrolls, fit⟩ :=
    claim_registers fit (by decide) (@aliceClaims_valid "thermometer" (by decide)) nofun
  have new : ∀ id row, c.devices.get? id = some row → row.token ≠ "spare" :=
    enrolls.enrolled.new_token (by rw [enrolls.token]; decide) nofun
  have newStream : ∀ id row, c.streams.get? id = some row → row.uid ≠ "stream" := by
    rw [enrolls.enrolled.streams]
    exact nofun
  obtain ⟨b, b', u, u', v, t, response, owner, spare, stream, c₁, c₂, done, -⟩ :=
    claim_succeeds fit (by decide) (@aliceClaims_valid "spare" (by decide)) new newStream {}
  have waiting := Service.Run.alone (.step .start (.arrived _ (.claim (aliceClaims "thermometer"))))
    waits
  obtain ⟨turns, length, run⟩ : ∃ turns : List Turn, turns.length = 6 ∧ Run start turns _ :=
    ⟨_, rfl, Service.Run.alone (waiting.step (.arrived _ (.claim (aliceClaims "spare")))) done⟩
  have few := issuesOf_lt length (by decide)
  obtain ⟨owns, delivered⟩ := Service.run_safe fresh run few
  refine ⟨start, turns, [(b, b'), (u, u'), (v, t)], _, response, t, fresh, run, few, ?_, owns,
    delivered _ _ _ _ ?_⟩
  · exact List.mem_append_right _ (List.mem_singleton.2 rfl)
  · exact List.mem_append_right _ (List.mem_singleton.2 rfl)

end Registrar
end DeviceRegistry
