import DeviceRegistry.Proofs.Http.Tallies
import DeviceRegistry.Proofs.Metrics

/-! What the metrics say of requests that are answered at the same time. The counts are those of the
calls that the encoder was given, and they can be read off the answers. -/
namespace DeviceRegistry

namespace Http
open Registrar

/-- A request that has arrived, with what it exchanged with the encoder so far, and where its answer
stands. -/
structure Errand where
  request : Request
  exchanges : List Exchange
  progress : Progress (Registrar Store) Response

def Errand.response? (errand : Errand) : Option Response :=
  match errand.progress with
  | .finished response _ => some response
  | _ => none

/-- The requests that have arrived, and the registrar that they share. -/
structure Traffic where
  registrar : Registrar Store
  errands : List Errand

namespace Traffic

/-- One turn: a request arrives, goes on after a pause, or goes on with some answer of the encoder. -/
inductive Step : Traffic → Traffic → Prop where
  | arrived (now : Registrar Store) (errands : List Errand) (freshId : String) (r : Request) :
      Step ⟨now, errands⟩
        ⟨(respond freshId r now).state, errands ++ [⟨r, [], respond freshId r now⟩]⟩
  | resumed (now : Registrar Store) {before after : List Errand} {r : Request}
      {exchanges : List Exchange} {s : Registrar Store}
      {resume : Registrar Store → Progress (Registrar Store) Response} :
      Step ⟨now, before ++ ⟨r, exchanges, .paused s resume⟩ :: after⟩
        ⟨(resume now).state, before ++ ⟨r, exchanges, resume now⟩ :: after⟩
  | answered (now : Registrar Store) {before after : List Errand} {r : Request}
      {exchanges : List Exchange} {s : Registrar Store} {asked : EncoderCall}
      {resume : Except EncoderError asked.Answer → Duration → Registrar Store →
        Progress (Registrar Store) Response}
      (answer : Except EncoderError asked.Answer) (time : Duration) :
      Step ⟨now, before ++ ⟨r, exchanges, .calling asked s resume⟩ :: after⟩
        ⟨(resume answer time now).state,
          before ++ ⟨r, exchanges ++ [⟨asked, answer⟩], resume answer time now⟩ :: after⟩

/-- Turns of any requests in any order, from a registrar that nobody has asked yet. -/
inductive Run (start : Registrar Store) : Traffic → Prop where
  | start : Run start ⟨start, []⟩
  | step {traffic traffic' : Traffic} (run : Run start traffic) (next : Step traffic traffic') :
      Run start traffic'

/-- All that was exchanged with the encoder. -/
def exchanges (traffic : Traffic) : List Exchange := traffic.errands.flatMap Errand.exchanges

/-- How many calls of a method were answered in some way. -/
def answered (traffic : Traffic) (route : Route) (told : Response → Bool) : Nat :=
  traffic.errands.countP fun errand => errand.request.calls route && errand.response?.any told

/-- What holds of each request when it arrives, and of those that took a turn if it held before. -/
theorem Step.each {own : Errand → Prop}
    (arrives : ∀ freshId r now, own ⟨r, [], respond freshId r now⟩)
    (resumes : ∀ {r exchanges s resume}, own ⟨r, exchanges, .paused s resume⟩ →
      ∀ now, own ⟨r, exchanges, resume now⟩)
    (goesOn : ∀ {r exchanges call s resume}, own ⟨r, exchanges, .calling call s resume⟩ →
      ∀ answer time now, own ⟨r, exchanges ++ [⟨call, answer⟩], resume answer time now⟩)
    {traffic traffic' : Traffic} (h : Step traffic traffic')
    (each : ∀ errand ∈ traffic.errands, own errand) : ∀ errand ∈ traffic'.errands, own errand := by
  cases h with
  | arrived now errands freshId r =>
    rw [List.forall_mem_append, List.forall_mem_singleton]
    exact ⟨each, arrives freshId r now⟩
  | resumed now =>
    rw [List.forall_mem_append, List.forall_mem_cons] at each ⊢
    obtain ⟨front, before, back⟩ := each
    exact ⟨front, resumes before now, back⟩
  | answered now answer time =>
    rw [List.forall_mem_append, List.forall_mem_cons] at each ⊢
    obtain ⟨front, before, back⟩ := each
    exact ⟨front, goesOn before answer time now, back⟩

/-- The metrics have counted all exchanges, and each request can account for its own. -/
structure Metered (traffic : Traffic) : Prop where
  counts : ∀ method status, (traffic.registrar.metrics.stats method status).count =
    UInt64.ofNat (tally method status traffic.exchanges)
  accounts : ∀ errand ∈ traffic.errands, errand.progress.Accounts fun later =>
    errand.request.Tallies (errand.exchanges ++ later)

theorem tally_append (method : EncoderMethod) (status : CallStatus) (first second : List Exchange) :
    tally method status (first ++ second) =
      tally method status first + tally method status second :=
  List.countP_append

/-- One more exchange is counted once. -/
theorem tally_more (method : EncoderMethod) (status : CallStatus) {now next : Registrar Store}
    {before after : List Errand} {r : Request} {exchanges : List Exchange} {x : Exchange}
    {p q : Progress (Registrar Store) Response} :
    tally method status (Traffic.exchanges ⟨next, before ++ ⟨r, exchanges ++ [x], q⟩ :: after⟩) =
      tally method status (Traffic.exchanges ⟨now, before ++ ⟨r, exchanges, p⟩ :: after⟩) +
        if x.call.method = method ∧ CallStatus.of x.answer = status then 1 else 0 := by
  have one : tally method status [x] =
      if x.call.method = method ∧ CallStatus.of x.answer = status then 1 else 0 := by
    simp [tally, List.countP_singleton]
  simp only [Traffic.exchanges, List.flatMap_append, List.flatMap_cons, tally_append, one]
  omega

/-- Each request accounts for its own exchanges, those before and those to come. -/
theorem Step.accounts {traffic traffic' : Traffic} (h : Step traffic traffic')
    (accounts : ∀ errand ∈ traffic.errands, errand.progress.Accounts fun later =>
      errand.request.Tallies (errand.exchanges ++ later)) :
    ∀ errand ∈ traffic'.errands, errand.progress.Accounts fun later =>
      errand.request.Tallies (errand.exchanges ++ later) := by
  refine h.each (fun freshId r now => (respond_accounts freshId r now).2)
    (fun own now => (own now).2) (fun own answer time now => ?_) accounts
  refine (own answer time now).2.mono fun later response tallies => ?_
  rwa [List.append_assoc]

theorem Step.metered {traffic traffic' : Traffic} (h : Step traffic traffic')
    (metered : traffic.Metered) : traffic'.Metered := by
  refine ⟨?_, h.accounts metered.accounts⟩
  obtain ⟨counts, accounts⟩ := metered
  intro method status
  cases h with
  | arrived now errands freshId r =>
    rw [(respond_accounts freshId r now).1, counts]
    simp [exchanges]
  | resumed now =>
    obtain ⟨goes, -⟩ := accounts _ (List.mem_append_right _ List.mem_cons_self) now
    rw [goes.metrics, counts]
    simp [exchanges]
  | answered now answer time =>
    -- The one turn that exchanges something is the one that counts something.
    obtain ⟨goes, -⟩ := accounts _ (List.mem_append_right _ List.mem_cons_self) answer time now
    rw [goes.metrics, Metrics.count_observe, counts, tally_more, UInt64.ofNat_add]
    congr 1
    split <;> rfl

theorem Run.metered {start : Registrar Store} (unused : start.metrics = {}) {traffic : Traffic}
    (run : Run start traffic) : traffic.Metered := by
  induction run with
  | start =>
    refine ⟨fun method status => ?_, nofun⟩
    show (start.metrics.stats method status).count = 0
    rw [unused]
    cases method <;> cases status <;> rfl
  | step run next ih => exact next.metered ih

/-- What can be read off each answer can be read off all of them. -/
theorem tally_answered {errands : List Errand} {method : EncoderMethod} {status : CallStatus}
    {told told' : Errand → Bool}
    (each : ∀ errand ∈ errands,
      tally method status errand.exchanges = (told errand).toNat + (told' errand).toNat) :
    tally method status (errands.flatMap Errand.exchanges) =
      errands.countP told + errands.countP told' := by
  induction errands with
  | nil => rfl
  | cons errand rest ih =>
    rw [List.forall_mem_cons] at each
    have one (told : Errand → Bool) : (if told errand = true then 1 else 0) = (told errand).toNat := by
      cases told errand <;> rfl
    rw [List.flatMap_cons, tally_append, each.1, ih each.2, List.countP_cons, List.countP_cons, one,
      one]
    omega

/-- The exchanges as they can be read off the answers. -/
structure Reconciled (traffic : Traffic) : Prop where
  uncreated : tally .createStream .error traffic.exchanges =
    traffic.answered .claim (·.failedTo .createStream)
  created : tally .createStream .success traffic.exchanges =
    traffic.answered .claim (·.status == 200) + traffic.answered .claim (·.failedTo .recordStream)
  undeleted : tally .deleteStream .error traffic.exchanges =
    traffic.answered .revoke (·.failedTo .deleteStream)

/-- When every request is answered, the answers account for all exchanges. -/
theorem reconciled {traffic : Traffic}
    (each : ∀ errand ∈ traffic.errands, ∃ response, errand.response? = some response ∧
      errand.request.Tallies errand.exchanges response) : traffic.Reconciled := by
  have none : traffic.errands.countP (fun _ => false) = 0 := by simp
  constructor
  · rw [exchanges, answered, ← Nat.add_zero (traffic.errands.countP _), ← none]
    refine tally_answered fun errand listed => ?_
    obtain ⟨response, told, own⟩ := each errand listed
    simpa [told] using own.uncreated
  · refine tally_answered fun errand listed => ?_
    obtain ⟨response, told, own⟩ := each errand listed
    simpa [told] using own.created
  · rw [exchanges, answered, ← Nat.add_zero (traffic.errands.countP _), ← none]
    refine tally_answered fun errand listed => ?_
    obtain ⟨response, told, own⟩ := each errand listed
    simpa [told] using own.undeleted

/-- A request that is answered has exchanged what its answer tells. -/
theorem tallies_of_accounts {errand : Errand}
    (own : errand.progress.Accounts fun later => errand.request.Tallies (errand.exchanges ++ later))
    {response : Response} (answered : errand.response? = some response) :
    errand.request.Tallies errand.exchanges response := by
  obtain ⟨r, exchanges, progress⟩ := errand
  cases progress with
  | finished given s =>
    obtain rfl := Option.some.inj answered
    rwa [Progress.Accounts, List.append_nil] at own
  | paused | calling => cases answered

theorem Metered.tallies {traffic : Traffic} (h : traffic.Metered) {errand : Errand}
    (listed : errand ∈ traffic.errands) {response : Response}
    (answered : errand.response? = some response) :
    errand.request.Tallies errand.exchanges response :=
  tallies_of_accounts (h.accounts errand listed) answered

/-- Whatever was counted before, a request that is answered has exchanged what its answer tells. -/
theorem Run.tallies {start : Registrar Store} {traffic : Traffic} (run : Run start traffic)
    {errand : Errand} (listed : errand ∈ traffic.errands) {response : Response}
    (answered : errand.response? = some response) :
    errand.request.Tallies errand.exchanges response := by
  have accounts : ∀ errand ∈ traffic.errands, errand.progress.Accounts fun later =>
      errand.request.Tallies (errand.exchanges ++ later) := by
    clear listed
    induction run with
    | start => exact nofun
    | step run next ih => exact next.accounts ih
  exact tallies_of_accounts (accounts errand listed) answered

/-- Work that an encoder attends to takes its turns one after the other. -/
theorem Run.attended {E : Type} (enc : Encoder E) (e : E) {start : Registrar Store}
    {errands : List Errand} {r : Request} {exchanges : List Exchange}
    {p : Progress (Registrar Store) Response}
    (run : Run start ⟨p.state, errands ++ [⟨r, exchanges, p⟩]⟩) :
    let done := p.attend enc e
    Run start ⟨done.state,
      errands ++ [⟨r, exchanges ++ done.exchanges, .finished done.value done.state⟩]⟩ := by
  induction p generalizing e exchanges with
  | finished response s =>
    rw [← List.append_nil exchanges] at run
    exact run
  | paused s resume ih => exact ih s e (run.step (.resumed s))
  | calling call s resume ih =>
    rcases answered : enc.answer call e with ⟨⟨answer, time⟩, e'⟩
    have rest := ih answer time s e' (run.step (.answered s answer time))
    rw [Progress.attend_calling enc answered]
    dsimp only at rest ⊢
    rwa [List.append_assoc] at rest

/-- A claim that comes by HTTP is answered with its outcome, and exchanges what the claim exchanges. -/
theorem claim_answers {E : Type} {r : Request} {q : ClaimRequest} (freshId : String)
    (post : r.method = "POST") (known : Route.ofPath? r.path = some .claim)
    (asks : r.decode ClaimRequest.shape = .ok q) (s : Registrar Store) (enc : Encoder E) (e : E) :
    let done := (claim q s).attend enc e
    let answered := (respond freshId r s).attend enc e
    answered.value.status = (outcomeResponse ClaimResponse.toJson done.value).status ∧
      answered.exchanges = done.exchanges := by
  have answers : Route.claim.answers r.method = true := by rw [post]; rfl
  have goes : routed r s = answer "ClaimDevice" (claim q) ClaimResponse.toJson s := by
    rw [routed_known known answers, Route.respond, handle, asks]
  obtain ⟨status, -, -, exchanges⟩ :=
    @respond_attend _ enc e s r freshId (by rw [post]; decide) (by rw [post]; decide)
  obtain ⟨value, -, exchanges'⟩ :=
    @answer_attend _ _ enc e s "ClaimDevice" (claim q) ClaimResponse.toJson
  dsimp only
  rw [status, exchanges, goes, value, exchanges']
  exact ⟨rfl, rfl⟩

/-- Alice claims a device by HTTP. She succeeds, and one stream is created for her. -/
theorem alice_answered : ∃ start traffic, start.metrics = {} ∧ start.store.Fresh ∧ Run start traffic ∧
    traffic.errands.map Errand.request = [posted .claim (aliceClaims "spare").toJson] ∧
    (∀ errand ∈ traffic.errands, ∃ response, errand.response? = some response ∧
      response.status = 200) ∧
    ∃ request, traffic.exchanges = [⟨.createStream request, .ok "stream"⟩] := by
  obtain ⟨store, fresh, ready⟩ := Store.exists_fresh
  let start : Registrar Store := ⟨store, numberedKeys, {}, false, []⟩
  let r := posted .claim (aliceClaims "spare").toJson
  let done := (respond "1" r start).attend willing ()
  obtain ⟨response, request, succeeded, created⟩ := @alice_created start fresh rfl ready
  have finite : (aliceClaims "spare").IsFinite := by
    rintro _ ⟨⟩
    exact ⟨by decide, by decide⟩
  have asks : r.decode ClaimRequest.shape = .ok (aliceClaims "spare") :=
    posted_decode (by decide +kernel) (ClaimRequest.reads finite)
  obtain ⟨status, exchanged⟩ := claim_answers "1" rfl (by decide +kernel) asks start willing ()
  rw [succeeded] at status
  rw [created] at exchanged
  let traffic : Traffic :=
    ⟨done.state, [] ++ [⟨r, [] ++ done.exchanges, .finished done.value done.state⟩]⟩
  have run : Run start traffic := Run.attended willing () (Run.start.step (.arrived start [] "1" r))
  have all : traffic.exchanges = [⟨.createStream request, .ok "stream"⟩] := by
    show ([] ++ done.exchanges) ++ [] = _
    rw [List.append_nil, List.nil_append, exchanged]
  refine ⟨start, traffic, rfl, fresh, run, rfl, ?_, request, all⟩
  rintro _ (_ | ⟨_, ⟨⟩⟩)
  exact ⟨_, rfl, status⟩

/-- After any turns of any requests, the metrics have counted the calls to the encoder by method and
outcome. Each answer tells what its request had to do with them: nothing, if it calls neither method, if
it was rejected, or if it failed before. When all requests are answered, the answers tell the counts. -/
theorem run_metered {start : Registrar Store} (unused : start.metrics = {}) {traffic : Traffic}
    (run : Run start traffic) (few : traffic.exchanges.length < UInt64.size) :
    (∀ method status,
      (Metrics.countIn traffic.registrar.metrics.snapshot method status).toNat =
        tally method status traffic.exchanges) ∧
    (∀ errand ∈ traffic.errands, ∀ response, errand.response? = some response →
      errand.request.Tallies errand.exchanges response) ∧
    ((∀ errand ∈ traffic.errands, errand.response?.isSome) → traffic.Reconciled) := by
  have metered := run.metered unused
  refine ⟨fun method status => ?_, fun errand listed response => metered.tallies listed,
    fun all => reconciled fun errand listed => ?_⟩
  · rw [Metrics.countIn_snapshot, metered.counts]
    exact UInt64.toNat_ofNat_of_lt (Nat.lt_of_le_of_lt List.countP_le_length few)
  · obtain ⟨response, answered⟩ := Option.isSome_iff_exists.1 (all errand listed)
    exact ⟨response, answered, metered.tallies listed answered⟩

/-- Alice claims a device by HTTP. One stream is created for her and counted. -/
theorem run_metered_alice : ∃ start traffic, start.metrics = {} ∧ Run start traffic ∧
    traffic.exchanges.length < UInt64.size ∧
    traffic.errands.map Errand.request = [posted .claim (aliceClaims "spare").toJson] ∧
    (∀ errand ∈ traffic.errands, errand.response?.isSome) ∧
    tally .createStream .success traffic.exchanges = 1 ∧
    (∀ method status,
      (Metrics.countIn traffic.registrar.metrics.snapshot method status).toNat =
        tally method status traffic.exchanges) ∧
    (∀ errand ∈ traffic.errands, ∀ response, errand.response? = some response →
      errand.request.Tallies errand.exchanges response) ∧
    traffic.Reconciled := by
  obtain ⟨start, traffic, unused, -, run, requests, answered, request, all⟩ := alice_answered
  have few : traffic.exchanges.length < UInt64.size := by
    rw [all]
    exact (by decide : 1 < UInt64.size)
  have answered : ∀ errand ∈ traffic.errands, errand.response?.isSome := by
    intro errand listed
    obtain ⟨response, given, -⟩ := answered errand listed
    exact Option.isSome_iff_exists.2 ⟨response, given⟩
  obtain ⟨counts, accounts, reconciled⟩ := run_metered unused run few
  exact ⟨start, traffic, unused, run, few, requests, answered, by rw [all]; rfl, counts, accounts,
    reconciled answered⟩

end Traffic
end Http
end DeviceRegistry
