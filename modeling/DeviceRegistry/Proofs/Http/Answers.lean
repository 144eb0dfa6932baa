import DeviceRegistry.Http.Router
import DeviceRegistry.Proofs.Message.RoundTrip
import DeviceRegistry.Proofs.Registrar.Refusals

/-! What is answered by HTTP. Whatever comes to a method of the service, or to no route at all, is
answered with a message or with a problem, and a request that was rejected has done nothing. -/
namespace DeviceRegistry.Http
open Registrar

variable {E α β : Type} {enc : Encoder E} {e : E} {s : Registrar Store} {r : Request}

/-- How an outcome is answered. -/
def outcomeResponse (toJson : α → Json.Value) : Outcome α → Response
  | .ok a => .json 200 (toJson a)
  | .error e => problemResponse e.toProblem

/-- An outcome that is a failure inside is put on record. -/
def noteOutcome (method : String) (outcome : Outcome α) (s : Registrar Store) : Registrar Store :=
  match outcome with
  | .error (.internal attempt fault) =>
    { s with log := s.log ++ [.requestFailed method (.internal attempt fault)] }
  | _ => s

theorem answer_eq (method : String) (work : Work Store α) (toJson : α → Json.Value)
    (s : Registrar Store) :
    answer method work toJson s = (work s).bind fun outcome t =>
      .finished (outcomeResponse toJson outcome) (noteOutcome method outcome t) := by
  show (work s).bind _ = _
  congr 1
  funext outcome t
  rcases outcome with (⟨argument, message⟩ | ⟨attempt, fault⟩) | a <;> rfl

theorem noteOutcome_unmoved (method : String) (outcome : Outcome α) (s : Registrar Store) :
    Unmoved s (noteOutcome method outcome s) := by
  rcases outcome with (⟨argument, message⟩ | ⟨attempt, fault⟩) | a
  · exact .refl s
  · exact ⟨rfl, rfl, rfl⟩
  · exact .refl s

/-- Answering adds nothing to the work but a notice. -/
theorem answer_attend (method : String) (work : Work Store α) (toJson : α → Json.Value) :
    let done := (work s).attend enc e
    let answered := (answer method work toJson s).attend enc e
    answered.value = outcomeResponse toJson done.value ∧ Unmoved done.state answered.state ∧
      answered.exchanges = done.exchanges := by
  dsimp only
  rw [answer_eq]
  obtain ⟨value, state, exchanges⟩ := Progress.attend_bind enc (fun outcome t =>
    .finished (outcomeResponse toJson outcome) (noteOutcome method outcome t)) e (work s)
  rw [value, state, exchanges]
  exact ⟨rfl, noteOutcome_unmoved .., List.append_nil _⟩

/-- A route answers a request of a method that it takes. -/
theorem routed_known {route : Route} (known : Route.ofPath? r.path = some route)
    (answers : route.answers r.method = true) : routed r s = route.respond r s := by
  rw [routed, known]
  dsimp only
  rw [if_pos answers]

/-- The headers and the id add nothing to what the route answers with. -/
theorem respond_attend (freshId : String) (options : r.method ≠ "OPTIONS")
    (head : r.method ≠ "HEAD") :
    let done := (routed r s).attend enc e
    let answered := (respond freshId r s).attend enc e
    answered.value.status = done.value.status ∧ answered.value.body = done.value.body ∧
      answered.state = done.state ∧ answered.exchanges = done.exchanges := by
  have goes : ∃ deliver, respond freshId r s = (routed r s).bind deliver ∧ ∀ response t,
      ∃ delivered : Response, deliver response t = .finished delivered t ∧
        delivered.status = response.status ∧ delivered.body = response.body := by
    rw [respond, if_neg (by simpa using options)]
    exact ⟨_, rfl, fun response t => ⟨_, rfl, rfl, if_neg (by simpa using head)⟩⟩
  obtain ⟨deliver, goes, delivers⟩ := goes
  obtain ⟨value, state, exchanges⟩ := Progress.attend_bind enc deliver e (routed r s)
  obtain ⟨delivered, done, status, body⟩ := delivers _ _
  rw [done] at value state exchanges
  dsimp only
  rw [goes, value, state, exchanges]
  exact ⟨status, body, rfl, List.append_nil _⟩

/-- The body is a message that the route answers with. -/
def Route.Answers : Route → Bytes → Prop
  | .claim, body => ∃ c : ClaimResponse, Json.read ClaimResponse.shape.read body = .ok c
  | .revoke, body => ∃ c : RevokeResponse, Json.read RevokeResponse.shape.read body = .ok c
  | _, _ => False

/-- The request's message can be read, but validation refuses that argument of it. -/
inductive Request.Mistakes (r : Request) (argument : String) : Prop where
  | claim {q : ClaimRequest} {message : String} (route : Route.ofPath? r.path = some .claim)
      (asks : r.decode ClaimRequest.shape = .ok q)
      (refused : q.validate = .error (.invalidArgument argument message))
  | revoke {q : RevokeRequest} {message : String} (route : Route.ofPath? r.path = some .revoke)
      (asks : r.decode RevokeRequest.shape = .ok q)
      (refused : q.validate = .error (.invalidArgument argument message))

/-- Status and body of an answer: a message of the route, or a problem whose code gives the status. It
names an argument if and only if that is what has to be mended. -/
inductive Request.Answered (r : Request) : Nat → Bytes → Prop where
  | message {route : Route} {body : Bytes} (known : Route.ofPath? r.path = some route)
      (message : route.Answers body) : Answered r 200 body
  | problem {p : Problem} {body : Bytes} (reads : Json.read Problem.shape.read body = .ok p)
      (mistaken : p.code = .invalidArgument →
        ∃ argument, p.facts.get? "argument" = some argument ∧ r.Mistakes argument)
      (other : p.code ≠ .invalidArgument → p.facts.get? "argument" = none) :
      Answered r p.code.status body

/-- The request is answered, and nothing is done if it is rejected. -/
structure Request.Served (r : Request) (s : Registrar Store)
    (done : Attended (Registrar Store) E Response) : Prop where
  answered : r.Answered done.value.status done.value.body
  rejected : done.value.status = 400 ∨ done.value.status = 404 → Untouched s done

theorem served_at_once {response : Response} (answered : r.Answered response.status response.body) :
    r.Served s (Attended.mk response s e [] []) :=
  ⟨answered, fun _ => ⟨.refl s, rfl⟩⟩

theorem answered_problem (p : Problem)
    (mistaken : p.code = .invalidArgument →
      ∃ argument, p.facts.get? "argument" = some argument ∧ r.Mistakes argument)
    (other : p.code ≠ .invalidArgument → p.facts.get? "argument" = none) :
    r.Answered (problemResponse p).status (problemResponse p).body :=
  .problem p.reads.read mistaken other

theorem answered_badRoute (message : String) :
    r.Answered (badRoute r message).status (badRoute r message).body :=
  answered_problem _ nofun fun _ => Table.get?_insert_ne _ _ (by decide)

/-- A method serves a request if its work refuses an argument by validation only. -/
theorem handle_served {route : Route} (known : Route.ofPath? r.path = some route) (method : String)
    {shape : Json.Shape α} {work : α → Work Store β} {toJson : β → Json.Value}
    (answers : ∀ b, route.Answers (toJson b).write)
    (refuses : ∀ q argument message, r.decode shape = .ok q →
      ((work q s).attend enc e).value = .error (.invalidArgument argument message) →
      r.Mistakes argument ∧ Untouched s ((work q s).attend enc e)) :
    r.Served s ((handle r method shape work toJson s).attend enc e) := by
  rw [handle]
  cases asks : r.decode shape with
  | error error => exact served_at_once (answered_problem error.toProblem nofun fun _ => rfl)
  | ok q =>
    obtain ⟨value, state, exchanges⟩ := @answer_attend _ _ enc e s method (work q) toJson
    dsimp only
    generalize (answer method (work q) toJson s).attend enc e = answered at value state exchanges ⊢
    cases outcome : ((work q s).attend enc e).value with
    | ok b =>
      rw [outcome] at value
      constructor
      · rw [value]
        exact .message known (answers b)
      · rw [value]
        rintro (other | other) <;> cases other
    | error error =>
      rw [outcome] at value
      cases error with
      | internal attempt fault =>
        constructor
        · rw [value]
          exact answered_problem (.internal _) nofun fun _ => rfl
        · rw [value]
          rintro (other | other) <;> cases other
      | invalidArgument argument message =>
        obtain ⟨mistaken, untouched⟩ := refuses q argument message asks outcome
        constructor
        · rw [value]
          exact answered_problem (.invalidArgument argument message)
            (fun _ => ⟨argument, Table.get?_insert_self .., mistaken⟩) fun other => absurd rfl other
        · exact fun _ => ⟨untouched.state.trans state, exchanges.trans untouched.exchanges⟩

theorem claim_served (route : Route.ofPath? r.path = some .claim) :
    r.Served s ((Route.claim.respond r s).attend enc e) := by
  refine handle_served route _ (fun c => ⟨c, c.reads.read⟩) ?_
  intro q argument message asks refused
  obtain ⟨invalid, untouched⟩ := claim_invalid refused
  exact ⟨.claim route asks invalid, untouched⟩

theorem revoke_served (route : Route.ofPath? r.path = some .revoke) :
    r.Served s ((Route.revoke.respond r s).attend enc e) := by
  refine handle_served route _ (fun c => ⟨c, c.reads.read⟩) ?_
  intro q argument message asks refused
  obtain ⟨invalid, untouched⟩ := revoke_invalid refused
  exact ⟨.revoke route asks invalid, untouched⟩

theorem routed_served (routes : ∀ route, Route.ofPath? r.path = some route → route.takesMessage = true) :
    r.Served s ((routed r s).attend enc e) := by
  rw [routed]
  cases known : Route.ofPath? r.path with
  | none => exact served_at_once (answered_badRoute _)
  | some route =>
    have takes := routes route known
    dsimp only
    by_cases answers : route.answers r.method = true
    · rw [if_pos answers]
      cases route with
      | claim => exact claim_served known
      | revoke => exact revoke_served known
      | pulse | live | ready | metrics => cases takes
    · rw [if_neg answers, if_pos takes]
      exact served_at_once (answered_badRoute _)

/-- Every request for a method of the service, and every one that no route takes, is answered with a
message of the route or with a problem, whatever the registrar's state, the request's body and the
encoder's answers. A problem names an argument if the request's message can be read but not worked on,
and no other problem does. A request that is rejected has done nothing. -/
theorem respond_served (freshId : String)
    (routes : ∀ route, Route.ofPath? r.path = some route → route.takesMessage = true)
    (options : r.method ≠ "OPTIONS") (head : r.method ≠ "HEAD") :
    r.Served s ((respond freshId r s).attend enc e) := by
  obtain ⟨status, body, state, exchanges⟩ := @respond_attend _ enc e s r freshId options head
  obtain ⟨answered, rejected⟩ := @routed_served _ enc e s r routes
  constructor
  · rw [status, body]
    exact answered
  · rw [status]
    intro rejection
    obtain ⟨unmoved, none⟩ := rejected rejection
    exact ⟨state ▸ unmoved, exchanges.trans none⟩

/-- A message that comes by HTTP to a method of the service. -/
def posted (route : Route) (message : Json.Value) : Request where
  method := "POST"
  target := route.path
  headers := [("content-type", "application/json")]
  body := message.write

theorem posted_decode {route : Route} {message : Json.Value} {shape : Json.Shape α} {a : α}
    (short : message.write.length ≤ bodyLimit) (reads : Json.Reads shape.read message.write a) :
    (posted route message).decode shape = .ok a := by
  have json : (posted route message).isJson = true := by
    show (isVisible "application/json" && _) = true
    decide +kernel
  have body : (posted route message).body = message.write := rfl
  rw [Request.decode, json, body, if_neg (by decide), if_neg (Nat.not_lt.2 short),
    reads.readPlacing]
  rfl

/-- A claim of nothing. -/
theorem respond_served_empty : ∃ s : Registrar Store,
    let r := posted .claim (.object [])
    (∀ route, Route.ofPath? r.path = some route → route.takesMessage = true) ∧
    r.method ≠ "OPTIONS" ∧ r.method ≠ "HEAD" ∧
    r.Served s ((respond "1" r s).attend willing ()) := by
  obtain ⟨store, -⟩ := Store.exists_fresh
  have known : Route.ofPath? (posted .claim (.object [])).path = some .claim := by decide +kernel
  have routes : ∀ route, Route.ofPath? (posted .claim (.object [])).path = some route →
      route.takesMessage = true := by
    intro route same
    rw [known] at same
    exact Option.some.inj same ▸ rfl
  have options : (posted .claim (.object [])).method ≠ "OPTIONS" := by decide
  have head : (posted .claim (.object [])).method ≠ "HEAD" := by decide
  exact ⟨⟨store, numberedKeys, {}, false, []⟩, routes, options, head,
    respond_served "1" routes options head⟩

end DeviceRegistry.Http
