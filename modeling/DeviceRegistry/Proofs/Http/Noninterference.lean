import DeviceRegistry.Http.Router
import DeviceRegistry.Proofs.Registrar.ClaimEffect
import DeviceRegistry.Proofs.Registrar.Likeness

/-! Where private keys go. Two services that differ in the private keys that they make answer the
same requests alike. -/
namespace DeviceRegistry.Http
open Registrar

/-- Answers to a request: the same, or answers to a claim that succeeded, which differ in the user's
private key only. -/
inductive Response.Alike (secret : String → String → Prop) (r : Request) : Response → Response → Prop
    where
  | same (response : Response) : Response.Alike secret r response response
  | claimed {headers : List (String × String)} {c c' : ClaimResponse}
      (route : Route.ofPath? r.path = some .claim) (answers : c.Alike secret c') :
      Response.Alike secret r ⟨200, headers, c.toJson.write⟩ ⟨200, headers, c'.toJson.write⟩

variable {cipher : ColumnCipher} {user device : String → String → Prop} {s s' : Registrar Store}
  {r : Request} {α α' : Type} {value : α → α' → Prop}

/-- What answers a request goes the same way at registrars that are alike. -/
abbrev Answering (cipher : ColumnCipher) (user device : String → String → Prop) (r : Request)
    (p q : Progress (Registrar Store) Response) : Prop :=
  p.Matches (Registrar.Alike cipher user device) (Response.Alike user r) device q

theorem answering_same (response : Response) (h : s.Alike cipher user device s') :
    Answering cipher user device r (.finished response s) (.finished response s') :=
  .finished (.same response) h

theorem answer_matches {method : String} {toJson : α → Json.Value} {work : Work Store α}
    {value : α → α → Prop}
    (works : Matching cipher user device value (work s) (work s'))
    (answers : ∀ a a', value a a' →
      Response.Alike user r (.json 200 (toJson a)) (.json 200 (toJson a'))) :
    Answering cipher user device r (answer method work toJson s) (answer method work toJson s') := by
  refine works.bind fun outcome outcome' t t' agree h => ?_
  cases agree with
  | ok values => exact .finished (answers _ _ values) h
  | error e =>
    cases e with
    | invalidArgument argument message => exact answering_same _ h
    | internal attempt fault => exact answering_same _ (h.withLog _)

theorem handle_matches {β γ : Type} {method : String} {shape : Json.Shape β} {toJson : γ → Json.Value}
    {work : β → Work Store γ} {value : γ → γ → Prop} (h : s.Alike cipher user device s')
    (works : ∀ message, Matching cipher user device value (work message s) (work message s'))
    (answers : ∀ a a', value a a' →
      Response.Alike user r (.json 200 (toJson a)) (.json 200 (toJson a'))) :
    Answering cipher user device r (handle r method shape work toJson s)
      (handle r method shape work toJson s') := by
  rw [handle]
  cases r.decode shape with
  | error e => exact answering_same _ h
  | ok message => exact answer_matches (works message) answers

/-- The store answers at both, or at neither. -/
theorem ping_alongside : Alongside (Store.Alike cipher user) Eq
    (Backend.ping : EStateM StoreError Store Unit) Backend.ping := by
  intro s s' stores
  have same : s'.ping = s.ping := by
    rw [Store.ping, Store.ping, stores.tables.rest]
  dsimp only [Backend.ping]
  rw [same]
  cases s.ping with
  | ok done => exact .ok rfl stores
  | error e => exact .error e stores

theorem readiness_matches (h : s.Alike cipher user device s') :
    Answering cipher user device r (readiness s) (readiness s') := by
  have reached := onStore_matches (attempting_alongside .reachStore ping_alongside) h
  refine reached.bind fun outcome outcome' t t' agree h => ?_
  cases agree with
  | ok => exact answering_same _ h
  | error e => exact answering_same _ (h.withLog _)

theorem route_matches (refl : ∀ key, user key key) {route : Route}
    (known : Route.ofPath? r.path = some route) (h : s.Alike cipher user device s') :
    Answering cipher user device r (route.respond r s) (route.respond r s') := by
  cases route with
  | claim =>
    exact handle_matches h (fun message => claim_matches refl message h) fun _ _ answers =>
      .claimed known answers
  | revoke =>
    refine handle_matches h (fun message => revoke_matches refl message h) ?_
    rintro answer _ rfl
    exact .same _
  | pulse => exact answering_same _ h
  | live => exact answering_same _ h
  | ready => exact readiness_matches h
  | metrics =>
    have same : s'.metrics = s.metrics := by rw [h.rest]
    show Answering cipher user device r (.finished (.json 200 s.metrics.toJson) s)
      (.finished (.json 200 s'.metrics.toJson) s')
    rw [same]
    exact answering_same _ h

theorem routed_matches (refl : ∀ key, user key key) (r : Request)
    (h : s.Alike cipher user device s') :
    Answering cipher user device r (routed r s) (routed r s') := by
  rw [routed]
  cases known : Route.ofPath? r.path with
  | none => exact answering_same _ h
  | some route =>
    dsimp only
    split
    · exact route_matches refl known h
    · split <;> exact answering_same _ h

theorem respond_matches (refl : ∀ key, user key key) (freshId : String) (r : Request)
    (h : s.Alike cipher user device s') :
    Answering cipher user device r (respond freshId r s) (respond freshId r s') := by
  rw [respond]
  by_cases options : (r.method == "OPTIONS") = true
  · rw [if_pos options]
    exact answering_same _ h
  · rw [if_neg options]
    refine (routed_matches refl r h).bind fun response response' t t' answers h => ?_
    cases answers with
    | same => exact answering_same _ h
    | claimed route answers =>
      by_cases head : (r.method == "HEAD") = true
      · rw [if_pos head, if_pos head]
        exact answering_same _ h
      · rw [if_neg head, if_neg head]
        exact .finished (.claimed route answers) h

/-- What came of requests that were answered one after the other. -/
structure Transcript (E : Type) where
  answers : List (Request × Response)
  exchanges : List Exchange
  registrar : Registrar Store
  encoder : E

/-- Answers requests one after the other. Each comes with the id that it gets if it has none. -/
def served {E : Type} (enc : Encoder E) (s : Registrar Store) (e : E) :
    List (String × Request) → Transcript E
  | [] => ⟨[], [], s, e⟩
  | (freshId, r) :: rest =>
    let done := (respond freshId r s).attend enc e
    let later := served enc done.state done.encoder rest
    { later with
      answers := (r, done.value) :: later.answers
      exchanges := done.exchanges ++ later.exchanges }

/-- Two runs that differ in private keys only: in those of users in the answers to claims, in those
of devices in the calls to the encoder, and in the sealed ones in the tables. -/
structure Transcript.Alike {E : Type} (cipher : ColumnCipher) (user device : String → String → Prop)
    (run run' : Transcript E) : Prop where
  answers : List.Forall₂ (fun x x' => x'.1 = x.1 ∧ Response.Alike user x.1 x.2 x'.2) run.answers
    run'.answers
  exchanges : List.Forall₂ (Exchange.Alike device) run.exchanges run'.exchanges
  tables : run.registrar.store.tables.Alike cipher user run'.registrar.store.tables
  metrics : run'.registrar.metrics = run.registrar.metrics
  log : run'.registrar.log = run.registrar.log
  encoder : run'.encoder = run.encoder

/-- Registrars that are alike serve requests alike. -/
theorem served_alike {E : Type} {enc : Encoder E} (blind : enc.Blind) (refl : ∀ key, user key key)
    (h : s.Alike cipher user device s') (e : E) (requests : List (String × Request)) :
    (served enc s e requests).Alike cipher user device (served enc s' e requests) := by
  induction requests generalizing s s' e with
  | nil =>
    refine ⟨.nil, .nil, h.store.tables, ?_, ?_, rfl⟩
    · rw [served, served, h.rest]
    · rw [served, served, h.rest]
  | cons request rest ih =>
    obtain ⟨freshId, r⟩ := request
    obtain ⟨value, state, encoder, exchanges⟩ := (respond_matches refl freshId r h).attend blind e
    obtain ⟨answers, exchanges', tables, metrics, log, encoder'⟩ :=
      ih state ((respond freshId r s).attend enc e).encoder
    rw [served, served, encoder]
    exact ⟨.cons ⟨rfl, value⟩ answers, List.rel_append exchanges exchanges', tables, metrics, log,
      encoder'⟩

/-- A service with that store, which draws on a script of key pairs from its beginning. -/
def service (store : Store) (verbose : Bool) (pair : Nat → Except KeyError KeyPair) :
    Registrar Store :=
  { store, keys := { pair }, verbose }

/-- No matter how keys differ. -/
abbrev Anyhow : String → String → Prop := fun _ _ => True

variable {pair pair' : Nat → Except KeyError KeyPair}

theorem service_alike (store : Store) (verbose : Bool)
    (agree : ∀ n, Agree (KeyPair.Alike (if KeySource.forUser pair n then user else device)) (pair n)
      (pair' n)) :
    (service store verbose pair).Alike store.cipher user device (service store verbose pair') where
  store := ⟨.refl store.tables, ⟨rfl, rfl⟩, rfl⟩
  keys := ⟨agree, rfl, rfl⟩
  rest := rfl

/-- Scripts agree where they are the same. -/
theorem agree_of_eq {secret : String → String → Prop} (refl : ∀ key, secret key key) {n : Nat}
    (same : pair' n = pair n) : Agree (KeyPair.Alike secret) (pair n) (pair' n) := by
  rw [same]
  exact .refl (fun keys => ⟨rfl, refl _, .rfl⟩) _

theorem Response.Alike.eq {response response' : Response} (h : Response.Alike Eq r response response') :
    response' = response := by
  cases h with
  | same => rfl
  | claimed route answers =>
    rw [answers.same, ← answers.secret]

theorem eq_of_forall₂ {related : α → α → Prop} {as bs : List α}
    (same : ∀ a b, related a b → b = a) (h : List.Forall₂ related as bs) : bs = as := by
  induction h with
  | nil => rfl
  | cons first _ ih => rw [same _ _ first, ih]

/-- Private keys go only where they must. Two services begin with the same store, and make key pairs
that fail alike and have the same public keys; private keys differ anyhow. The encoder does not look
at the private keys of devices. Then the services answer alike, call the encoder alike, and end with
tables that are alike, with the same metrics and the same log. If they make the same pairs for users,
the answers are the same; if they make the same pairs for devices, the calls are. -/
theorem served_noninterference {E : Type} {enc : Encoder E} (blind : enc.Blind) (store : Store)
    (verbose : Bool) (e : E) (requests : List (String × Request))
    (agree : ∀ n, Agree (KeyPair.Alike Anyhow) (pair n) (pair' n)) :
    (served enc (service store verbose pair) e requests).Alike store.cipher Anyhow Anyhow
      (served enc (service store verbose pair') e requests) ∧
    ((∀ n, KeySource.forUser pair n = true → pair' n = pair n) →
      (served enc (service store verbose pair') e requests).answers =
        (served enc (service store verbose pair) e requests).answers) ∧
    ((∀ n, KeySource.forUser pair n = false → pair' n = pair n) →
      (served enc (service store verbose pair') e requests).exchanges =
        (served enc (service store verbose pair) e requests).exchanges) := by
  refine ⟨?_, ?_, ?_⟩
  · refine served_alike blind (fun _ => trivial) (service_alike store verbose fun n => ?_) e requests
    rw [ite_self]
    exact agree n
  · intro users
    have start : (service store verbose pair).Alike store.cipher Eq Anyhow
        (service store verbose pair') := by
      refine service_alike store verbose fun n => ?_
      split
      next forUser => exact agree_of_eq (fun _ => rfl) (users n forUser)
      next => exact agree n
    have alike := (served_alike blind (fun _ => rfl) start e requests).answers
    refine eq_of_forall₂ ?_ alike
    rintro ⟨r, response⟩ ⟨r', response'⟩ ⟨same, answers⟩
    exact congrArg₂ Prod.mk same answers.eq
  · intro devices
    have start : (service store verbose pair).Alike store.cipher Anyhow Eq
        (service store verbose pair') := by
      refine service_alike store verbose fun n => ?_
      split
      next => exact agree n
      next other => exact agree_of_eq (fun _ => rfl) (devices n (Bool.eq_false_iff.2 other))
    have alike := (served_alike blind (fun _ => trivial) start e requests).exchanges
    exact eq_of_forall₂ (fun _ _ same => same.eq) alike

/-- Pairs with the public keys of `numberedKeys`, and with another private key. -/
def otherPair (n : Nat) : Except KeyError KeyPair := .ok ⟨"another", "public " ++ toString n⟩

def aliceClaimsByHttp : Request where
  method := "POST"
  target := Route.claim.path
  headers := [("content-type", "application/json")]
  body := (aliceClaims "thermometer").toJson.write

/-- Other pairs for devices only. -/
def otherForDevices (n : Nat) : Except KeyError KeyPair :=
  if KeySource.forUser numberedKeys.pair n then numberedKeys.pair n else otherPair n

/-- Alice claims a thermometer at two services that make different private keys, and at two that make
different ones for devices only. -/
theorem served_noninterference_alice : ∃ store : Store, willing.Blind ∧
    (∀ n, Agree (KeyPair.Alike Anyhow) (numberedKeys.pair n) (otherPair n)) ∧
    (∀ n, Agree (KeyPair.Alike Anyhow) (numberedKeys.pair n) (otherForDevices n)) ∧
    (∀ n, KeySource.forUser numberedKeys.pair n = true → otherForDevices n = numberedKeys.pair n) ∧
    otherForDevices 1 ≠ numberedKeys.pair 1 ∧
    (served willing (service store false numberedKeys.pair) () [("1", aliceClaimsByHttp)]).Alike
      store.cipher Anyhow Anyhow
      (served willing (service store false otherPair) () [("1", aliceClaimsByHttp)]) ∧
    (served willing (service store false otherForDevices) () [("1", aliceClaimsByHttp)]).answers =
      (served willing (service store false numberedKeys.pair) ()
        [("1", aliceClaimsByHttp)]).answers := by
  obtain ⟨store, -⟩ := Store.exists_fresh
  have blind : willing.Blind := fun _ _ _ => rfl
  have short : Sealable "private" ↔ Sealable "another" := by decide
  have agree : ∀ n, Agree (KeyPair.Alike Anyhow) (numberedKeys.pair n) (otherPair n) :=
    fun n => .ok ⟨rfl, trivial, short⟩
  have agree' : ∀ n, Agree (KeyPair.Alike Anyhow) (numberedKeys.pair n) (otherForDevices n) := by
    intro n
    rw [otherForDevices]
    split
    · exact agree_of_eq (fun _ => trivial) rfl
    · exact agree n
  have users : ∀ n, KeySource.forUser numberedKeys.pair n = true →
      otherForDevices n = numberedKeys.pair n := fun n mine => if_pos mine
  have differ : otherForDevices 1 ≠ numberedKeys.pair 1 := by
    intro same
    injection same with same
    injection same with same
    exact absurd same (by decide)
  have alike := served_noninterference blind store false () [("1", aliceClaimsByHttp)] agree
  have alike' := served_noninterference blind store false () [("1", aliceClaimsByHttp)] agree'
  exact ⟨store, blind, agree, agree', users, differ, alike.1, alike'.2.1 users⟩

end DeviceRegistry.Http
