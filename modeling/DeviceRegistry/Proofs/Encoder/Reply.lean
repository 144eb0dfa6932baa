import DeviceRegistry.Encoder.Client
import DeviceRegistry.Proofs.Json.Soundness
import DeviceRegistry.Proofs.Message.Lenient

/-! What the replies of the encoder tell, and what becomes of a call with each of them. -/
namespace DeviceRegistry
open Bytes Json

namespace Json

theorem accepts_text : Accepts Reader.text := looksAt_text.accepts

/-- The text that a value is. -/
def Tree.text? : Tree → Option String
  | .text us => string? us
  | _ => none

theorem Tree.found?_text (v : Tree) : v.found?.bind Found.text? = v.text? := by
  cases v with
  | text us => cases chars : string? us <;> simp [found?, text?, chars, Found.text?]
  | numeral n => cases number : n.number? <;> simp [found?, text?, number, Found.text?]
  | _ => rfl

/-- The text that the only value is; `absent` stands for no value at all. -/
def onlyText? (absent : Option String) : List Tree → Option String
  | [] => absent
  | [v] => v.text?
  | _ => none

end Json

theorem Bytes.lossyText_ofText (s : String) : (ofText s).lossyText = s := by
  rw [lossyText, text?_ofText, Option.getD_some]

namespace Reply

/-- The uid that a body tells: a text under its name, or the only element of a list. A body that leaves
it out tells an empty one. -/
def created? : Tree → Option String
  | .object ms =>
    if ∀ m ∈ ms, (string? m.1).isSome then onlyText? (some "") (valuesOf "stream_uid" ms) else none
  | .list vs => onlyText? (some "") vs
  | _ => none

/-- Any object tells that a stream was deleted, and so does an empty list. -/
def deleted? : Tree → Option Unit
  | .object ms => if ∀ m ∈ ms, (string? m.1).isSome then some () else none
  | .list [] => some ()
  | _ => none

/-- The refusal that a body explains: its code and its message, of which only the message may be left
out. -/
def refusal? : Tree → Option Refusal
  | .object ms =>
    if ∀ m ∈ ms, (string? m.1).isSome then do
      let code ← onlyText? none (valuesOf "code" ms)
      let message ← onlyText? (some "") (valuesOf "msg" ms)
      return ⟨code, message⟩
    else none
  | .list (code :: rest) => do
    let code ← code.text?
    let message ← onlyText? (some "") rest
    return ⟨code, message⟩
  | _ => none

def createdForm : Form String where
  initial := ""
  slots := [.text "stream_uid" id (fun s _ => s) fun _ _ => rfl]
  apart := List.pairwise_singleton ..
  ext _ _ same := same _ (List.mem_singleton_self _)

def deletedForm : Form Unit := ⟨(), [], .nil, fun _ _ _ => rfl⟩

def codeSlot : Slot Refusal :=
  .text "code" (·.code) (fun s r => { r with code := s }) fun _ _ => rfl

def messageSlot : Slot Refusal :=
  .text "msg" (·.message) (fun s r => { r with message := s }) fun _ _ => rfl

def refusalForm : Form Refusal where
  initial := {}
  slots := [codeSlot, messageSlot]
  apart := by
    simp only [List.pairwise_cons, List.forall_mem_cons]
    exact ⟨⟨⟨by decide, fun _ _ => rfl, fun _ _ => rfl⟩, nofun⟩, nofun, .nil⟩
  ext a b same := by
    simp only [List.forall_mem_cons] at same
    obtain ⟨code, message, -⟩ := same
    cases a
    cases b
    cases code
    cases message
    rfl

theorem createdShape_has : createdShape.Has createdForm := ⟨rfl, rfl⟩

theorem deletedShape_has : deletedShape.Has deletedForm := ⟨rfl, rfl⟩

theorem refusalShape_needs : refusalShape.Needs refusalForm (· == "code") := ⟨rfl, rfl⟩

theorem told?_text {α : Type} {name : String} {get : α → String} {set : String → α → α}
    {get_set : ∀ s a, get (set s a) = s} (initial : α) (vs : List Tree) :
    (Slot.text name get set get_set).told? initial vs = onlyText? (some (get initial)) vs := by
  match vs with
  | [] => rfl
  | [v] => exact v.found?_text
  | _ :: _ :: _ => rfl

theorem createdForm_object? (ms : List (List Nat × Tree)) :
    createdForm.object? ms = created? (.object ms) := by
  have filled : Form.filled? (fun f => f.told? createdForm.initial (valuesOf f.name ms))
      createdForm.slots createdForm.initial = onlyText? (some "") (valuesOf "stream_uid" ms) := by
    rw [createdForm, Form.filled?, told?_text]
    exact Option.bind_fun_some _
  rw [Form.object?, filled, created?]

theorem createdForm_meaning? (v : Tree) : createdForm.meaning? v = created? v := by
  cases v with
  | object ms => exact createdForm_object? ms
  | list vs =>
    rw [Form.meaning?]
    rcases vs with _ | ⟨v, _ | ⟨w, vs⟩⟩
    · rw [if_pos (by simp), Form.named, List.zipWith_nil_right, createdForm_object?]
      simp [created?, valuesOf]
    · rw [if_pos (by simp [createdForm]), createdForm_object?]
      simp [created?, createdForm, Form.named, Slot.text, string?_units, valuesOf]
    · rw [if_neg (by simp [createdForm])]
      rfl
  | _ => rfl

theorem deletedForm_meaning? (v : Tree) : deletedForm.meaning? v = deleted? v := by
  cases v with
  | list vs =>
    rw [Form.meaning?]
    rcases vs with _ | ⟨v, vs⟩
    · rw [if_pos (by simp), Form.named, List.zipWith_nil_right, Form.object?, if_pos (by simp)]
      rfl
    · rw [if_neg (by simp [deletedForm])]
      rfl
  | _ => rfl

/-- Only the code has to be there. -/
theorem refusalForm_needing? (ms : List (List Nat × Tree)) :
    refusalForm.needing? (· == "code") ms = refusal? (.object ms) := by
  have filled : Form.filled? (fun f => f.told? refusalForm.initial (valuesOf f.name ms))
      refusalForm.slots refusalForm.initial =
        (onlyText? (some "") (valuesOf "code" ms)).bind fun code =>
          (onlyText? (some "") (valuesOf "msg" ms)).bind fun message => some ⟨code, message⟩ := by
    simp only [refusalForm, codeSlot, messageSlot, Form.filled?, told?_text]
    rfl
  have needed : (refusalForm.slots.all fun f => !(f.name == "code") || !(valuesOf f.name ms).isEmpty) =
      !(valuesOf "code" ms).isEmpty := by
    simp [refusalForm, codeSlot, messageSlot, Slot.text]
  rw [Form.needing?, needed, Form.object?, filled, refusal?]
  cases valuesOf "code" ms with
  | nil => simp [onlyText?]
  | cons v vs =>
    rw [if_pos (by rfl)]
    cases vs <;> rfl

theorem refusalForm_meaning? (v : Tree) :
    refusalForm.meaningNeeding? (· == "code") v = refusal? v := by
  cases v with
  | object ms => exact refusalForm_needing? ms
  | list vs =>
    rw [Form.meaningNeeding?]
    rcases vs with _ | ⟨c, _ | ⟨m, _ | ⟨v, vs⟩⟩⟩
    · rw [if_pos (by simp), Form.named, List.zipWith_nil_right, refusalForm_needing?]
      simp [refusal?, valuesOf, onlyText?]
    · rw [if_pos (by simp [refusalForm]), refusalForm_needing?]
      simp [refusal?, refusalForm, Form.named, codeSlot, messageSlot, Slot.text, string?_units, valuesOf,
        onlyText?]
    · rw [if_pos (by simp [refusalForm]), refusalForm_needing?]
      simp [refusal?, refusalForm, Form.named, codeSlot, messageSlot, Slot.text, string?_units, valuesOf,
        onlyText?]
    · rw [if_neg (by simp [refusalForm])]
      simp [refusal?, onlyText?]
  | _ => rfl

theorem created_read (s uid : String) :
    Json.read createdShape.read (ofText s) = .ok uid ↔
      ∃ v, Tells (ofText s) v ∧ created? v = some uid := by
  have accepts : Accepts createdShape.read :=
    accepts_shape (List.forall_mem_singleton.2 (accepts_text.map _))
  simp only [createdShape_has.interprets.read_eq_ok accepts, createdForm_meaning?]

theorem deleted_read (s : String) :
    Json.read deletedShape.read (ofText s) = .ok () ↔
      ∃ v, Tells (ofText s) v ∧ deleted? v = some () := by
  have accepts : Accepts deletedShape.read := accepts_shape fun _ there => nomatch there
  simp only [deletedShape_has.interprets.read_eq_ok accepts, deletedForm_meaning?]

theorem refusal_read (s : String) (e : Refusal) :
    Json.read refusalShape.read (ofText s) = .ok e ↔
      ∃ v, Tells (ofText s) v ∧ refusal? v = some e := by
  have accepts : Accepts refusalShape.read := by
    apply accepts_shape
    simp only [refusalShape, List.forall_mem_cons]
    exact ⟨accepts_text.map _, accepts_text.map _, nofun⟩
  simp only [refusalShape_needs.interprets.read_eq_ok accepts, refusalForm_meaning?]

/-- A reply that is no success rejects the call: with what its body explains, or else with its status
and the whole body. -/
inductive Rejects (r : Reply) : EncoderError → Prop where
  | explained {e : Refusal} (failure : r.isSuccess = false)
      (body : Json.read refusalShape.read (ofText r.body.lossyText) = .ok e) :
      r.Rejects (.rejected e.code e.message)
  | unexplained {f : Failure} (failure : r.isSuccess = false)
      (body : Json.read refusalShape.read (ofText r.body.lossyText) = .error f) :
      r.Rejects (.rejected (toString r.status) r.body.lossyText)

/-- What becomes of the creation of a stream. -/
inductive Creates (r : Reply) : Except EncoderError String → Prop where
  | created {uid : String} (success : r.isSuccess = true)
      (body : Json.read createdShape.read r.body = .ok uid) (named : uid ≠ "") : r.Creates (.ok uid)
  | nameless (success : r.isSuccess = true) (body : Json.read createdShape.read r.body = .ok "") :
      r.Creates (.error (.invalidResponse "missing stream_uid in CreateStream response"))
  | unreadable {f : Failure} (success : r.isSuccess = true)
      (body : Json.read createdShape.read r.body = .error f) :
      r.Creates (.error (.transport "error decoding response body"))
  | rejected {e : EncoderError} (rejects : r.Rejects e) : r.Creates (.error e)

/-- What becomes of the deletion of a stream. -/
inductive Deletes (r : Reply) : Except EncoderError Unit → Prop where
  | deleted (success : r.isSuccess = true) (body : Json.read deletedShape.read r.body = .ok ()) :
      r.Deletes (.ok ())
  | unreadable {f : Failure} (success : r.isSuccess = true)
      (body : Json.read deletedShape.read r.body = .error f) :
      r.Deletes (.error (.transport "error decoding response body"))
  | rejected {e : EncoderError} (rejects : r.Rejects e) : r.Deletes (.error e)

theorem rejects_iff (r : Reply) (e : EncoderError) :
    r.Rejects e ↔ r.isSuccess = false ∧ r.refusal = e := by
  have refusal : r.isSuccess = false → r.Rejects r.refusal := by
    intro failure
    rw [Reply.refusal]
    cases body : Json.read refusalShape.read (ofText r.body.lossyText) with
    | ok e => exact .explained failure body
    | error f => exact .unexplained failure body
  constructor
  · rintro (⟨failure, body⟩ | ⟨failure, body⟩) <;> exact ⟨failure, by simp only [Reply.refusal, body]⟩
  · rintro ⟨failure, rfl⟩
    exact refusal failure

section Answer

variable {α : Type} {r : Reply} {shape : Shape α}

theorem decode_success (success : r.isSuccess = true) :
    r.decode shape = (Json.read shape.read r.body).mapError fun _ =>
      .transport "error decoding response body" := if_pos success

theorem decode_failure (failure : r.isSuccess = false) : r.decode shape = .error r.refusal :=
  if_neg (by simp [failure])

theorem answer_named {uid : String} (decoded : r.decode createdShape = .ok uid) (named : uid ≠ "")
    (request : StreamRequest) : r.answer (.createStream request) = .ok uid := by
  simp only [answer, decoded]

theorem answer_error {e : EncoderError} (decoded : r.decode createdShape = .error e)
    (request : StreamRequest) : r.answer (.createStream request) = .error e := by
  simp only [answer, decoded]

/-- Of each reply to the creation of a stream comes one thing. -/
theorem answer_createStream (r : Reply) (request : StreamRequest)
    (outcome : Except EncoderError String) :
    r.answer (.createStream request) = outcome ↔ r.Creates outcome := by
  constructor
  · rintro rfl
    cases success : r.isSuccess with
    | true =>
      have decoded := @decode_success String r createdShape success
      cases body : Json.read createdShape.read r.body with
      | ok uid =>
        rw [body] at decoded
        by_cases named : uid = ""
        · subst named
          rw [show r.answer (.createStream request) = _ by simp only [answer, decoded]; rfl]
          exact .nameless success body
        · rw [answer_named decoded named]
          exact .created success body named
      | error f =>
        rw [body] at decoded
        rw [answer_error decoded]
        exact .unreadable success body
    | false =>
      rw [answer_error (decode_failure success)]
      exact .rejected ((rejects_iff r _).2 ⟨success, rfl⟩)
  · rintro (⟨success, body, named⟩ | ⟨success, body⟩ | ⟨success, body⟩ | rejects)
    · exact answer_named (by rw [decode_success success, body]; rfl) named request
    · simp only [answer, decode_success success, body]
      rfl
    · exact answer_error (by rw [decode_success success, body]; rfl) request
    · obtain ⟨failure, rfl⟩ := (rejects_iff r _).1 rejects
      exact answer_error (decode_failure failure) request

/-- Of each reply to the deletion of a stream comes one thing. -/
theorem answer_deleteStream (r : Reply) (uid : String) (outcome : Except EncoderError Unit) :
    r.answer (.deleteStream uid) = outcome ↔ r.Deletes outcome := by
  show r.decode deletedShape = outcome ↔ r.Deletes outcome
  constructor
  · rintro rfl
    cases success : r.isSuccess with
    | true =>
      rw [decode_success success]
      cases body : Json.read deletedShape.read r.body with
      | ok => exact .deleted success body
      | error f => exact .unreadable success body
    | false =>
      rw [decode_failure success]
      exact .rejected ((rejects_iff r _).2 ⟨success, rfl⟩)
  · rintro (⟨success, body⟩ | ⟨success, body⟩ | rejects)
    · rw [decode_success success, body]
      rfl
    · rw [decode_success success, body]
      rfl
    · obtain ⟨failure, rfl⟩ := (rejects_iff r _).1 rejects
      exact decode_failure failure

/-- Only a reply that is a success gives what was asked for. -/
theorem isSuccess_of_answer {c : EncoderCall} {answer : c.Answer} (r : Reply)
    (h : r.answer c = .ok answer) : r.isSuccess = true := by
  cases c with
  | createStream request =>
    cases (answer_createStream r request _).1 h with
    | created success => exact success
  | deleteStream uid =>
    cases (answer_deleteStream r uid _).1 h with
    | deleted success => exact success

/-- A stream that was created has a uid. -/
theorem named_of_answer {request : StreamRequest} {uid : String} (r : Reply)
    (h : r.answer (.createStream request) = .ok uid) : uid ≠ "" := by
  cases (answer_createStream r request _).1 h with
  | created _ _ named => exact named

end Answer

end Reply
end DeviceRegistry
