import DeviceRegistry.Json.Reader
import DeviceRegistry.Json.Skip

/-! Records. In object form the members come in any order, members without a meaning are passed
over, and a member that comes twice is refused when its name is read for the second time. In list
form the members come in the order of their declaration. -/
namespace DeviceRegistry.Json

/-- A member of a record of type `α`. -/
structure Member (α : Type) where
  name : String
  /-- Whether a record without this member is refused. -/
  required : Bool
  /-- Reads the value and tells how it changes the record. -/
  read : Reader (α → α)

/-- How a record is read: what it is called in messages, what it holds before any member is
read, and its members in the order of their declaration. -/
structure Shape (α : Type) where
  title : String
  initial : α
  members : List (Member α)

namespace Shape

variable {α : Type}

def member? (shape : Shape α) (name : String) : Option (Member α) :=
  shape.members.find? (·.name == name)

/-- The first member that the record cannot do without and that was not seen. -/
def missing? (shape : Shape α) (seen : List String) : Option (Member α) :=
  shape.members.find? fun m => m.required && !seen.contains m.name

/-- The record as a message about its length calls it. -/
def lengthTitle (shape : Shape α) : String :=
  let n := shape.members.length
  shape.title ++ " with " ++ toString n ++ (if n = 1 then " element" else " elements")

/-- The members from here to the closing brace. A member takes more than one byte, so that the
input's length is enough fuel. -/
def readMembers (shape : Shape α) : Nat → List String → Bool → α → Reader (List String × α)
  | 0, _, _, _ => Reader.unfinished .object
  | fuel + 1, seen, first, a => do
    match ← Reader.nextName? first with
    | none => return (seen, a)
    | some name =>
      match shape.member? name with
      | none =>
        Reader.colon
        Reader.inside (.member name) Reader.skipValue
        shape.readMembers fuel seen false a
      | some m =>
        if seen.contains name then Reader.refuseObject (.repeatedMember name)
        else
          Reader.colon
          let change ← Reader.inside (.member name) m.read
          shape.readMembers fuel (name :: seen) false (change a)

/-- The object form behind its opening brace. -/
def readObject (shape : Shape α) : Reader α := do
  let (seen, a) ← fun input => shape.readMembers (input.length + 1) [] true shape.initial input
  Reader.drop
  match shape.missing? seen with
  | some m => Reader.mismatch (.missingMember m.name)
  | none => return a

/-- The elements of the list form from element `i` on, for the members still to come. -/
def readElements (shape : Shape α) : List (Member α) → Nat → α → Reader α
  | [], _, a => return a
  | m :: rest, i, a => do
    if ← Reader.anotherElement (i == 0) then
      let change ← Reader.inside (.element i) m.read
      shape.readElements rest (i + 1) (change a)
    else if m.required then Reader.refuseList (.wrongLength i shape.lengthTitle)
    else shape.readElements rest (i + 1) a

def read (shape : Shape α) : Reader α := do
  match ← Reader.found with
  | .object => Reader.drop; shape.readObject
  | .list =>
    Reader.drop
    let a ← shape.readElements shape.members 0 shape.initial
    Reader.listEnd
    return a
  | other => Reader.mismatch (.wrongType other shape.title)

end Shape

namespace Reader

/-- The members of an object of texts, in the order in which they come. -/
def textMembers : Nat → Bool → List (String × String) → Reader (List (String × String))
  | 0, _, _ => unfinished .object
  | fuel + 1, first, acc => do
    match ← nextName? first with
    | none => drop; return acc.reverse
    | some name =>
      colon
      let s ← inside (.member name) text
      textMembers fuel false ((name, s) :: acc)

/-- An object whose members are all texts. -/
def textObject : Reader (List (String × String)) := do
  match ← found with
  | .object => drop; fun input => textMembers (input.length + 1) true [] input
  | other => mismatch (.wrongType other "a map")

/-- One of the names, as a text or as the only member of an object, with null for its value. -/
def variant {α : Type} (known : List (String × α)) : Reader α := do
  let named (name : String) : Reader α :=
    match known.find? (·.1 == name) with
    | some (_, a) => pure a
    | none => mismatch (.unknownVariant name (known.map (·.1)))
  match ← peekToken? with
  | none => unfinished .value
  | some c =>
    if c = 0x22 then drop; named (← quotedRest)
    else if c = 0x7b then
      drop
      if !(← anotherMember true) then unexpected .expectedValue
      drop
      let a ← named (← quotedRest)
      colon
      unit
      match ← peekToken? with
      | none => unfinished .object
      | some d => if d = 0x7d then drop; return a else malformed .expectedValue
    else unexpected .expectedValue

end Reader
end DeviceRegistry.Json
