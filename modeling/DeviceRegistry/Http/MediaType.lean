import DeviceRegistry.Text.Bytes

/-! Media types of HTTP messages: a type, a subtype with an optional suffix behind its last plus
sign, and parameters. -/
namespace DeviceRegistry

structure MediaType where
  /-- In lower case, as the other names. -/
  main : String
  subtype : String
  suffix : Option String
deriving DecidableEq, Inhabited

namespace MediaType

def isTokenChar (c : Char) : Bool := c.isAlphanum || "!#$%&'*+-.^_`|~".toList.contains c

/-- A character that may stand in a quoted value. -/
def isQuotedChar (c : Char) : Bool := decide (0x1f < c.toNat) && c != '\x7f'

def lower (cs : List Char) : String := String.ofList (cs.map Char.toLower)

/-- A subtype at its last plus sign. A plus sign in front is part of the subtype. -/
def splitSuffix (cs : List Char) : List Char × Option (List Char) :=
  let suffix := (cs.reverse.takeWhile (· != '+')).reverse
  let subtype := cs.take (cs.length - suffix.length - 1)
  if subtype.isEmpty then (cs, none) else (subtype, some suffix)

/-- What stands behind a quoted value whose opening quote and first character are gone. -/
def afterQuoted? : List Char → Option (List Char)
  | [] => none
  | '"' :: rest => some rest
  | c :: rest => if isQuotedChar c then afterQuoted? rest else none

/-- What stands behind a parameter's value and, if another one follows, its semicolon. A quoted
value has at least one character, whatever it is; an unquoted one may be empty at the end. -/
def afterValue? : List Char → Option (List Char)
  | [] => some []
  | ['"'] => none
  | '"' :: c :: rest =>
    if isQuotedChar c then do
      match (← afterQuoted? rest).dropWhile (· == ' ') with
      | [] => some []
      | ';' :: rest => some rest
      | _ => none
    else none
  | c :: rest =>
    if isTokenChar c then
      match rest.dropWhile isTokenChar with
      | [] => some []
      | ';' :: rest => some rest
      | _ => none
    else none

/-- The text is a sequence of parameters, with blanks in front of their names. A parameter takes
at least two characters, so that the length is enough fuel. -/
def areParameters : Nat → List Char → Bool
  | 0, _ => false
  | fuel + 1, cs =>
    match cs.dropWhile (· == ' ') with
    | [] => true
    | cs =>
      let name := cs.takeWhile isTokenChar
      match cs.dropWhile isTokenChar with
      | '=' :: rest =>
        !name.isEmpty && (match afterValue? rest with
          | some rest => areParameters fuel rest
          | none => false)
      | _ => false

def parse? (s : String) : Option MediaType :=
  let cs := s.toList
  let main := cs.takeWhile isTokenChar
  match cs.dropWhile isTokenChar with
  | '/' :: rest =>
    let subtype := rest.takeWhile isTokenChar
    let wellFormed := match rest.dropWhile isTokenChar with
      | [] => true
      | ';' :: parameters => !subtype.isEmpty && areParameters (parameters.length + 1) parameters
      | _ => false
    if main.isEmpty || !wellFormed || s == "*/*" then none
    else
      let (subtype, suffix) := splitSuffix subtype
      some ⟨lower main, lower subtype, suffix.map lower⟩
  | _ => none

/-- The content is JSON, alone or under another format. -/
def isJson (m : MediaType) : Bool :=
  m.main == "application" && (m.subtype == "json" || m.suffix == some "json")

end MediaType
end DeviceRegistry
