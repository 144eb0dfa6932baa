import DeviceRegistry.Json.Failure
import DeviceRegistry.Text.Bytes

/-! JSON values and their compact text: no blanks, members in the order given, shortest numbers.
A number that is not finite has no text and is written as null. -/
namespace DeviceRegistry.Json

inductive Value where
  | null
  | boolean (b : Bool)
  | number (n : Number)
  | text (s : String)
  | list (items : List Value)
  | object (members : List (String × Value))
deriving Inhabited

namespace Value

def natural (n : UInt64) : Value := .number (.unsigned n)
def real (x : Binary64) : Value := .number (.real x)

/-- The member of that name, the last one if there are several. -/
def member? (name : String) : Value → Option Value
  | .object members => (members.reverse.find? (·.1 == name)).map (·.2)
  | _ => none

end Value

/-- A control character in its four-digit escape. -/
def controlEscape (c : UInt8) : Bytes :=
  Bytes.ofText "\\u00" ++ [0x30 + c / 16, if c % 16 < 10 then 0x30 + c % 16 else 0x57 + c % 16]

/-- One byte of a text inside the quotes. Bytes of longer encodings stand for themselves. -/
def escaped (c : UInt8) : Bytes :=
  if c = 0x22 then [0x5c, 0x22]
  else if c = 0x5c then [0x5c, 0x5c]
  else if c = 0x08 then [0x5c, 0x62]
  else if c = 0x09 then [0x5c, 0x74]
  else if c = 0x0a then [0x5c, 0x6e]
  else if c = 0x0c then [0x5c, 0x66]
  else if c = 0x0d then [0x5c, 0x72]
  else if c < 0x20 then controlEscape c
  else [c]

def writeText (s : String) : Bytes := 0x22 :: (Bytes.ofText s).flatMap escaped ++ [0x22]

def Number.write : Number → Bytes
  | unsigned n => Bytes.ofText (toString n)
  | negative n => Bytes.ofText ("-" ++ toString n)
  | real x => Bytes.ofText (if x.isFinite then x.text else "null")

def separated : List Bytes → Bytes
  | [] => []
  | [a] => a
  | a :: rest => a ++ 0x2c :: separated rest

namespace Value

mutual

def write : Value → Bytes
  | .null => Bytes.ofText "null"
  | .boolean b => Bytes.ofText (if b then "true" else "false")
  | .number n => n.write
  | .text s => writeText s
  | .list items => 0x5b :: separated (writeItems items) ++ [0x5d]
  | .object members => 0x7b :: separated (writeMembers members) ++ [0x7d]

def writeItems : List Value → List Bytes
  | [] => []
  | v :: rest => v.write :: writeItems rest

def writeMembers : List (String × Value) → List Bytes
  | [] => []
  | (name, v) :: rest => (writeText name ++ 0x3a :: v.write) :: writeMembers rest

end

def render (v : Value) : String := (Bytes.text? v.write).getD ""

end Value
end DeviceRegistry.Json
