import DeviceRegistry.Text.Base64

/-! Bytes within text. A section stands between a line that opens it and one that closes it, both
with its label; the lines between them are Base64. What stands outside of sections does not
count. -/
namespace DeviceRegistry.Pem

structure Section where
  label : String
  content : Bytes
deriving DecidableEq, Inhabited

/-- The labels whose sections are looked at. -/
def knownLabels : List String :=
  ["CERTIFICATE", "PUBLIC KEY", "PRIVATE KEY", "RSA PRIVATE KEY", "EC PRIVATE KEY", "X509 CRL",
    "CERTIFICATE REQUEST", "ECHCONFIG"]

def opening : Bytes := Bytes.ofText "-----BEGIN "
def closing : Bytes := Bytes.ofText "-----END "
def dashes : Bytes := Bytes.ofText "-----"

def isLineEnd (b : UInt8) : Bool := b == 0x0a || b == 0x0d

def isBlank (b : UInt8) : Bool := b == 0x20 || (0x09 ≤ b && b ≤ 0x0d)

/-- The label of a line that opens a section; five dashes have to be at its end. -/
def openedLabel? (line : Bytes) : Option Bytes :=
  let ending := line.reverse.takeWhile fun b => b == 0x2d || b == 0x20
  let width := (ending.reverse.dropWhile (· == 0x20)).length
  if ending.count 0x2d = 5 then some ((line.take (line.length - width)).drop opening.length)
  else none

def closes (label line : Bytes) : Bool := (closing ++ label ++ dashes).isPrefixOf line

/-- The bytes that letters of Base64 stand for. At most two equals signs fill up the last group of
four. -/
def decode? (letters : Bytes) : Option Bytes := do
  let cs := (letters.filter (!isBlank ·)).map fun b => Char.ofNat b.toNat
  let body := (cs.reverse.dropWhile (· == '=')).reverse
  let missing := cs.length - body.length
  guard (missing ≤ 2 && cs.length % 4 == 0)
  let bytes ← Base64.decodeList? (body ++ List.replicate missing 'A')
  return bytes.take (bytes.length - missing)

/-- Where a reader of sections stands: the label of the open section, and the letters so far. -/
structure Cursor where
  label : Option Bytes := none
  letters : Bytes := []

/-- What is found at the end of a section: nothing, if it is of no known kind. -/
def finished (label letters : Bytes) : List (Option Section) :=
  match Bytes.text? label with
  | none => []
  | some label =>
    if knownLabels.contains label then [(decode? letters).map (⟨label, ·⟩)] else []

/-- The sections in the lines; none stands for one that is broken. -/
def readLines : Cursor → List Bytes → List (Option Section)
  | c, [] => if c.label.isSome then [none] else []
  | c, line :: rest =>
    if opening.isPrefixOf line then
      match openedLabel? line with
      | some label => readLines { c with label := some label } rest
      | none => none :: readLines {} rest
    else
      match c.label with
      | none => readLines c rest
      | some label =>
        if closes label line then finished label c.letters ++ readLines {} rest
        else readLines { c with letters := c.letters ++ line } rest

/-- The sections of a text, in their order; none stands for one that is broken. -/
def sections (text : Bytes) : List (Option Section) := readLines {} (text.splitOnP isLineEnd)

end DeviceRegistry.Pem
