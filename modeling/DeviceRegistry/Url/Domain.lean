import DeviceRegistry.Text.Composition
import DeviceRegistry.Url.Domain.Direction
import DeviceRegistry.Url.Domain.Joiner
import DeviceRegistry.Url.Punycode

/-! Domain names. A name is brought to one form, whatever its letter case and whichever of the
dots it is written with; then each label that is not ASCII is written in Punycode behind a mark of
its own. -/
namespace DeviceRegistry.Domain

/-- The ASCII characters that no domain name holds. -/
def isForbidden (c : Char) : Bool :=
  c.toNat ≤ 0x20 || c.toNat == 0x7f || "%#/:<>?@[\\]^|".toList.contains c

/-- The one form of a name, if all its characters have a place in names. -/
def normalized? (cs : List Char) : Option (List Char) :=
  (cs.mapM replaced?).map fun parts => Text.composedForm parts.flatten

/-- The text is in its one form already. -/
def isNormalized (cs : List Char) : Bool :=
  cs.all (fun c => replaced? c == some [c]) && normalized? cs == some cs

/-- The longest label that is written in Punycode, in characters, and the longest Punycode that is
read. -/
def longestLabel : Nat := 1000
def longestEncoding : Nat := 2000

/-- A label in its one form may be part of a name. -/
def isLabel (label : List Char) : Bool :=
  !label.any isForbidden && !label.head?.any Text.isMark && joinersFit [] label &&
    (label.all Punycode.isAscii || label.length ≤ longestLabel)

def marker : List Char := "xn--".toList

/-- The label that a label in ASCII stands for, which is in its one form and not ASCII. -/
def encodedLabel? (label : List Char) : Option (List Char) := do
  let encoding := label.drop marker.length
  guard (encoding.length ≤ longestEncoding)
  let text ← Punycode.decode? encoding
  guard (!text.all Punycode.isAscii && isNormalized text && isLabel text)
  return text

/-- A label as it is shown and as it is written in ASCII. -/
structure Label where
  shown : List Char
  ascii : List Char
deriving DecidableEq

/-- The label of a text in its one form. -/
def label? (text : List Char) : Option Label := do
  if marker.isPrefixOf text then return ⟨← encodedLabel? text, text⟩
  guard (isLabel text)
  return ⟨text, if text.all Punycode.isAscii then text else marker ++ Punycode.encode text⟩

/-- The name in ASCII, if it is the name of a domain. -/
def ascii? (cs : List Char) : Option (List Char) := do
  let labels ← ((← normalized? cs).splitOn '.').mapM label?
  guard (haveDirections (labels.map (·.shown)))
  return List.intercalate ['.'] (labels.map (·.ascii))

end DeviceRegistry.Domain
