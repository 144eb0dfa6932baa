/-! The text of a URL as it comes in. Control characters and blanks around it count for nothing,
and neither do tabs and line ends anywhere in it. -/
namespace DeviceRegistry.Url

/-- The text without control characters and blanks at its ends. -/
def trimmed (s : String) : List Char :=
  let outer (c : Char) : Bool := decide (c.toNat ≤ 0x20)
  ((s.toList.dropWhile outer).reverse.dropWhile outer).reverse

/-- The character is passed over wherever it stands. -/
def isBreak (c : Char) : Bool := c == '\t' || c == '\n' || c == '\r'

def withoutBreaks (cs : List Char) : List Char := cs.filter (!isBreak ·)

/-- What stands behind the first `n` characters that are no breaks. -/
def behind : Nat → List Char → List Char
  | 0, cs => cs
  | _, [] => []
  | n + 1, c :: cs => if isBreak c then behind (n + 1) cs else behind n cs

end DeviceRegistry.Url
