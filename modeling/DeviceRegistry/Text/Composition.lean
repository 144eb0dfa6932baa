import DeviceRegistry.Text.Composition.Class
import DeviceRegistry.Text.Composition.Pairs

/-! The composed form of a text. Every character is taken apart, the marks behind a character are
put into the order of their classes, and what can be joined is joined again; so texts that look
alike come to one form. -/
namespace DeviceRegistry.Text

/-- The character taken apart, down to the given depth. The second of two parts has no parts. -/
def takenApart : Nat → Char → List Char
  | 0, c => [c]
  | depth + 1, c =>
    match parts? c with
    | some (a, b) => takenApart depth a ++ [b]
    | none => [c]

/-- Puts a character in front of marks that are in order, and behind those of lower classes. -/
def placeMark (c : Char) : List Char → List Char
  | [] => [c]
  | d :: rest =>
    if combiningClass d ≠ 0 ∧ combiningClass d < combiningClass c then d :: placeMark c rest
    else c :: d :: rest

/-- The text with its marks in the order of their classes. -/
def ordered (cs : List Char) : List Char := cs.foldr placeMark []

/-- Joins what follows with the character `start`; the marks in between, which stay, are `kept`,
the last one first. A mark is out of reach behind one of its own class or of a greater one. -/
def joinAfter (start : Char) (kept : List Char) : List Char → List Char
  | [] => start :: kept.reverse
  | c :: rest =>
    let inReach := kept.head?.all fun d => combiningClass d < combiningClass c
    match if inReach then composed? start c else none with
    | some joined => joinAfter joined kept rest
    | none =>
      if combiningClass c = 0 then start :: kept.reverse ++ joinAfter c [] rest
      else joinAfter start (c :: kept) rest

/-- Joins what can be joined. Marks in front of everything else stay. -/
def joined : List Char → List Char
  | [] => []
  | c :: rest => if combiningClass c = 0 then joinAfter c [] rest else c :: joined rest

/-- The composed form. No character has parts within parts beyond the third level. -/
def composedForm (cs : List Char) : List Char := joined (ordered (cs.flatMap (takenApart 4)))

end DeviceRegistry.Text
