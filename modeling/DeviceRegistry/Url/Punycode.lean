/-! Punycode: the ASCII characters of a text, then one number for each other character. The
numbers put these characters in, the smallest codes first, and tell how far the code and the place
of each lie behind those of the one before. A number is written in digits of base 36, the lowest
first; a digit below the threshold of its place ends the number. -/
namespace DeviceRegistry.Punycode

/-- The threshold of the place that counts `place`, which is 36 for the first digit. -/
def threshold (bias place : Nat) : Nat := max 1 (min 26 (place - bias))

theorem threshold_pos (bias place : Nat) : 1 ≤ threshold bias place := Nat.le_max_left ..

def firstBias : Nat := 72

/-- The bias for numbers of about that size. -/
def biasFor (size : Nat) : Nat :=
  if 455 < size then 36 + biasFor (size / 35) else 36 * size / (size + 38)
termination_by size
decreasing_by exact Nat.div_lt_self (by omega) (by decide)

/-- The bias after a number, which brought the text to `length` characters. -/
def biasAfter (number length : Nat) (first : Bool) : Nat :=
  let size := number / if first then 700 else 2
  biasFor (size + size / length)

def digit (n : Nat) : Char := Char.ofNat (if n < 26 then 0x61 + n else 0x16 + n)

def digitValue? (c : Char) : Option Nat :=
  if 'a' ≤ c ∧ c ≤ 'z' then some (c.toNat - 0x61)
  else if c.isDigit then some (c.toNat - 0x16)
  else none

/-- The digits of a number from a place on. -/
def digits (bias place number : Nat) : List Char :=
  let t := threshold bias place
  if number < t then [digit number]
  else digit (t + (number - t) % (36 - t)) :: digits bias (place + 36) ((number - t) / (36 - t))
termination_by number
decreasing_by
  have := threshold_pos bias place
  exact Nat.lt_of_le_of_lt (Nat.div_le_self ..) (by omega)

/-- Where the writer or the reader of numbers stands: the code of the last character put in, the
place behind it, the length of the text so far, and the bias for the next number. -/
structure Cursor where
  code : Nat := 0x80
  place : Nat := 0
  length : Nat
  bias : Nat := firstBias

/-- The cursor after a number that put a character in; `start` is the number of ASCII characters. -/
def Cursor.after (c : Cursor) (start number code place : Nat) : Cursor where
  code := code
  place := place + 1
  length := c.length + 1
  bias := biasAfter number (c.length + 1) (c.length == start)

def isAscii (c : Char) : Bool := decide (c.toNat < 0x80)

/-- The characters beyond ASCII by their codes, the smaller first, each with its place among the
characters that are put in before it. -/
def insertions (cs : List Char) : List (Nat × Nat) :=
  let all := cs.zipIdx.filterMap fun (c, i) =>
    if isAscii c then none
    else some (c.toNat, ((cs.take i).filter fun d => d.toNat ≤ c.toNat).length)
  all.mergeSort fun a b => decide (a.1 < b.1 ∨ a.1 = b.1 ∧ a.2 ≤ b.2)

def encodeInsertions (start : Nat) : Cursor → List (Nat × Nat) → List Char
  | _, [] => []
  | c, (code, place) :: rest =>
    let number := (code - c.code) * (c.length + 1) + place - c.place
    digits c.bias 36 number ++ encodeInsertions start (c.after start number code place) rest

def encode (cs : List Char) : List Char :=
  let ascii := cs.filter isAscii
  let mark := if ascii.isEmpty then [] else ['-']
  ascii ++ mark ++ encodeInsertions ascii.length { length := ascii.length } (insertions cs)

/-- Numbers and the weights of their digits stay below this bound. -/
def numberBound : Nat := UInt32.size

/-- The number in front, and what follows it. -/
def number? (bias : Nat) : Nat → Nat → List Char → Option (Nat × List Char)
  | _, _, [] => none
  | place, weight, c :: rest => do
    let d ← digitValue? c
    let t := threshold bias place
    if d < t then return (d * weight, rest)
    guard (weight * (36 - t) < numberBound)
    let (n, rest) ← number? bias (place + 36) (weight * (36 - t)) rest
    return (d * weight + n, rest)

def character? (code : Nat) : Option Char :=
  if code.isValidChar then some (Char.ofNat code) else none

/-- Puts in the characters of the numbers that are left, at most `fuel`. -/
def decodeInsertions (start : Nat) : Nat → Cursor → List Char → List Char → Option (List Char)
  | 0, _, _, _ => none
  | _ + 1, _, [], done => some done
  | fuel + 1, c, cs, done => do
    let (number, rest) ← number? c.bias 36 1 cs
    let total := c.place + number
    let code := c.code + total / (c.length + 1)
    let place := total % (c.length + 1)
    let inserted ← character? code
    decodeInsertions start fuel (c.after start number code place) rest
      (done.take place ++ inserted :: done.drop place)

/-- The text of an encoding; the last hyphen ends the ASCII characters, if there are any. Each
number takes a character at least, so that the length is enough fuel. -/
def decode? (cs : List Char) : Option (List Char) :=
  let behind := (cs.reverse.takeWhile (· != '-')).reverse
  let ascii := cs.take (cs.length - behind.length - 1)
  let numbers := if ascii.isEmpty then cs else behind
  decodeInsertions ascii.length (numbers.length + 1) { length := ascii.length } numbers ascii

end DeviceRegistry.Punycode
