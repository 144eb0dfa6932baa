import DeviceRegistry.Number.Decimal

/-! The shortest decimal text of a double-precision number: the fewest digits that read back as
the number and, among the numerals of that length, the nearest to it. -/
namespace DeviceRegistry.Binary64

/-- `n / d` is at least `10^e`. -/
def reachesPower (n d : Nat) (e : Int) : Bool :=
  if 0 ≤ e then decide (d * Nat.pow 10 e.toNat ≤ n) else decide (d ≤ n * Nat.pow 10 (-e).toNat)

/-- The exponent of the power of ten just above a positive magnitude given in units. The
logarithm in base two gives it up to one. -/
def decimalExponent (u : Nat) : Int :=
  let estimate := ((Nat.log2 u : Int) - 1074) * 1233 / 4096
  if reachesPower u oneUnits (estimate + 1) then estimate + 2
  else if reachesPower u oneUnits estimate then estimate + 1
  else estimate

/-- The numerals with exponent `e` on either side of `u` units, the nearer one first; of two
equally near ones the one with an even last digit is first. -/
def neighbours (u : Nat) (e : Int) : List Nat :=
  let n := if 0 ≤ e then u else u * Nat.pow 10 (-e).toNat
  let d := if 0 ≤ e then oneUnits * Nat.pow 10 e.toNat else oneUnits
  let below := n / d
  let nearer := divNearest n d
  if nearer = below then [below, below + 1] else [below + 1, below]

/-- A numeral of `length` digits that reads back as the code. -/
def numeralOfLength? (c : Nat) (top : Int) (length : Nat) : Option Decimal :=
  ((neighbours (units c) (top - length)).map fun digits => ⟨false, digits, top - length⟩).find?
    fun x => x.code == c

/-- The magnitude of a finite code, written out in full. -/
def exact (c : Nat) : Decimal := ⟨false, units c * Nat.pow 5 1074, -1074⟩

/-- The shortest numeral of a finite code. Seventeen digits always suffice; the full numeral
stands behind them so that the answer reads back whatever is known about that bound. -/
def shortestNumeral (c : Nat) : Decimal :=
  if c = 0 then ⟨false, 0, 0⟩
  else
    let top := decimalExponent (units c)
    ((List.range 17).findSome? fun n => numeralOfLength? c top (n + 1)).getD (exact c)

/-- Drops trailing zeros of a numeral into its exponent. -/
def dropZeros : Nat → Nat → Int → Nat × Int
  | 0, digits, e => (digits, e)
  | fuel + 1, digits, e =>
    if digits ≠ 0 ∧ digits % 10 = 0 then dropZeros fuel (digits / 10) (e + 1) else (digits, e)

/-- Where positional notation is used, and how an exponent is written. -/
structure Layout where
  /-- Positional notation needs the point at most this many places left of the first digit. -/
  leadingZeros : Nat
  /-- Positional notation needs the point at most this many places right of the first digit. -/
  places : Nat
  /-- What stands in front of an exponent that is not negative. -/
  plus : String

/-- Positional from `10^-5` up to below `10^16`; a positive exponent carries its sign. -/
def standardLayout : Layout := ⟨4, 16, "+"⟩

/-- A numeral without trailing zeros in a layout; positional numerals keep a fraction. -/
def Layout.text (l : Layout) (digits : Nat) (e : Int) : String :=
  let ds := toString digits
  let point := (ds.length : Int) + e
  if 0 ≤ e ∧ point ≤ l.places then
    ds ++ "".pushn '0' e.toNat ++ ".0"
  else if 0 < point ∧ point ≤ l.places then
    (ds.take point.toNat).toString ++ "." ++ (ds.drop point.toNat).toString
  else if -(l.leadingZeros : Int) ≤ point ∧ point ≤ 0 then
    "0." ++ "".pushn '0' (-point).toNat ++ ds
  else
    let mantissa := if ds.length = 1 then ds
      else (ds.take 1).toString ++ "." ++ (ds.drop 1).toString
    let exponent := point - 1
    mantissa ++ "e" ++ (if exponent < 0 then "-" else l.plus) ++ toString exponent.natAbs

/-- The shortest text of a finite number. -/
def text (x : Binary64) : String :=
  let numeral := shortestNumeral (code x)
  let (digits, e) := dropZeros 800 numeral.digits numeral.exponent
  (if x.isNegative then "-" else "") ++
    (if digits = 0 then "0.0" else standardLayout.text digits e)

end DeviceRegistry.Binary64
