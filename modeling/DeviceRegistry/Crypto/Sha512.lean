import DeviceRegistry.Text.Bytes

/-! The SHA-512 hash. Its constants are the first 64 bits behind the point of roots of primes. -/
namespace DeviceRegistry.Sha512

/-- The largest number below `2 ^ bits` whose power with that exponent is at most `n`. -/
def root (exponent bits n : Nat) : Nat :=
  (List.range bits).reverse.foldl (fun r i =>
    let s := r + Nat.pow 2 i
    if Nat.pow s exponent ≤ n then s else r) 0

/-- The first 64 bits behind the point of the root of a number below `2 ^ 16`. -/
def rootBits (exponent n : Nat) : UInt64 :=
  (root exponent 80 (n * Nat.pow 2 (64 * exponent))).toUInt64

def isPrime (n : Nat) : Bool := decide (2 ≤ n) && (List.range n).all fun d => d < 2 || n % d != 0

def primesBelow (n : Nat) : List Nat := (List.range n).filter isPrime

/-- From the square roots of the first 8 primes. -/
def initial : List UInt64 := (primesBelow 20).map (rootBits 2)

/-- From the cube roots of the first 80 primes. -/
def roundConstants : List UInt64 := (primesBelow 410).map (rootBits 3)

def rotr (x n : UInt64) : UInt64 := (x >>> n) ||| (x <<< (64 - n))

def bigSigma0 (x : UInt64) : UInt64 := rotr x 28 ^^^ rotr x 34 ^^^ rotr x 39
def bigSigma1 (x : UInt64) : UInt64 := rotr x 14 ^^^ rotr x 18 ^^^ rotr x 41
def smallSigma0 (x : UInt64) : UInt64 := rotr x 1 ^^^ rotr x 8 ^^^ (x >>> 7)
def smallSigma1 (x : UInt64) : UInt64 := rotr x 19 ^^^ rotr x 61 ^^^ (x >>> 6)

/-- The words of a message schedule, of which the first sixteen are given. -/
def schedule : Nat → List UInt64 → List UInt64
  | 0, _ => []
  | n + 1, ws =>
    let w := smallSigma1 (ws.getD 14 0) + ws.getD 9 0 + smallSigma0 (ws.getD 1 0) + ws.getD 0 0
    ws.getD 0 0 :: schedule n (ws.drop 1 ++ [w])

/-- A round with the sum of its constant and its word. -/
def round (kw : UInt64) : List UInt64 → List UInt64
  | [a, b, c, d, e, f, g, h] =>
    let t1 := h + bigSigma1 e + ((e &&& f) ^^^ (~~~e &&& g)) + kw
    let t2 := bigSigma0 a + ((a &&& b) ^^^ (a &&& c) ^^^ (b &&& c))
    [t1 + t2, a, b, c, d + t1, e, f, g]
  | s => s

def compress (s block : List UInt64) : List UInt64 :=
  let sums := List.zipWith (· + ·) roundConstants (schedule roundConstants.length block)
  List.zipWith (· + ·) s (sums.foldl (fun s kw => round kw s) s)

/-- What follows a message of that many bytes: a one bit, zeros up to 16 bytes before the end of a
block, and the length in bits. -/
def padding (length : Nat) : Bytes :=
  0x80 :: List.replicate ((239 - length % 128) % 128) 0 ++ Bytes.ofNat 16 (8 * length)

def word (b : Bytes) : UInt64 := (Bytes.toNat b).toUInt64

def digest (message : Bytes) : Bytes :=
  let padded := message ++ padding message.length
  let blocks := (List.range (padded.length / 128)).map fun i =>
    (List.range 16).map fun j => word ((padded.drop (128 * i + 8 * j)).take 8)
  (blocks.foldl compress initial).flatMap fun w => Bytes.ofNat 8 w.toNat

end DeviceRegistry.Sha512
