import DeviceRegistry.Text.Bytes

/-! The block cipher AES with keys of 32 bytes. Bytes are polynomials over two elements, modulo
`x^8 + x^4 + x^3 + x + 1`; the substitution is the inverse in that field behind an affine map. -/
namespace DeviceRegistry.Aes

/-- The product with `x`. -/
def timesX (a : UInt8) : UInt8 := (a <<< 1) ^^^ (if 0x80 ≤ a then 0x1b else 0)

/-- The product of two field elements, from the low bit of `b` on. -/
def mulBits : Nat → UInt8 → UInt8 → UInt8
  | 0, _, _ => 0
  | n + 1, a, b => (if b &&& 1 = 1 then a else 0) ^^^ mulBits n (timesX a) (b >>> 1)

def mul (a b : UInt8) : UInt8 := mulBits 8 a b

/-- The inverse, the 254th power; zero for zero. -/
def inverse (a : UInt8) : UInt8 :=
  let a2 := mul a a
  let a4 := mul a2 a2
  let a8 := mul a4 a4
  let a16 := mul a8 a8
  let a32 := mul a16 a16
  let a64 := mul a32 a32
  let a128 := mul a64 a64
  mul (mul (mul a2 a4) (mul a8 a16)) (mul (mul a32 a64) a128)

def rotl (a : UInt8) (n : UInt8) : UInt8 := (a <<< n) ||| (a >>> (8 - n))

def substitute (a : UInt8) : UInt8 :=
  let b := inverse a
  b ^^^ rotl b 1 ^^^ rotl b 2 ^^^ rotl b 3 ^^^ rotl b 4 ^^^ 0x63

/-- The substitution of every byte, worked out once. -/
def substitutions : Array UInt8 := Array.ofFn fun i : Fin 256 => substitute i.val.toUInt8

theorem size_substitutions : substitutions.size = 256 := Array.size_ofFn

def sub (a : UInt8) : UInt8 :=
  have : a.toNat < substitutions.size := by rw [size_substitutions]; exact a.toNat_lt
  substitutions[a.toNat]

theorem sub_eq_substitute (a : UInt8) : sub a = substitute a := by
  simp [sub, substitutions]

structure Column where
  (a b c d : UInt8)
deriving DecidableEq, Inhabited

namespace Column

def xor (x y : Column) : Column := ⟨x.a ^^^ y.a, x.b ^^^ y.b, x.c ^^^ y.c, x.d ^^^ y.d⟩
def sub (x : Column) : Column := ⟨Aes.sub x.a, Aes.sub x.b, Aes.sub x.c, Aes.sub x.d⟩
def rotate (x : Column) : Column := ⟨x.b, x.c, x.d, x.a⟩

/-- The product with `3 y^3 + y^2 + y + 2`, modulo `y^4 + 1`. -/
def mix (x : Column) : Column :=
  let all := x.a ^^^ x.b ^^^ x.c ^^^ x.d
  ⟨x.a ^^^ all ^^^ timesX (x.a ^^^ x.b), x.b ^^^ all ^^^ timesX (x.b ^^^ x.c),
   x.c ^^^ all ^^^ timesX (x.c ^^^ x.d), x.d ^^^ all ^^^ timesX (x.d ^^^ x.a)⟩

def bytes (x : Column) : Bytes := [x.a, x.b, x.c, x.d]

end Column

/-- Sixteen bytes, column by column. -/
structure Block where
  (w x y z : Column)
deriving DecidableEq, Inhabited

namespace Block

def xor (s t : Block) : Block := ⟨s.w.xor t.w, s.x.xor t.x, s.y.xor t.y, s.z.xor t.z⟩
def sub (s : Block) : Block := ⟨s.w.sub, s.x.sub, s.y.sub, s.z.sub⟩
def mix (s : Block) : Block := ⟨s.w.mix, s.x.mix, s.y.mix, s.z.mix⟩

/-- Row `n` moves left by `n` columns. -/
def shift (s : Block) : Block :=
  ⟨⟨s.w.a, s.x.b, s.y.c, s.z.d⟩, ⟨s.x.a, s.y.b, s.z.c, s.w.d⟩,
   ⟨s.y.a, s.z.b, s.w.c, s.x.d⟩, ⟨s.z.a, s.w.b, s.x.c, s.y.d⟩⟩

def bytes (s : Block) : Bytes := s.w.bytes ++ s.x.bytes ++ s.y.bytes ++ s.z.bytes

/-- The block of sixteen bytes; missing ones are zero. -/
def ofBytes (b : Bytes) : Block :=
  let at_ (i : Nat) : UInt8 := (b[i]?).getD 0
  ⟨⟨at_ 0, at_ 1, at_ 2, at_ 3⟩, ⟨at_ 4, at_ 5, at_ 6, at_ 7⟩,
   ⟨at_ 8, at_ 9, at_ 10, at_ 11⟩, ⟨at_ 12, at_ 13, at_ 14, at_ 15⟩⟩

end Block

/-- The round keys: the first, those of the middle rounds, and the last. -/
structure Schedule where
  first : Block
  middle : List Block
  last : Block

/-- The two round keys behind `p` and `q`. -/
def nextKeys (constant : UInt8) (p q : Block) : Block × Block :=
  let w := p.w.xor (q.z.rotate.sub.xor ⟨constant, 0, 0, 0⟩)
  let x := p.x.xor w
  let y := p.y.xor x
  let z := p.z.xor y
  let w' := q.w.xor z.sub
  let x' := q.x.xor w'
  let y' := q.y.xor x'
  (⟨w, x, y, z⟩, ⟨w', x', y', q.z.xor y'⟩)

/-- The round keys in pairs, each made from the pair before it. -/
def keyPairs : Nat → UInt8 → Block → Block → List Block
  | 0, _, _, _ => []
  | n + 1, constant, p, q =>
    let (r, s) := nextKeys constant p q
    r :: s :: keyPairs n (timesX constant) r s

/-- The fifteen round keys of a key of 32 bytes. -/
def Schedule.ofKey (key : Bytes) : Schedule :=
  let p := Block.ofBytes key
  let q := Block.ofBytes (key.drop 16)
  let later := keyPairs 7 1 p q
  { first := p, middle := q :: later.take 12, last := later.getD 12 default }

def encrypt (k : Schedule) (s : Block) : Block :=
  let t := k.middle.foldl (fun s key => s.sub.shift.mix.xor key) (s.xor k.first)
  t.sub.shift.xor k.last

end DeviceRegistry.Aes
