import DeviceRegistry.Crypto.Sha256

/-! Keyed hashing with HMAC-SHA256, and the derivation of keys from passwords with it. -/
namespace DeviceRegistry

/-- The chain values that absorbed the inner and the outer key block. -/
structure HmacKey where
  inner : Sha256.Chain
  outer : Sha256.Chain

namespace HmacKey

/-- The number of bytes in a key block. -/
def blockLength : Nat := 64

/-- A key as one block: hashed first if it is longer, then filled up with zeros. -/
def keyBlock (key : Bytes) : Bytes :=
  let short := if blockLength < key.length then Sha256.digest key else key
  short ++ List.replicate (blockLength - short.length) 0

def absorbBlock (block : Bytes) : Sha256.Chain :=
  (Sha256.blocks (Sha256.words block)).foldl Sha256.compress Sha256.initial

def ofBytes (key : Bytes) : HmacKey :=
  let block := keyBlock key
  ⟨absorbBlock (block.map (· ^^^ 0x36)), absorbBlock (block.map (· ^^^ 0x5c))⟩

/-- A digest as the last block of a message that has one block in front of it. -/
def digestBlock (s : Sha256.Chain) : Sha256.Block :=
  ⟨s.a, s.b, s.c, s.d, s.e, s.f, s.g, s.h, 0x80000000, 0, 0, 0, 0, 0, 0, 768⟩

def finish (k : HmacKey) (inner : Sha256.Chain) : Sha256.Chain :=
  Sha256.compress k.outer (digestBlock inner)

def code (k : HmacKey) (message : Bytes) : Sha256.Chain :=
  k.finish (Sha256.absorb k.inner blockLength message)

/-- The authentication code of another code. -/
def again (k : HmacKey) (s : Sha256.Chain) : Sha256.Chain :=
  k.finish (Sha256.compress k.inner (digestBlock s))

end HmacKey

namespace Pbkdf2

def combine (s t : Sha256.Chain) : Sha256.Chain :=
  ⟨s.a ^^^ t.a, s.b ^^^ t.b, s.c ^^^ t.c, s.d ^^^ t.d,
   s.e ^^^ t.e, s.f ^^^ t.f, s.g ^^^ t.g, s.h ^^^ t.h⟩

/-- Combines `n` further codes with those so far, each the code of the one before it. -/
def iterate (k : HmacKey) : Nat → Sha256.Chain → Sha256.Chain → Sha256.Chain
  | 0, _, sum => sum
  | n + 1, last, sum =>
    let next := k.again last
    iterate k n next (combine sum next)

/-- The 32 bytes derived from a password and a salt with that many codes, at least one. -/
def derive (password salt : Bytes) (count : Nat) : Bytes :=
  let k := HmacKey.ofBytes password
  let first := k.code (salt ++ [0, 0, 0, 1])
  (iterate k (count - 1) first first).bytes

end Pbkdf2
end DeviceRegistry
