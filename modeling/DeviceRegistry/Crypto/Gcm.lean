import DeviceRegistry.Crypto.Aes

/-! Authenticated encryption in Galois/Counter Mode: a text is combined with the encrypted values
of a counter, and a polynomial over the cipher text and the associated data gives its tag. -/
namespace DeviceRegistry.Gcm

/-- The polynomial `x^128 + x^7 + x^2 + x + 1` without its leading term. The coefficient of `x^0`
is the highest of 128 bits. -/
def reduction : Nat := 0xe1 * Nat.pow 2 120

/-- The product with `x`. -/
def timesX (a : Nat) : Nat := if a % 2 = 0 then a / 2 else (a / 2) ^^^ reduction

/-- Adds `b * x^i` for the lowest `n` coefficients of `a`, from the highest bit on. -/
def mulBits : Nat → Nat → Nat → Nat → Nat
  | 0, _, _, sum => sum
  | n + 1, a, b, sum => mulBits n a (timesX b) (if a.testBit n then sum ^^^ b else sum)

def mul (a b : Nat) : Nat := mulBits 128 a b 0

def nonceLength : Nat := 12
def tagLength : Nat := 16
def blockLength : Nat := 16

/-- The longest text whose counter does not come round. -/
def maximumLength : Nat := Nat.pow 2 36 - 32

/-- Continues a hash with the blocks of a byte sequence, the last one filled up with zeros. `n` is
at least the number of blocks. -/
def hashBlocks (h : Nat) : Nat → Nat → Bytes → Nat
  | 0, sum, _ => sum
  | _ + 1, sum, [] => sum
  | n + 1, sum, c :: cs =>
    let block := (c :: cs).take blockLength
    let filled := Bytes.toNat block * Nat.pow 256 (blockLength - block.length)
    hashBlocks h n (mul (sum ^^^ filled) h) ((c :: cs).drop blockLength)

/-- The hash of the associated data and the cipher text, with their lengths at the end. -/
def hash (h : Nat) (associated cipherText : Bytes) : Nat :=
  let sum := hashBlocks h associated.length 0 associated
  let sum := hashBlocks h cipherText.length sum cipherText
  mul (sum ^^^ (8 * associated.length * Nat.pow 2 64 + 8 * cipherText.length)) h

/-- A key with its round keys and the key of its hash. -/
structure Key where
  schedule : Aes.Schedule
  hashKey : Nat

def Key.ofBytes (key : Bytes) : Key :=
  let schedule := Aes.Schedule.ofKey key
  ⟨schedule, Bytes.toNat (Aes.encrypt schedule default).bytes⟩

namespace Key

/-- The encrypted value of the counter. -/
def counterBlock (k : Key) (nonce : Bytes) (counter : Nat) : Bytes :=
  (Aes.encrypt k.schedule (.ofBytes (nonce ++ Bytes.ofNat 4 counter))).bytes

/-- The encrypted values of the counter from 2 on, as many as cover `length` bytes. -/
def keyStream (k : Key) (nonce : Bytes) (length : Nat) : Bytes :=
  (List.range ((length + blockLength - 1) / blockLength)).flatMap fun i =>
    k.counterBlock nonce (i + 2)

/-- Combines a text with the key stream, which turns plain text into cipher text and back. -/
def crypt (k : Key) (nonce text : Bytes) : Bytes :=
  Bytes.xor text (k.keyStream nonce text.length)

def tag (k : Key) (nonce associated cipherText : Bytes) : Bytes :=
  Bytes.xor (Bytes.ofNat tagLength (hash k.hashKey associated cipherText)) (k.counterBlock nonce 1)

/-- The cipher text of a plain text, and its tag. A text that is too long has none. -/
def seal? (k : Key) (nonce associated plain : Bytes) : Option (Bytes × Bytes) :=
  if plain.length ≤ maximumLength then
    let cipherText := k.crypt nonce plain
    some (cipherText, k.tag nonce associated cipherText)
  else none

/-- The plain text of a cipher text whose tag is the right one. -/
def open? (k : Key) (nonce associated cipherText tag : Bytes) : Option Bytes :=
  if cipherText.length ≤ maximumLength ∧ k.tag nonce associated cipherText = tag then
    some (k.crypt nonce cipherText)
  else none

end Key
end DeviceRegistry.Gcm
