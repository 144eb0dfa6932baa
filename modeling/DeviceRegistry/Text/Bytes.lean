/-! Byte sequences and their reading as UTF-8. Texts are `String`; what is stored, sealed or sent
is a list of bytes. -/
namespace DeviceRegistry

abbrev Bytes := List UInt8

namespace Bytes

def ofText (s : String) : Bytes := s.toUTF8.data.toList

/-- The text whose UTF-8 bytes these are, if they are valid UTF-8. -/
def text? (b : Bytes) : Option String := String.fromUTF8? b.toByteArray

theorem toByteArray_ofText (s : String) : (ofText s).toByteArray = s.toUTF8 := by
  apply ByteArray.ext
  apply Array.toList_inj.mp
  simp [ofText]

/-- Encoding loses nothing. -/
theorem text?_ofText (s : String) : text? (ofText s) = some s := by
  have valid : s.toUTF8.IsValidUTF8 := s.isValidUTF8
  simp only [text?, toByteArray_ofText, String.fromUTF8?]
  rw [dif_pos (by simpa using valid)]
  rfl

/-- A big-endian number of any length. -/
def toNat (b : Bytes) : Nat := b.foldl (fun n byte => n * 256 + byte.toNat) 0

/-- The last `width` big-endian base-256 digits of a number. -/
def ofNat (width : Nat) (n : Nat) : Bytes :=
  (List.range width).reverse.map fun i => (n / Nat.pow 256 i).toUInt8

theorem length_ofNat (width n : Nat) : (ofNat width n).length = width := by
  simp [ofNat]

/-- Byte-wise exclusive or, as long as the shorter operand. -/
def xor (a b : Bytes) : Bytes := List.zipWith (· ^^^ ·) a b

end Bytes
end DeviceRegistry
