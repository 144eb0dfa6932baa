import DeviceRegistry.Json.Value
import DeviceRegistry.Json.Reader
import DeviceRegistry.Proofs.Text.Bytes

/-! A text in quotes is read back as it was written, whatever stands behind its closing quote. -/
namespace DeviceRegistry.Json
open Bytes

theorem textRest_quote (rest acc : Bytes) : textRest (0x22 :: rest) acc = .ok acc rest := by
  simp [textRest]

theorem textRest_plain {c : UInt8} (quote : c ≠ 0x22) (backslash : c ≠ 0x5c) (control : ¬ c < 0x20)
    (rest acc : Bytes) : textRest (c :: rest) acc = textRest rest (c :: acc) := by
  rw [textRest]
  · rw [if_neg quote, if_neg control]
  all_goals simp [backslash]

theorem textRest_escape {c e : UInt8} (unicode : c ≠ 0x75) (known : escapeByte? c = some e)
    (rest acc : Bytes) : textRest (0x5c :: c :: rest) acc = textRest rest (e :: acc) := by
  simp [textRest, unicode, known]

/-- The second digit of a control character's escape. -/
def controlDigit (c : UInt8) : UInt8 := if c % 16 < 10 then 0x30 + c % 16 else 0x57 + c % 16

theorem controlEscape_eq (c : UInt8) :
    controlEscape c = [0x5c, 0x75, 0x30, 0x30, 0x30 + c / 16, controlDigit c] := by
  rw [controlEscape, ofText_of_ascii (by simp [IsAscii])]
  rfl

theorem control_codes : ∀ n < 32,
    hexUnit? 0x30 0x30 (0x30 + n.toUInt8 / 16) (controlDigit n.toUInt8) = some n ∧
      isTrailing n = false ∧ isLeading n = false ∧
      (Char.ofNat n).val ≤ 127 ∧ ofChar (Char.ofNat n) = n.toUInt8 := by
  decide

theorem textRest_control {c : UInt8} (control : c < 0x20) (rest acc : Bytes) :
    textRest (controlEscape c ++ rest) acc = textRest rest (c :: acc) := by
  have bound : c.toNat < 32 := control
  obtain ⟨code, trailing, leading, ascii, byte⟩ := control_codes c.toNat bound
  have same : c.toNat.toUInt8 = c := UInt8.ofNat_toNat
  have written : encodedBackwards c.toNat = [c] := by
    rw [encodedBackwards, ofText_singleton ascii, byte, same, List.reverse_singleton]
  rw [same] at code
  simp [controlEscape_eq, textRest, code, trailing, leading, written]

theorem textRest_escaped (c : UInt8) (rest acc : Bytes) :
    textRest (escaped c ++ rest) acc = textRest rest (c :: acc) := by
  unfold escaped
  iterate 7
    split
    next h => subst h; exact textRest_escape (by decide) (by decide) rest acc
  split
  next control => exact textRest_control control rest acc
  next quote backslash _ _ _ _ _ control => exact textRest_plain quote backslash control rest acc

theorem textRest_write (b rest acc : Bytes) :
    textRest (b.flatMap escaped ++ 0x22 :: rest) acc = .ok (b.reverse ++ acc) rest := by
  induction b generalizing acc with
  | nil => exact textRest_quote rest acc
  | cons c b ih =>
    rw [List.flatMap_cons, List.append_assoc, textRest_escaped, ih]
    simp

namespace Reader

theorem quotedRest_write (s : String) (rest : Bytes) :
    quotedRest ((ofText s).flatMap escaped ++ 0x22 :: rest) = .ok s rest := by
  simp [quotedRest, bind, EStateM.bind, textRest_write, text?_ofText, pure, EStateM.pure]

theorem peekToken?_cons {c : UInt8} (blank : isBlank c = false) (rest : Bytes) :
    peekToken? (c :: rest) = .ok (some c) (c :: rest) := by
  simp [peekToken?, blanks, peek?, bind, EStateM.bind, blank]

theorem found_text (s : String) (rest : Bytes) :
    found (writeText s ++ rest) = .ok (.text s) rest := by
  simp only [writeText, List.cons_append, List.append_assoc, List.nil_append, found, bind,
    EStateM.bind, peekToken?_cons (show isBlank 0x22 = false by decide)]
  simp [drop, EStateM.bind, isDigit, quotedRest_write, pure, EStateM.pure]

theorem text_write (s : String) (rest : Bytes) : text (writeText s ++ rest) = .ok s rest := by
  simp [text, bind, EStateM.bind, found_text, pure, EStateM.pure]

end Reader
end DeviceRegistry.Json
