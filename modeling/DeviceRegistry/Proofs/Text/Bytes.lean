import DeviceRegistry.Text.Bytes

/-! The bytes of a text, by its characters. A text of ASCII characters has one byte a character,
and decimal digits have their own values. -/
namespace DeviceRegistry.Bytes

theorem ofText_eq_flatMap (s : String) : ofText s = s.toList.flatMap String.utf8EncodeChar := by
  simp only [ofText, String.toUTF8_eq_toByteArray]
  rw [← String.utf8Encode_toList, List.utf8Encode, List.toList_data_toByteArray]

/-- A character takes four bytes at most. -/
theorem length_ofText_le (s : String) : (ofText s).length ≤ 4 * s.toList.length := by
  rw [ofText_eq_flatMap]
  generalize s.toList = cs
  induction cs with
  | nil => simp
  | cons c rest ih =>
    have size := Char.utf8Size_le_four c
    simp only [List.flatMap_cons, List.length_append, List.length_cons, String.length_utf8EncodeChar]
    omega

def ofChar (c : Char) : UInt8 := c.val.toUInt8

def IsAscii (cs : List Char) : Prop := ∀ c ∈ cs, c.val ≤ 127

theorem IsAscii.append {cs ds : List Char} (h : IsAscii cs) (h' : IsAscii ds) :
    IsAscii (cs ++ ds) :=
  fun c hc => (List.mem_append.1 hc).elim (h c) (h' c)

theorem ofText_of_ascii {s : String} (ascii : IsAscii s.toList) :
    ofText s = s.toList.map ofChar := by
  rw [ofText_eq_flatMap]
  generalize s.toList = cs at ascii
  induction cs with
  | nil => rfl
  | cons c rest ih =>
    have single := String.utf8EncodeChar_eq_singleton
      (Char.utf8Size_eq_one_iff.2 (ascii c List.mem_cons_self))
    have tail := ih fun d hd => ascii d (List.mem_cons_of_mem _ hd)
    simp only [List.flatMap_cons, List.map_cons, single, tail, ofChar, List.singleton_append]

theorem ofText_ofList {cs : List Char} (ascii : IsAscii cs) :
    ofText (String.ofList cs) = cs.map ofChar := by
  simpa only [String.toList_ofList] using ofText_of_ascii (s := .ofList cs) (by simpa using ascii)

theorem ofText_singleton {c : Char} (h : c.val ≤ 127) : ofText (String.ofList [c]) = [ofChar c] := by
  have ascii : IsAscii [c] := by simpa [IsAscii] using h
  exact ofText_ofList ascii

/-- Digits of a fixed width give back the number that they can hold. -/
theorem toNat_ofNat (width n : Nat) : toNat (ofNat width n) = n % Nat.pow 256 width := by
  have digits (acc : Nat) :
      (ofNat width n).foldl (fun n byte => n * 256 + byte.toNat) acc =
        acc * Nat.pow 256 width + n % Nat.pow 256 width := by
    induction width generalizing acc with
    | zero => simp [ofNat, Nat.mod_one]
    | succ width ih =>
      have digit : (n / Nat.pow 256 width).toUInt8.toNat = n / Nat.pow 256 width % 256 :=
        UInt8.toNat_ofNat'
      have split : ofNat (width + 1) n = (n / Nat.pow 256 width).toUInt8 :: ofNat width n := by
        rw [ofNat, List.range_succ, List.reverse_append]
        rfl
      have power : Nat.pow 256 (width + 1) = Nat.pow 256 width * 256 := rfl
      rw [split, List.foldl_cons, ih, digit, power, Nat.mod_mul, Nat.add_mul, Nat.mul_assoc,
        Nat.mul_comm 256, Nat.mul_comm (n / _ % _)]
      omega
  rw [toNat, digits, Nat.zero_mul, Nat.zero_add]

end DeviceRegistry.Bytes

namespace DeviceRegistry
open Bytes

def decimalDigits (n : Nat) : List Char := Nat.toDigits 10 n

namespace decimalDigits

theorem isDigit {n : Nat} {c : Char} (h : c ∈ decimalDigits n) : c.isDigit = true :=
  Nat.isDigit_of_mem_toDigits (by decide) (by decide) h

theorem ne_nil (n : Nat) : decimalDigits n ≠ [] := Nat.toDigits_ne_nil

/-- No zero leads the digits of a positive number. -/
theorem head_ne_zero {n : Nat} (hn : n ≠ 0) : (decimalDigits n).head? ≠ some '0' := by
  induction n using Nat.strongRecOn with
  | ind n ih =>
    by_cases small : n < 10
    · rw [decimalDigits, Nat.toDigits_of_lt_base small]
      simpa using hn
    · have high : n / 10 ≠ 0 := by omega
      rw [decimalDigits, Nat.toDigits_of_base_le (by decide) (by omega), List.head?_append]
      have := ih (n / 10) (by omega) high
      rcases hd : decimalDigits (n / 10) with _ | ⟨c, rest⟩
      · exact absurd hd (ne_nil _)
      · rw [decimalDigits] at hd
        simpa [decimalDigits, hd] using this

end decimalDigits

theorem ascii_of_isDigit {cs : List Char} (digits : ∀ c ∈ cs, c.isDigit = true) : IsAscii cs := by
  intro c hc
  have := digits c hc
  simp only [Char.isDigit, Bool.and_eq_true, decide_eq_true_eq] at this
  exact UInt32.le_trans this.2 (by decide)

theorem ascii_decimalDigits (n : Nat) : IsAscii (decimalDigits n) :=
  ascii_of_isDigit fun _ => decimalDigits.isDigit

theorem toList_toString_nat (n : Nat) : (toString n).toList = decimalDigits n := by
  rw [Nat.toString_eq_ofList_toDigits, String.toList_ofList, decimalDigits]

theorem ofText_toString_nat (n : Nat) : ofText (toString n) = (decimalDigits n).map ofChar := by
  rw [ofText_of_ascii (toList_toString_nat n ▸ ascii_decimalDigits n), toList_toString_nat]

theorem toList_pushn (s : String) (c : Char) (n : Nat) :
    (s.pushn c n).toList = s.toList ++ List.replicate n c := by
  rw [String.pushn_eq_repeat_push]
  induction n with
  | zero => simp [Nat.repeat]
  | succ n ih => simp [Nat.repeat, ih, List.replicate_succ']

end DeviceRegistry
