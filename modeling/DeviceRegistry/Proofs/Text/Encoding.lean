import DeviceRegistry.Proofs.Text.Bytes

/-! Where the characters of a text begin among its bytes. A byte below 128 is a character of its own,
and the bytes of every other character lie above. -/
namespace DeviceRegistry.Bytes

/-- The bytes are those of a text. -/
def IsText (b : Bytes) : Prop := ∃ cs : List Char, b = cs.flatMap String.utf8EncodeChar

theorem isText_ofText (s : String) : IsText (ofText s) := ⟨s.toList, ofText_eq_flatMap s⟩

/-- The bytes of a character, by how many they are: the first one tells, and each of the others holds
six bits. -/
theorem utf8_forms (c : Char) : c.toNat < 0x110000 ∧
    (c.toNat < 0x80 ∧ String.utf8EncodeChar c = [.ofNat c.toNat] ∨
    0x80 ≤ c.toNat ∧ c.toNat < 0x800 ∧
      String.utf8EncodeChar c = [.ofNat (c.toNat / 64 + 0xc0), .ofNat (c.toNat % 64 + 0x80)] ∨
    0x800 ≤ c.toNat ∧ c.toNat < 0x10000 ∧ String.utf8EncodeChar c =
      [.ofNat (c.toNat / 64 / 64 + 0xe0), .ofNat (c.toNat / 64 % 64 + 0x80),
        .ofNat (c.toNat % 64 + 0x80)] ∨
    0x10000 ≤ c.toNat ∧ String.utf8EncodeChar c =
      [.ofNat (c.toNat / 64 / 64 / 64 + 0xf0), .ofNat (c.toNat / 64 / 64 % 64 + 0x80),
        .ofNat (c.toNat / 64 % 64 + 0x80), .ofNat (c.toNat % 64 + 0x80)]) := by
  have value : c.val.toNat = c.toNat := rfl
  have bound : c.toNat < 0x110000 := by
    rcases c.valid with h | h
    · exact Nat.lt_trans h (by decide)
    · exact h.2
  refine ⟨bound, ?_⟩
  simp only [String.utf8EncodeChar, value, Nat.div_div_eq_div_mul]
  split
  · exact .inl ⟨by omega, rfl⟩
  · split
    · rw [Nat.mod_eq_of_lt (by omega)]
      exact .inr (.inl ⟨by omega, by omega, rfl⟩)
    · split
      · rw [Nat.mod_eq_of_lt (by omega)]
        exact .inr (.inr (.inl ⟨by omega, by omega, rfl⟩))
      · rw [Nat.mod_eq_of_lt (by omega)]
        exact .inr (.inr (.inr ⟨by omega, rfl⟩))

/-- Only ASCII characters have ASCII bytes. -/
theorem utf8_large {c : Char} (large : 0x80 ≤ c.toNat) :
    ∀ b ∈ String.utf8EncodeChar c, 0x80 ≤ b.toNat := by
  obtain ⟨bound, ⟨high, form⟩ | ⟨low, high, form⟩ | ⟨low, high, form⟩ | ⟨low, form⟩⟩ := utf8_forms c
  · omega
  all_goals
    rw [form]
    simp only [List.forall_mem_cons, UInt8.toNat_ofNat']
    refine ⟨by omega, by omega, ?_⟩
  · exact nofun
  · exact ⟨by omega, nofun⟩
  · exact ⟨by omega, by omega, nofun⟩

/-- Characters are in the order of their bytes, whatever stands behind them. -/
theorem utf8_lt {c d : Char} (order : c.toNat < d.toNat) (s t : Bytes) :
    String.utf8EncodeChar c ++ s < String.utf8EncodeChar d ++ t := by
  -- Where the forms differ the first bytes do, and else it is a matter of digits to the base of 64.
  obtain ⟨-, ⟨high, form⟩ | ⟨low, high, form⟩ | ⟨low, high, form⟩ | ⟨low, form⟩⟩ := utf8_forms c <;>
    obtain ⟨bound, ⟨high', form'⟩ | ⟨low', high', form'⟩ | ⟨low', high', form'⟩ | ⟨low', form'⟩⟩ :=
      utf8_forms d <;>
    (rw [form, form']
     simp only [List.cons_append, List.nil_append, List.cons_lt_cons_iff, UInt8.lt_iff_toNat_lt,
       ← UInt8.toNat_inj, UInt8.toNat_ofNat']
     omega)

theorem exists_utf8 (c : Char) : ∃ b rest, String.utf8EncodeChar c = b :: rest := by
  apply List.exists_cons_of_ne_nil
  rw [← List.length_pos_iff, String.length_utf8EncodeChar]
  exact Char.utf8Size_pos c

/-- Texts are in the order of their bytes. -/
theorem ofText_lt {a b : String} (order : a < b) : ofText a < ofText b := by
  rw [ofText_eq_flatMap, ofText_eq_flatMap]
  have order : List.Lex (· < ·) a.toList b.toList := String.lt_iff.1 order
  generalize a.toList = cs at order ⊢
  generalize b.toList = ds at order ⊢
  induction order with
  | @nil d ds =>
    obtain ⟨b, rest, first⟩ := exists_utf8 d
    rw [List.flatMap_cons, first, List.cons_append]
    exact .nil
  | cons later ih =>
    rw [List.flatMap_cons, List.flatMap_cons]
    exact List.append_left_lt ih
  | rel first =>
    rw [List.flatMap_cons, List.flatMap_cons]
    exact utf8_lt first _ _

theorem toNat_ofChar_small {c : Char} (small : c.toNat < 0x80) : (ofChar c).toNat = c.toNat := by
  have value : c.toNat = c.val.toNat := rfl
  rw [ofChar, UInt32.toNat_toUInt8]
  omega

theorem utf8_small {c : Char} (small : c.toNat < 0x80) : String.utf8EncodeChar c = [ofChar c] := by
  have ascii : c.val ≤ 127 := by
    rw [UInt32.le_iff_toNat_le]
    exact Nat.le_of_lt_succ small
  exact String.utf8EncodeChar_eq_singleton (Char.utf8Size_eq_one_iff.2 ascii)

theorem toNat_ofNat_small {n : Nat} (small : n < 0x80) : (Char.ofNat n).toNat = n := by
  have valid : n.isValidChar := .inl (Nat.lt_trans small (by decide))
  rw [Char.ofNat, dif_pos valid]
  rfl

theorem utf8_ascii {b : UInt8} (ascii : b.toNat < 0x80) :
    String.utf8EncodeChar (Char.ofNat b.toNat) = [b] := by
  have same := toNat_ofNat_small ascii
  have small : (Char.ofNat b.toNat).toNat < 0x80 := by rwa [same]
  rw [utf8_small small, UInt8.toNat_inj.1 ((toNat_ofChar_small small).trans same)]

/-- A text begins with a character: an ASCII one is one byte. -/
theorem IsText.first {b : UInt8} {w : Bytes} (h : IsText (b :: w)) :
    ∃ c rest, b :: w = String.utf8EncodeChar c ++ rest ∧ IsText rest := by
  obtain ⟨cs, same⟩ := h
  cases cs with
  | nil => cases same
  | cons c cs => exact ⟨c, _, same, cs, rfl⟩

theorem IsText.tail {b : UInt8} {w : Bytes} (h : IsText (b :: w)) (ascii : b.toNat < 0x80) :
    IsText w := by
  obtain ⟨c, rest, same, text⟩ := h.first
  by_cases small : c.toNat < 0x80
  · rw [utf8_small small] at same
    cases same
    exact text
  · have large := utf8_large (Nat.le_of_not_lt small) b
    obtain ⟨x, xs, first⟩ := exists_utf8 c
    rw [first] at same large
    cases same
    have := large List.mem_cons_self
    omega

theorem IsText.behind_ascii {w rest : Bytes} (ascii : ∀ b ∈ w, b.toNat < 0x80)
    (h : IsText (w ++ rest)) : IsText rest := by
  induction w with
  | nil => exact h
  | cons b w ih =>
    obtain ⟨first, later⟩ := List.forall_mem_cons.1 ascii
    exact ih later (h.tail first)

theorem ofChar_ascii {cs : List Char} (ascii : IsAscii cs) : ∀ b ∈ cs.map ofChar, b.toNat < 0x80 := by
  intro b there
  obtain ⟨c, listed, rfl⟩ := List.mem_map.1 there
  have small : c.val.toNat ≤ 127 := ascii c listed
  rw [ofChar, UInt32.toNat_toUInt8]
  omega

end DeviceRegistry.Bytes
