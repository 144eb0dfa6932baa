import DeviceRegistry.Proofs.Text.Encoding
import DeviceRegistry.Url.Path

/-! What percent-encoding leaves and what it writes. A text that is encoded already stays as it is,
and encoding never makes a dot. -/
namespace DeviceRegistry.Percent

/-- A part that encodes the set holds the character as it is. -/
def Stands (set : EncodeSet) (c : Char) : Prop :=
  0x20 ≤ c.toNat ∧ c.toNat < 0x7f ∧ !set.contains c

instance (set : EncodeSet) (c : Char) : Decidable (Stands set c) :=
  inferInstanceAs (Decidable (_ ∧ _))

variable {set : EncodeSet} {c : Char} {cs : List Char}

theorem encodeChar_stands (h : Stands set c) : encodeChar set c = [c] := if_pos h

theorem encode_stands (h : ∀ c ∈ cs, Stands set c) : encode set cs = cs := by
  induction cs with
  | nil => rfl
  | cons c rest ih =>
    obtain ⟨first, later⟩ := List.forall_mem_cons.1 h
    rw [encode, List.flatMap_cons, encodeChar_stands first]
    exact congrArg (c :: ·) (ih later)

/-- The characters that encoded bytes are written with. -/
def marks : List Char := "%0123456789ABCDEF".toList

theorem hexDigit_marks : ∀ n < 16, hexDigit n ∈ marks := by decide

theorem encodeByte_marks (b : UInt8) : ∀ c ∈ encodeByte b, c ∈ marks := by
  have := b.toNat_lt
  simp only [encodeByte, List.forall_mem_cons]
  exact ⟨by decide, hexDigit_marks _ (by omega), hexDigit_marks _ (by omega), nofun⟩

theorem mem_encode {d : Char} (h : d ∈ encode set cs) : d ∈ cs ∧ Stands set d ∨ d ∈ marks := by
  obtain ⟨c, listed, written⟩ := List.mem_flatMap.1 h
  rw [encodeChar] at written
  split at written
  next stands =>
    obtain rfl := List.mem_singleton.1 written
    exact .inl ⟨listed, stands⟩
  next =>
    obtain ⟨b, -, digit⟩ := List.mem_flatMap.1 written
    exact .inr (encodeByte_marks b d digit)

theorem marks_stand : ∀ c ∈ marks, Stands pathSet c := by
  have all : (marks.all fun c => Stands pathSet c) = true := by decide
  simpa using all

/-- What is encoded for a path is not encoded again. -/
theorem stands_of_mem_encode {d : Char} (h : d ∈ encode pathSet cs) : Stands pathSet d :=
  (mem_encode h).elim And.right (marks_stand d)

/-- The first byte of a character that does not stand as it is is not that of a dot. -/
theorem encodeChar_other (dots : Stands set '.') (h : ¬ Stands set c) :
    ∃ b rest, encodeChar set c = encodeByte b ++ rest ∧ b.toNat ≠ 0x2e := by
  obtain ⟨b, rest, first⟩ := Bytes.exists_utf8 c
  refine ⟨b, rest.flatMap encodeByte, ?_, ?_⟩
  · have encoded : encodeChar set c = (Bytes.ofText (String.ofList [c])).flatMap encodeByte :=
      if_neg h
    rw [encoded, Bytes.ofText_eq_flatMap, String.toList_ofList, List.flatMap_singleton, first,
      List.flatMap_cons]
  · intro dot
    by_cases small : c.toNat < 0x80
    · rw [Bytes.utf8_small small] at first
      obtain rfl := (List.cons.inj first).1
      rw [Bytes.toNat_ofChar_small small] at dot
      obtain rfl : c = '.' := Char.toNat_inj.1 dot
      exact h dots
    · have large := Bytes.utf8_large (Nat.le_of_not_lt small) b
      rw [first] at large
      have := large List.mem_cons_self
      omega

/-- Every percent sign in the text, which is in lower case, begins an encoded dot. -/
def encodesDots : List Char → Bool
  | [] => true
  | c :: rest => (c != '%' || ['2', 'e'].isPrefixOf rest) && encodesDots rest

theorem hexDigit_lower : ∀ n < 16, ((hexDigit n).toLower = '2' → n = 2) ∧
    ((hexDigit n).toLower = 'e' → n = 14) := by
  decide

theorem encodesDots_byte {b : UInt8} {rest : List Char}
    (h : encodesDots ((encodeByte b ++ rest).map Char.toLower) = true) : b.toNat = 0x2e := by
  simp only [encodeByte, List.cons_append, List.nil_append, List.map_cons, encodesDots,
    List.isPrefixOf, Bool.and_eq_true, Bool.or_eq_true, bne_iff_ne, beq_iff_eq] at h
  obtain ⟨sign | ⟨high, low, -⟩, -⟩ := h
  · exact absurd rfl sign
  · have := b.toNat_lt
    have := (hexDigit_lower (b.toNat / 16) (by omega)).1 high.symm
    have := (hexDigit_lower (b.toNat % 16) (by omega)).2 low.symm
    omega

theorem encodesDots_tail {ds : List Char} (h : encodesDots (cs ++ ds) = true) :
    encodesDots ds = true := by
  induction cs with
  | nil => exact h
  | cons c rest ih =>
    rw [List.cons_append, encodesDots, Bool.and_eq_true] at h
    exact ih h.2

/-- No text is encoded to one whose only encoded characters are dots, unless it is that text. -/
theorem encode_of_encodesDots (dots : Stands set '.')
    (h : encodesDots ((encode set cs).map Char.toLower) = true) : encode set cs = cs := by
  induction cs with
  | nil => rfl
  | cons c rest ih =>
    have later : encodesDots ((encode set rest).map Char.toLower) = true := by
      rw [encode, List.flatMap_cons, List.map_append] at h
      exact encodesDots_tail h
    by_cases stands : Stands set c
    · rw [encode, List.flatMap_cons, encodeChar_stands stands]
      exact congrArg (c :: ·) (ih later)
    · -- its first byte would have to be a dot's, which stands as it is
      obtain ⟨b, more, written, other⟩ := encodeChar_other dots stands
      rw [encode, List.flatMap_cons, written, List.append_assoc] at h
      exact absurd (encodesDots_byte h) other

end DeviceRegistry.Percent
