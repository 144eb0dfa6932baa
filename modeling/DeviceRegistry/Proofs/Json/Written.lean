import DeviceRegistry.Proofs.Json.Values

/-! What is written for a value tells the value, and nothing else. -/
namespace DeviceRegistry.Json
open Bytes

/-- The escape of an ASCII character spells it. -/
theorem SpellsText.escaped {c : UInt8} (ascii : c.toNat < 0x80) {us : List Nat} {w : Bytes}
    (rest : SpellsText us w) : SpellsText (c.toNat :: us) (Json.escaped c ++ w) := by
  unfold Json.escaped
  iterate 7
    split
    next h => subst h; exact .letter (by decide) rest
  split
  next control =>
    have bound : c.toNat < 32 := control
    obtain ⟨code, -⟩ := control_codes c.toNat bound
    have same : c.toNat.toUInt8 = c := UInt8.ofNat_toNat
    rw [same] at code
    rw [controlEscape_eq]
    exact .code code rest
  next quote backslash _ _ _ _ _ control =>
    have same := toNat_ofNat_small ascii
    have units : charUnits (Char.ofNat c.toNat) = [c.toNat] := by
      rw [charUnits_small (by omega), same]
    have high : 0x20 ≤ c.toNat := Nat.le_of_not_lt control
    rw [← UInt8.toNat_inj] at quote backslash
    have plain := @SpellsText.plain (Char.ofNat c.toNat) us w (same.trans_ne quote)
      (same.trans_ne backslash) (by rwa [same]) rest
    rwa [units, utf8_ascii ascii] at plain

/-- Bytes that no character needs an escape for stand for themselves. -/
theorem escaped_plain {c : UInt8} (plain : c ≠ 0x22 ∧ c ≠ 0x5c ∧ ¬ c < 0x20) : escaped c = [c] := by
  obtain ⟨quote, backslash, control⟩ := plain
  have large {d : UInt8} (small : d < 0x20) : c ≠ d := fun same => control (same ▸ small)
  rw [escaped, if_neg quote, if_neg backslash, if_neg (large (by decide)), if_neg (large (by decide)),
    if_neg (large (by decide)), if_neg (large (by decide)), if_neg (large (by decide)),
    if_neg control]

/-- What is written between the quotes spells the text. -/
theorem spellsText_escaped (s : String) : SpellsText (units s) ((ofText s).flatMap escaped) := by
  rw [units, ofText_eq_flatMap]
  generalize s.toList = cs
  induction cs with
  | nil => exact .empty
  | cons c cs ih =>
    rw [List.flatMap_cons, List.flatMap_cons, List.flatMap_append]
    by_cases small : c.toNat < 0x80
    · have byte := toNat_ofChar_small small
      have first := SpellsText.escaped (byte ▸ small) ih
      rwa [byte, ← List.singleton_append, ← charUnits_small (by omega),
        ← List.flatMap_singleton escaped (ofChar c), ← utf8_small small] at first
    · have large : 0x80 ≤ c.toNat := Nat.le_of_not_lt small
      have plain := @utf8_plain c (by omega) (by omega) (by omega)
      have same : (String.utf8EncodeChar c).flatMap escaped = String.utf8EncodeChar c := by
        generalize String.utf8EncodeChar c = w at plain
        induction w with
        | nil => rfl
        | cons b w ih =>
          obtain ⟨first, later⟩ := List.forall_mem_cons.1 plain
          rw [List.flatMap_cons, escaped_plain first, ih later, List.singleton_append]
      rw [same]
      exact .plain (by omega) (by omega) (by omega) ih

/-- The text that is written for the value tells a tree that stands for the value. -/
def Written (value : Value) : Prop := ∃ v, Spells (.value v) value.write ∧ v.value? = some value

theorem written_text (s : String) : Written (.text s) := by
  refine ⟨.text (units s), .text (spellsText_escaped s), ?_⟩
  rw [Tree.value?, string?_units, Option.map_some]

theorem written_natural (n : UInt64) : Written (.natural n) := by
  refine ⟨.numeral (Numeral.ofNatural n), ?_, ?_⟩
  · rw [Value.natural, Value.write, Numeral.ofNatural_bytes]
    exact .numeral (Numeral.ofNatural_wellFormed n)
  · rw [Tree.value?, Numeral.number?, Numeral.ofNatural_wholeNumber?]
    rfl

theorem written_real {x : Binary64} (finite : x.isFinite = true) : Written (.real x) := by
  obtain ⟨n, wellFormed, written, real, same⟩ := Numeral.exists_real finite
  refine ⟨.numeral n, ?_, ?_⟩
  · rw [Value.real, Value.write, written]
    exact .numeral wellFormed
  · rw [Tree.value?, Numeral.number?, real, same, if_pos finite]
    rfl

/-- Items as they stand behind the opening bracket, or behind other items. -/
def behind (first : Bool) (ws : List Bytes) : Bytes :=
  if first then separated ws else ws.flatMap (0x2c :: ·)

theorem behind_cons (first : Bool) (w : Bytes) (ws : List Bytes) :
    behind first (w :: ws) = separator first [] ++ (w ++ behind false ws) := by
  cases first with
  | false => rfl
  | true =>
    show separated (w :: ws) = w ++ ws.flatMap (0x2c :: ·)
    induction ws generalizing w with
    | nil => exact (List.append_nil w).symm
    | cons w' ws ih =>
      rw [separated, ih w', List.flatMap_cons, List.cons_append]
      exact List.cons_ne_nil _ _

theorem spells_members (ms : List (String × Value)) (each : ∀ m ∈ ms, Written m.2) (first : Bool) :
    ∃ ts, Spells (.members first ts) (behind first (Value.writeMembers ms) ++ [0x7d]) ∧
      members? ts = some ms := by
  induction ms generalizing first with
  | nil => exact ⟨[], by cases first <;> exact .objectEnd isBlanks_nil, rfl⟩
  | cons m ms ih =>
    obtain ⟨name, value⟩ := m
    rw [List.forall_mem_cons] at each
    obtain ⟨⟨v, spelled, same⟩, later⟩ := each
    obtain ⟨ts, members, all⟩ := ih later false
    refine ⟨(units name, v) :: ts, ?_, ?_⟩
    · have whole := @Spells.member first _ _ _ _ _ _ _ _ _ _ isBlanks_nil isBlanks_nil
        (spellsText_escaped name) isBlanks_nil isBlanks_nil spelled members
      rw [Value.writeMembers, behind_cons]
      simpa [writeText] using whole
    · rw [members?, string?_units, same, all]
      rfl

/-- The members of an object are told one by one, whatever stands in the others. -/
theorem written_object {ms : List (String × Value)} (each : ∀ m ∈ ms, Written m.2) :
    Written (.object ms) := by
  obtain ⟨ts, members, all⟩ := spells_members ms each true
  refine ⟨.object ts, ?_, ?_⟩
  · rw [Value.write, List.cons_append]
    exact .object members
  · rw [Tree.value?, all, Option.map_some]

/-- The bytes carry the value: a text of JSON that tells it and nothing else, and that is read as it. -/
structure Carries (w : Bytes) (value : Value) : Prop where
  tells : ∃ v, Tells w v
  only : ∀ v, Tells w v → v.value? = some value
  read : Value.parse? w = some value

theorem Carries.unique {w : Bytes} {value value' : Value} (h : Carries w value)
    (h' : Carries w value') : value = value' :=
  Option.some.inj (h.read.symm.trans h'.read)

theorem Written.carries {value : Value} (h : Written value) : Carries value.write value := by
  obtain ⟨v, spelled, same⟩ := h
  have tells : Tells value.write v :=
    ⟨[], _, [], isBlanks_nil, spelled, isBlanks_nil, (List.append_nil _).symm⟩
  have read : Value.parse? value.write = some value :=
    (Reader.value_interprets.read tells).trans same
  exact ⟨⟨v, tells⟩, fun v' tells' => (Reader.value_interprets.read tells').symm.trans read, read⟩

end DeviceRegistry.Json
