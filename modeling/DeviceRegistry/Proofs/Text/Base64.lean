import DeviceRegistry.Text.Base64

/-! Base64 writes the number that the bytes are, in base 64, and loses nothing. -/
namespace DeviceRegistry.Base64

theorem value_letter : ∀ n < 64, value? (letter n) = some n ∧ letter n ≠ '=' := by decide

/-- A byte from its digits, as a reader puts them together. -/
theorem toUInt8_of_digits {n : Nat} {a : UInt8} (h : n = a.toNat) : n.toUInt8 = a := by
  rw [h]
  exact UInt8.ofNat_toNat

theorem decodeList?_letters {p q r s : Nat} (hp : p < 64) (hq : q < 64) (hr : r < 64) (hs : s < 64)
    (rest : List Char) :
    decodeList? (letter p :: letter q :: letter r :: letter s :: rest) =
      (decodeList? rest).map fun b => (p * 4 + q / 16).toUInt8 ::
        (q % 16 * 16 + r / 4).toUInt8 :: (r % 4 * 64 + s).toUInt8 :: b := by
  have noPadding := (value_letter s hs).2
  rw [decodeList?]
  · simp [(value_letter p hp).1, (value_letter q hq).1, (value_letter r hr).1,
      (value_letter s hs).1]
    cases decodeList? rest <;> rfl
  · intro _ h
    exact absurd h noPadding
  · intro h
    exact absurd h noPadding

theorem decodeList?_encodeList (b : Bytes) : decodeList? (encodeList b) = some b := by
  induction b using encodeList.induct with
  | case1 => rfl
  | case2 a =>
    have := a.toNat_lt
    simp only [encodeList, decodeList?, (value_letter (a.toNat / 4) (by omega)).1,
      (value_letter (a.toNat % 4 * 16) (by omega)).1]
    have byte := toUInt8_of_digits (n := a.toNat / 4 * 4 + a.toNat % 4 * 16 / 16) (a := a) (by omega)
    dsimp only [bind, Option.bind]
    rw [if_pos (by omega), byte]
  | case3 a b =>
    have := a.toNat_lt
    have := b.toNat_lt
    have third := value_letter (b.toNat % 16 * 4) (by omega)
    rw [encodeList, decodeList?]
    · simp only [(value_letter (a.toNat / 4) (by omega)).1,
        (value_letter (a.toNat % 4 * 16 + b.toNat / 16) (by omega)).1, third.1]
      have first := toUInt8_of_digits
        (n := a.toNat / 4 * 4 + (a.toNat % 4 * 16 + b.toNat / 16) / 16) (a := a) (by omega)
      have second := toUInt8_of_digits
        (n := (a.toNat % 4 * 16 + b.toNat / 16) % 16 * 16 + b.toNat % 16 * 4 / 4) (a := b) (by omega)
      dsimp only [bind, Option.bind]
      rw [if_pos (by omega), first, second]
    · intro h
      exact absurd h third.2
  | case4 a b c rest ih =>
    have := a.toNat_lt
    have := b.toNat_lt
    have := c.toNat_lt
    rw [encodeList, decodeList?_letters (by omega) (by omega) (by omega) (by omega), ih]
    have first := toUInt8_of_digits
      (n := a.toNat / 4 * 4 + (a.toNat % 4 * 16 + b.toNat / 16) / 16) (a := a) (by omega)
    have second := toUInt8_of_digits
      (n := (a.toNat % 4 * 16 + b.toNat / 16) % 16 * 16 + (b.toNat % 16 * 4 + c.toNat / 64) / 4)
      (a := b) (by omega)
    have third := toUInt8_of_digits
      (n := (b.toNat % 16 * 4 + c.toNat / 64) % 4 * 64 + c.toNat % 64) (a := c) (by omega)
    rw [first, second, third, Option.map_some]

theorem decode?_encode (b : Bytes) : decode? (encode b) = some b := by
  rw [decode?, encode, String.toList_ofList, decodeList?_encodeList]

theorem encode_ne_empty {b : Bytes} (some : b ≠ []) : encode b ≠ "" := by
  intro none
  have read := decode?_encode b
  rw [none] at read
  exact some (Option.some.inj read).symm

theorem length_encodeList (b : Bytes) : (encodeList b).length ≤ 4 * b.length := by
  induction b using encodeList.induct with
  | case1 => simp [encodeList]
  | case2 a => simp [encodeList]
  | case3 a b => simp [encodeList]
  | case4 a b c rest ih =>
    simp only [encodeList, List.length_cons]
    omega

/-- The digits are those, in base 64, of the number that the bytes are. Padding fills the last group of
three bytes and four digits with zeros. A number may stand in front, so that groups can follow each other. -/
structure Regroups (b : Bytes) (digits : List Nat) (padding : Nat) : Prop where
  small : ∀ d ∈ digits, d < 64
  short : padding < 3
  length : 4 * (b.length + padding) = 3 * (digits.length + padding)
  value : ∀ n, (digits ++ List.replicate padding 0).foldl (fun n d => n * 64 + d) n =
    (b ++ List.replicate padding 0).foldl (fun n (byte : UInt8) => n * 256 + byte.toNat) n

/-- The text has a letter for each digit of the bytes, and a sign for each that is padding. -/
def Writes (text : String) (b : Bytes) : Prop :=
  ∃ digits padding, Regroups b digits padding ∧
    text.toList = digits.map letter ++ List.replicate padding '='

theorem Regroups.cons {rest : Bytes} {digits : List Nat} {padding : Nat}
    (h : Regroups rest digits padding) (a b c : UInt8) :
    Regroups (a :: b :: c :: rest) (a.toNat / 4 :: (a.toNat % 4 * 16 + b.toNat / 16) ::
      (b.toNat % 16 * 4 + c.toNat / 64) :: (c.toNat % 64) :: digits) padding := by
  have := a.toNat_lt
  have := b.toNat_lt
  have := c.toNat_lt
  refine ⟨?_, h.short, ?_, fun n => ?_⟩
  · simp only [List.forall_mem_cons]
    exact ⟨by omega, by omega, by omega, by omega, h.small⟩
  · have length := h.length
    simp only [List.length_cons]
    omega
  · have group : (((n * 64 + a.toNat / 4) * 64 + (a.toNat % 4 * 16 + b.toNat / 16)) * 64 +
        (b.toNat % 16 * 4 + c.toNat / 64)) * 64 + c.toNat % 64 =
        ((n * 256 + a.toNat) * 256 + b.toNat) * 256 + c.toNat := by omega
    simp only [List.cons_append, List.foldl_cons]
    rw [group, h.value]

theorem exists_regroups (b : Bytes) : ∃ digits padding, Regroups b digits padding ∧
    encodeList b = digits.map letter ++ List.replicate padding '=' := by
  induction b using encodeList.induct with
  | case1 => exact ⟨[], 0, ⟨nofun, by decide, rfl, fun _ => rfl⟩, rfl⟩
  | case2 a =>
    have := a.toNat_lt
    refine ⟨[a.toNat / 4, a.toNat % 4 * 16], 2, ⟨?_, by decide, rfl, fun n => ?_⟩, rfl⟩
    · simp only [List.forall_mem_cons]
      exact ⟨by omega, by omega, nofun⟩
    · simp [List.replicate]
      omega
  | case3 a b =>
    have := a.toNat_lt
    have := b.toNat_lt
    refine ⟨[a.toNat / 4, a.toNat % 4 * 16 + b.toNat / 16, b.toNat % 16 * 4], 1,
      ⟨?_, by decide, rfl, fun n => ?_⟩, rfl⟩
    · simp only [List.forall_mem_cons]
      exact ⟨by omega, by omega, by omega, nofun⟩
    · simp [List.replicate]
      omega
  | case4 a b c rest ih =>
    obtain ⟨digits, padding, regroups, written⟩ := ih
    refine ⟨_, padding, regroups.cons a b c, ?_⟩
    rw [encodeList, written]
    rfl

theorem writes_encode (b : Bytes) : Writes (encode b) b := by
  obtain ⟨digits, padding, regroups, written⟩ := exists_regroups b
  exact ⟨digits, padding, regroups, by rw [encode, String.toList_ofList, written]⟩

end DeviceRegistry.Base64
