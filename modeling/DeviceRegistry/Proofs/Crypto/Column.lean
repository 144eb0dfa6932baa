import DeviceRegistry.Crypto.Column

/-! A sealed value opens to what was sealed, under the name of its column. Sealing fails without a
nonce, and for a text that is too long. -/
namespace DeviceRegistry

namespace Bytes

theorem length_xor (a b : Bytes) : (xor a b).length = min a.length b.length := by
  simp [xor]

theorem xor_xor {text stream : Bytes} (h : text.length ≤ stream.length) :
    xor (xor text stream) stream = text := by
  induction text generalizing stream with
  | nil => rfl
  | cons c text ih =>
    cases stream with
    | nil => simp at h
    | cons d stream =>
      have twice : c ^^^ d ^^^ d = c := by rw [UInt8.xor_assoc, UInt8.xor_self, UInt8.xor_zero]
      have rest : xor (xor text stream) stream = text := ih (Nat.le_of_succ_le_succ h)
      show (c ^^^ d ^^^ d) :: xor (xor text stream) stream = c :: text
      rw [twice, rest]

end Bytes

namespace Gcm.Key

theorem length_counterBlock (k : Key) (nonce : Bytes) (counter : Nat) :
    (k.counterBlock nonce counter).length = blockLength := rfl

theorem length_keyStream (k : Key) (nonce : Bytes) (length : Nat) :
    length ≤ (k.keyStream nonce length).length := by
  simp only [keyStream, List.length_flatMap, length_counterBlock, List.map_const',
    List.length_range, List.sum_replicate_nat, blockLength]
  omega

theorem length_crypt (k : Key) (nonce text : Bytes) : (k.crypt nonce text).length = text.length := by
  have := k.length_keyStream nonce text.length
  rw [crypt, Bytes.length_xor]
  omega

/-- What turns plain text into cipher text turns it back. -/
theorem crypt_crypt (k : Key) (nonce text : Bytes) : k.crypt nonce (k.crypt nonce text) = text := by
  rw [crypt, length_crypt, crypt, Bytes.xor_xor (k.length_keyStream nonce text.length)]

theorem length_tag (k : Key) (nonce associated cipherText : Bytes) :
    (k.tag nonce associated cipherText).length = tagLength := by
  rw [tag, Bytes.length_xor, Bytes.length_ofNat, length_counterBlock]
  rfl

theorem open?_seal? {k : Key} {nonce associated plain cipherText tag : Bytes}
    (h : k.seal? nonce associated plain = some (cipherText, tag)) :
    k.open? nonce associated cipherText tag = some plain ∧ tag.length = tagLength := by
  simp only [seal?, Option.ite_none_right_eq_some, Option.some.injEq, Prod.mk.injEq] at h
  obtain ⟨short, rfl, rfl⟩ := h
  rw [open?, if_pos ⟨by rwa [length_crypt], rfl⟩, crypt_crypt]
  exact ⟨rfl, k.length_tag ..⟩

end Gcm.Key

namespace ColumnCipher

theorem decrypt_encrypt {c : ColumnCipher} {column : String} {plain value : Bytes} {draw : Draw}
    (h : c.encrypt column plain draw = .ok value) : c.decrypt column value = .ok plain := by
  unfold encrypt at h
  split at h
  · contradiction
  next nonce drawn =>
  split at h
  · contradiction
  next cipherText tag sealed =>
  obtain rfl := Except.ok.inj h
  obtain ⟨opened, tagged⟩ := Gcm.Key.open?_seal? sealed
  have nonced : nonce.length = Gcm.nonceLength := by
    simpa using (Option.filter_eq_some_iff.1 drawn).2
  have body : (nonce ++ cipherText ++ tag).drop Gcm.nonceLength = cipherText ++ tag := by
    rw [List.append_assoc, ← nonced, List.drop_left]
  have head : (nonce ++ cipherText ++ tag).take Gcm.nonceLength = nonce := by
    rw [List.append_assoc, ← nonced, List.take_left]
  have rest : (cipherText ++ tag).length - Gcm.tagLength = cipherText.length := by
    rw [List.length_append, tagged, Nat.add_sub_cancel]
  have long : ¬ (nonce ++ cipherText ++ tag).length < Gcm.nonceLength + Gcm.tagLength := by
    simp only [List.length_append]
    omega
  simp only [decrypt, if_neg long, body, head, rest, List.take_left, List.drop_left, opened]

/-- A sealed text opens to that text. -/
theorem decryptText_encryptText {c : ColumnCipher} {column plain : String} {value : Bytes}
    {draw : Draw} (h : c.encryptText column plain draw = .ok value) :
    c.decryptText column value = .ok plain := by
  rw [decryptText, decrypt_encrypt h]
  simp [bind, Except.bind, Bytes.text?_ofText, pure, Except.pure]

end ColumnCipher

/-- A draw that serves as a nonce. -/
def Draw.IsNonce (draw : Draw) : Prop := ∃ nonce, draw = some nonce ∧ nonce.length = Gcm.nonceLength

/-- The text is short enough to be sealed. -/
def Sealable (text : String) : Prop := (Bytes.ofText text).length ≤ Gcm.maximumLength

instance (text : String) : Decidable (Sealable text) := inferInstanceAs (Decidable (_ ≤ _))

namespace ColumnCipher

variable {c : ColumnCipher} {column plain : String} {draw : Draw}

/-- With a nonce it is the length of the text that decides. -/
theorem encryptText_of_nonce (c : ColumnCipher) (column : String) (drawn : draw.IsNonce) :
    (Sealable plain → ∃ value, c.encryptText column plain draw = .ok value) ∧
      (¬ Sealable plain → c.encryptText column plain draw = .error .notSealed) := by
  obtain ⟨nonce, rfl, length⟩ := drawn
  have exactly : Draw.exactly? (some nonce) Gcm.nonceLength = some nonce := by
    rw [Draw.exactly?, Option.filter_eq_some_iff]
    simp [length]
  rw [encryptText, encrypt, exactly, Sealable]
  dsimp only
  rw [Gcm.Key.seal?]
  constructor
  · intro short
    rw [if_pos short]
    exact ⟨_, rfl⟩
  · intro long
    rw [if_neg long]

theorem sealable_of_encryptText {value : Bytes} (h : c.encryptText column plain draw = .ok value) :
    Sealable plain := by
  rw [encryptText, encrypt] at h
  split at h
  · contradiction
  next nonce drawn =>
  split at h
  · contradiction
  next cipherText tag sealed =>
  rw [Gcm.Key.seal?, Option.ite_none_right_eq_some] at sealed
  exact sealed.1

end ColumnCipher
end DeviceRegistry
