import DeviceRegistry.Proofs.Crypto.Column
import Mathlib.Logic.ExistsUnique

/-! Sealing and opening undo each other. A sealed value is its nonce, its cipher text and its tag, end
to end; from the first two and the column follows the only tag with which it opens, and what it opens
to is sealed as the same value again. -/
namespace DeviceRegistry

namespace Bytes

theorem ofText_of_text? {b : Bytes} {s : String} (h : text? b = some s) : ofText s = b := by
  rw [text?, String.fromUTF8?] at h
  split at h
  · obtain rfl := Option.some.inj h
    simp [ofText, String.fromUTF8]
  · contradiction

/-- Bytes that are no text are not the UTF-8 form of any. -/
theorem text?_eq_none_iff {b : Bytes} : text? b = none ↔ ∀ s, ofText s ≠ b := by
  constructor
  · rintro none s rfl
    rw [text?_ofText] at none
    contradiction
  · intro other
    cases h : text? b with
    | none => rfl
    | some s => exact absurd (ofText_of_text? h) (other s)

end Bytes

namespace ColumnCipher

variable (c : ColumnCipher) (column : String)

/-- A nonce, a cipher text and a tag, as they stand in a sealed value. -/
structure Parts (value nonce cipherText tag : Bytes) : Prop where
  whole : value = nonce ++ cipherText ++ tag
  nonced : nonce.length = Gcm.nonceLength
  tagged : tag.length = Gcm.tagLength

namespace Parts

variable {value nonce cipherText tag : Bytes}

theorem length (h : Parts value nonce cipherText tag) : value.length = cipherText.length + 28 := by
  rw [h.whole, List.length_append, List.length_append, h.nonced, h.tagged, Gcm.nonceLength,
    Gcm.tagLength]
  omega

theorem take (h : Parts value nonce cipherText tag) : value.take Gcm.nonceLength = nonce := by
  rw [h.whole, List.append_assoc, ← h.nonced, List.take_left]

theorem drop (h : Parts value nonce cipherText tag) :
    value.drop Gcm.nonceLength = cipherText ++ tag := by
  rw [h.whole, List.append_assoc, ← h.nonced, List.drop_left]

end Parts

/-- Whatever is long enough has the parts of a sealed value. -/
theorem exists_parts {value : Bytes} (long : 28 ≤ value.length) :
    ∃ nonce cipherText tag, Parts value nonce cipherText tag := by
  let body := value.drop Gcm.nonceLength
  have length : body.length = value.length - 12 := List.length_drop
  refine ⟨value.take Gcm.nonceLength, body.take (body.length - Gcm.tagLength),
    body.drop (body.length - Gcm.tagLength), ?_, ?_, ?_⟩
  · rw [List.append_assoc, List.take_append_drop, List.take_append_drop]
  · rw [List.length_take, Gcm.nonceLength]
    omega
  · rw [List.length_drop, Gcm.tagLength]
    omega

variable {c column}
variable {value nonce cipherText tag plain : Bytes}

theorem encrypt_of_nonce (nonced : nonce.length = Gcm.nonceLength)
    (short : plain.length ≤ Gcm.maximumLength) :
    c.encrypt column plain (some nonce) = .ok (nonce ++ c.key.crypt nonce plain ++
      c.key.tag nonce (Bytes.ofText column) (c.key.crypt nonce plain)) := by
  have exactly : Draw.exactly? (some nonce) Gcm.nonceLength = some nonce := by
    rw [Draw.exactly?, Option.filter_eq_some_iff]
    simp [nonced]
  rw [encrypt, exactly]
  dsimp only
  rw [Gcm.Key.seal?, if_pos short]

/-- What is sealed has a nonce that was drawn, the plain text turned into cipher text, and the tag of
that. -/
theorem encrypt_parts {draw : Draw} (h : c.encrypt column plain draw = .ok value) :
    ∃ nonce, plain.length ≤ Gcm.maximumLength ∧ Parts value nonce (c.key.crypt nonce plain)
      (c.key.tag nonce (Bytes.ofText column) (c.key.crypt nonce plain)) := by
  unfold encrypt at h
  split at h
  · contradiction
  next nonce drawn =>
  have nonced : nonce.length = Gcm.nonceLength := by
    simpa using (Option.filter_eq_some_iff.1 drawn).2
  split at h
  · contradiction
  next cipherText tag closed =>
  simp only [Gcm.Key.seal?, Option.ite_none_right_eq_some, Option.some.injEq, Prod.mk.injEq] at closed
  obtain ⟨short, rfl, rfl⟩ := closed
  exact ⟨nonce, short, (Except.ok.inj h).symm, nonced, c.key.length_tag ..⟩

/-- A value opens with the tag of its cipher text, and with no other. -/
theorem decrypt_of_parts (parts : Parts value nonce cipherText tag) :
    c.decrypt column value =
      if cipherText.length ≤ Gcm.maximumLength ∧
          c.key.tag nonce (Bytes.ofText column) cipherText = tag then
        .ok (c.key.crypt nonce cipherText)
      else .error .notOpened := by
  have long : ¬ value.length < Gcm.nonceLength + Gcm.tagLength := by
    rw [parts.length, Gcm.nonceLength, Gcm.tagLength]
    omega
  have rest : (cipherText ++ tag).length - Gcm.tagLength = cipherText.length := by
    rw [List.length_append, parts.tagged, Nat.add_sub_cancel]
  simp only [decrypt, if_neg long, parts.take, parts.drop, rest, List.take_left, List.drop_left]
  rw [Gcm.Key.open?]
  by_cases opens : cipherText.length ≤ Gcm.maximumLength ∧
      c.key.tag nonce (Bytes.ofText column) cipherText = tag
  · rw [if_pos opens, if_pos opens]
  · rw [if_neg opens, if_neg opens]

theorem decrypt_parts_ok (parts : Parts value nonce cipherText tag) :
    c.decrypt column value = .ok plain ↔
      cipherText.length ≤ Gcm.maximumLength ∧
        c.key.tag nonce (Bytes.ofText column) cipherText = tag ∧
        c.key.crypt nonce cipherText = plain := by
  rw [decrypt_of_parts parts]
  split
  next opens => simp [opens.1, opens.2]
  next closed => simpa using fun short same => absurd ⟨short, same⟩ closed

/-- Only what is too short to be a sealed value is reported as cut off. -/
theorem decrypt_truncated : c.decrypt column value = .error .truncated ↔ value.length < 28 := by
  rcases Nat.lt_or_ge value.length 28 with short | long
  · have cut : value.length < Gcm.nonceLength + Gcm.tagLength := short
    rw [decrypt, if_pos cut]
    exact ⟨fun _ => short, fun _ => rfl⟩
  · obtain ⟨nonce, cipherText, tag, parts⟩ := exists_parts long
    rw [decrypt_of_parts parts]
    refine ⟨fun cut => ?_, fun short => absurd short (Nat.not_lt_of_le long)⟩
    split at cut <;> cases cut

theorem decrypt_error {e : CipherError} (h : c.decrypt column value = .error e) :
    e = .truncated ∨ e = .notOpened := by
  rcases Nat.lt_or_ge value.length 28 with short | long
  · rw [decrypt_truncated.2 short] at h
    exact .inl (Except.error.inj h).symm
  · obtain ⟨nonce, cipherText, tag, parts⟩ := exists_parts long
    rw [decrypt_of_parts parts] at h
    split at h
    · contradiction
    · exact .inr (Except.error.inj h).symm

/-- What opens is what is sealed for the same column under the same nonce. -/
theorem encrypt_decrypt (h : c.decrypt column value = .ok plain) :
    c.encrypt column plain (some (value.take Gcm.nonceLength)) = .ok value := by
  have long : 28 ≤ value.length := by
    apply Nat.le_of_not_lt
    intro short
    rw [decrypt_truncated.2 short] at h
    contradiction
  obtain ⟨nonce, cipherText, tag, parts⟩ := exists_parts long
  obtain ⟨short, rfl, rfl⟩ := (decrypt_parts_ok parts).1 h
  rw [parts.take, encrypt_of_nonce parts.nonced (by rwa [Gcm.Key.length_crypt]),
    Gcm.Key.crypt_crypt, ← parts.whole]

theorem decryptText_eq_notText :
    c.decryptText column value = .error .notText ↔
      ∃ plain, c.decrypt column value = .ok plain ∧ ∀ text, Bytes.ofText text ≠ plain := by
  simp only [← Bytes.text?_eq_none_iff]
  rw [decryptText]
  cases opened : c.decrypt column value with
  | ok plain =>
    simp only [bind, Except.bind, Except.ok.injEq, exists_eq_left']
    cases Bytes.text? plain <;> simp [pure, Except.pure, throw, throwThe, MonadExceptOf.throw]
  | error e =>
    -- Opening itself never fails for what the bytes say.
    rcases decrypt_error opened with rfl | rfl <;> simp [bind, Except.bind]

/-- Each nonce and cipher text have one tag with which they open. -/
theorem existsUnique_tag (nonced : nonce.length = Gcm.nonceLength)
    (short : cipherText.length ≤ Gcm.maximumLength) :
    ∃! tag : Bytes, tag.length = Gcm.tagLength ∧
      ∃ plain, c.decrypt column (nonce ++ cipherText ++ tag) = .ok plain := by
  have tagged := c.key.length_tag nonce (Bytes.ofText column) cipherText
  refine ⟨_, ⟨tagged, c.key.crypt nonce cipherText, ?_⟩, ?_⟩
  · exact (decrypt_parts_ok ⟨rfl, nonced, tagged⟩).2 ⟨short, rfl, rfl⟩
  · rintro tag ⟨tagged', plain, opens⟩
    exact ((decrypt_parts_ok ⟨rfl, nonced, tagged'⟩).1 opens).2.1.symm

/-- A sealed value with another tag does not open. -/
theorem decrypt_other_tag {draw : Draw} {front tag' : Bytes}
    (h : c.encrypt column plain draw = .ok (front ++ tag)) (tagged : tag.length = Gcm.tagLength)
    (tagged' : tag'.length = Gcm.tagLength) (other : tag' ≠ tag) :
    c.decrypt column (front ++ tag') = .error .notOpened := by
  obtain ⟨nonce, -, parts⟩ := encrypt_parts h
  obtain ⟨rfl, rfl⟩ := List.append_inj' parts.whole (tagged.trans parts.tagged.symm)
  rw [decrypt_of_parts ⟨rfl, parts.nonced, tagged'⟩, if_neg fun opens => other opens.2.symm]

/-- What is sealed for a column opens there to what it was, and whatever opens there is what is sealed
for it under the nonce in front. So the tag is determined and no other is taken for it, and what opens
is no text only if what was sealed was none. -/
theorem sealed_opens_exactly (c : ColumnCipher) (column : String) :
    (∀ nonce plain : Bytes, nonce.length = 12 → plain.length ≤ Gcm.maximumLength →
      ∃ cipherText tag : Bytes, cipherText.length = plain.length ∧ tag.length = 16 ∧
        c.encrypt column plain (some nonce) = .ok (nonce ++ cipherText ++ tag) ∧
        (nonce ++ cipherText ++ tag).length = plain.length + 28 ∧
        c.decrypt column (nonce ++ cipherText ++ tag) = .ok plain) ∧
    (∀ value, c.decrypt column value = .error .truncated ↔ value.length < 28) ∧
    (∀ value plain, c.decrypt column value = .ok plain →
      c.encrypt column plain (some (value.take 12)) = .ok value) ∧
    (∀ nonce cipherText : Bytes, nonce.length = 12 → cipherText.length ≤ Gcm.maximumLength →
      ∃! tag : Bytes, tag.length = 16 ∧
        ∃ plain, c.decrypt column (nonce ++ cipherText ++ tag) = .ok plain) ∧
    (∀ plain draw (front tag tag' : Bytes), c.encrypt column plain draw = .ok (front ++ tag) →
      tag.length = 16 → tag'.length = 16 → tag' ≠ tag →
      c.decrypt column (front ++ tag') = .error .notOpened) ∧
    (∀ (nonce : Bytes) (text : String), nonce.length = 12 → Sealable text →
      ∃ value, c.encryptText column text (some nonce) = .ok value ∧
        c.decryptText column value = .ok text) ∧
    (∀ value, c.decryptText column value = .error .notText ↔
      ∃ plain, c.decrypt column value = .ok plain ∧ ∀ text, Bytes.ofText text ≠ plain) := by
  refine ⟨fun nonce plain nonced short => ?_, fun value => decrypt_truncated,
    fun value plain => encrypt_decrypt, fun nonce cipherText => existsUnique_tag,
    fun plain draw front tag tag' => decrypt_other_tag, fun nonce text nonced short => ?_,
    fun value => decryptText_eq_notText⟩
  · have done := @encrypt_of_nonce c column nonce plain nonced short
    have length := c.key.length_crypt nonce plain
    have tagged := c.key.length_tag nonce (Bytes.ofText column) (c.key.crypt nonce plain)
    refine ⟨_, _, length, tagged, done, ?_, decrypt_encrypt done⟩
    rw [Parts.length ⟨rfl, nonced, tagged⟩, length]
  · have done := @encrypt_of_nonce c column nonce (Bytes.ofText text) nonced short
    exact ⟨_, done, decryptText_encryptText done⟩

theorem sealed_opens_exactly_password :
    let c := derive (Bytes.ofText "password") (Bytes.ofText "0123456789abcdef")
    let nonce : Bytes := [1, 2, 3, 4, 5, 6, 7, 8, 9, 10, 11, 12]
    ∃ cipherText tag : Bytes,
      let value := nonce ++ cipherText ++ tag
      cipherText.length = 6 ∧ tag.length = 16 ∧ value.length = 34 ∧
      c.encrypt "users.private_key" (Bytes.ofText "s3cr3t") (some nonce) = .ok value ∧
      c.decrypt "users.private_key" value = .ok (Bytes.ofText "s3cr3t") ∧
      c.encrypt "users.private_key" (Bytes.ofText "s3cr3t") (some (value.take 12)) = .ok value ∧
      (∃! tag : Bytes, tag.length = 16 ∧
        ∃ plain, c.decrypt "users.private_key" (nonce ++ cipherText ++ tag) = .ok plain) ∧
      c.decrypt "users.private_key" (nonce ++ cipherText ++ tag.map (· + 1)) = .error .notOpened ∧
      c.decrypt "users.private_key" (value.take 27) = .error .truncated ∧
      ∃ value, c.encryptText "users.private_key" "s3cr3t" (some nonce) = .ok value ∧
        c.decryptText "users.private_key" value = .ok "s3cr3t" := by
  intro c nonce
  obtain ⟨seals, truncated, again, oneTag, other, texts, -⟩ :=
    sealed_opens_exactly c "users.private_key"
  obtain ⟨cipherText, tag, length, tagged, done, whole, opened⟩ :=
    seals nonce (Bytes.ofText "s3cr3t") rfl (by decide)
  have flipped : tag.map (· + 1) ≠ tag := by
    obtain ⟨b, rest, rfl⟩ := List.exists_cons_of_length_eq_add_one tagged
    simp
  have short : cipherText.length ≤ Gcm.maximumLength := length ▸ by decide
  refine ⟨cipherText, tag, length, tagged, whole, done, opened, again _ _ opened,
    oneTag nonce cipherText rfl short, other _ _ _ tag _ done tagged ?_ flipped,
    (truncated _).2 ?_, texts nonce "s3cr3t" rfl (by decide)⟩
  · rw [List.length_map, tagged]
  · rw [List.length_take]
    omega

end ColumnCipher
end DeviceRegistry
