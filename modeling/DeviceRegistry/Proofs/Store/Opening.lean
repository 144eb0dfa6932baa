import DeviceRegistry.Proofs.Store.Operations
import DeviceRegistry.Store.Basic

/-! Opening a store touches nothing but its metadata. A new store opens if there is randomness. -/
namespace DeviceRegistry

/-- Opening a store leaves everything but its metadata as it was. -/
theorem Store.opened_tables {password : String} {t : Tables} {e e' : Entropy} {s : Store}
    (h : Store.opened password t e = .ok s e') : ∃ metadata, s.tables = { t with metadata } := by
  obtain ⟨salt, e₁, -, h⟩ := bind_eq_ok h
  obtain ⟨check, e₂, -, h⟩ := bind_eq_ok h
  obtain ⟨e₃, e₄, -, h⟩ := bind_eq_ok h
  cases h
  exact ⟨_, rfl⟩

theorem Tables.Holds.withMetadata {t : Tables} {c : Contents} (h : t.Holds c)
    (metadata : Table String Bytes) : ({ t with metadata } : Tables).Holds c :=
  { h with }

/-- There are nonces from now on. -/
def Entropy.Ready (e : Entropy) : Prop :=
  ∀ n, e.used ≤ n → ∃ nonce, e.draw n = some nonce ∧ nonce.length = Gcm.nonceLength

theorem Entropy.Ready.later {e e' : Entropy} (h : e.Ready) (later : e.Later e') : e'.Ready := by
  intro n used
  rw [later.draw]
  exact h n (Nat.le_trans later.used used)

theorem ColumnCipher.encryptText_ready (c : ColumnCipher) (column : String) {plain : String}
    {e e' : Entropy} (ready : e.Ready) (later : e.Later e') (short : Sealable plain) :
    ∃ value, c.encryptText column plain (e'.draw e'.used) = .ok value :=
  (c.encryptText_of_nonce column (ready.later later e'.used (Nat.le_refl _))).1 short

/-- A new store opens if there is a salt, and nonces after it. -/
theorem Store.opened_succeeds (password : String) {e : Entropy} {salt : Bytes}
    (drawn : e.draw e.used = some salt) (length : salt.length = ColumnCipher.saltLength)
    (ready : e.next.Ready) :
    ∃ s e', Store.opened password {} e = .ok s e' ∧ s.entropy.Ready := by
  have exactly : (e.draw e.used).exactly? ColumnCipher.saltLength = some salt := by
    rw [Draw.exactly?, drawn, Option.filter_eq_some_iff]
    simp [length]
  have salted : saltOf {} e = .ok salt e.next := by
    show orCipherError (ColumnCipher.salt (e.draw e.used)) e.next = _
    rw [ColumnCipher.salt, exactly]
    rfl
  have short : Sealable checkText := by decide
  obtain ⟨check, done⟩ := (ColumnCipher.derive (Bytes.ofText password) salt).encryptText_ready
    checkKey ready (.refl _) short
  have checked : checkOf {} (ColumnCipher.derive (Bytes.ofText password) salt) e.next =
      .ok check e.next.next := by
    show orCipherError (ColumnCipher.encryptText _ checkKey checkText (e.next.draw e.next.used))
      e.next.next = _
    rw [done]
    rfl
  have ready' : e.next.next.Ready := ready.later e.next.later_next
  refine ⟨⟨{ metadata := ((Table.empty.insert versionKey (Bytes.ofNat 8 version)).insert saltKey
    salt).insert checkKey check }, ColumnCipher.derive (Bytes.ofText password) salt, e.next.next⟩,
    e.next.next, ?_, ready'⟩
  rw [opened, bind_ok salted]
  dsimp only
  rw [bind_ok checked]
  rfl

namespace Store

/-- A store as it is opened for the first time. -/
def Fresh (s : Store) : Prop := ∃ password e e', Store.opened password {} e = .ok s e'

theorem Fresh.holds {s : Store} (h : s.Fresh) : s.tables.Holds {} := by
  obtain ⟨password, e, e', opened⟩ := h
  obtain ⟨metadata, same⟩ := Store.opened_tables opened
  rw [same]
  exact Tables.Holds.empty.withMetadata metadata

theorem Fresh.within {s : Store} (h : s.Fresh) : Within (fun _ => 0) s.tables := by
  obtain ⟨password, e, e', opened⟩ := h
  obtain ⟨metadata, same⟩ := Store.opened_tables opened
  rw [same]
  intro q
  exact Nat.le_refl 0

/-- There is a new store, with nonces to come. -/
theorem exists_fresh : ∃ s : Store, s.Fresh ∧ s.entropy.Ready := by
  let entropy : Entropy := ⟨fun n => some (List.replicate (if n = 0 then 16 else 12) 0), 0⟩
  have ready : entropy.next.Ready := by
    intro n used
    have later : n ≠ 0 := Nat.ne_of_gt used
    exact ⟨List.replicate 12 0, congrArg (fun k => some (List.replicate k 0)) (if_neg later), rfl⟩
  obtain ⟨store, e', opened, ready⟩ :=
    @Store.opened_succeeds "secret" entropy (List.replicate 16 0) rfl rfl ready
  exact ⟨store, ⟨"secret", entropy, e', opened⟩, ready⟩

end Store
end DeviceRegistry
