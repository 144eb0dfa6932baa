import DeviceRegistry.Proofs.Store.Untouched
import DeviceRegistry.Proofs.Store.Registry

/-! Opening a store again. The metadata hold the salt and the password check from the first opening
on; no work on records touches them. A later opening changes no table: it succeeds if the check
opens under the password, and without a draw. -/
namespace DeviceRegistry

namespace Transaction

/-- The metadata and the cipher stay, whatever comes of the work. -/
def KeepsLock {α : Type} (x : Step α) : Prop := ∀ tx, (stateAfter (x tx)).lock = tx.lock

theorem overlooks_lock : Overlooks fun tx tx' => tx'.lock = tx.lock where
  trans first later := later.trans first
  apart lock _ := lock

end Transaction

theorem RecordStep.keepsLock (step : RecordStep) : Transaction.KeepsLock step.perform := by
  have o := Transaction.overlooks_lock
  cases step with
  | upsertUser uid keys => exact o.upsertUser uid keys
  | insertDevice d => exact o.insertDevice d
  | insertStream deviceId uid => exact o.insertStream fun _ _ _ lock _ => lock
  | streamsOf deviceId => exact o.streamsOf deviceId
  | deleteDevice token publicKey => exact o.deleteDevice token publicKey fun _ _ _ lock _ => lock
  | countDevices userId => exact o.countDevices userId
  | deleteUser userId => exact o.deleteUser userId

/-- A text that is short enough is not sealed for lack of randomness only. -/
theorem ColumnCipher.noRandomness_of_encryptText {c : ColumnCipher} {column plain : String}
    {draw : Draw} {e : CipherError} (short : Sealable plain)
    (h : c.encryptText column plain draw = .error e) : e = .noRandomness := by
  rw [encryptText, encrypt] at h
  split at h
  · exact (Except.error.inj h).symm
  · rw [Sealable] at short
    rw [Gcm.Key.seal?, if_pos short] at h
    cases h

theorem RecordStep.lock_apply (step : RecordStep) (tx : Transaction) :
    (step.apply tx).lock = tx.lock := by
  rw [step.apply_eq]
  exact step.keepsLock tx

namespace Store

/-- What the first opening of a store has put into the metadata. -/
structure Locked (metadata : Table String Bytes) (salt check : Bytes) : Prop where
  version : metadata.get? versionKey = some (Bytes.ofNat 8 version)
  salt : metadata.get? saltKey = some salt
  check : metadata.get? checkKey = some check

/-- The cipher of a password and the salt. -/
abbrev cipherOf (password : String) (salt : Bytes) : ColumnCipher :=
  .derive (Bytes.ofText password) salt

variable {password : String} {t : Tables} {e e' : Entropy} {s : Store} {salt check : Bytes}

theorem saltOf_eq (there : t.metadata.get? saltKey = some salt) : saltOf t e = .ok salt e := by
  rw [saltOf, there]
  rfl

theorem checkOf_eq (there : t.metadata.get? checkKey = some check) (cipher : ColumnCipher) :
    checkOf t cipher e = match cipher.decrypt checkKey check with
      | .ok _ => .ok check e
      | .error _ => .error .wrongPassword e := by
  rw [checkOf, there]
  dsimp only
  cases cipher.decrypt checkKey check <;> rfl

/-- The check that an opening leaves can be opened. -/
theorem checkOf_opens {cipher : ColumnCipher} (h : checkOf t cipher e = .ok check e') :
    ∃ plain, cipher.decrypt checkKey check = .ok plain := by
  cases there : t.metadata.get? checkKey with
  | some check' =>
    rw [checkOf_eq there] at h
    cases opens : cipher.decrypt checkKey check' with
    | ok plain =>
      rw [opens] at h
      cases h
      exact ⟨plain, opens⟩
    | error failure =>
      rw [opens] at h
      cases h
  | none =>
    rw [checkOf, there] at h
    obtain ⟨draw, e₁, -, sealed⟩ := bind_eq_ok h
    cases result : cipher.encryptText checkKey checkText draw with
    | ok value =>
      rw [result] at sealed
      cases sealed
      exact ⟨_, ColumnCipher.decrypt_encrypt result⟩
    | error failure =>
      rw [result] at sealed
      cases sealed

/-- An opening that succeeds leaves the metadata locked with the password. -/
theorem locked_of_opened (h : Store.opened password t e = .ok s e') :
    ∃ salt check plain, Locked s.tables.metadata salt check ∧ s.cipher = cipherOf password salt ∧
      s.cipher.decrypt checkKey check = .ok plain := by
  obtain ⟨salt, e₁, -, h⟩ := bind_eq_ok h
  obtain ⟨check, e₂, checked, h⟩ := bind_eq_ok h
  obtain ⟨plain, opens⟩ := checkOf_opens checked
  obtain ⟨e₃, e₄, -, h⟩ := bind_eq_ok h
  cases h
  refine ⟨salt, check, plain, ⟨?_, ?_, ?_⟩, rfl, opens⟩
  · rw [Table.get?_insert_ne _ _ (by decide), Table.get?_insert_ne _ _ (by decide),
      Table.get?_insert_self]
  · rw [Table.get?_insert_ne _ _ (by decide), Table.get?_insert_self]
  · exact Table.get?_insert_self ..

/-- A later opening looks at the check alone. It draws nothing and changes no table. -/
theorem opened_locked (locked : Locked t.metadata salt check) (password : String) (e : Entropy) :
    Store.opened password t e = match (cipherOf password salt).decrypt checkKey check with
      | .ok _ => .ok ⟨t, cipherOf password salt, e⟩ e
      | .error _ => .error .wrongPassword e := by
  have same : ({ t with metadata := ((t.metadata.insert versionKey (Bytes.ofNat 8 version)).insert
      saltKey salt).insert checkKey check } : Tables) = t := by
    rw [Table.insert_of_get? locked.version, Table.insert_of_get? locked.salt,
      Table.insert_of_get? locked.check]
  rw [opened, bind_ok (saltOf_eq locked.salt)]
  have checked := @checkOf_eq t e check locked.check (cipherOf password salt)
  dsimp only
  cases opens : (cipherOf password salt).decrypt checkKey check with
  | ok plain =>
    rw [opens] at checked
    rw [bind_ok checked]
    exact congrArg (fun t => EStateM.Result.ok (⟨t, cipherOf password salt, e⟩ : Store) e) same
  | error failure =>
    rw [opens] at checked
    rw [bind_error checked]

theorem opened_locked_ok (locked : Locked t.metadata salt check) {entropy entropy' : Entropy}
    (h : Store.opened password t entropy = .ok s entropy') :
    s = ⟨t, cipherOf password salt, entropy⟩ := by
  rw [opened_locked locked] at h
  split at h
  · cases h
    rfl
  · cases h

/-- A first opening fails for lack of randomness only. -/
theorem opened_first_error {error : StoreError} (h : Store.opened password {} e = .error error e') :
    error = .cipher .noRandomness := by
  cases drawn : (e.draw e.used).exactly? ColumnCipher.saltLength with
  | none =>
    have unsalted : saltOf {} e = .error (.cipher .noRandomness) e.next := by
      show orCipherError (ColumnCipher.salt (e.draw e.used)) e.next = _
      rw [ColumnCipher.salt, drawn]
      rfl
    rw [opened, bind_error unsalted] at h
    cases h
    rfl
  | some salt =>
    have salted : saltOf {} e = .ok salt e.next := by
      show orCipherError (ColumnCipher.salt (e.draw e.used)) e.next = _
      rw [ColumnCipher.salt, drawn]
      rfl
    have checking : checkOf {} (cipherOf password salt) e.next = orCipherError
        ((cipherOf password salt).encryptText checkKey checkText (e.next.draw e.next.used))
        e.next.next := rfl
    rw [opened, bind_ok salted] at h
    cases result : (cipherOf password salt).encryptText checkKey checkText
        (e.next.draw e.next.used) with
    | ok check =>
      rw [result] at checking
      rw [bind_ok checking] at h
      cases h
    | error failure =>
      rw [result] at checking
      rw [bind_error checking] at h
      cases h
      rw [ColumnCipher.noRandomness_of_encryptText (by decide) result]

end Store
namespace Session

/-- The committed metadata and those of an open transaction. -/
structure HasMetadata (metadata : Table String Bytes) (session : Session) : Prop where
  committed : session.committed.metadata = metadata
  working : ∀ t, session.working? = some t → t.metadata = metadata

variable {metadata : Table String Bytes} {salt check : Bytes} {session : Session}

theorem next_reopen_locked (locked : Store.Locked session.committed.metadata salt check)
    (password : String) (entropy : Entropy) :
    (session.next (.reopen password entropy)).committed = session.committed := by
  rw [next_reopen]
  split
  next done => rw [Store.opened_locked_ok locked done, committed]
  next => rfl

theorem HasMetadata.next (h : session.HasMetadata metadata) (locked : Store.Locked metadata salt check)
    (step : StoreStep) : (session.next step).HasMetadata metadata := by
  have goes := session.next_goes step
  generalize session.next step = session' at goes ⊢
  cases goes with
  | idle => exact h
  | waits => exact h
  | begins store =>
    refine ⟨h.committed, ?_⟩
    rintro t ⟨⟩
    exact h.committed
  | works store tx step =>
    refine ⟨h.committed, ?_⟩
    rintro t ⟨⟩
    exact (congrArg Prod.fst (step.lock_apply tx)).trans (h.working tx.tables rfl)
  | commits store tx => exact ⟨h.working tx.tables rfl, nofun⟩
  | abandons => exact ⟨h.committed, nofun⟩
  | reopens done =>
    obtain rfl := Store.opened_locked_ok (h.committed ▸ locked) done
    exact ⟨h.committed, nofun⟩
  | closes => exact ⟨h.committed, nofun⟩

/-- Whatever is done with a store, and with whatever passwords it is opened, its metadata stay as
they were when it was created. -/
theorem HasMetadata.run (h : session.HasMetadata metadata) (locked : Store.Locked metadata salt check)
    (steps : List StoreStep) : (session.run steps).HasMetadata metadata := by
  induction steps generalizing session with
  | nil => exact h
  | cons step rest ih => exact ih (h.next locked step)

end Session
end DeviceRegistry
