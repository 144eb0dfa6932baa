import DeviceRegistry.Proofs.Agreement
import DeviceRegistry.Proofs.Store.Keeping
import DeviceRegistry.Proofs.Store.Registry

/-! Two stores that differ in private keys only. Whatever is done with both, they go on to differ in
private keys only, and what they answer is the same but for the private keys in it. How far the
private keys of users may differ is a parameter; those of devices are never read. -/
namespace DeviceRegistry
open StoredRow

/-- Key pairs with the same public key. The private keys are related, and can be sealed both, or
neither of them. -/
structure KeyPair.Alike (secret : String → String → Prop) (keys keys' : KeyPair) : Prop where
  publicKey : keys'.publicKey = keys.publicKey
  secret : secret keys.privateKey keys'.privateKey
  sealable : Sealable keys.privateKey ↔ Sealable keys'.privateKey

/-- Rows of users that differ in the sealed private key only. These open to related keys, or do not
open for the same reason. -/
structure UserRow.Alike (cipher : ColumnCipher) (secret : String → String → Prop)
    (row row' : UserRow) : Prop where
  same : row' = { row with privateKey := row'.privateKey }
  opens : Agree secret (cipher.decryptText Transaction.userKeyColumn row.privateKey)
    (cipher.decryptText Transaction.userKeyColumn row'.privateKey)

/-- Rows of devices that differ in the sealed private key only. -/
def DeviceRow.Alike (row row' : DeviceRow) : Prop := row' = { row with privateKey := row'.privateKey }

/-- What is stored is the same, or readable rows that are alike. -/
inductive StoredAlike {ρ : Type} [StoredRow ρ] (alike : ρ → ρ → Prop) : Bytes → Bytes → Prop where
  | same (b : Bytes) : StoredAlike alike b b
  | rows {row row' : ρ} (rows : alike row row') (reads : decode (encode row) = .ok row)
      (reads' : decode (encode row') = .ok row') : StoredAlike alike (encode row) (encode row')

theorem StoredAlike.decode {ρ : Type} [StoredRow ρ] {alike : ρ → ρ → Prop}
    (refl : ∀ row, alike row row) {b b' : Bytes} (h : StoredAlike alike b b') :
    Agree alike (decode b) (decode b') := by
  cases h with
  | same => exact .refl refl _
  | rows rows reads reads' =>
    rw [reads, reads']
    exact .ok rows

/-- Tables that differ in the sealed private keys only. -/
structure Tables.Alike (cipher : ColumnCipher) (secret : String → String → Prop) (t t' : Tables) :
    Prop where
  users : Table.Shows (StoredAlike (UserRow.Alike cipher secret)) t.users t'.users
  devices : Table.Shows (StoredAlike DeviceRow.Alike) t.devices t'.devices
  rest : t' = { t with users := t'.users, devices := t'.devices }

theorem row?_alike {ρ : Type} [StoredRow ρ] {alike : ρ → ρ → Prop} (refl : ∀ row, alike row row)
    {rows rows' : Table UInt64 Bytes} (h : Table.Shows (StoredAlike alike) rows rows') (id : UInt64) :
    Agree (Option.Rel alike) (Tables.row? rows id : Except StoreError (Option ρ))
      (Tables.row? rows' id) := by
  have there := h id
  rw [Tables.row?, Tables.row?]
  generalize rows.get? id = b at there ⊢
  generalize rows'.get? id = b' at there ⊢
  cases there with
  | none => exact .ok .none
  | some stored => exact (stored.decode refl).map fun _ _ => .some

theorem isNone_eq {α β : Type} {related : α → β → Prop} {a : Option α} {b : Option β}
    (h : Option.Rel related a b) : b.isNone = a.isNone := by
  cases h <;> rfl

/-- With the same draw two texts are both sealed, so that they open again, or neither is. -/
theorem ColumnCipher.encryptText_agree (c : ColumnCipher) (column : String) {plain plain' : String}
    (short : Sealable plain ↔ Sealable plain') (draw : Draw) :
    Agree (fun b b' => c.decryptText column b = .ok plain ∧ c.decryptText column b' = .ok plain')
      (c.encryptText column plain draw) (c.encryptText column plain' draw) := by
  cases drawn : draw.exactly? Gcm.nonceLength with
  | none =>
    have refused : ∀ plain, c.encryptText column plain draw = .error .noRandomness := by
      intro plain
      rw [encryptText, encrypt, drawn]
    rw [refused, refused]
    exact .error _
  | some nonce =>
    obtain ⟨rfl, length⟩ := Option.filter_eq_some_iff.1 drawn
    have isNonce : Draw.IsNonce (some nonce) := ⟨nonce, rfl, by simpa using length⟩
    by_cases fits : Sealable plain
    · obtain ⟨value, done⟩ := (c.encryptText_of_nonce column isNonce).1 fits
      obtain ⟨value', done'⟩ := (c.encryptText_of_nonce column isNonce).1 (short.1 fits)
      rw [done, done']
      exact .ok ⟨decryptText_encryptText done, decryptText_encryptText done'⟩
    · have fails := (c.encryptText_of_nonce column isNonce).2 fits
      have fails' := (c.encryptText_of_nonce column isNonce).2 (mt short.2 fits)
      rw [fails, fails']
      exact .error _

variable {cipher : ColumnCipher} {secret : String → String → Prop}

theorem UserRow.Alike.refl (same : ∀ key, secret key key) (row : UserRow) :
    UserRow.Alike cipher secret row row :=
  ⟨rfl, .refl same _⟩

theorem DeviceRow.Alike.refl (row : DeviceRow) : row.Alike row := rfl

namespace Tables.Alike

variable {t t' : Tables}

theorem refl (t : Tables) : t.Alike cipher secret t where
  users id := by
    cases t.users.get? id with
    | none => exact .none
    | some b => exact .some (.same b)
  devices id := by
    cases t.devices.get? id with
    | none => exact .none
    | some b => exact .some (.same b)
  rest := rfl

end Tables.Alike

/-- Transactions whose tables are alike, with the same cipher and the same randomness to come. -/
structure Transaction.Alike (cipher : ColumnCipher) (secret : String → String → Prop)
    (tx tx' : Transaction) : Prop where
  tables : tx.tables.Alike cipher secret tx'.tables
  cipher : tx.cipher = cipher ∧ tx'.cipher = cipher
  entropy : tx'.entropy = tx.entropy

/-- Users that differ in the private key only. -/
structure User.Alike (secret : String → String → Prop) (user user' : User) : Prop where
  id : user'.id = user.id
  uid : user'.uid = user.uid
  publicKey : user'.keys.publicKey = user.keys.publicKey
  secret : secret user.keys.privateKey user'.keys.privateKey

/-- Devices that differ in the private key only. -/
structure Device.Alike (secret : String → String → Prop) (d d' : Device) : Prop where
  id : d'.id = d.id
  publicKey : d'.keys.publicKey = d.keys.publicKey
  secret : secret d.keys.privateKey d'.keys.privateKey

/-- Operations that agree on transactions that are alike. -/
abbrev Transaction.Agrees {α α' : Type} (cipher : ColumnCipher) (secret : String → String → Prop)
    (value : α → α' → Prop) (x : Step α) (y : Step α') : Prop :=
  Alongside (Transaction.Alike cipher secret) value x y

theorem Transaction.sealKey_eq (column plain : String) (tx : Transaction) :
    sealKey column plain tx =
      match tx.cipher.encryptText column plain (tx.entropy.draw tx.entropy.used) with
      | .ok b => .ok b { tx with entropy := tx.entropy.next }
      | .error e => .error (.cipher e) { tx with entropy := tx.entropy.next } := by
  rw [sealKey, bind_ok (get_ok tx), bind_ok (set_ok _ tx)]
  cases tx.cipher.encryptText column plain (tx.entropy.draw tx.entropy.used) <;> rfl

namespace Alongside
open Transaction

variable {α α' : Type} {value : α → α' → Prop}

/-- Both read the same, where no row is read. -/
theorem ask {f f' : Tables → α}
    (same : ∀ t users devices, f' { t with users, devices } = f t) :
    Agrees cipher secret Eq (ask f) (ask f') := by
  intro tx tx' alike
  refine .ok ?_ alike
  rw [alike.tables.rest, same]

theorem tryAsk {f : Tables → Except StoreError α} {f' : Tables → Except StoreError α'}
    (agree : ∀ t users devices, t.Alike cipher secret { t with users, devices } →
      Agree value (f t) (f' { t with users, devices })) :
    Agrees cipher secret value (tryAsk f) (tryAsk f') := by
  intro tx tx' alike
  have outcome := agree _ _ _ (alike.tables.rest ▸ alike.tables)
  rw [← alike.tables.rest] at outcome
  generalize left : f tx.tables = read at outcome
  generalize right : f' tx'.tables = read' at outcome
  cases outcome with
  | ok values =>
    rw [tryAsk_ok left, tryAsk_ok right]
    exact .ok values alike
  | error e =>
    rw [tryAsk_error left, tryAsk_error right]
    exact .error e alike

theorem orFail (e : StoreError) {a : Option α} {a' : Option α'} (values : Option.Rel value a a') :
    Agrees cipher secret value (orFail e a) (orFail e a') := by
  cases values with
  | some related => exact .pure related
  | none => exact .throw e

theorem orFail_same (e : StoreError) (a : Option α) :
    Agrees cipher secret Eq (Transaction.orFail e a) (Transaction.orFail e a) := by
  cases a with
  | some a => exact .pure rfl
  | none => exact .throw e

theorem change {f f' : Tables → Tables}
    (alike : ∀ t users devices, t.Alike cipher secret { t with users, devices } →
      (f t).Alike cipher secret (f' { t with users, devices })) :
    Agrees cipher secret Eq (change f) (change f') := by
  intro tx tx' h
  refine .ok rfl ⟨?_, h.cipher, h.entropy⟩
  show (f tx.tables).Alike cipher secret (f' tx'.tables)
  rw [h.tables.rest]
  exact alike _ _ _ (h.tables.rest ▸ h.tables)

theorem nextId (sequence : String) :
    Agrees cipher secret Eq (nextId sequence) (nextId sequence) := by
  refine .bind_same (.ask fun _ _ _ => rfl) fun last => ?_
  exact .bind_same (.change fun _ _ _ h => ⟨h.users, h.devices, rfl⟩) fun _ => .pure rfl

/-- Keys that are sealed side by side are both sealed, or not sealed for the same reason. -/
theorem sealKey (column : String) {plain plain' : String}
    (short : Sealable plain ↔ Sealable plain') :
    Agrees cipher secret (fun b b' => cipher.decryptText column b = .ok plain ∧
      cipher.decryptText column b' = .ok plain') (sealKey column plain) (sealKey column plain') := by
  rintro tx tx' ⟨tables, ⟨same, same'⟩, entropy⟩
  have outcome := cipher.encryptText_agree column short (tx.entropy.draw tx.entropy.used)
  rw [sealKey_eq, sealKey_eq, same, same', entropy]
  generalize cipher.encryptText column plain _ = result at outcome ⊢
  generalize cipher.encryptText column plain' _ = result' at outcome ⊢
  cases outcome with
  | ok opens => exact .ok opens ⟨tables, ⟨rfl, rfl⟩, rfl⟩
  | error e => exact .error _ ⟨tables, ⟨rfl, rfl⟩, rfl⟩

theorem openKey (column : String) {b b' : Bytes} {related : String → String → Prop}
    (opens : Agree related (cipher.decryptText column b) (cipher.decryptText column b')) :
    Agrees cipher secret related (openKey column b) (openKey column b') := by
  rintro tx tx' ⟨tables, ⟨same, same'⟩, entropy⟩
  generalize left : cipher.decryptText column b = key at opens
  generalize right : cipher.decryptText column b' = key' at opens
  rw [← same] at left
  rw [← same'] at right
  cases opens with
  | ok related =>
    rw [openKey_ok left, openKey_ok right]
    exact .ok related ⟨tables, ⟨same, same'⟩, entropy⟩
  | error e =>
    rw [openKey_error left, openKey_error right]
    exact .error _ ⟨tables, ⟨same, same'⟩, entropy⟩

theorem upsertUser (refl : ∀ key, secret key key) (uid : String) {keys keys' : KeyPair}
    (alike : keys.Alike secret keys') :
    Agrees cipher secret (User.Alike secret) (upsertUser uid keys) (upsertUser uid keys') := by
  refine .bind_same (.ask fun _ _ _ => rfl) fun known => ?_
  cases known with
  | some id =>
    refine .bind (.tryAsk fun _ _ _ h => row?_alike (.refl refl) h.users id) fun _ _ rows => ?_
    refine .bind (.orFail _ rows) fun row row' rows => ?_
    have stored := StoredAlike.rows rows row.decode_encode row'.decode_encode
    refine .bind_same (.change fun _ _ _ h => ⟨h.users.insert id stored, h.devices, rfl⟩) fun _ => ?_
    refine .bind (.openKey _ rows.opens) fun key key' related => .pure ?_
    rw [rows.same]
    exact ⟨rfl, rfl, rfl, related⟩
  | none =>
    refine .bind_same (.nextId _) fun id => ?_
    refine .bind (.sealKey _ alike.sealable) fun b b' ⟨opens, opens'⟩ => ?_
    have rows : UserRow.Alike cipher secret ⟨id, uid, b, keys.publicKey⟩
        ⟨id, uid, b', keys'.publicKey⟩ := by
      rw [alike.publicKey]
      refine ⟨rfl, ?_⟩
      rw [opens, opens']
      exact .ok alike.secret
    have stored := StoredAlike.rows rows (UserRow.decode_encode _) (UserRow.decode_encode _)
    refine .bind_same (.change fun _ _ _ h => ⟨h.users.insert id stored, h.devices, rfl⟩) fun _ => ?_
    exact .pure ⟨rfl, rfl, alike.publicKey, alike.secret⟩

theorem insertDevice (refl : ∀ key, secret key key) {d : NewDevice} (finite : d.IsFinite)
    {keys : KeyPair} {device : String → String → Prop} (alike : d.keys.Alike device keys) :
    Agrees cipher secret (Device.Alike device) (insertDevice d) (insertDevice { d with keys }) := by
  refine .bind_same (.ask fun _ _ _ => rfl) fun taken => ?_
  refine .ite (.throw _) (.bind (.tryAsk fun _ _ _ h => row?_alike (.refl refl) h.users _) ?_)
  intro owner owner' owners
  rw [isNone_eq owners]
  refine .ite (.throw _) (.bind_same (.nextId _) fun id => ?_)
  refine .bind (.sealKey _ alike.sealable) fun b b' _ => ?_
  have rows : (d.row id b).Alike (({ d with keys } : NewDevice).row id b') := by
    rw [DeviceRow.Alike, NewDevice.row, alike.publicKey]
    rfl
  have stored := StoredAlike.rows rows (DeviceRow.decode_encode finite) (DeviceRow.decode_encode finite)
  refine .bind_same (.change fun _ _ _ h => ⟨h.users, h.devices.insert id stored, rfl⟩) fun _ => ?_
  exact .pure ⟨rfl, alike.publicKey, alike.secret⟩

theorem insertStream (deviceId : UInt64) (uid : String) :
    Agrees cipher secret Eq (insertStream deviceId uid) (insertStream deviceId uid) := by
  refine .bind_same (.ask fun _ _ _ => rfl) fun taken => ?_
  refine .ite (.throw _) (.bind (.tryAsk fun _ _ _ h => row?_alike .refl h.devices _) ?_)
  intro device device' devices
  rw [isNone_eq devices]
  refine .ite (.throw _) (.bind_same (.nextId _) fun id => ?_)
  exact .bind_same (.change fun _ _ _ h => ⟨h.users, h.devices, rfl⟩) fun _ => .pure rfl

theorem streamsOf (deviceId : UInt64) :
    Agrees cipher secret Eq (streamsOf deviceId) (streamsOf deviceId) := by
  have read : ∀ id, Agrees cipher secret Eq
      (Transaction.tryAsk fun t => (Tables.row? t.streams id : Except StoreError (Option StreamRow)))
      (Transaction.tryAsk fun t => Tables.row? t.streams id) :=
    fun id => .tryAsk fun _ _ _ _ => .refl (fun _ => rfl) _
  refine .bind_same (.ask fun _ _ _ => rfl) fun ids => ?_
  exact .mapM (fun id => .bind_same (read id) fun row => .orFail_same _ row) ids

theorem deleteDevice (refl : ∀ key, secret key key) (token publicKey : String) :
    Agrees cipher secret Eq (deleteDevice token publicKey) (deleteDevice token publicKey) := by
  refine .bind_same (.ask fun _ _ _ => rfl) fun known => ?_
  refine .bind_same (.orFail_same _ known) fun id => ?_
  refine .bind (.tryAsk fun _ _ _ h => row?_alike .refl h.devices id) fun _ _ devices => ?_
  refine .bind (.orFail _ devices) fun device device' same => ?_
  rw [DeviceRow.Alike] at same
  rw [same]
  refine .bind (.tryAsk fun _ _ _ h => row?_alike (.refl refl) h.users _) fun _ _ owners => ?_
  refine .bind (.orFail _ owners) fun owner owner' alike => ?_
  rw [alike.same]
  refine .ite (.throw _) (.bind_same (.streamsOf id) fun streams => ?_)
  refine .bind_same (.change fun _ _ _ h => ?_) fun _ => ?_
  · rw [Tables.foldl_withoutStream, Tables.foldl_withoutStream]
    exact ⟨h.users, h.devices, rfl⟩
  · refine .bind_same (.change fun _ _ _ h => ⟨h.users, h.devices.erase id, rfl⟩) fun _ => ?_
    exact .pure rfl

theorem countDevices (userId : UInt64) :
    Agrees cipher secret Eq (countDevices userId) (countDevices userId) :=
  .ask fun _ _ _ => rfl

theorem deleteUser (refl : ∀ key, secret key key) (userId : UInt64) :
    Agrees cipher secret Eq (deleteUser userId) (deleteUser userId) := by
  refine .bind_same (.countDevices userId) fun count => ?_
  refine .ite (.throw _) ?_
  refine .bind (.tryAsk fun _ _ _ h => row?_alike (.refl refl) h.users userId) fun _ _ rows => ?_
  refine .bind (.orFail _ rows) fun row row' alike => ?_
  rw [alike.same]
  exact .change fun _ _ _ h => ⟨h.users.erase userId, h.devices, rfl⟩

end Alongside
end DeviceRegistry
