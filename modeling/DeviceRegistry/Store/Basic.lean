import DeviceRegistry.Store.Transaction

/-! A store: its committed tables, and the cipher that its password gives. Transactions work on a
copy of the tables, which takes their place when it is committed. -/
namespace DeviceRegistry

structure Store where
  tables : Tables
  cipher : ColumnCipher
  entropy : Entropy

namespace Store

def versionKey : String := "schema_version"
def saltKey : String := "kdf_salt"
def checkKey : String := "password_check"
def version : Nat := 1

/-- What the password check seals. -/
def checkText : String := "devicereg"

def nextDraw : EStateM StoreError Entropy Draw := fun e =>
  .ok (e.draw e.used) { e with used := e.used + 1 }

def orCipherError {α : Type} : Except CipherError α → EStateM StoreError Entropy α
  | .ok a => return a
  | .error e => throw (.cipher e)

/-- The salt in the tables, or a new one. -/
def saltOf (t : Tables) : EStateM StoreError Entropy Bytes := do
  match t.metadata.get? saltKey with
  | some salt => return salt
  | none => orCipherError (ColumnCipher.salt (← nextDraw))

/-- The sealed password check in the tables, which has to open, or a new one. -/
def checkOf (t : Tables) (cipher : ColumnCipher) : EStateM StoreError Entropy Bytes := do
  match t.metadata.get? checkKey with
  | some check =>
    match cipher.decrypt checkKey check with
    | .ok _ => return check
    | .error _ => throw .wrongPassword
  | none => orCipherError (cipher.encryptText checkKey checkText (← nextDraw))

/-- Opens the store with the given committed tables. The first opening draws a salt and seals the
password check; a failed one gives no store, so that the tables stay as they are. -/
def opened (password : String) (t : Tables) : EStateM StoreError Entropy Store := do
  let salt ← saltOf t
  let cipher := ColumnCipher.derive (Bytes.ofText password) salt
  let check ← checkOf t cipher
  let metadata := t.metadata.insert versionKey (Bytes.ofNat 8 version)
  let metadata := (metadata.insert saltKey salt).insert checkKey check
  return { tables := { t with metadata }, cipher, entropy := ← get }

def begin (s : Store) : Transaction := ⟨s.tables, s.cipher, s.entropy⟩

def commit (s : Store) (tx : Transaction) : Store :=
  { s with tables := tx.tables, entropy := tx.entropy }

/-- The store after the transaction is given up: its tables as before. -/
def abandon (s : Store) (tx : Transaction) : Store := { s with entropy := tx.entropy }

/-- The store answers. -/
def ping (s : Store) : Except StoreError Unit :=
  if s.tables.metadata.contains versionKey then .ok () else .error (.notFound "schema version")

end Store

/-- The operations on records within a transaction. An operation that fails may still have
changed the transaction. -/
class Records (T : Type) where
  upsertUser : String → KeyPair → EStateM StoreError T User
  insertDevice : NewDevice → EStateM StoreError T Device
  insertStream : UInt64 → String → EStateM StoreError T StreamRow
  deleteDevice : String → String → EStateM StoreError T RemovedDevice
  countDevices : UInt64 → EStateM StoreError T Nat
  deleteUser : UInt64 → EStateM StoreError T Unit

/-- A store whose work is done in transactions. -/
class Backend (S : Type) (T : outParam Type) [Records T] where
  begin : EStateM StoreError S T
  commit : T → EStateM StoreError S Unit
  abandon : T → S → S
  /-- Fails if the store does not answer. -/
  ping : EStateM StoreError S Unit

instance : Records Transaction where
  upsertUser := Transaction.upsertUser
  insertDevice := Transaction.insertDevice
  insertStream := Transaction.insertStream
  deleteDevice := Transaction.deleteDevice
  countDevices := Transaction.countDevices
  deleteUser := Transaction.deleteUser

/-- Beginning and committing always succeed. -/
instance : Backend Store Transaction where
  begin := fun s => .ok s.begin s
  commit tx := fun s => .ok () (s.commit tx)
  abandon tx s := s.abandon tx
  ping := fun s => match s.ping with
    | .ok _ => .ok () s
    | .error e => .error e s

end DeviceRegistry
