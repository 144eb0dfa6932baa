import DeviceRegistry.Crypto.Gcm
import DeviceRegistry.Crypto.Pbkdf2

/-! Sealing of single values under a password. A sealed value is a nonce, the cipher text and its
tag, and belongs to one column: under the name of another column it does not open. -/
namespace DeviceRegistry

/-- What a source of random bytes gives when asked once; nothing if it fails. -/
abbrev Draw := Option Bytes

namespace Draw

/-- A draw of that many bytes; any other length counts as a failure. -/
def exactly? (d : Draw) (length : Nat) : Option Bytes := d.filter (·.length == length)

end Draw

inductive CipherError where
  | keyDerivation | noRandomness | notSealed | truncated | notOpened | notText
deriving DecidableEq, Inhabited

def CipherError.message : CipherError → String
  | keyDerivation => "failed to derive column key"
  | noRandomness => "failed to gather randomness"
  | notSealed => "failed to seal value"
  | truncated => "sealed value is truncated"
  | notOpened => "sealed value could not be opened (wrong password or corrupted data)"
  | notText => "opened value is not valid UTF-8"

structure ColumnCipher where
  key : Gcm.Key

namespace ColumnCipher

def saltLength : Nat := 16

/-- How many codes make a key of a password. -/
def derivationCount : Nat := 100000

/-- The cipher of a password and a salt. -/
def derive (password salt : Bytes) : ColumnCipher :=
  ⟨.ofBytes (Pbkdf2.derive password salt derivationCount)⟩

def salt (draw : Draw) : Except CipherError Bytes :=
  match draw.exactly? saltLength with
  | some salt => .ok salt
  | none => .error .noRandomness

/-- Seals a value for a column, with a nonce of its own. -/
def encrypt (c : ColumnCipher) (column : String) (plain : Bytes) (draw : Draw) :
    Except CipherError Bytes :=
  match draw.exactly? Gcm.nonceLength with
  | none => .error .noRandomness
  | some nonce =>
    match c.key.seal? nonce (Bytes.ofText column) plain with
    | none => .error .notSealed
    | some (cipherText, tag) => .ok (nonce ++ cipherText ++ tag)

/-- Opens a value sealed for the column. -/
def decrypt (c : ColumnCipher) (column : String) (value : Bytes) : Except CipherError Bytes :=
  if value.length < Gcm.nonceLength + Gcm.tagLength then .error .truncated
  else
    let nonce := value.take Gcm.nonceLength
    let body := value.drop Gcm.nonceLength
    let cipherText := body.take (body.length - Gcm.tagLength)
    let tag := body.drop (body.length - Gcm.tagLength)
    match c.key.open? nonce (Bytes.ofText column) cipherText tag with
    | some plain => .ok plain
    | none => .error .notOpened

def encryptText (c : ColumnCipher) (column : String) (plain : String) (draw : Draw) :
    Except CipherError Bytes :=
  c.encrypt column (Bytes.ofText plain) draw

def decryptText (c : ColumnCipher) (column : String) (value : Bytes) :
    Except CipherError String := do
  match Bytes.text? (← c.decrypt column value) with
  | some s => return s
  | none => throw .notText

end ColumnCipher
end DeviceRegistry
