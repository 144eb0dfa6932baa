import DeviceRegistry.Tls.Der

/-! Certificates, as far as it takes to find the public key of their holder. -/
namespace DeviceRegistry.Certificate

/-- What is wrong with a certificate. -/
inductive Fault where
  | badEncoding
  | wrongVersion
  /-- The algorithm of the signature is not the one that the certificate names. -/
  | otherAlgorithm
  | repeatedExtension
  /-- An extension is critical and of no known kind. -/
  | unknownExtension
deriving DecidableEq, Inhabited

def Fault.message : Fault → String
  | badEncoding => "BadEncoding"
  | wrongVersion => "Other(OtherError(UnsupportedCertVersion))"
  | otherAlgorithm => "Other(OtherError(SignatureAlgorithmMismatch))"
  | repeatedExtension => "Other(OtherError(ExtensionValueInvalid))"
  | unknownExtension => "Other(OtherError(UnsupportedCriticalExtension))"

/-- A reader of the parts of a certificate. -/
abbrev Reader := StateT Bytes (Except Fault)

/-- Reads in a reader that tells no reasons. -/
def orBad {α : Type} (r : Der.Reader α) : Reader α := fun b =>
  match r b with
  | some result => .ok result
  | none => .error .badEncoding

def whole {α : Type} (r : Reader α) (content : Bytes) : Except Fault α := do
  let (a, rest) ← r content
  if rest.isEmpty then return a else throw .badEncoding

/-- The certificate is of the third version, which is numbered 2. -/
def version : Reader Unit := do
  match ← orBad (Der.value (Der.Tag.around 0)) with
  | 0x02 :: 0x01 :: n :: rest => if n ≠ 2 ∨ !rest.isEmpty then throw .wrongVersion
  | _ => throw .badEncoding

structure Extension where
  identifier : Bytes
  critical : Bool
  content : Bytes

def extension : Der.Reader Extension :=
  Der.inside Der.Tag.sequence do
    let identifier ← Der.value Der.Tag.identifier
    let critical ← match ← Der.value? Der.Tag.boolean with
      | none | some [0x00] => pure false
      | some [0xff] => pure true
      | some _ => failure
    return { identifier, critical, content := ← Der.value Der.Tag.octetString }

/-- The known kinds of extensions: how a key may be used, further names, constraints of the chain
and of names, lists of what is revoked, and purposes. -/
def knownExtensions : List Bytes := [15, 17, 19, 30, 31, 37].map fun n => [0x55, 0x1d, n]

/-- Checks one extension against those that came before. The use of a key is not looked into. -/
def checkExtension (seen : List Bytes) (e : Extension) : Except Fault Unit := do
  if !knownExtensions.contains e.identifier then
    if e.critical then throw .unknownExtension
  else if seen.contains e.identifier then throw .repeatedExtension
  else if e.identifier ≠ [0x55, 0x1d, 15] ∧
      (Der.whole (Der.value Der.Tag.sequence) e.content).isNone then throw .badEncoding

/-- Checks extensions to the end; `fuel` is at least the number of bytes left. -/
def extensions : Nat → List Bytes → Reader Unit
  | 0, _ => pure ()
  | fuel + 1, seen => do
    if !(← get).isEmpty then
      let e ← orBad extension
      checkExtension seen e
      extensions fuel (e.identifier :: seen)

def extensionList : Reader Unit := do
  let content ← orBad (Der.value (Der.Tag.around 3))
  let list ← whole (orBad (Der.value Der.Tag.sequence)) content
  whole (extensions (list.length + 1) []) list

/-- The holder's public key within the signed part of a certificate. -/
def signedPart (algorithm : Bytes) : Reader Bytes := do
  version
  let _ ← orBad (Der.value Der.Tag.integer)
  if (← orBad (Der.value Der.Tag.sequence)) ≠ algorithm then throw .otherAlgorithm
  let _ ← orBad (Der.value Der.Tag.sequence)
  let _ ← orBad (Der.value Der.Tag.sequence)
  let _ ← orBad (Der.value Der.Tag.sequence)
  let key ← orBad (Der.value Der.Tag.sequence)
  if !(← get).isEmpty then extensionList
  return key

/-- The three parts of a certificate: what is signed, by which algorithm, and the signature. -/
def parts : Der.Reader (Bytes × Bytes) :=
  Der.inside Der.Tag.sequence do
    let signed ← Der.value Der.Tag.sequence
    let algorithm ← Der.value Der.Tag.sequence
    let _ ← Der.bitString
    return (signed, algorithm)

/-- The content of the encoding of the holder's public key. -/
def publicKeyInfo (der : Bytes) : Except Fault Bytes := do
  let (signed, algorithm) ← whole (orBad parts) der
  whole (signedPart algorithm) signed

end DeviceRegistry.Certificate
