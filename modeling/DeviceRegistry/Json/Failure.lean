import DeviceRegistry.Number.Shortest
import DeviceRegistry.Text.Bytes
import DeviceRegistry.Text.Quoted

/-! Why a JSON text was refused. A cause is one of three kinds: the text stops early, it breaks the
grammar, or a well-formed part is not what the reader asked for. A failure also carries its path,
the members and elements that lead to it. Its place is told by what had been read of the text. -/
namespace DeviceRegistry.Json

/-- A number literal by its form: whole and unsigned, whole and below zero, or any other. -/
inductive Number where
  | unsigned (n : UInt64)
  /-- The number `-n`, with `n` from 1 to `2^63`. -/
  | negative (n : UInt64)
  | real (x : Binary64)
deriving DecidableEq, Inhabited

/-- What stands where another kind of value was asked for. -/
inductive Found where
  | null
  | boolean (b : Bool)
  | number (n : Number)
  | text (s : String)
  | list
  | object
deriving DecidableEq

def Found.message : Found → String
  | null => "null"
  | boolean b => "boolean `" ++ (if b then "true" else "false") ++ "`"
  | number (.unsigned n) => "integer `" ++ toString n ++ "`"
  | number (.negative n) => "integer `-" ++ toString n ++ "`"
  | number (.real x) => "floating point `" ++ x.text ++ "`"
  | text s => "string " ++ Text.quoted s
  | list => "sequence"
  | object => "map"

/-- What was being read when the text stopped. -/
inductive Unfinished where
  | value | text | list | object
deriving DecidableEq

def Unfinished.message : Unfinished → String
  | value => "EOF while parsing a value"
  | text => "EOF while parsing a string"
  | list => "EOF while parsing a list"
  | object => "EOF while parsing an object"

/-- A breach of the grammar. -/
inductive Malformed where
  | expectedValue | expectedWord | expectedColon
  | expectedCommaOrBrace | expectedCommaOrBracket
  | keyNotText | trailingComma | trailingCharacters
  | controlCharacter | badEscape | loneSurrogate | unfinishedSurrogate | badEncoding
  | badNumber | numberOutOfRange
deriving DecidableEq

def Malformed.message : Malformed → String
  | expectedValue => "expected value"
  | expectedWord => "expected ident"
  | expectedColon => "expected `:`"
  | expectedCommaOrBrace => "expected `,` or `\x7d`"
  | expectedCommaOrBracket => "expected `,` or `]`"
  | keyNotText => "key must be a string"
  | trailingComma => "trailing comma"
  | trailingCharacters => "trailing characters"
  | controlCharacter => "control character (\\u0000-\\u001F) found while parsing a string"
  | badEscape => "invalid escape"
  | loneSurrogate => "lone leading surrogate in hex escape"
  | unfinishedSurrogate => "unexpected end of hex escape"
  | badEncoding => "invalid unicode code point"
  | badNumber => "invalid number"
  | numberOutOfRange => "number out of range"

/-- A well-formed part that the reader cannot take. -/
inductive Mismatch where
  | wrongType (found : Found) (expected : String)
  | wrongValue (found : Found) (expected : String)
  | unknownVariant (name : String) (known : List String)
  | missingMember (name : String)
  | repeatedMember (name : String)
  | wrongLength (length : Nat) (expected : String)
  | badBase64
deriving DecidableEq

/-- The names a reader knows, as a message lists them. -/
def knownNames : List String → String
  | [] => "there are no variants"
  | [a] => "expected `" ++ a ++ "`"
  | [a, b] => "expected `" ++ a ++ "` or `" ++ b ++ "`"
  | names => "expected one of " ++ ", ".intercalate (names.map fun a => "`" ++ a ++ "`")

def Mismatch.message : Mismatch → String
  | wrongType found expected => "invalid type: " ++ found.message ++ ", expected " ++ expected
  | wrongValue found expected => "invalid value: " ++ found.message ++ ", expected " ++ expected
  | unknownVariant name known => "unknown variant `" ++ name ++ "`, " ++ knownNames known
  | missingMember name => "missing field `" ++ name ++ "`"
  | repeatedMember name => "duplicate field `" ++ name ++ "`"
  | wrongLength length expected =>
    "invalid length " ++ toString length ++ ", expected " ++ expected
  | badBase64 => "invalid Base64 encoding"

inductive Cause where
  | unfinished (what : Unfinished)
  | malformed (what : Malformed)
  | mismatch (what : Mismatch)
deriving DecidableEq

def Cause.message : Cause → String
  | unfinished what => what.message
  | malformed what => what.message
  | mismatch what => what.message

/-- One step on the way to a failure. -/
inductive Segment where
  | member (name : String)
  | element (index : Nat)
  /-- Inside an object, but not yet inside a member. -/
  | betweenMembers
deriving DecidableEq

/-- A cause and the path to it, outermost step first. -/
structure Failure where
  cause : Cause
  path : List Segment
deriving DecidableEq

namespace Failure

def inside (s : Segment) (f : Failure) : Failure := { f with path := s :: f.path }

def pathText : Bool → List Segment → String
  | _, [] => ""
  | _, .element i :: rest => "[" ++ toString i ++ "]" ++ pathText false rest
  | first, .member name :: rest => (if first then "" else ".") ++ name ++ pathText false rest
  | first, .betweenMembers :: rest => (if first then "" else ".") ++ "?" ++ pathText false rest

/-- The cause behind its path. A path that names no member and no element is left out. -/
def message (f : Failure) : String :=
  if f.path.all (· == .betweenMembers) then f.cause.message
  else pathText true f.path ++ ": " ++ f.cause.message

end Failure

/-- How far reading came: the line, the first being line one, and the bytes read of it. -/
structure Place where
  line : Nat
  column : Nat
deriving DecidableEq

namespace Place

/-- The place behind what has been read. -/
def behind (read : Bytes) : Place where
  line := read.count 0x0a + 1
  column := (read.reverse.takeWhile (· != 0x0a)).length

def message (p : Place) : String :=
  " at line " ++ toString p.line ++ " column " ++ toString p.column

end Place
end DeviceRegistry.Json
