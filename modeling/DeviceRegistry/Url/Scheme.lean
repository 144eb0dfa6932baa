/-! Schemes of URLs. The special ones are those of the web and of files: they take a backslash for
a slash, need a host, unless they are about files, and know a port of their own. -/
namespace DeviceRegistry.Url

inductive SchemeKind where
  | web | file | other
deriving DecidableEq, Inhabited

namespace SchemeKind

def of (scheme : String) : SchemeKind :=
  if scheme == "file" then file
  else if ["http", "https", "ws", "wss", "ftp"].contains scheme then web
  else other

def isSpecial (k : SchemeKind) : Bool := k != other

/-- The character separates path segments. -/
def isSlash (k : SchemeKind) (c : Char) : Bool := c == '/' || (k.isSpecial && c == '\\')

/-- The character ends an authority. -/
def endsAuthority (k : SchemeKind) (c : Char) : Bool := k.isSlash c || c == '?' || c == '#'

end SchemeKind

def defaultPort? (scheme : String) : Option Nat :=
  if scheme == "http" || scheme == "ws" then some 80
  else if scheme == "https" || scheme == "wss" then some 443
  else if scheme == "ftp" then some 21
  else none

def isSchemeChar (c : Char) : Bool := c.isAlphanum || c == '+' || c == '-' || c == '.'

/-- The scheme, in lower case, and what stands behind its colon. -/
def scheme? (cs : List Char) : Option (String × List Char) :=
  let name := cs.takeWhile isSchemeChar
  match cs.dropWhile isSchemeChar with
  | ':' :: rest =>
    if name.head?.any Char.isAlpha then some (String.ofList (name.map Char.toLower), rest) else none
  | _ => none

end DeviceRegistry.Url
