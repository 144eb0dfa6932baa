import DeviceRegistry.Net.Address
import DeviceRegistry.Url.Percent

/-! URLs in parts. All parts are held as they are written, that is, encoded. -/
namespace DeviceRegistry

inductive UrlError where
  | noBase | opaqueBase | emptyHost | badDomain | badPort | badIpv4 | badIpv6 | badHostCharacter
deriving DecidableEq, Inhabited

def UrlError.message : UrlError → String
  | noBase => "relative URL without a base"
  | opaqueBase => "relative URL with a cannot-be-a-base base"
  | emptyHost => "empty host"
  | badDomain => "invalid international domain name"
  | badPort => "invalid port number"
  | badIpv4 => "invalid IPv4 address"
  | badIpv6 => "invalid IPv6 address"
  | badHostCharacter => "invalid domain character"

/-- A host; an empty name stands for none. -/
inductive Host where
  | name (s : String)
  | ipv4 (address : Ipv4)
  | ipv6 (address : Ipv6)
deriving DecidableEq

namespace Host

def text : Host → String
  | name s => s
  | ipv4 address => address.text
  | ipv6 address => "[" ++ Ipv6.compressed address.groups ++ "]"

def isEmpty (h : Host) : Bool := h == .name ""

end Host

structure Authority where
  username : String := ""
  /-- Never empty. -/
  password : Option String := none
  host : Host
  /-- The port, unless it is the one that belongs to the scheme. -/
  port : Option Nat := none
deriving DecidableEq

namespace Authority

def hasCredentials (a : Authority) : Bool := a.username != "" || a.password.isSome

def text (a : Authority) : String :=
  let password := (a.password.map (":" ++ ·)).getD ""
  let credentials := if a.hasCredentials then a.username ++ password ++ "@" else ""
  credentials ++ a.host.text ++ (a.port.map fun p => ":" ++ toString p).getD ""

end Authority

inductive UrlPath where
  /-- A text without structure, such as a mail address. -/
  | plain (text : String)
  /-- Segments, each with a slash in front. -/
  | segments (list : List String)
deriving DecidableEq

def UrlPath.text : UrlPath → String
  | plain text => text
  | segments list => String.join (list.map ("/" ++ ·))

structure Url where
  scheme : String
  authority : Option Authority := none
  path : UrlPath
  query : Option String := none
  fragment : Option String := none
deriving DecidableEq

namespace Url

/-- Whether the path would be taken for an authority. -/
def needsDot (u : Url) : Bool :=
  match u.authority, u.path with
  | none, .segments ("" :: _ :: _) => true
  | _, _ => false

def text (u : Url) : String :=
  u.scheme ++ ":" ++ (u.authority.map fun a => "//" ++ a.text).getD "" ++
    (if u.needsDot then "/." else "") ++ u.path.text ++
    (u.query.map ("?" ++ ·)).getD "" ++ (u.fragment.map ("#" ++ ·)).getD ""

end Url
end DeviceRegistry
