import DeviceRegistry.Url.File

/-! Reading URLs, by the kind of their scheme. -/
namespace DeviceRegistry.Url

/-- What stands in front of the last at sign, and what behind it. -/
def splitLastAt? (cs : List Char) : Option (List Char × List Char) :=
  let back := (cs.reverse.takeWhile (· != '@')).reverse
  if back.length < cs.length then some (cs.take (cs.length - back.length - 1), back) else none

/-- User name and password. An empty password is none. -/
def credentials (cs : List Char) : String × Option String :=
  let name := cs.takeWhile (· != ':')
  let password := (cs.dropWhile (· != ':')).drop 1
  (Percent.encodeText Percent.userinfoSet name,
    if password.isEmpty then none else some (Percent.encodeText Percent.userinfoSet password))

/-- A host up to a colon that is not between brackets, and what follows. -/
def spanHost : Bool → List Char → List Char × List Char
  | _, [] => ([], [])
  | inside, c :: rest =>
    if c = ':' ∧ !inside then ([], c :: rest)
    else
      let inside := if c = '[' then true else if c = ']' then false else inside
      let (host, more) := spanHost inside rest
      (c :: host, more)

/-- A port behind its colon; what follows the authority does not matter. -/
def portOf (scheme : String) (cs : List Char) : Except UrlError (Option Nat) :=
  match cs with
  | [] => .ok none
  | cs =>
    let port := cs.foldl (fun n c => n * 10 + (c.toNat - 0x30)) 0
    if cs.all Char.isDigit ∧ port < 65536 then
      .ok (if defaultPort? scheme = some port then none else some port)
    else .error .badPort

/-- The authority that the text spells out, without the slashes in front, and what is left of the
text: a port ends at a backslash, also where that is no slash. `followed` tells whether the text
ends at a mark and not with the input. -/
def authorityOf (scheme : String) (kind : SchemeKind) (followed : Bool) (cs : List Char) :
    Except UrlError (Authority × List Char) := do
  let split := splitLastAt? cs
  if split = some ([], []) ∧ followed then throw .emptyHost
  let (username, password) := credentials ((split.map (·.1)).getD [])
  let (hostText, rest) := spanHost false ((split.map (·.2)).getD cs)
  if hostText.isEmpty ∧ kind.isSpecial then throw .emptyHost
  let host ← if kind.isSpecial then Host.parse hostText else Host.parsePlain hostText
  if host.isEmpty ∧ (!rest.isEmpty ∨ username ≠ "" ∨ password.isSome) then throw .emptyHost
  let port ← portOf scheme ((rest.drop 1).takeWhile (· != '\\'))
  return ({ username, password, host, port }, rest.dropWhile (· != '\\'))

def endsPath (c : Char) : Bool := c == '?' || c == '#'

/-- Query and fragment, each with its mark in front. -/
def tailOf (kind : SchemeKind) (cs : List Char) : Option String × Option String :=
  let querySet := if kind.isSpecial then Percent.specialQuerySet else Percent.querySet
  let fragment (cs : List Char) : Option String :=
    match cs with
    | '#' :: rest => some (Percent.encodeText Percent.fragmentSet rest)
    | _ => none
  match cs with
  | '?' :: rest =>
    (some (Percent.encodeText querySet (rest.takeWhile (· != '#'))),
      fragment (rest.dropWhile (· != '#')))
  | cs => (none, fragment cs)

/-- A URL with an authority behind two slashes. -/
def withAuthority (scheme : String) (kind : SchemeKind) (cs : List Char) : Except UrlError Url := do
  let rest := cs.dropWhile fun c => !kind.endsAuthority c
  let (authority, left) ← authorityOf scheme kind (!rest.isEmpty)
    (cs.takeWhile fun c => !kind.endsAuthority c)
  let path := pathOf kind (left ++ rest.takeWhile fun c => !endsPath c)
  let (query, fragment) := tailOf kind (rest.dropWhile fun c => !endsPath c)
  return { scheme, authority := some authority, path, query, fragment }

def withoutAuthority (scheme : String) (cs : List Char) : Url :=
  let path := match cs.takeWhile fun c => !endsPath c with
    | '/' :: rest => UrlPath.segments (segmentsOf .other rest)
    | path => .plain (Percent.encodeText [] path)
  let (query, fragment) := tailOf .other (cs.dropWhile fun c => !endsPath c)
  { scheme, path, query, fragment }

def ofFile (raw : List Char) : Except UrlError Url := do
  let (host, path) ← ofFilePath (raw.takeWhile (!endsPath ·))
  let (query, fragment) := tailOf .file (withoutBreaks (raw.dropWhile (!endsPath ·)))
  return { scheme := "file", authority := some { host }, path, query, fragment }

/-- The URL of a text that needs no other URL to be understood. -/
def parse (s : String) : Except UrlError Url :=
  let raw := trimmed s
  match scheme? (withoutBreaks raw) with
  | none => .error .noBase
  | some (scheme, rest) =>
    match SchemeKind.of scheme with
    | .file => ofFile (behind (scheme.length + 1) raw)
    | .web => withAuthority scheme .web (rest.dropWhile SchemeKind.web.isSlash)
    | .other =>
      match rest with
      | '/' :: '/' :: rest => withAuthority scheme .other rest
      | rest => .ok (withoutAuthority scheme rest)

end DeviceRegistry.Url
