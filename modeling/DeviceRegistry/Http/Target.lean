import DeviceRegistry.Url.Scheme

/-! Targets of requests. A target is a path, a URL with a scheme and an authority in front of its
path, an authority alone, or a star; a query or a fragment may follow. -/
namespace DeviceRegistry.Http

/-- What stands behind the scheme and the two slashes of a URL. -/
def behindScheme? (target : List Char) : Option (List Char) :=
  match target.dropWhile Url.isSchemeChar with
  | ':' :: '/' :: '/' :: rest => some rest
  | _ => none

/-- The path of a target. A URL without a path has that of the root, an authority alone has none. -/
def targetPath (target : String) : String :=
  let upToQuery (cs : List Char) : List Char := cs.takeWhile fun c => c != '?' && c != '#'
  let cs := target.toList
  if cs.head? = some '/' ∨ cs = ['*'] then String.ofList (upToQuery cs)
  else
    match behindScheme? cs with
    | none => ""
    | some rest =>
      let path := upToQuery (rest.dropWhile (!Url.SchemeKind.other.endsAuthority ·))
      if path.isEmpty then "/" else String.ofList path

end DeviceRegistry.Http
