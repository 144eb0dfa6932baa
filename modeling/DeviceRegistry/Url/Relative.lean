import DeviceRegistry.Url.File

/-! URLs made of another URL: with a path that is set anew, or by way of a path that starts where the
other one is. -/
namespace DeviceRegistry.Url

/-- The path of a text that is set as a whole. No mark ends it, so question marks and number signs are
part of it. -/
def settledPath (kind : SchemeKind) (text : String) : UrlPath :=
  match kind with
  | .file => (FileTrail.add ((text.toList.drop 1).splitOnP kind.isSlash) {}).path
  | _ => pathOf kind (withoutBreaks text.toList)

/-- The URL with another path; query and fragment stay. -/
def withPath (u : Url) (text : String) : Url :=
  match u.path with
  | .plain _ => { u with path := .plain (Percent.encodeText [] (withoutBreaks text.toList)) }
  | .segments _ => { u with path := settledPath (.of u.scheme) text }

/-- Where a path leads from the directory that this URL is in, which its last segment is not part of.
The path begins with the name of a segment. Query and fragment are left behind. -/
def follow (u : Url) (path : String) : Except UrlError Url :=
  match u.path with
  | .plain _ => .error .opaqueBase
  | .segments list =>
    let parts := (withoutBreaks path.toList).splitOnP (SchemeKind.of u.scheme).isSlash
    let segments := (addSegments parts list.dropLast.reverse).reverse
    .ok { u with path := .segments segments, query := none, fragment := none }

end DeviceRegistry.Url
