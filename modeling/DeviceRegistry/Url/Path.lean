import DeviceRegistry.Url.Basic
import DeviceRegistry.Url.Scheme

/-! Paths of URLs. Dot segments are followed when a path is read; the names of volumes are never
left by way of them. -/
namespace DeviceRegistry.Url

/-- A segment that means its own directory. -/
def isSingleDot (segment : List Char) : Bool :=
  let s := String.ofList (segment.map Char.toLower)
  s == "." || s == "%2e"

/-- A segment that means the directory above. -/
def isDoubleDot (segment : List Char) : Bool :=
  let s := String.ofList (segment.map Char.toLower)
  s == ".." || s == ".%2e" || s == "%2e." || s == "%2e%2e"

/-- A letter with a colon or a bar behind it, which stands for a volume in the URL of a file. -/
def isVolume : List Char → Bool
  | [c, d] => c.isAlpha && (d == ':' || d == '|')
  | _ => false

/-- The segment is called like a volume, perhaps with a backslash and more behind. -/
def startsWithVolume (segment : List Char) : Bool :=
  isVolume (segment.take 2) && (segment.drop 2).head?.all (· == '\\')

/-- The segments, of which the last stands first, of the directory above. -/
def parentSegments : List String → List String
  | [] => []
  | a :: rest => if startsWithVolume a.toList then a :: rest else rest

/-- Where a dot segment leads from the directory of the given segments, the last of which stands
first. -/
def dotTarget? (segment : List Char) (done : List String) : Option (List String) :=
  if isDoubleDot segment then some (parentSegments done)
  else if isSingleDot segment then some done
  else none

/-- Adds segments to those so far, which stand last first. A dot segment at the end leaves an
empty one. -/
def addSegments : List (List Char) → List String → List String
  | [], done => done
  | segment :: rest, done =>
    match dotTarget? segment done with
    | some target => addSegments rest (if rest.isEmpty then "" :: target else target)
    | none => addSegments rest (Percent.encodeText Percent.pathSet segment :: done)

/-- The segments of a path behind its first slash. -/
def segmentsOf (kind : SchemeKind) (cs : List Char) : List String :=
  (addSegments (cs.splitOnP kind.isSlash) []).reverse

/-- The path behind an authority. -/
def pathOf (kind : SchemeKind) (cs : List Char) : UrlPath :=
  match cs with
  | [] => .segments (if kind.isSpecial then [""] else [])
  | c :: rest => .segments (segmentsOf kind (if kind.isSlash c then rest else c :: rest))

end DeviceRegistry.Url
