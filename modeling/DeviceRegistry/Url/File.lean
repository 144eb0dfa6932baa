import DeviceRegistry.Url.Host
import DeviceRegistry.Url.Path
import DeviceRegistry.Url.Text

/-! URLs of files. The first segment of the path may name a volume, which then takes the place of
the host. The local host is left out. Tabs and line ends count for nothing here as anywhere in a
URL, except that one behind a volume stands in for the missing slash. -/
namespace DeviceRegistry.Url

/-- The path of a file while it is read: its segments, the last first, and whether the first is a
volume in place of the host. -/
structure FileTrail where
  segments : List String := []
  namesVolume : Bool := false
deriving DecidableEq

namespace FileTrail

/-- A volume, and what stands behind it where a break holds the place of a slash. -/
def splitVolume? (segment : List Char) : Option (String × List Char) :=
  let volume := (withoutBreaks segment).take 2
  let rest := behind 2 segment
  if isVolume volume && volume.getLast? == some ':' && rest.head?.any isBreak &&
      !(withoutBreaks rest).isEmpty then
    some (String.ofList volume, withoutBreaks rest)
  else none

/-- The trail with one more segment, which is not a dot segment. -/
def push (t : FileTrail) (raw : List Char) : FileTrail :=
  let segment := withoutBreaks raw
  let encoded (cs : List Char) : String := Percent.encodeText Percent.pathSet cs
  if !t.segments.isEmpty then { t with segments := encoded segment :: t.segments }
  else if isVolume segment then
    { segments := [String.ofList (segment.take 1 ++ [':'])], namesVolume := true }
  else
    match splitVolume? raw with
    | some (volume, rest) => { t with segments := [encoded rest, volume] }
    | none => { t with segments := [encoded segment] }

/-- Adds segments. A dot segment at the end leaves an empty one. -/
def add : List (List Char) → FileTrail → FileTrail
  | [], t => t
  | raw :: rest, t =>
    match dotTarget? (withoutBreaks raw) t.segments with
    | some target => add rest { t with segments := if rest.isEmpty then "" :: target else target }
    | none => add rest (t.push raw)

/-- The path, which does not begin with empty segments. -/
def path (t : FileTrail) : UrlPath :=
  let trimmed := t.segments.reverse.dropWhile (· == "")
  .segments (if trimmed.isEmpty then [""] else trimmed)

end FileTrail

/-- Where the host of a file's URL stands: its text, and how many characters lead up to the path
behind it. Nothing is a host that stands for a volume or is not behind two slashes. -/
def fileHost (cs : List Char) : List Char × Nat :=
  let isSlash := SchemeKind.file.isSlash
  match cs with
  | c :: d :: rest =>
    if isSlash c && isSlash d then
      let host := rest.takeWhile (!isSlash ·)
      if isVolume host then ([], 2) else (host, 2 + host.length)
    else ([], if isSlash c then 1 else 0)
  | [c] => ([], if isSlash c then 1 else 0)
  | [] => ([], 0)

/-- Host and path of a file, from the text between its scheme and its query. Behind a host the
path takes the slash for its own; without one the slash separates an empty first segment. -/
def ofFilePath (raw : List Char) : Except UrlError (Host × UrlPath) := do
  let (hostText, length) := fileHost (withoutBreaks raw)
  let host ← if hostText.isEmpty then pure (.name "") else Host.parse hostText
  let host := if host = .name "localhost" then .name "" else host
  let text := behind length raw
  let text := if host.isEmpty then text else behind 1 text
  let trail := FileTrail.add (text.splitOnP SchemeKind.file.isSlash) {}
  return (if trail.namesVolume then .name "" else host, trail.path)

end DeviceRegistry.Url
