import DeviceRegistry.Encoder.Client
import DeviceRegistry.Proofs.Url.Path
import Mathlib.Data.List.Basic

/-! Where the methods of an encoder are called. Whatever URL of the web the encoder was given as,
its methods are below the path of that URL, at the same host and under the same name. -/
namespace DeviceRegistry.EncoderClient
open Url

variable {list : List String}

/-- The path with a slash at its end: its own, or one that is added. -/
def slashed (path : String) : String :=
  if path.toList.getLast? = some '/' then path else path ++ "/"

/-- The directory of a base is the base with the slash at the end of its path. -/
theorem exists_directory (client : EncoderClient) (web : SchemeKind.of client.base.scheme = .web)
    (held : client.base.path = .segments list)
    (settled : ∀ segment ∈ list, IsSettled .web segment) :
    ∃ front, (∀ segment ∈ front, IsSettled .web segment) ∧
      client.directory = { client.base with path := .segments (front ++ [""]) } ∧
      (UrlPath.segments (front ++ [""])).text = slashed client.base.path.text := by
  obtain ⟨⟨scheme, authority, path, query, fragment⟩⟩ := client
  obtain rfl : path = .segments list := held
  -- the path ends in a slash just when its last segment is empty, and is only then left alone
  by_cases ends : list.getLast? = some ""
  · obtain ⟨front, rfl⟩ := List.getLast?_eq_some_iff.1 ends
    have slash := (getLast?_text settled).2 ends
    refine ⟨front, fun segment listed => settled segment (List.mem_append_left _ listed), ?_, ?_⟩
    · exact if_pos slash
    · exact (if_pos slash).symm
  · have slash := mt (getLast?_text settled).1 ends
    refine ⟨list, settled, ?_, ?_⟩
    · rw [directory, if_neg slash]
      simp only [withPath, web, settledPath_slash settled]
    · rw [slashed, if_neg slash, ← String.toList_inj, toList_text, List.flatMap_append,
        String.toList_append, toList_text]
      rfl

/-- The segments that lead from the base to a method. -/
def names (method : EncoderMethod) : List String :=
  ["twirp", "decode.iot.encoder.Encoder", method.name]

theorem names_settled (method : EncoderMethod) :
    ∀ segment ∈ names method, IsSettled .web segment := by
  cases method <;> decide

theorem servicePath_split (method : EncoderMethod) :
    (withoutBreaks (servicePath ++ "/" ++ method.name).toList).splitOnP SchemeKind.web.isSlash =
      (names method).map String.toList := by
  cases method <;> decide

/-- From a directory the methods are found below it. -/
theorem follow_names {u : Url} {front : List String} (web : SchemeKind.of u.scheme = .web)
    (held : u.path = .segments (front ++ [""])) (method : EncoderMethod) :
    u.follow (servicePath ++ "/" ++ method.name) =
      .ok { u with
        path := .segments (front ++ names method), query := none, fragment := none } := by
  simp only [follow, held, web, servicePath_split, List.dropLast_concat,
    addSegments_of_settled _ (names_settled method), List.reverse_append, List.reverse_reverse]

/-- Each method of an encoder has an address: that of its base, with the name of the service and its
own behind the path, and without query and fragment. -/
theorem endpoint_below {s : String} {base : Url} (parsed : Url.parse s = .ok base)
    (web : base.scheme = "http" ∨ base.scheme = "https") (method : EncoderMethod) :
    ∃ url authority, endpoint ⟨base⟩ method = .ok url ∧
      url.scheme = base.scheme ∧
      base.authority = some authority ∧ url.authority = some authority ∧
      url.path.text = slashed base.path.text ++ "twirp/decode.iot.encoder.Encoder/" ++ method.name ∧
      url.query = none ∧ url.fragment = none ∧
      url.text = base.scheme ++ "://" ++ authority.text ++ url.path.text := by
  have kind : SchemeKind.of base.scheme = .web := by
    rcases web with same | same <;> rw [same] <;> decide
  obtain ⟨authorized, list, held, settled⟩ := parse_web parsed kind
  obtain ⟨authority, given⟩ := Option.isSome_iff_exists.1 authorized
  obtain ⟨front, -, same, text⟩ := exists_directory ⟨base⟩ kind held settled
  let path := UrlPath.segments (front ++ names method)
  have below : path.text = slashed base.path.text ++ "twirp/decode.iot.encoder.Encoder/" ++
      method.name := by
    rw [← text, ← String.toList_inj]
    simp only [path, names, String.toList_append, toList_text, List.flatMap_append]
    simp
  refine ⟨{ base with path, query := none, fragment := none }, authority, ?_, rfl, given, given,
    below, rfl, rfl, ?_⟩
  · rw [endpoint, same]
    exact follow_names (u := { base with path := .segments (front ++ [""]) }) kind rfl method
  · rw [← String.toList_inj]
    simp [Url.text, needsDot, given]

/-- An address and a base with credentials, a port, empty and encoded segments, query and fragment.
-/
theorem endpoint_below_cluttered :
    let clutter := "http://user:p%40ss@[::1]:8081/api//%7Ea?x=1#top"
    ∃ base url, Url.parse clutter = .ok base ∧ base.scheme = "http" ∧
      endpoint ⟨base⟩ .createStream = .ok url ∧
      url.path.text = "/api//%7Ea/twirp/decode.iot.encoder.Encoder/CreateStream" ∧
      url.text = "http://user:p%40ss@[::1]:8081" ++ url.path.text := by
  intro clutter
  let authority : Authority :=
    { username := "user", password := some "p%40ss", host := .ipv6 ⟨[0, 0, 0, 0, 0, 0, 0, 1], rfl⟩
      port := some 8081 }
  let base : Url :=
    { scheme := "http", authority := some authority, path := .segments ["api", "", "%7Ea"]
      query := some "x=1", fragment := some "top" }
  have parsed : Url.parse clutter = .ok base := by decide +kernel
  obtain ⟨url, held, found, -, given, -, below, -, -, text⟩ :=
    endpoint_below parsed (.inl rfl) .createStream
  obtain rfl : held = authority := Option.some.inj given.symm
  have origin : base.scheme ++ "://" ++ authority.text = "http://user:p%40ss@[::1]:8081" := by
    decide +kernel
  refine ⟨base, url, parsed, rfl, found, below.trans (by decide +kernel), ?_⟩
  rw [text, origin]

end DeviceRegistry.EncoderClient
