import DeviceRegistry.Proofs.Json.Finite
import DeviceRegistry.Proofs.Message.RoundTrip

/-! Reading brings a text into normal form. A text may leave members out, repeat facts, number what has
a name, and write numbers and escapes in many ways; what is written for the value that it is read as is
read as that same value. -/
namespace DeviceRegistry
open Json

namespace Location

/-- Coordinates that are read are finite, whatever the text. -/
theorem read_finite : Gives shape.read IsFinite := by
  refine Shape.read_gives ⟨⟨by decide, by decide⟩, ?_⟩
  simp only [shape, List.forall_mem_cons]
  refine ⟨?_, ?_, nofun⟩
  · exact Reader.real_finite.bind fun x finite => .pure fun l h => ⟨finite, h.2⟩
  · exact Reader.real_finite.bind fun x finite => .pure fun l h => ⟨h.1, finite⟩

end Location

theorem ClaimRequest.read_finite : Gives shape.read IsFinite := by
  refine Shape.read_gives ⟨nofun, ?_⟩
  simp only [shape, List.forall_mem_cons]
  have same {α : Type} {r : Reader α} {f : α → ClaimRequest → ClaimRequest}
      (location : ∀ a q, (f a q).location = q.location) :
      Gives (do let a ← r; return f a) fun change => ∀ q, IsFinite q → IsFinite (change q) := by
    refine .after _ fun a => .pure fun q h => ?_
    rw [IsFinite, location]
    exact h
  refine ⟨same fun _ _ => rfl, same fun _ _ => rfl, ?_, same fun _ _ => rfl, same fun _ _ => rfl, nofun⟩
  exact (Reader.nullable_gives Location.read_finite).bind fun l finite => .pure fun _ _ => finite

/-- What is sent or received as a text. -/
inductive Wire where
  | claimRequest | claimResponse | revokeRequest | revokeResponse | location | problem | disposition
deriving DecidableEq

namespace Wire

def Content : Wire → Type
  | claimRequest => ClaimRequest
  | claimResponse => ClaimResponse
  | revokeRequest => RevokeRequest
  | revokeResponse => RevokeResponse
  | location => Location
  | problem => Problem
  | disposition => Disposition

def reader : (w : Wire) → Reader w.Content
  | claimRequest => ClaimRequest.shape.read
  | claimResponse => ClaimResponse.shape.read
  | revokeRequest => RevokeRequest.shape.read
  | revokeResponse => RevokeResponse.shape.read
  | location => Location.shape.read
  | problem => Problem.shape.read
  | disposition => Disposition.read

def toJson : (w : Wire) → w.Content → Value
  | claimRequest => ClaimRequest.toJson
  | claimResponse => ClaimResponse.toJson
  | revokeRequest => RevokeRequest.toJson
  | revokeResponse => RevokeResponse.toJson
  | location => Location.toJson
  | problem => Problem.toJson
  | disposition => Disposition.toJson

/-- The coordinates, where there are any, are finite. -/
def IsFinite : (w : Wire) → w.Content → Prop
  | claimRequest, r => ClaimRequest.IsFinite r
  | location, l => Location.IsFinite l
  | _, _ => True

variable (w : Wire)

def decode (text : Bytes) : Except Failure w.Content := read w.reader text

def encode (content : w.Content) : Bytes := (w.toJson content).write

/-- The text in normal form, if it can be read. -/
def normal (text : Bytes) : Except Failure Bytes := w.encode <$> w.decode text

variable {w}

theorem decode_encode {content : w.Content} (finite : w.IsFinite content) :
    w.decode (w.encode content) = .ok content := by
  cases w with
  | claimRequest => exact (ClaimRequest.reads finite).read
  | claimResponse => exact (ClaimResponse.reads content).read
  | revokeRequest => exact (RevokeRequest.reads content).read
  | revokeResponse => exact (RevokeResponse.reads content).read
  | location => exact (Location.reads finite).read
  | problem => exact (Problem.reads content).read
  | disposition => exact (Disposition.reads content).read

theorem decode_finite {text : Bytes} {content : w.Content} (decoded : w.decode text = .ok content) :
    w.IsFinite content := by
  cases w with
  | claimRequest => exact ClaimRequest.read_finite.read decoded
  | location => exact Location.read_finite.read decoded
  | claimResponse | revokeRequest | revokeResponse | problem | disposition => trivial

/-- Whatever a text is read as, is written as a text that is read as the same; to bring that text into
normal form changes nothing. So is every value with finite coordinates, whatever else it holds. -/
theorem encode_normalises (w : Wire) :
    (∀ text content, w.decode text = .ok content →
      w.decode (w.encode content) = .ok content) ∧
    (∀ text normal, w.normal text = .ok normal → w.normal normal = .ok normal) ∧
    (∀ content, w.IsFinite content → w.decode (w.encode content) = .ok content) := by
  have again : ∀ text content, w.decode text = .ok content →
      w.decode (w.encode content) = .ok content :=
    fun text content decoded => decode_encode (decode_finite decoded)
  refine ⟨again, fun text normal brought => ?_, fun content => decode_encode⟩
  rw [Wire.normal] at brought ⊢
  cases decoded : w.decode text with
  | ok content =>
    rw [decoded] at brought
    cases brought
    rw [again text content decoded]
    rfl
  | error failure =>
    rw [decoded] at brought
    contradiction

/-- A claim with a number for its disposition, a list for its location, a negative zero, a whole number,
an escape that is not needed, a member that nobody knows, and without a token. -/
def looseClaim : Bytes := Bytes.ofText
  "\x7b\"disposition\": 1, \"location\": [-0, 7], \"user_uid\": \"\\u0061lice\", \"more\": null\x7d"

def outdoorClaim : ClaimRequest where
  userUid := "alice"
  location := some ⟨Binary64.zero.neg, .ofNat 7⟩
  disposition := .outdoor

def tidyClaim : String :=
  "\x7b\"device_token\":\"\",\"user_uid\":\"alice\"," ++
    "\"location\":\x7b\"longitude\":-0.0,\"latitude\":7.0\x7d," ++
    "\"disposition\":\"OUTDOOR\",\"broker\":\"\"\x7d"

theorem encode_normalises_looseClaim :
    claimRequest.decode looseClaim = .ok outdoorClaim ∧
    claimRequest.encode outdoorClaim = Bytes.ofText tidyClaim ∧
    claimRequest.decode (claimRequest.encode outdoorClaim) = .ok outdoorClaim ∧
    claimRequest.normal looseClaim = .ok (Bytes.ofText tidyClaim) ∧
    claimRequest.normal (Bytes.ofText tidyClaim) = .ok (Bytes.ofText tidyClaim) ∧
    location.IsFinite ⟨Binary64.zero.neg, .ofNat 7⟩ ∧
    location.decode (location.encode ⟨Binary64.zero.neg, .ofNat 7⟩) =
      .ok ⟨Binary64.zero.neg, .ofNat 7⟩ := by
  have decoded : claimRequest.decode looseClaim = .ok outdoorClaim := by
    show read ClaimRequest.shape.read looseClaim = .ok outdoorClaim
    decide +kernel
  have tidy : claimRequest.encode outdoorClaim = Bytes.ofText tidyClaim := by decide +kernel
  have normal : claimRequest.normal looseClaim = .ok (Bytes.ofText tidyClaim) := by
    rw [Wire.normal, decoded, ← tidy]
    rfl
  have finite : location.IsFinite ⟨Binary64.zero.neg, .ofNat 7⟩ := by
    show Binary64.isFinite _ = true ∧ Binary64.isFinite _ = true
    decide +kernel
  obtain ⟨again, normalAgain, -⟩ := encode_normalises claimRequest
  obtain ⟨-, -, whole⟩ := encode_normalises location
  exact ⟨decoded, tidy, again _ _ decoded, normal, normalAgain _ _ normal, finite, whole _ finite⟩

end Wire
end DeviceRegistry
