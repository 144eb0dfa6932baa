import DeviceRegistry.Json.Record

/-! Where a device stands: its coordinates in degrees and whether it is indoors. -/
namespace DeviceRegistry

inductive Disposition where
  | indoor | outdoor
deriving DecidableEq, Inhabited

namespace Disposition

/-- The lower-case word for people. -/
def word : Disposition → String
  | indoor => "indoor"
  | outdoor => "outdoor"

/-- The name in messages and rows. -/
def wireName : Disposition → String
  | indoor => "INDOOR"
  | outdoor => "OUTDOOR"

def known : List (String × Disposition) := [indoor, outdoor].map fun d => (d.wireName, d)

def expectation : String := "\"INDOOR\", \"OUTDOOR\", 0 or 1"

/-- A name, or its place in the list of names. -/
def read : Json.Reader Disposition := do
  match ← Json.Reader.found with
  | .text s =>
    match known.find? (·.1 == s) with
    | some (_, d) => return d
    | none => Json.Reader.mismatch (.unknownVariant s (known.map (·.1)))
  | .number (.unsigned 0) => return indoor
  | .number (.unsigned 1) => return outdoor
  | .number (.real x) => Json.Reader.mismatch (.wrongType (.number (.real x)) expectation)
  | .number n => Json.Reader.mismatch (.wrongValue (.number n) expectation)
  | .list => Json.Reader.drop; Json.Reader.refuseList (.wrongType .list expectation)
  | .object => Json.Reader.drop; Json.Reader.refuseObject (.wrongType .object expectation)
  | other => Json.Reader.mismatch (.wrongType other expectation)

def toJson (d : Disposition) : Json.Value := .text d.wireName

end Disposition

structure Location where
  longitude : Binary64 := .zero
  latitude : Binary64 := .zero
deriving DecidableEq, Inhabited

namespace Location

def shape : Json.Shape Location where
  title := "struct Location"
  initial := {}
  members := [
    ⟨"longitude", false, do let x ← Json.Reader.real; return fun l => { l with longitude := x }⟩,
    ⟨"latitude", false, do let x ← Json.Reader.real; return fun l => { l with latitude := x }⟩]

def toJson (l : Location) : Json.Value :=
  .object [("longitude", .real l.longitude), ("latitude", .real l.latitude)]

end Location
end DeviceRegistry
