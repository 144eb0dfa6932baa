import DeviceRegistry.Json.Reader

/-! Reading a text as a value of no particular kind. -/
namespace DeviceRegistry.Json.Reader

mutual

/-- A value; `fuel` bounds the number of values and brackets still to come. -/
def valueWithin : Nat → Reader Value
  | 0 => unfinished .value
  | fuel + 1 => do
    match ← found with
    | .null => return .null
    | .boolean b => return .boolean b
    | .number n => return .number n
    | .text s => return .text s
    | .list => drop; return .list (← itemsWithin fuel true [])
    | .object => drop; return .object (← membersWithin fuel true [])

def itemsWithin : Nat → Bool → List Value → Reader (List Value)
  | 0, _, _ => unfinished .list
  | fuel + 1, first, acc => do
    if ← anotherElement first then
      let v ← valueWithin fuel
      itemsWithin fuel false (v :: acc)
    else drop; return acc.reverse

def membersWithin : Nat → Bool → List (String × Value) → Reader (List (String × Value))
  | 0, _, _ => unfinished .object
  | fuel + 1, first, acc => do
    match ← nextName? first with
    | none => drop; return acc.reverse
    | some name =>
      colon
      let v ← valueWithin fuel
      membersWithin fuel false ((name, v) :: acc)

end

def value : Reader Value := fun input => valueWithin (2 * input.length + 1) input

end DeviceRegistry.Json.Reader

namespace DeviceRegistry.Json

def Value.parse? (input : Bytes) : Option Value := (read Reader.value input).toOption

end DeviceRegistry.Json
