import DeviceRegistry.Proofs.Json.Members
import DeviceRegistry.Proofs.Message.Normal

/-! What a claim, a revoke or a location is read as depends on its known members alone: not on their
order or their spelling, not on what else stands there, and not on whether it is written as an object or
as a list. -/
namespace DeviceRegistry
open Json

namespace Json

/-- A slot that holds a text. -/
def Slot.text {α : Type} (name : String) (get : α → String) (set : String → α → α)
    (get_set : ∀ s a, get (set s a) = s) : Slot α :=
  ⟨name, String, Reader.text, (·.found?.bind Found.text?), looksAt_text.interprets, get, set, get_set⟩

/-- A slot that holds a coordinate. -/
def Slot.real {α : Type} (name : String) (get : α → Binary64) (set : Binary64 → α → α)
    (get_set : ∀ x a, get (set x a) = x) : Slot α :=
  ⟨name, Binary64, Reader.real, (·.found?.bind Found.real?), looksAt_real.interprets, get, set, get_set⟩

end Json

namespace Disposition

/-- The disposition that a text names, or a number stands for. -/
def ofFound? : Found → Option Disposition
  | .text s => (known.find? (·.1 == s)).map (·.2)
  | .number (.unsigned 0) => some indoor
  | .number (.unsigned 1) => some outdoor
  | _ => none

theorem looksAt : LooksAt read ofFound? := by
  refine ⟨⟨_, rfl, fun x rest => ?_⟩, rfl, rfl⟩
  cases x with
  | text s =>
    cases named : known.find? (·.1 == s) with
    | none => simp only [ofFound?, named]; exact ⟨_, _, rfl⟩
    | some d => simp only [ofFound?, named]; rfl
  | number n =>
    cases n with
    | unsigned m =>
      by_cases zero : m = 0
      · subst zero
        rfl
      · by_cases one : m = 1
        · subst one
          rfl
        · have refused : Decides
              ((Reader.mismatch (.wrongValue (.number (.unsigned m)) expectation) : Reader Disposition)
                rest) none rest := ⟨_, _, rfl⟩
          simpa [ofFound?, zero, one] using refused
    | negative => exact ⟨_, _, rfl⟩
    | real => exact ⟨_, _, rfl⟩
  | _ => exact ⟨_, _, rfl⟩

end Disposition

namespace Location

def slots : List (Slot Location) := [
  .real "longitude" (·.longitude) (fun x l => { l with longitude := x }) fun _ _ => rfl,
  .real "latitude" (·.latitude) (fun x l => { l with latitude := x }) fun _ _ => rfl]

theorem slots_apart : slots.Pairwise Slot.Apart := by
  simp only [slots, List.pairwise_cons, List.forall_mem_cons]
  exact ⟨⟨⟨by decide, fun _ _ => rfl, fun _ _ => rfl⟩, nofun⟩, nofun, .nil⟩

theorem slots_ext (a b : Location) (same : ∀ f ∈ slots, f.get a = f.get b) : a = b := by
  simp only [slots, List.forall_mem_cons] at same
  obtain ⟨longitude, latitude, -⟩ := same
  cases a
  cases b
  cases longitude
  cases latitude
  rfl

def form : Form Location := ⟨{}, slots, slots_apart, slots_ext⟩

theorem has_form : shape.Has form := ⟨rfl, rfl⟩

end Location

namespace RevokeRequest

def slots : List (Slot RevokeRequest) := [
  .text "device_token" (·.deviceToken) (fun s r => { r with deviceToken := s }) fun _ _ => rfl,
  .text "user_public_key" (·.userPublicKey) (fun s r => { r with userPublicKey := s })
    fun _ _ => rfl]

theorem slots_apart : slots.Pairwise Slot.Apart := by
  simp only [slots, List.pairwise_cons, List.forall_mem_cons]
  exact ⟨⟨⟨by decide, fun _ _ => rfl, fun _ _ => rfl⟩, nofun⟩, nofun, .nil⟩

theorem slots_ext (a b : RevokeRequest) (same : ∀ f ∈ slots, f.get a = f.get b) : a = b := by
  simp only [slots, List.forall_mem_cons] at same
  obtain ⟨token, key, -⟩ := same
  cases a
  cases b
  cases token
  cases key
  rfl

def form : Form RevokeRequest := ⟨{}, slots, slots_apart, slots_ext⟩

theorem has_form : shape.Has form := ⟨rfl, rfl⟩

end RevokeRequest

namespace ClaimRequest

def locationSlot : Slot ClaimRequest where
  name := "location"
  Value := Option Location
  read := Reader.nullable Location.shape.read
  meaning? := nullable? Location.form.meaning?
  interprets := Location.has_form.interprets.nullable
  get := (·.location)
  set l r := { r with location := l }
  get_set _ _ := rfl

def dispositionSlot : Slot ClaimRequest where
  name := "disposition"
  Value := Disposition
  read := Disposition.read
  meaning? := (·.found?.bind Disposition.ofFound?)
  interprets := Disposition.looksAt.interprets
  get := (·.disposition)
  set d r := { r with disposition := d }
  get_set _ _ := rfl

def slots : List (Slot ClaimRequest) := [
  .text "device_token" (·.deviceToken) (fun s r => { r with deviceToken := s }) fun _ _ => rfl,
  .text "user_uid" (·.userUid) (fun s r => { r with userUid := s }) fun _ _ => rfl,
  locationSlot, dispositionSlot,
  .text "broker" (·.broker) (fun s r => { r with broker := s }) fun _ _ => rfl]

theorem slots_apart : slots.Pairwise Slot.Apart := by
  simp only [slots, List.pairwise_cons, List.forall_mem_cons]
  refine ⟨⟨?_, ?_, ?_, ?_, nofun⟩, ⟨?_, ?_, ?_, nofun⟩, ⟨?_, ?_, nofun⟩, ⟨?_, nofun⟩, nofun,
    .nil⟩ <;>
    exact ⟨by decide, fun _ _ => rfl, fun _ _ => rfl⟩

theorem slots_ext (a b : ClaimRequest) (same : ∀ f ∈ slots, f.get a = f.get b) : a = b := by
  simp only [slots, List.forall_mem_cons] at same
  obtain ⟨token, uid, location, disposition, broker, -⟩ := same
  cases a
  cases b
  cases token
  cases uid
  cases location
  cases disposition
  cases broker
  rfl

def form : Form ClaimRequest := ⟨{}, slots, slots_apart, slots_ext⟩

theorem has_form : shape.Has form := ⟨rfl, rfl⟩

theorem locationSlot_mem : locationSlot ∈ form.slots :=
  .tail _ (.tail _ (.head _))

end ClaimRequest

/-- The messages of which every member may be left out. -/
inductive Lenient where
  | claim | revoke | location
deriving DecidableEq

namespace Lenient

def wire : Lenient → Wire
  | claim => .claimRequest
  | revoke => .revokeRequest
  | location => .location

def form : (k : Lenient) → Form k.wire.Content
  | claim => ClaimRequest.form
  | revoke => RevokeRequest.form
  | location => Location.form

/-- The known names, in the order of their declaration. -/
def names : Lenient → List String
  | claim => ["device_token", "user_uid", "location", "disposition", "broker"]
  | revoke => ["device_token", "user_public_key"]
  | location => ["longitude", "latitude"]

/-- The message of which every member was left out. -/
def zero : (k : Lenient) → k.wire.Content
  | claim => (⟨"", "", none, .indoor, ""⟩ : ClaimRequest)
  | revoke => (⟨"", ""⟩ : RevokeRequest)
  | location => (⟨.zero, .zero⟩ : Location)

theorem names_eq (k : Lenient) : k.names = k.form.slots.map (·.name) := by cases k <;> rfl

theorem zero_eq (k : Lenient) : k.zero = k.form.initial := by cases k <;> rfl

/-- Trees that tell the same message. -/
inductive Alike : Lenient → Tree → Tree → Prop where
  | refl (k : Lenient) (v : Tree) : Alike k v v
  | symm {k : Lenient} {v v' : Tree} (h : Alike k v v') : Alike k v' v
  | trans {k : Lenient} {v v' v'' : Tree} (h : Alike k v v') (h' : Alike k v' v'') : Alike k v v''
  | permuted {k : Lenient} {ms ms' : List (List Nat × Tree)} (perm : ms.Perm ms') :
      Alike k (.object ms) (.object ms')
  | added {k : Lenient} {us : List Nat} {name : String} (named : string? us = some name)
      (other : name ∉ k.names) (v : Tree) (ms : List (List Nat × Tree)) :
      Alike k (.object ms) (.object ((us, v) :: ms))
  | noLocation {us : List Nat} (named : string? us = some "location")
      {ms : List (List Nat × Tree)} (absent : ∀ m ∈ ms, string? m.1 ≠ some "location") :
      Alike claim (.object ms) (.object ((us, .null) :: ms))
  | listed {k : Lenient} {vs : List Tree} (few : vs.length ≤ k.names.length) :
      Alike k (.list vs) (.object ((k.names.map units).zip vs))
  | inside {us : List Nat} (named : string? us = some "location") {v v' : Tree}
      (h : Alike location v v') (ms : List (List Nat × Tree)) :
      Alike claim (.object ((us, v) :: ms)) (.object ((us, v') :: ms))

/-- A known name stands there twice, in the message or in its location. -/
inductive Repeats : Lenient → Tree → Prop where
  | here {k : Lenient} {ms : List (List Nat × Tree)} {m m' : List Nat × Tree} {name : String}
      (known : name ∈ k.names) (twice : [m, m'].Sublist ms) (named : string? m.1 = some name)
      (named' : string? m'.1 = some name) : Repeats k (.object ms)
  | inObject {ms : List (List Nat × Tree)} {us : List Nat} {v : Tree} (there : (us, v) ∈ ms)
      (named : string? us = some "location") (inside : Repeats location v) :
      Repeats claim (.object ms)
  | inList {vs : List Tree} {v : Tree} (third : vs[2]? = some v) (inside : Repeats location v) :
      Repeats claim (.list vs)

theorem decode_eq_ok (k : Lenient) {w : Bytes} {v : Tree} (tells : Tells w v)
    (content : k.wire.Content) :
    k.wire.decode w = .ok content ↔ k.form.meaning? v = some content := by
  have read : (k.wire.decode w).toOption = k.form.meaning? v := by
    cases k with
    | claim => exact ClaimRequest.has_form.interprets.read tells
    | revoke => exact RevokeRequest.has_form.interprets.read tells
    | location => exact Location.has_form.interprets.read tells
  rw [← read]
  cases k.wire.decode w <;> simp [Except.toOption]

theorem exists_slot {k : Lenient} {name : String} (known : name ∈ k.names) :
    ∃ f ∈ k.form.slots, f.name = name := by
  rw [names_eq] at known
  exact List.mem_map.1 known

theorem Alike.null_iff {k : Lenient} {v v' : Tree} (h : Alike k v v') : v = .null ↔ v' = .null := by
  induction h with
  | refl => rfl
  | symm _ ih => exact ih.symm
  | trans _ _ ih ih' => exact ih.trans ih'
  | _ => exact ⟨nofun, nofun⟩

theorem Alike.meaning?_eq {k : Lenient} {v v' : Tree} (h : Alike k v v') :
    k.form.meaning? v = k.form.meaning? v' := by
  induction h with
  | refl => rfl
  | symm _ ih => exact ih.symm
  | trans _ _ ih ih' => exact ih.trans ih'
  | permuted perm => exact Form.object?_perm perm
  | @added k us name named other v ms =>
    refine (Form.object?_added named (fun f there same => other ?_) v).symm
    rw [names_eq, ← same]
    exact List.mem_map_of_mem there
  | @noLocation us named ms absent =>
    have none : valuesOf "location" ms = [] :=
      List.filterMap_eq_nil_iff.2 fun m there => if_neg (absent m there)
    exact (Form.object?_initial ClaimRequest.locationSlot_mem named none rfl).symm
  | @listed k vs few =>
    have same : (k.names.map units).zip vs = Form.named k.form.slots vs := by
      rw [names_eq, List.map_map, Form.named, List.zip, List.zipWith_map_left]
      rfl
    have few : vs.length ≤ k.form.slots.length := by simpa [names_eq] using few
    rw [same]
    exact if_pos few
  | @inside us named v v' h ms ih =>
    refine Form.object?_inside ClaimRequest.locationSlot_mem named ?_
    exact nullable?_congr h.null_iff ih

theorem Repeats.not_null {k : Lenient} {v : Tree} (h : Repeats k v) : v ≠ .null := by
  cases h <;> exact nofun

theorem Repeats.meaning?_eq_none {k : Lenient} {v : Tree} (h : Repeats k v) :
    k.form.meaning? v = none := by
  induction h with
  | here known twice named named' =>
    obtain ⟨f, there, rfl⟩ := exists_slot known
    exact Form.object?_twice there twice named named'
  | @inObject ms us v there named inside ih =>
    exact Form.object?_meaningless ClaimRequest.locationSlot_mem named
      (nullable?_none inside.not_null ih) there
  | @inList vs v third inside ih =>
    have there : (units "location", v) ∈ Form.named ClaimRequest.form.slots vs := by
      match vs, third with
      | _ :: _ :: _ :: _, rfl => exact .tail _ (.tail _ (.head _))
    exact Form.meaning?_list_none <| Form.object?_meaningless ClaimRequest.locationSlot_mem
      (string?_units "location") (nullable?_none inside.not_null ih) there

/-- What a message is read as depends on its known members alone. Trees that tell the same are read
alike, however they are spelled; a member that is left out holds its zero value and the others what they
held; nothing with a repeated name is read; and a location means in a claim what it means alone. -/
theorem decode_knownMembers (k : Lenient) :
    (∀ v v' w w', k.Alike v v' → Tells w v → Tells w' v' →
      ∀ content, k.wire.decode w = .ok content ↔ k.wire.decode w' = .ok content) ∧
    (∀ ms ms' w w' content, ms'.Sublist ms → Tells w (.object ms) → Tells w' (.object ms') →
      k.wire.decode w = .ok content →
      ∃ content', k.wire.decode w' = .ok content' ∧ ∀ f ∈ k.form.slots,
        f.get content' = if valuesOf f.name ms' = [] then f.get k.zero else f.get content) ∧
    (∀ v w, k.Repeats v → Tells w v → ∃ failure, k.wire.decode w = .error failure) ∧
    (∀ ms us v w w' (r : ClaimRequest), Tells w (.object ms) → (us, v) ∈ ms →
      string? us = some "location" → v ≠ .null → Tells w' v → Wire.claimRequest.decode w = .ok r →
      ∃ l : Location, Wire.location.decode w' = .ok l ∧ r.location = some l) := by
  refine ⟨fun v v' w w' alike tells tells' content => ?_,
    fun ms ms' w w' content fewer tells tells' decoded => ?_, fun v w repeats tells => ?_,
    fun ms us v w w' r tells there named given tells' decoded => ?_⟩
  · rw [k.decode_eq_ok tells, k.decode_eq_ok tells', alike.meaning?_eq]
  · have told := (k.decode_eq_ok tells content).1 decoded
    obtain ⟨content', told, values⟩ := Form.object?_sublist told fewer
    refine ⟨content', (k.decode_eq_ok tells' content').2 told, fun f there => ?_⟩
    rw [values f there, zero_eq]
  · cases decoded : k.wire.decode w with
    | error failure => exact ⟨failure, rfl⟩
    | ok content =>
      have meaning := (k.decode_eq_ok tells content).1 decoded
      rw [repeats.meaning?_eq_none] at meaning
      contradiction
  · have told : ClaimRequest.form.object? ms = some r := (claim.decode_eq_ok tells r).1 decoded
    have value := (Form.object?_eq_some.1 told).value ClaimRequest.locationSlot_mem there named
    have value : nullable? Location.form.meaning? v = some r.location := value
    rw [nullable?_some given] at value
    obtain ⟨l, meaning, same⟩ := Option.map_eq_some_iff.1 value
    exact ⟨l, (location.decode_eq_ok tells' l).2 meaning, same.symm⟩

section Texts

def seven : Tree := .numeral ⟨false, ['7'], [], none⟩

theorem spells_seven : Spells (.value seven) [0x37] := by
  have whole : Binary64.IsWhole ['7'] := ⟨by decide, by simp, by simp⟩
  exact .numeral (n := ⟨false, ['7'], [], none⟩) ⟨whole, nofun, nofun⟩

theorem spells_listed : Spells (.value (.list [seven])) [0x5b, 0x37, 0x5d] :=
  .list <| .item isBlanks_nil isBlanks_nil spells_seven <| .listEnd isBlanks_nil

theorem spells_longitude : SpellsText (units "longitude") (Bytes.ofText "longitude") :=
  spellsText_plain (by decide)

theorem spells_location : SpellsText (units "location") (Bytes.ofText "location") :=
  spellsText_plain (by decide)

theorem isBlanks_space : IsBlanks [0x20] := by
  rw [IsBlanks, List.forall_mem_singleton]
  rfl

/-- A claim with blanks, a nested value under a name that nobody knows, an escape that is not needed,
and its location in list form. -/
def spacedClaim : Bytes := Bytes.ofText
  " \x7b \"more\" : [ null ] , \"\\u006cocation\" : [7]\x7d"

theorem tells_spacedClaim :
    Tells spacedClaim (.object [(units "more", .list [.null]), (units "location", .list [seven])]) := by
  have more : SpellsText (units "more") (Bytes.ofText "more") := spellsText_plain (by decide)
  have ocation : SpellsText (units "ocation") (Bytes.ofText "ocation") := spellsText_plain (by decide)
  have location : SpellsText (units "location") (Bytes.ofText "\\u006cocation") :=
    .code (n := 0x6c) (by decide) ocation
  have nested := Spells.list (.item isBlanks_nil isBlanks_space .null (.listEnd isBlanks_space))
  have last : Spells (.members false [_]) _ := .member isBlanks_space isBlanks_space location
    isBlanks_space isBlanks_space spells_listed (.objectEnd isBlanks_nil)
  have all := Spells.object (.member isBlanks_nil isBlanks_space more isBlanks_space isBlanks_space
    nested last)
  exact ⟨[0x20], _, [], isBlanks_space, all, isBlanks_nil, by rfl⟩

/-- A claim with its location in object form. -/
def plainClaim : Bytes := Bytes.ofText "\x7b\"location\":\x7b\"longitude\":7\x7d\x7d"

theorem tells_plainClaim :
    Tells plainClaim (.object [(units "location", .object [(units "longitude", seven)])]) := by
  have place := Spells.object (.member isBlanks_nil isBlanks_nil spells_longitude isBlanks_nil
    isBlanks_nil spells_seven (.objectEnd isBlanks_nil))
  have all := Spells.object (.member isBlanks_nil isBlanks_nil spells_location isBlanks_nil
    isBlanks_nil place (.objectEnd isBlanks_nil))
  exact ⟨[], _, [], isBlanks_nil, all, isBlanks_nil, by rfl⟩

def repeatedClaim : Bytes := Bytes.ofText
  "\x7b\"location\":\x7b\"longitude\":7,\"longitude\":7\x7d\x7d"

def sevenTwice : Tree := .object [(units "longitude", seven), (units "longitude", seven)]

theorem tells_repeatedClaim :
    Tells repeatedClaim (.object [(units "location", sevenTwice)]) := by
  have again : Spells (.members false [_]) _ := .member isBlanks_nil isBlanks_nil spells_longitude
    isBlanks_nil isBlanks_nil spells_seven (.objectEnd isBlanks_nil)
  have place := Spells.object (.member isBlanks_nil isBlanks_nil spells_longitude isBlanks_nil
    isBlanks_nil spells_seven again)
  have all := Spells.object (.member isBlanks_nil isBlanks_nil spells_location isBlanks_nil
    isBlanks_nil place (.objectEnd isBlanks_nil))
  exact ⟨[], _, [], isBlanks_nil, all, isBlanks_nil, by rfl⟩

end Texts

def sevenEast : ClaimRequest where
  location := some ⟨.ofNat 7, .zero⟩

theorem decode_knownMembers_sevenEast :
    Wire.claimRequest.decode spacedClaim = .ok sevenEast ∧
    Wire.claimRequest.decode plainClaim = .ok sevenEast ∧
    (∃ r : ClaimRequest, Wire.claimRequest.decode (Bytes.ofText "\x7b\x7d") = .ok r ∧
      r.location = none) ∧
    (∃ failure, Wire.claimRequest.decode repeatedClaim = .error failure) ∧
    ∃ l : Location, Wire.location.decode (Bytes.ofText "[7]") = .ok l ∧
      sevenEast.location = some l := by
  obtain ⟨alike, fewer, repeats, nested⟩ := decode_knownMembers claim
  have decoded : Wire.claimRequest.decode spacedClaim = .ok sevenEast := by
    show read ClaimRequest.shape.read spacedClaim = .ok sevenEast
    decide +kernel
  have same : claim.Alike
      (.object [(units "more", .list [.null]), (units "location", .list [seven])])
      (.object [(units "location", .object [(units "longitude", seven)])]) :=
    .trans (.symm (.added (string?_units "more") (by decide) _ _))
      (.inside (string?_units "location") (.listed (k := location) (by decide)) _)
  have plain := (alike _ _ _ _ same tells_spacedClaim tells_plainClaim sevenEast).1 decoded
  have empty : Tells (Bytes.ofText "\x7b\x7d") (.object []) :=
    ⟨[], _, [], isBlanks_nil, .object (.objectEnd isBlanks_nil), isBlanks_nil, by rfl⟩
  obtain ⟨r, left, values⟩ := fewer _ [] _ _ _ (List.nil_sublist _) tells_plainClaim empty plain
  have twice : claim.Repeats (.object [(units "location", sevenTwice)]) :=
    .inObject (List.mem_singleton.2 rfl) (string?_units "location")
      (.here (by decide) (.refl _) (string?_units "longitude") (string?_units "longitude"))
  have listed : Tells (Bytes.ofText "[7]") (.list [seven]) :=
    ⟨[], _, [], isBlanks_nil, spells_listed, isBlanks_nil, by rfl⟩
  exact ⟨decoded, plain, ⟨r, left, values _ ClaimRequest.locationSlot_mem⟩,
    repeats _ _ twice tells_repeatedClaim,
    nested _ _ _ _ _ _ tells_spacedClaim (.tail _ (.head _)) (string?_units "location") nofun listed
      decoded⟩

end Lenient
end DeviceRegistry
