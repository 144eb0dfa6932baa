import DeviceRegistry.Proofs.Json.Interpretation
import Mathlib.Data.List.Pairwise

/-! A record of which every member may be left out is read as what the values under its names mean.
Neither the order of the members matters, nor what stands under other names. -/
namespace DeviceRegistry.Json
open Bytes

/-- The values under a name. -/
def valuesOf (name : String) (ms : List (List Nat × Tree)) : List Tree :=
  ms.filterMap fun m => if string? m.1 = some name then some m.2 else none

theorem valuesOf_append (name : String) (ms ms' : List (List Nat × Tree)) :
    valuesOf name (ms ++ ms') = valuesOf name ms ++ valuesOf name ms' :=
  List.filterMap_append

section Values

variable {name : String} {us : List Nat}

theorem valuesOf_named (named : string? us = some name) (v : Tree) (ms : List (List Nat × Tree)) :
    valuesOf name ((us, v) :: ms) = v :: valuesOf name ms :=
  List.filterMap_cons_some (if_pos named)

theorem valuesOf_other (other : string? us ≠ some name) (v : Tree) (ms : List (List Nat × Tree)) :
    valuesOf name ((us, v) :: ms) = valuesOf name ms :=
  List.filterMap_cons_none (if_neg other)

theorem valuesOf_append_named (named : string? us = some name) (v : Tree)
    (ms : List (List Nat × Tree)) : valuesOf name (ms ++ [(us, v)]) = valuesOf name ms ++ [v] := by
  rw [valuesOf_append, valuesOf_named named]
  rfl

theorem valuesOf_append_other (other : string? us ≠ some name) (v : Tree)
    (ms : List (List Nat × Tree)) : valuesOf name (ms ++ [(us, v)]) = valuesOf name ms := by
  rw [valuesOf_append, valuesOf_other other]
  exact List.append_nil _

/-- A text is another name than those it is not. -/
theorem other_name {name' : String} (named : string? us = some name) (other : name' ≠ name) :
    string? us ≠ some name' := by
  rw [named]
  exact fun same => other (Option.some.inj same).symm

end Values

/-- A member that may be left out: what its value means, and how the record holds it. -/
structure Slot (α : Type) where
  name : String
  Value : Type
  read : Reader Value
  meaning? : Tree → Option Value
  interprets : Interprets read meaning?
  get : α → Value
  set : Value → α → α
  get_set : ∀ x a, get (set x a) = x

namespace Slot

variable {α : Type}

def member (f : Slot α) : Member α := ⟨f.name, false, do let x ← f.read; return f.set x⟩

/-- Neither slot holds what the other one holds. -/
structure Apart (f g : Slot α) : Prop where
  name : f.name ≠ g.name
  left : ∀ x a, f.get (g.set x a) = f.get a
  right : ∀ x a, g.get (f.set x a) = g.get a

theorem Apart.symm {f g : Slot α} (h : f.Apart g) : g.Apart f := ⟨h.name.symm, h.right, h.left⟩

/-- What the values under the name tell: the initial value if there are none, and nothing if there are
several. -/
def told? (f : Slot α) (initial : α) : List Tree → Option f.Value
  | [] => some (f.get initial)
  | [v] => f.meaning? v
  | _ :: _ :: _ => none

/-- If the values tell something, each of them does. -/
theorem told?_mem {f : Slot α} {initial : α} {vs : List Tree} {x : f.Value}
    (told : f.told? initial vs = some x) {v : Tree} (there : v ∈ vs) : f.meaning? v = some x := by
  match vs, there with
  | [w], there =>
    obtain rfl := List.mem_singleton.1 there
    exact told
  | _ :: _ :: _, _ => cases told

theorem told?_several (f : Slot α) (initial : α) {vs : List Tree} (several : 2 ≤ vs.length) :
    f.told? initial vs = none := by
  match vs, several with
  | _ :: _ :: _, _ => rfl

theorem told?_perm (f : Slot α) (initial : α) {vs vs' : List Tree} (perm : vs.Perm vs') :
    f.told? initial vs = f.told? initial vs' := by
  match vs, perm with
  | [], perm => rw [perm.nil_eq]
  | [v], perm => rw [List.singleton_perm.1 perm]
  | v :: w :: vs, perm =>
    rw [f.told?_several initial (by simp), f.told?_several initial (by simp [← perm.length_eq])]

/-- Of values that tell something, fewer tell the same, or they are none. -/
theorem told?_sublist {f : Slot α} {initial : α} {vs vs' : List Tree} {x : f.Value}
    (told : f.told? initial vs = some x) (fewer : vs'.Sublist vs) :
    f.told? initial vs' = some (if vs' = [] then f.get initial else x) := by
  match vs, fewer with
  | [], fewer =>
    rw [List.sublist_nil.1 fewer]
    rfl
  | [v], fewer =>
    rcases List.sublist_cons_iff.1 fewer with none | ⟨later, rfl, none⟩
    · rw [List.sublist_nil.1 none]
      rfl
    · rw [List.sublist_nil.1 none]
      exact told

end Slot

/-- How a record is made up of slots that may all be left out. -/
structure Form (α : Type) where
  initial : α
  slots : List (Slot α)
  apart : slots.Pairwise Slot.Apart
  ext : ∀ a b, (∀ f ∈ slots, f.get a = f.get b) → a = b

namespace Form

variable {α : Type}

/-- The record with these values in its slots. -/
def filled? (tell : (f : Slot α) → Option f.Value) : List (Slot α) → α → Option α
  | [], a => some a
  | f :: slots, a => (tell f).bind fun x => filled? tell slots (f.set x a)

/-- The members that the elements of a list stand for. -/
def named (slots : List (Slot α)) (vs : List Tree) : List (List Nat × Tree) :=
  slots.zipWith (fun f v => (units f.name, v)) vs

variable (form : Form α)

/-- What the values under the names of an object tell. Every name has to be a text. -/
def object? (ms : List (List Nat × Tree)) : Option α :=
  if ∀ m ∈ ms, (string? m.1).isSome then
    filled? (fun f => f.told? form.initial (valuesOf f.name ms)) form.slots form.initial
  else none

def meaning? : Tree → Option α
  | .object ms => form.object? ms
  | .list vs => if vs.length ≤ form.slots.length then form.object? (named form.slots vs) else none
  | _ => none

/-- The record is what the members tell. -/
structure Describes (ms : List (List Nat × Tree)) (a : α) : Prop where
  names : ∀ m ∈ ms, (string? m.1).isSome
  values : ∀ f ∈ form.slots, f.told? form.initial (valuesOf f.name ms) = some (f.get a)

theorem filled?_values {tell : (f : Slot α) → Option f.Value} {slots : List (Slot α)}
    (apart : slots.Pairwise Slot.Apart) {a b : α} (filled : filled? tell slots a = some b) :
    (∀ f ∈ slots, tell f = some (f.get b)) ∧
      ∀ g : Slot α, (∀ f ∈ slots, g.Apart f) → g.get b = g.get a := by
  induction slots generalizing a with
  | nil =>
    cases filled
    exact ⟨nofun, fun _ _ => rfl⟩
  | cons f slots ih =>
    obtain ⟨others, apart⟩ := List.pairwise_cons.1 apart
    obtain ⟨x, told, filled⟩ := Option.bind_eq_some_iff.1 filled
    obtain ⟨values, kept⟩ := ih apart filled
    refine ⟨List.forall_mem_cons.2 ⟨?_, values⟩, fun g away => ?_⟩
    · rw [told, kept f others, f.get_set]
    · obtain ⟨first, later⟩ := List.forall_mem_cons.1 away
      rw [kept g later, first.left]

theorem exists_filled {tell : (f : Slot α) → Option f.Value} {slots : List (Slot α)}
    (tells : ∀ f ∈ slots, ∃ x, tell f = some x) (a : α) : ∃ b, filled? tell slots a = some b := by
  induction slots generalizing a with
  | nil => exact ⟨a, rfl⟩
  | cons f slots ih =>
    obtain ⟨⟨x, told⟩, later⟩ := List.forall_mem_cons.1 tells
    obtain ⟨b, filled⟩ := ih later (f.set x a)
    exact ⟨b, by rw [filled?, told, Option.bind_some, filled]⟩

variable {form} {ms : List (List Nat × Tree)} {a : α}

theorem Describes.unique {b : α} (h : form.Describes ms a) (h' : form.Describes ms b) : a = b :=
  form.ext a b fun f there => Option.some.inj ((h.values f there).symm.trans (h'.values f there))

theorem object?_eq_some : form.object? ms = some a ↔ form.Describes ms a := by
  have describes {b : α} (told : form.object? ms = some b) : form.Describes ms b := by
    obtain ⟨names, filled⟩ := Option.ite_none_right_eq_some.1 told
    exact ⟨names, (filled?_values form.apart filled).1⟩
  refine ⟨describes, fun h => ?_⟩
  obtain ⟨b, filled⟩ := exists_filled (fun f there => ⟨_, h.values f there⟩) form.initial
  have told : form.object? ms = some b := (if_pos h.names).trans filled
  rw [told, (describes told).unique h]

theorem object?_eq_none : form.object? ms = none ↔ ∀ a, ¬ form.Describes ms a := by
  rw [Option.eq_none_iff_forall_ne_some]
  exact forall_congr' fun a => not_congr object?_eq_some

theorem object?_nameless {m : List Nat × Tree} (there : m ∈ ms) (nameless : string? m.1 = none) :
    form.object? ms = none :=
  object?_eq_none.2 fun _ h => by simpa [nameless] using h.names m there

theorem meaning?_list_none {vs : List Tree} (untold : form.object? (named form.slots vs) = none) :
    form.meaning? (.list vs) = none := by
  rw [meaning?, untold, ite_self]

theorem object?_untold {f : Slot α} (there : f ∈ form.slots)
    (untold : f.told? form.initial (valuesOf f.name ms) = none) : form.object? ms = none :=
  object?_eq_none.2 fun _ h => nomatch untold.symm.trans (h.values f there)

theorem Describes.value (h : form.Describes ms a) {f : Slot α} (there : f ∈ form.slots)
    {us : List Nat} {v : Tree} (member : (us, v) ∈ ms) (named : string? us = some f.name) :
    f.meaning? v = some (f.get a) := by
  refine Slot.told?_mem (h.values f there) ?_
  exact List.mem_filterMap.2 ⟨(us, v), member, if_pos named⟩

theorem object?_meaningless {f : Slot α} (there : f ∈ form.slots) {us : List Nat} {v : Tree}
    (named : string? us = some f.name) (meaningless : f.meaning? v = none) (member : (us, v) ∈ ms) :
    form.object? ms = none :=
  object?_eq_none.2 fun _ h => nomatch meaningless.symm.trans (h.value there member named)

theorem eq_or_apart {f g : Slot α} (left : f ∈ form.slots) (right : g ∈ form.slots) :
    f = g ∨ f.Apart g := by
  have symm : Std.Symm fun f g : Slot α => f = g ∨ f.Apart g :=
    ⟨fun f g h => h.imp Eq.symm Slot.Apart.symm⟩
  have apart : form.slots.Pairwise fun f g => f = g ∨ f.Apart g := form.apart.imp Or.inr
  refine apart.forall_of_forall ?_ left right
  exact fun _ _ => .inl rfl

namespace Describes

theorem nil : form.Describes [] form.initial := ⟨nofun, fun _ _ => rfl⟩

variable {us : List Nat} {name : String}

/-- A member under another name tells nothing. -/
theorem unknown (h : form.Describes ms a) (named : string? us = some name)
    (unknown : ∀ f ∈ form.slots, f.name ≠ name) (v : Tree) :
    form.Describes (ms ++ [(us, v)]) a := by
  refine ⟨List.forall_mem_append.2 ⟨h.names, by simp [named]⟩, fun f there => ?_⟩
  rw [valuesOf_append_other (other_name named (unknown f there))]
  exact h.values f there

/-- The first member under the name of a slot tells what the slot holds. -/
theorem known (h : form.Describes ms a) {f : Slot α} (there : f ∈ form.slots)
    (named : string? us = some f.name) (fresh : valuesOf f.name ms = []) {v : Tree} {x : f.Value}
    (meaning : f.meaning? v = some x) : form.Describes (ms ++ [(us, v)]) (f.set x a) := by
  refine ⟨List.forall_mem_append.2 ⟨h.names, by simp [named]⟩, fun g member => ?_⟩
  rcases eq_or_apart there member with rfl | apart
  · rw [valuesOf_append_named named, fresh, f.get_set]
    exact meaning
  · rw [valuesOf_append_other (other_name named apart.name.symm), apart.right]
    exact h.values g member

end Describes

section Changes

variable {ms' : List (List Nat × Tree)} {us : List Nat} {v : Tree}

theorem object?_congr (names : (∀ m ∈ ms, (string? m.1).isSome) ↔ ∀ m ∈ ms', (string? m.1).isSome)
    (told : ∀ f ∈ form.slots, f.told? form.initial (valuesOf f.name ms) =
      f.told? form.initial (valuesOf f.name ms')) : form.object? ms = form.object? ms' := by
  apply Option.ext
  intro a
  rw [object?_eq_some, object?_eq_some]
  constructor
  · exact fun h => ⟨names.1 h.names, fun f there => told f there ▸ h.values f there⟩
  · exact fun h => ⟨names.2 h.names, fun f there => (told f there).trans (h.values f there)⟩

/-- The order of the members does not matter. -/
theorem object?_perm (perm : ms.Perm ms') : form.object? ms = form.object? ms' :=
  object?_congr ⟨fun h m there => h m (perm.mem_iff.2 there),
    fun h m there => h m (perm.mem_iff.1 there)⟩ fun f _ => f.told?_perm _ (perm.filterMap _)

/-- A member that none of the slots is named for does not matter. -/
theorem object?_added {name : String} (named : string? us = some name)
    (other : ∀ f ∈ form.slots, f.name ≠ name) (v : Tree) :
    form.object? ((us, v) :: ms) = form.object? ms := by
  refine object?_congr (by simp [named]) fun f there => ?_
  rw [valuesOf_other (other_name named (other f there))]

/-- A member that means what its slot holds anyway does not matter, if it is the only one. -/
theorem object?_initial {f : Slot α} (there : f ∈ form.slots) (named : string? us = some f.name)
    (none : valuesOf f.name ms = []) (means : f.meaning? v = some (f.get form.initial)) :
    form.object? ((us, v) :: ms) = form.object? ms := by
  refine object?_congr (by simp [named]) fun g member => ?_
  rcases eq_or_apart there member with rfl | apart
  · rw [valuesOf_named named, none]
    exact means
  · rw [valuesOf_other (other_name named apart.name.symm)]

/-- What counts of a known value is what it means. -/
theorem object?_inside {f : Slot α} (there : f ∈ form.slots) (named : string? us = some f.name)
    {v' : Tree} (same : f.meaning? v = f.meaning? v') :
    form.object? ((us, v) :: ms) = form.object? ((us, v') :: ms) := by
  refine object?_congr (by simp) fun g member => ?_
  rcases eq_or_apart there member with rfl | apart
  · rw [valuesOf_named named, valuesOf_named named]
    cases valuesOf f.name ms with
    | nil => exact same
    | cons => rfl
  · have other := other_name named apart.name.symm
    rw [valuesOf_other other, valuesOf_other other]

theorem object?_twice {f : Slot α} (there : f ∈ form.slots) {m m' : List Nat × Tree}
    (twice : [m, m'].Sublist ms) (named : string? m.1 = some f.name)
    (named' : string? m'.1 = some f.name) : form.object? ms = none := by
  refine object?_untold there (f.told?_several _ ?_)
  have values : valuesOf f.name [m, m'] = [m.2, m'.2] := by simp [valuesOf, named, named']
  have several : (valuesOf f.name [m, m']).length ≤ (valuesOf f.name ms).length :=
    (twice.filterMap _).length_le
  rwa [values] at several

/-- If members are left out, their slots hold the initial values, and the others what they held. -/
theorem object?_sublist (told : form.object? ms = some a) (fewer : ms'.Sublist ms) :
    ∃ b, form.object? ms' = some b ∧ ∀ f ∈ form.slots,
      f.get b = if valuesOf f.name ms' = [] then f.get form.initial else f.get a := by
  have h := object?_eq_some.1 told
  have values : ∀ f ∈ form.slots, f.told? form.initial (valuesOf f.name ms') =
      some (if valuesOf f.name ms' = [] then f.get form.initial else f.get a) :=
    fun f there => Slot.told?_sublist (h.values f there) (fewer.filterMap _)
  obtain ⟨b, filled⟩ := exists_filled (fun f there => ⟨_, values f there⟩) form.initial
  have told : form.object? ms' = some b :=
    (if_pos fun m there => h.names m (fewer.subset there)).trans filled
  refine ⟨b, told, fun f there => ?_⟩
  exact Option.some.inj (((object?_eq_some.1 told).values f there).symm.trans (values f there))

end Changes

end Form
end DeviceRegistry.Json
