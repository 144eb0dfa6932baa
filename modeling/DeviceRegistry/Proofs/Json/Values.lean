import DeviceRegistry.Json.Parse
import DeviceRegistry.Proofs.Json.Members

/-! A text read as a value of no particular kind. The value is what the text tells, with the characters
that its texts spell and the numbers that its numerals are read as. -/
namespace DeviceRegistry.Json
open Bytes

mutual

/-- The value that a tree stands for; none if a surrogate stands alone in it, or if a number lies beyond
the finite ones. -/
def Tree.value? : Tree → Option Value
  | .null => some .null
  | .boolean b => some (.boolean b)
  | .numeral n => n.number?.map .number
  | .text us => (string? us).map .text
  | .list vs => (values? vs).map .list
  | .object ms => (members? ms).map .object

def values? : List Tree → Option (List Value)
  | [] => some []
  | v :: vs => do
    let a ← v.value?
    let as ← values? vs
    return a :: as

def members? : List (List Nat × Tree) → Option (List (String × Value))
  | [] => some []
  | (us, v) :: ms => do
    let name ← string? us
    let a ← v.value?
    let as ← members? ms
    return (name, a) :: as

end

theorem values?_behind (v : Tree) (vs : List Tree) (acc : List Value) :
    (values? (v :: vs)).map (acc.reverse ++ ·) =
      v.value?.bind fun a => (values? vs).map ((a :: acc).reverse ++ ·) := by
  rw [values?]
  cases v.value? with
  | none => rfl
  | some a => cases values? vs <;> simp

theorem members?_behind (us : List Nat) (v : Tree) (ms : List (List Nat × Tree))
    (acc : List (String × Value)) :
    (members? ((us, v) :: ms)).map (acc.reverse ++ ·) =
      (string? us).bind fun name => v.value?.bind fun a =>
        (members? ms).map (((name, a) :: acc).reverse ++ ·) := by
  rw [members?]
  cases string? us with
  | none => rfl
  | some name =>
    cases v.value? with
    | none => rfl
    | some a => cases members? ms <;> simp

namespace Reader

/-- With twice the length of a part as fuel, the part is read as what it stands for. -/
def Parsed : Part → Bytes → Prop
  | .value v, t => ∀ fuel b rest, 2 * t.length ≤ fuel + 1 → IsBlanks b → Closes rest →
      Decides (valueWithin fuel (b ++ (t ++ rest))) v.value? rest
  | .items first vs, w => ∀ fuel acc rest, 2 * w.length ≤ fuel →
      Decides (itemsWithin fuel first acc (w ++ rest)) ((values? vs).map (acc.reverse ++ ·)) rest
  | .members first ms, w => ∀ fuel acc rest, 2 * w.length ≤ fuel →
      Decides (membersWithin fuel first acc (w ++ rest)) ((members? ms).map (acc.reverse ++ ·)) rest

theorem valueWithin_scalar (fuel : Nat) {v : Tree} {input rest : Bytes}
    (found : Decides (Reader.found input) v.found? rest) (list : ∀ vs, v ≠ .list vs)
    (object : ∀ ms, v ≠ .object ms) : Decides (valueWithin (fuel + 1) input) v.value? rest := by
  cases v with
  | null => exact (bind_ok found).trans rfl
  | boolean b => exact (bind_ok found).trans rfl
  | numeral n =>
    rw [Tree.found?] at found
    rw [Tree.value?]
    cases number : n.number? with
    | none =>
      rw [number] at found
      obtain ⟨f, left, failed⟩ := found
      exact ⟨f, left, bind_error failed⟩
    | some number' =>
      rw [number] at found
      exact (bind_ok found).trans rfl
  | text us =>
    rw [Tree.found?] at found
    rw [Tree.value?]
    cases chars : string? us with
    | none =>
      rw [chars] at found
      obtain ⟨f, left, failed⟩ := found
      exact ⟨f, left, bind_error failed⟩
    | some s =>
      rw [chars] at found
      exact (bind_ok found).trans rfl
  | list vs => exact absurd rfl (list vs)
  | object ms => exact absurd rfl (object ms)

/-- A value without brackets is read in one step. -/
theorem parsed_scalar {v : Tree} {t : Bytes} (spelled : Spells (.value v) t) (left : v.left t = [])
    (list : ∀ vs, v ≠ .list vs) (object : ∀ ms, v ≠ .object ms) : Parsed (.value v) t := by
  intro fuel b rest enough blanks closes
  have found := found_spelled blanks spelled closes
  rw [left] at found
  obtain ⟨c, w, rfl, -⟩ := spelled.first
  obtain ⟨fuel, rfl⟩ : ∃ n, fuel = n + 1 := by
    refine Nat.exists_eq_add_one.2 ?_
    simp only [List.length_cons] at enough
    omega
  exact valueWithin_scalar fuel found list object

theorem parsed_spelled {part : Part} {w : Bytes} (spelled : Spells part w) : Parsed part w := by
  induction spelled with
  | null => exact parsed_scalar .null rfl nofun nofun
  | boolean b => exact parsed_scalar (.boolean b) rfl nofun nofun
  | @numeral n wellFormed => exact parsed_scalar (.numeral wellFormed) rfl nofun nofun
  | text inside => exact parsed_scalar (.text inside) rfl nofun nofun
  | @list vs w items ih =>
    intro fuel b rest enough blanks closes
    rw [List.length_cons] at enough
    obtain ⟨fuel, rfl⟩ := Nat.exists_eq_add_one.2 (show 0 < fuel by omega)
    have bracket : found (b ++ (0x5b :: w ++ rest)) = .ok .list (0x5b :: w ++ rest) :=
      found_spelled blanks (.list items) closes
    have inside := ih fuel [] rest (by omega)
    simp only [List.reverse_nil, List.nil_append, Option.map_id'] at inside
    rw [valueWithin, bind_ok bracket, Tree.value?]
    dsimp only
    rw [List.cons_append, bind_ok (drop_cons _ _)]
    exact inside.map
  | @object ms w members ih =>
    intro fuel b rest enough blanks closes
    rw [List.length_cons] at enough
    obtain ⟨fuel, rfl⟩ := Nat.exists_eq_add_one.2 (show 0 < fuel by omega)
    have brace : found (b ++ (0x7b :: w ++ rest)) = .ok .object (0x7b :: w ++ rest) :=
      found_spelled blanks (.object members) closes
    have inside := ih fuel [] rest (by omega)
    simp only [List.reverse_nil, List.nil_append, Option.map_id'] at inside
    rw [valueWithin, bind_ok brace, Tree.value?]
    dsimp only
    rw [List.cons_append, bind_ok (drop_cons _ _)]
    exact inside.map
  | @listEnd first b blanks =>
    intro fuel acc rest enough
    rw [List.length_append, List.length_singleton] at enough
    obtain ⟨fuel, rfl⟩ := Nat.exists_eq_add_one.2 (show 0 < fuel by omega)
    rw [List.append_assoc, List.singleton_append, itemsWithin,
      bind_ok (anotherElement_closing first blanks rest), values?, Option.map_some, List.append_nil]
    rfl
  | @objectEnd first b blanks =>
    intro fuel acc rest enough
    rw [List.length_append, List.length_singleton] at enough
    obtain ⟨fuel, rfl⟩ := Nat.exists_eq_add_one.2 (show 0 < fuel by omega)
    rw [List.append_assoc, List.singleton_append, membersWithin,
      bind_ok (nextName?_closing first blanks rest), members?, Option.map_some, List.append_nil]
    rfl
  | @item first v vs b b' t w blanks blanks' value items ihValue ihItems =>
    intro fuel acc rest enough
    obtain ⟨c, t, rfl, -⟩ := value.first
    simp only [List.length_append, List.length_cons] at enough
    obtain ⟨fuel, rfl⟩ := Nat.exists_eq_add_one.2 (show 0 < fuel by omega)
    have short : 2 * (c :: t).length ≤ fuel + 1 := by
      rw [List.length_cons]
      omega
    have first := ihValue fuel [] (w ++ rest) short isBlanks_nil (items.items_closes rest)
    rw [values?_behind]
    simp only [List.append_assoc]
    rw [itemsWithin, bind_ok (anotherElement_spelled _ blanks blanks' value _), if_pos rfl]
    exact first.bind fun a _ => ihItems fuel (a :: acc) rest (by omega)
  | @member first us v ms b b' n c c' t w blanks blanks' name colon colon' value members ihValue
      ihMembers =>
    intro fuel acc rest enough
    simp only [List.length_append, List.length_cons] at enough
    obtain ⟨fuel, rfl⟩ := Nat.exists_eq_add_one.2 (show 0 < fuel by omega)
    have next :=
      nextName?_spelled first blanks blanks' name (c ++ 0x3a :: (c' ++ (t ++ (w ++ rest))))
    have inside := ihValue fuel c' (w ++ rest) (by omega) colon' (members.members_closes rest)
    rw [members?_behind]
    simp only [List.append_assoc, List.cons_append]
    rw [membersWithin]
    cases named : string? us with
    | none =>
      rw [named] at next
      obtain ⟨f, left, failed⟩ := next
      exact ⟨f, left, bind_error failed⟩
    | some name =>
      rw [named] at next
      rw [bind_ok next]
      dsimp only
      rw [bind_ok (colon_blanks colon _)]
      exact inside.bind fun a _ => ihMembers fuel ((name, a) :: acc) rest (by omega)

/-- Every text is read as the value that it stands for. -/
theorem value_interprets : Interprets value Tree.value? := by
  intro v b t blanks spelled rest closes
  have parsed := parsed_spelled spelled
  rw [List.append_assoc]
  refine parsed _ b rest ?_ blanks closes
  simp only [List.length_append]
  omega

end Reader

end DeviceRegistry.Json
