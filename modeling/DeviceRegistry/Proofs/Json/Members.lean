import DeviceRegistry.Proofs.Json.Form

/-! A record is read as what its members mean, if those that it needs are there. -/
namespace DeviceRegistry.Json
open Bytes

theorem Spells.members_length {first : Bool} {ms : List (List Nat × Tree)} {w : Bytes}
    (spelled : Spells (.members first ms) w) : ms.length ≤ w.length := by
  induction ms generalizing first w with
  | nil => exact Nat.zero_le _
  | cons m ms ih =>
    cases spelled with
    | member _ _ _ _ _ _ later =>
      have := ih later
      simp only [List.length_append, List.length_cons]
      omega

namespace Reader

theorem anotherMember_spelled (first : Bool) {b b' : Bytes} (blanks : IsBlanks b)
    (blanks' : IsBlanks b') (rest : Bytes) :
    anotherMember first (separator first b ++ (b' ++ 0x22 :: rest)) = .ok true (0x22 :: rest) := by
  cases first with
  | true =>
    rw [separator, if_pos rfl, List.nil_append, anotherMember,
      bind_ok (peekToken?_blanks blanks' (by rfl) _)]
    rfl
  | false =>
    rw [separator, if_neg (by decide), List.append_assoc, List.singleton_append, anotherMember,
      bind_ok (peekToken?_blanks blanks (by rfl) _)]
    dsimp only
    rw [if_neg (by decide), if_neg (by decide), if_pos rfl, bind_ok (drop_cons _ _),
      bind_ok (peekToken?_blanks blanks' (by rfl) _)]
    rfl

theorem nextName?_spelled (first : Bool) {us : List Nat} {b b' n : Bytes} (blanks : IsBlanks b)
    (blanks' : IsBlanks b') (name : SpellsText us n) (rest : Bytes) :
    Decides (nextName? first (separator first b ++ (b' ++ 0x22 :: (n ++ 0x22 :: rest))))
      ((string? us).map some) rest := by
  refine Decides.inside ?_
  rw [bind_ok (anotherMember_spelled first blanks blanks' _), if_pos rfl, bind_ok (drop_cons _ _)]
  exact (quotedRest_spelled name rest).map

theorem nextName?_closing (first : Bool) {b : Bytes} (blanks : IsBlanks b) (rest : Bytes) :
    nextName? first (b ++ 0x7d :: rest) = .ok none (0x7d :: rest) := by
  apply inside_ok
  have ended : anotherMember first (b ++ 0x7d :: rest) = .ok false (0x7d :: rest) := by
    rw [anotherMember, bind_ok (peekToken?_blanks blanks (by rfl) _)]
    rfl
  rw [bind_ok ended]
  rfl

theorem colon_blanks {c : Bytes} (blanks : IsBlanks c) (rest : Bytes) :
    colon (c ++ 0x3a :: rest) = .ok () rest := by
  rw [colon, bind_ok (peekToken?_blanks blanks (by rfl) _)]
  rfl

theorem anotherElement_spelled (first : Bool) {b b' t : Bytes} (blanks : IsBlanks b)
    (blanks' : IsBlanks b') {v : Tree} (value : Spells (.value v) t) (rest : Bytes) :
    anotherElement first (separator first b ++ (b' ++ (t ++ rest))) = .ok true (t ++ rest) := by
  obtain ⟨c, w, rfl, token, -, noEnd, -⟩ := value.first
  rw [List.cons_append]
  cases first with
  | true =>
    rw [separator, if_pos rfl, List.nil_append, anotherElement,
      bind_ok (peekToken?_blanks blanks' token _)]
    dsimp only
    rw [if_neg noEnd, if_pos rfl]
    rfl
  | false =>
    rw [separator, if_neg (by decide), List.append_assoc, List.singleton_append, anotherElement,
      bind_ok (peekToken?_blanks blanks (by rfl) _)]
    dsimp only
    rw [if_neg (by decide), if_neg (by decide), if_pos rfl, bind_ok (drop_cons _ _),
      bind_ok (peekToken?_blanks blanks' token _)]
    dsimp only
    rw [if_neg noEnd]
    rfl

theorem anotherElement_closing (first : Bool) {b : Bytes} (blanks : IsBlanks b) (rest : Bytes) :
    anotherElement first (b ++ 0x5d :: rest) = .ok false (0x5d :: rest) := by
  rw [anotherElement, bind_ok (peekToken?_blanks blanks (by rfl) _)]
  rfl

theorem listEnd_blanks {b : Bytes} (blanks : IsBlanks b) (rest : Bytes) :
    listEnd (b ++ 0x5d :: rest) = .ok () rest := by
  rw [listEnd, bind_ok (peekToken?_blanks blanks (by rfl) _)]
  rfl

/-- A list does not end in front of an item. -/
theorem listEnd_item (first : Bool) {b b' t : Bytes} (blanks : IsBlanks b)
    (blanks' : IsBlanks b') {v : Tree} (value : Spells (.value v) t) (rest : Bytes) :
    ∃ f left, listEnd (separator first b ++ (b' ++ (t ++ rest))) = .error f left := by
  obtain ⟨c, w, rfl, token, noComma, noEnd, -⟩ := value.first
  rw [List.cons_append]
  cases first with
  | true =>
    rw [separator, if_pos rfl, List.nil_append, listEnd, bind_ok (peekToken?_blanks blanks' token _)]
    dsimp only
    rw [if_neg noEnd, if_neg noComma]
    exact ⟨_, _, rfl⟩
  | false =>
    have other : ¬ some c = some 0x5d := fun same => noEnd (Option.some.inj same)
    rw [separator, if_neg (by decide), List.append_assoc, List.singleton_append, listEnd,
      bind_ok (peekToken?_blanks blanks (by rfl) _)]
    dsimp only
    rw [if_neg (by decide), if_pos rfl, bind_ok (drop_cons _ _),
      bind_ok (peekToken?_blanks blanks' token _), if_neg other]
    exact ⟨_, _, rfl⟩

end Reader

/-- The member of the slot, which has to be there if `needs` says so. -/
def Slot.needed {α : Type} (needs : String → Bool) (f : Slot α) : Member α :=
  { f.member with required := needs f.name }

namespace Form

variable {α : Type} (form : Form α) (needs : String → Bool)

/-- What the values under the names of an object tell, if every name that is needed has one. -/
def needing? (ms : List (List Nat × Tree)) : Option α :=
  if form.slots.all fun f => !needs f.name || !(valuesOf f.name ms).isEmpty then form.object? ms
  else none

def meaningNeeding? : Tree → Option α
  | .object ms => form.needing? needs ms
  | .list vs =>
    if vs.length ≤ form.slots.length then form.needing? needs (named form.slots vs) else none
  | _ => none

variable {form needs} {ms : List (List Nat × Tree)}

theorem needing?_complete (complete : ∀ f ∈ form.slots, needs f.name = true → valuesOf f.name ms ≠ []) :
    form.needing? needs ms = form.object? ms := by
  refine if_pos (List.all_eq_true.2 fun f there => ?_)
  cases needed : needs f.name with
  | false => rfl
  | true => simpa using complete f there needed

theorem needing?_missing {f : Slot α} (there : f ∈ form.slots) (needed : needs f.name = true)
    (none : valuesOf f.name ms = []) : form.needing? needs ms = Option.none := by
  refine if_neg fun all => ?_
  have := List.all_eq_true.1 all f there
  simp [needed, none] at this

theorem needing?_untold (untold : form.object? ms = none) : form.needing? needs ms = none := by
  rw [needing?, untold, ite_self]

theorem meaningNeeding?_none : form.meaningNeeding? (fun _ => false) = form.meaning? := by
  have all (ms : List (List Nat × Tree)) : form.needing? (fun _ => false) ms = form.object? ms :=
    needing?_complete fun f _ needed => nomatch needed
  funext v
  cases v <;> simp only [meaningNeeding?, meaning?, all]

end Form

namespace Shape

variable {α : Type} {shape : Shape α} {form : Form α}

/-- The members of the shape are the slots of the form, and it needs those that `needs` tells. -/
structure Needs (shape : Shape α) (form : Form α) (needs : String → Bool) : Prop where
  initial : shape.initial = form.initial
  members : shape.members = form.slots.map (Slot.needed needs)

/-- The members of the shape are the slots of the form, and it needs none of them. -/
structure Has (shape : Shape α) (form : Form α) : Prop where
  initial : shape.initial = form.initial
  members : shape.members = form.slots.map Slot.member

theorem Has.needs (has : shape.Has form) : shape.Needs form fun _ => false :=
  ⟨has.initial, has.members⟩

namespace Needs

variable {needs : String → Bool} (has : shape.Needs form needs)
include has

theorem member? (name : String) :
    (shape.member? name = none ∧ ∀ f ∈ form.slots, f.name ≠ name) ∨
      ∃ f ∈ form.slots, f.name = name ∧ shape.member? name = some (f.needed needs) := by
  have searched : shape.member? name =
      (form.slots.find? (·.name == name)).map (Slot.needed needs) := by
    rw [Shape.member?, has.members, List.find?_map]
    rfl
  rw [searched]
  cases found : form.slots.find? (·.name == name) with
  | none =>
    refine .inl ⟨rfl, fun f there same => ?_⟩
    have other := List.find?_eq_none.1 found f there
    simp [same] at other
  | some f =>
    have same := List.find?_some found
    exact .inr ⟨f, List.mem_of_find?_eq_some found, by simpa using same, rfl⟩

theorem missing?_eq_none (seen : List String) :
    shape.missing? seen = none ↔ ∀ f ∈ form.slots, needs f.name = true → f.name ∈ seen := by
  rw [Shape.missing?, has.members, List.find?_eq_none]
  simp [Slot.needed, Slot.member]

end Needs

section Member

variable (fuel : Nat) (seen : List String) (first : Bool) (a : α) {us : List Nat} {v : Tree}
  {b b' n c c' t rest : Bytes} (blanks : IsBlanks b) (blanks' : IsBlanks b')
  (spelled : SpellsText us n) (colon : IsBlanks c) (colon' : IsBlanks c')
  (value : Spells (.value v) t) (closes : Closes rest) {name : String}
include blanks blanks' spelled

theorem readMembers_nameless (nameless : string? us = none) :
    ∃ f left, shape.readMembers (fuel + 1) seen first a
      (separator first b ++ (b' ++ 0x22 :: (n ++ 0x22 :: rest))) = .error f left := by
  have next := Reader.nextName?_spelled first blanks blanks' spelled rest
  rw [nameless] at next
  obtain ⟨f, left, failed⟩ := next
  exact ⟨f, left, bind_error failed⟩

theorem readMembers_named (named : string? us = some name) :
    Reader.nextName? first (separator first b ++ (b' ++ 0x22 :: (n ++ 0x22 :: rest))) =
      .ok (some name) rest := by
  have next := Reader.nextName?_spelled first blanks blanks' spelled rest
  rwa [named] at next

theorem readMembers_again (named : string? us = some name) {m : Member α}
    (known : shape.member? name = some m) (again : name ∈ seen) :
    ∃ f left, shape.readMembers (fuel + 1) seen first a
      (separator first b ++ (b' ++ 0x22 :: (n ++ 0x22 :: rest))) = .error f left := by
  rw [readMembers, bind_ok (readMembers_named first blanks blanks' spelled named)]
  simp only [known]
  rw [if_pos (by simpa using again)]
  exact ⟨_, _, rfl⟩

include colon colon' value closes

theorem readMembers_unknown (named : string? us = some name) (unknown : shape.member? name = none) :
    shape.readMembers (fuel + 1) seen first a
        (separator first b ++ (b' ++ 0x22 :: (n ++ 0x22 :: (c ++ 0x3a :: (c' ++ (t ++ rest)))))) =
      shape.readMembers fuel seen false a rest := by
  have passed := Reader.skipValue_spelled colon' value closes
  rw [readMembers, bind_ok (readMembers_named first blanks blanks' spelled named)]
  simp only [unknown]
  rw [bind_ok (Reader.colon_blanks colon _)]
  exact bind_ok (Reader.inside_ok passed)

/-- A member that was not seen changes the record by what its value means. -/
theorem readMembers_known {f : Slot α} {needs : String → Bool} (named : string? us = some f.name)
    (known : shape.member? f.name = some (f.needed needs)) (fresh : f.name ∉ seen) :
    match f.meaning? v with
    | none => ∃ failure left, shape.readMembers (fuel + 1) seen first a
        (separator first b ++ (b' ++ 0x22 :: (n ++ 0x22 :: (c ++ 0x3a :: (c' ++ (t ++ rest)))))) =
          .error failure left
    | some x => shape.readMembers (fuel + 1) seen first a
        (separator first b ++ (b' ++ 0x22 :: (n ++ 0x22 :: (c ++ 0x3a :: (c' ++ (t ++ rest)))))) =
          shape.readMembers fuel (f.name :: seen) false (f.set x a) rest := by
  have read := (f.interprets v c' t colon' value rest closes).map (f := f.set)
  have read := read.inside (s := .member f.name)
  have step : shape.readMembers (fuel + 1) seen first a
      (separator first b ++ (b' ++ 0x22 :: (n ++ 0x22 :: (c ++ 0x3a :: (c' ++ (t ++ rest)))))) =
        (do
          let change ← Reader.inside (.member f.name) f.member.read
          shape.readMembers fuel (f.name :: seen) false (change a) : Reader _)
            (c' ++ (t ++ rest)) := by
    rw [readMembers, bind_ok (readMembers_named first blanks blanks' spelled named)]
    simp only [known]
    rw [if_neg (by simpa using fresh)]
    exact bind_ok (Reader.colon_blanks colon _)
  rw [List.append_assoc] at read
  rw [step]
  cases meaning : f.meaning? v with
  | none =>
    rw [meaning] at read
    obtain ⟨failure, left, failed⟩ := read
    exact ⟨failure, left, bind_error failed⟩
  | some x =>
    rw [meaning] at read
    exact bind_ok read

end Member

end Shape

namespace Form

/-- Behind some members the known names among them have been seen, and the record is what they tell. -/
structure Reached (form : Form α) (before : List (List Nat × Tree)) (seen : List String) (a : α) :
    Prop where
  told : form.Describes before a
  seen : ∀ f ∈ form.slots, f.name ∈ seen ↔ valuesOf f.name before ≠ []

namespace Reached

variable {α : Type} {form : Form α} {before ms : List (List Nat × Tree)} {seen : List String} {a : α}
  {us : List Nat} {v : Tree} {name : String}

theorem unknown (h : form.Reached before seen a) (named : string? us = some name)
    (unknown : ∀ f ∈ form.slots, f.name ≠ name) : form.Reached (before ++ [(us, v)]) seen a := by
  refine ⟨h.told.unknown named unknown v, fun f there => ?_⟩
  rw [h.seen f there, valuesOf_append_other (other_name named (unknown f there))]

theorem fresh (h : form.Reached before seen a) {f : Slot α} (there : f ∈ form.slots)
    (new : f.name ∉ seen) : valuesOf f.name before = [] :=
  Classical.not_not.1 (mt (h.seen f there).2 new)

theorem known (h : form.Reached before seen a) {f : Slot α} (there : f ∈ form.slots)
    (named : string? us = some f.name) (new : f.name ∉ seen) {x : f.Value}
    (meaning : f.meaning? v = some x) :
    form.Reached (before ++ [(us, v)]) (f.name :: seen) (f.set x a) := by
  refine ⟨h.told.known there named (h.fresh there new) meaning, fun g member => ?_⟩
  rw [List.mem_cons, h.seen g member]
  by_cases same : g.name = f.name
  · rw [valuesOf_append_named (same ▸ named)]
    simp [same]
  · rw [valuesOf_append_other (other_name named same)]
    simp [same]

theorem again (h : form.Reached before seen a) {f : Slot α} (there : f ∈ form.slots)
    (named : string? us = some f.name) (again : f.name ∈ seen) :
    form.object? (before ++ (us, v) :: ms) = none := by
  have some := List.length_pos_iff.2 ((h.seen f there).1 again)
  refine object?_untold there (f.told?_several _ ?_)
  rw [valuesOf_append, valuesOf_named named, List.length_append, List.length_cons]
  omega

end Reached

/-- Behind some elements these slots are left: none of them holds anything yet, and all others hold what
they have to. -/
structure Awaits (form : Form α) (needs : String → Bool) (before : List (List Nat × Tree))
    (later : List (Slot α)) (a : α) : Prop where
  told : form.Describes before a
  empty : ∀ f ∈ later, f ∈ form.slots ∧ valuesOf f.name before = []
  held : ∀ f ∈ form.slots, needs f.name = true → f ∈ later ∨ valuesOf f.name before ≠ []
  apart : later.Pairwise Slot.Apart

namespace Awaits

variable {α : Type} {form : Form α} {needs : String → Bool} {before : List (List Nat × Tree)}
  {later : List (Slot α)} {f : Slot α} {a : α}

theorem start (form : Form α) (needs : String → Bool) :
    form.Awaits needs [] form.slots form.initial :=
  ⟨.nil, fun _ there => ⟨there, rfl⟩, fun _ there _ => .inl there, form.apart⟩

theorem complete (h : form.Awaits needs before [] a) : form.needing? needs before = some a := by
  rw [needing?_complete fun f there needed => (h.held f there needed).resolve_left nofun]
  exact object?_eq_some.2 h.told

theorem missing (h : form.Awaits needs before (f :: later) a) (needed : needs f.name = true) :
    form.needing? needs before = none := by
  obtain ⟨there, empty⟩ := h.empty f List.mem_cons_self
  exact needing?_missing there needed empty

/-- A slot that need not hold anything is passed over. -/
theorem omitted (h : form.Awaits needs before (f :: later) a) (free : needs f.name = false) :
    form.Awaits needs before later a := by
  refine ⟨h.told, (List.forall_mem_cons.1 h.empty).2, fun g there needed => ?_, h.apart.of_cons⟩
  refine (h.held g there needed).imp_left fun among => ?_
  rcases List.mem_cons.1 among with rfl | among
  · rw [free] at needed
    cases needed
  · exact among

/-- The first slot takes a value. -/
theorem taken (h : form.Awaits needs before (f :: later) a) {v : Tree} {x : f.Value}
    (meaning : f.meaning? v = some x) :
    form.Awaits needs (before ++ [(units f.name, v)]) later (f.set x a) := by
  have named := string?_units f.name
  obtain ⟨⟨there, new⟩, empty⟩ := List.forall_mem_cons.1 h.empty
  obtain ⟨others, apart⟩ := List.pairwise_cons.1 h.apart
  refine ⟨h.told.known there named new meaning, fun g among => ?_, fun g member needed => ?_, apart⟩
  · rw [valuesOf_append_other (other_name named (others g among).name.symm)]
    exact empty g among
  · rcases h.held g member needed with among | held
    · rcases List.mem_cons.1 among with rfl | among
      · exact .inr (by simp [valuesOf_append_named named])
      · exact .inl among
    · exact .inr (by simp [valuesOf_append, held])

end Awaits

end Form

namespace Shape

variable {α : Type} {shape : Shape α} {form : Form α}

/-- Behind its members an object is over, unless one is missing. -/
theorem readObject_members {input rest : Bytes} {names : List String} {a : α}
    (read : shape.readMembers (input.length + 1) [] true shape.initial input =
      .ok (names, a) (0x7d :: rest)) :
    shape.readObject input =
      match shape.missing? names with
      | some m => .error ⟨.mismatch (.missingMember m.name), []⟩ rest
      | none => .ok a rest := by
  apply (bind_ok read).trans
  apply (bind_ok (Reader.drop_cons _ _)).trans
  cases shape.missing? names <;> rfl

section Over

variable {needs : String → Bool} {f : Slot α} (later : List (Slot α)) (i : Nat) (a : α) {b : Bytes}
  (blanks : IsBlanks b) (rest : Bytes)
include blanks

theorem readElements_missing (needed : needs f.name = true) :
    ∃ failure left, shape.readElements ((f :: later).map (Slot.needed needs)) i a
      (b ++ 0x5d :: rest) = .error failure left := by
  rw [List.map_cons, readElements, bind_ok (Reader.anotherElement_closing (i == 0) blanks rest),
    if_neg (by decide), if_pos (by exact needed)]
  exact ⟨_, _, rfl⟩

theorem readElements_omitted (free : needs f.name = false) :
    shape.readElements ((f :: later).map (Slot.needed needs)) i a (b ++ 0x5d :: rest) =
      shape.readElements (later.map (Slot.needed needs)) (i + 1) a (0x5d :: rest) := by
  rw [List.map_cons, readElements, bind_ok (Reader.anotherElement_closing (i == 0) blanks rest),
    if_neg (by decide), if_neg (by simp [Slot.needed, free])]

end Over

/-- The first of the slots that are left takes the next element, if that means something to it. -/
theorem readElements_taken {needs : String → Bool} (f : Slot α) (later : List (Slot α)) (i : Nat) (a : α)
    {v : Tree} {b b' t rest : Bytes} (blanks : IsBlanks b) (blanks' : IsBlanks b')
    (value : Spells (.value v) t) (closes : Closes rest) :
    match f.meaning? v with
    | none => ∃ failure left, shape.readElements ((f :: later).map (Slot.needed needs)) i a
        (separator (i == 0) b ++ (b' ++ (t ++ rest))) = .error failure left
    | some x => shape.readElements ((f :: later).map (Slot.needed needs)) i a
        (separator (i == 0) b ++ (b' ++ (t ++ rest))) =
          shape.readElements (later.map (Slot.needed needs)) (i + 1) (f.set x a) rest := by
  have read := (f.interprets v [] t isBlanks_nil value rest closes).map (f := f.set)
  have read := read.inside (s := .element i)
  have step : shape.readElements ((f :: later).map (Slot.needed needs)) i a
      (separator (i == 0) b ++ (b' ++ (t ++ rest))) =
      (do
        let change ← Reader.inside (.element i) f.member.read
        shape.readElements (later.map (Slot.needed needs)) (i + 1) (change a) : Reader α) (t ++ rest) := by
    rw [List.map_cons, readElements,
      bind_ok (Reader.anotherElement_spelled (i == 0) blanks blanks' value rest)]
    rfl
  rw [step]
  cases meaning : f.meaning? v with
  | none =>
    rw [meaning] at read
    obtain ⟨failure, left, failed⟩ := read
    exact ⟨failure, left, bind_error failed⟩
  | some x =>
    rw [meaning] at read
    exact bind_ok read

/-- From any element on, the elements to the closing bracket are the values of the slots that are left.
More of them are refused, and so are fewer than are needed. -/
theorem readElements_spelled (shape : Shape α) {needs : String → Bool} {later : List (Slot α)}
    {before : List (List Nat × Tree)} {vs : List Tree} {i : Nat} {w : Bytes} {a : α}
    (spelled : Spells (.items (i == 0) vs) w) (awaits : form.Awaits needs before later a)
    (rest : Bytes) :
    Decides ((do
        let a ← shape.readElements (later.map (Slot.needed needs)) i a
        Reader.listEnd
        return a : Reader α) (w ++ rest))
      (if vs.length ≤ later.length then
        form.needing? needs (before ++ Form.named later vs) else none) rest := by
  induction later generalizing before vs i w a with
  | nil =>
    show Decides ((do Reader.listEnd; return a : Reader α) (w ++ rest)) _ rest
    cases spelled with
    | listEnd blanks =>
      have complete : form.needing? needs (before ++ []) = some a := by
        rw [List.append_nil, awaits.complete]
      rw [List.append_assoc]
      exact complete ▸ bind_ok (Reader.listEnd_blanks blanks rest)
    | @item _ v vs b b' t w blanks blanks' value later =>
      obtain ⟨f, left, failed⟩ := Reader.listEnd_item (i == 0) blanks blanks' value (w ++ rest)
      simp only [List.append_assoc]
      exact ⟨f, left, bind_error failed⟩
  | cons f later ih =>
    cases spelled with
    | @listEnd _ b blanks =>
      -- The list is over, and the slots that are left keep what they hold if they are not needed.
      rw [List.append_assoc, List.singleton_append, Form.named, List.zipWith_nil_right]
      cases needed : needs f.name with
      | true =>
        obtain ⟨failure, left, failed⟩ := readElements_missing later i a blanks rest needed
        rw [List.append_nil, awaits.missing needed, ite_self]
        exact ⟨failure, left, bind_error failed⟩
      | false =>
        have again := ih (i := i + 1) (.listEnd isBlanks_nil) (awaits.omitted needed)
        rw [bind_of_eq (readElements_omitted later i a blanks rest needed)]
        rw [Form.named, List.zipWith_nil_right] at again
        exact again
    | @item _ v vs b b' t w blanks blanks' value items =>
      have read := @readElements_taken _ shape needs f later i a _ _ _ _ _ blanks blanks' value
        (items.items_closes rest)
      have same : (if (v :: vs).length ≤ (f :: later).length then
          form.needing? needs (before ++ Form.named (f :: later) (v :: vs)) else none) =
          if vs.length ≤ later.length then
            form.needing? needs (before ++ [(units f.name, v)] ++ Form.named later vs) else none := by
        simp [Form.named]
      simp only [List.append_assoc (separator (i == 0) b), List.append_assoc b', List.append_assoc t]
      rw [same]
      cases meaning : f.meaning? v with
      | none =>
        rw [meaning] at read
        obtain ⟨failure, left, failed⟩ := read
        have there := (awaits.empty f List.mem_cons_self).1
        have untold : form.needing? needs
            (before ++ [(units f.name, v)] ++ Form.named later vs) = none :=
          Form.needing?_untold (Form.object?_meaningless there (string?_units f.name) meaning (by simp))
        rw [untold, ite_self]
        exact ⟨failure, left, bind_error failed⟩
      | some x =>
        rw [meaning] at read
        rw [bind_of_eq read]
        exact ih (i := i + 1) items (awaits.taken meaning)

namespace Needs

variable {needs : String → Bool} (has : shape.Needs form needs)
include has

/-- From any point on, the members to the closing brace make the record that all members tell. -/
theorem readMembers_spelled {ms before : List (List Nat × Tree)} {first : Bool} {w : Bytes}
    {seen : List String} {a : α} {fuel : Nat} (spelled : Spells (.members first ms) w)
    (reached : form.Reached before seen a) (enough : ms.length < fuel) (rest : Bytes) :
    ∃ o : Option (List String × α), o.map Prod.snd = form.object? (before ++ ms) ∧
      (∀ result ∈ o, ∀ f ∈ form.slots,
        f.name ∈ result.1 ↔ valuesOf f.name (before ++ ms) ≠ []) ∧
      Decides (shape.readMembers fuel seen first a (w ++ rest)) o (0x7d :: rest) := by
  -- `Reached` carries the induction: the first of the members that are left joins those before it.
  induction ms generalizing before first w seen a fuel with
  | nil =>
    obtain ⟨fuel, rfl⟩ := Nat.exists_eq_add_one.2 enough
    cases spelled with
    | objectEnd blanks =>
      refine ⟨some (seen, a), ?_, ?_, ?_⟩
      · rw [List.append_nil]
        exact (Form.object?_eq_some.2 reached.told).symm
      · rw [List.append_nil]
        rintro _ ⟨⟩
        exact reached.seen
      · rw [List.append_assoc, List.singleton_append, readMembers,
          bind_ok (Reader.nextName?_closing first blanks rest)]
        rfl
  | cons m ms ih =>
    obtain ⟨fuel, rfl⟩ := Nat.exists_eq_add_one.2 (Nat.zero_lt_of_lt enough)
    have left : ms.length < fuel := Nat.lt_of_succ_lt_succ enough
    cases spelled with
    | @member _ us v _ b b' n c c' t w blanks blanks' name colon colon' value later =>
      have closes := later.members_closes rest
      simp only [List.append_assoc, List.cons_append]
      cases named : string? us with
      | none =>
        have untold : form.object? (before ++ (us, v) :: ms) = none :=
          Form.object?_nameless (show (us, v) ∈ _ by simp) named
        exact ⟨none, untold.symm, by simp,
          readMembers_nameless fuel seen first a blanks blanks' name named⟩
      | some s =>
        rcases has.member? s with ⟨unknown, others⟩ | ⟨f, there, rfl, known⟩
        · rw [readMembers_unknown fuel seen first a blanks blanks' name colon colon' value closes named
            unknown, List.append_cons]
          exact ih later (reached.unknown named others) left
        · by_cases again : f.name ∈ seen
          · exact ⟨none, (reached.again there named again).symm, by simp,
              readMembers_again fuel seen first a blanks blanks' name named known again⟩
          · have step := readMembers_known fuel seen first a blanks blanks' name colon colon' value
              closes named known again
            cases meaning : f.meaning? v with
            | none =>
              rw [meaning] at step
              exact ⟨none, (Form.object?_meaningless there named meaning (by simp)).symm, by simp, step⟩
            | some x =>
              rw [meaning] at step
              dsimp only at step
              rw [step, List.append_cons]
              exact ih later (reached.known there named again meaning) left

theorem readObject_spelled {ms : List (List Nat × Tree)} {w : Bytes}
    (spelled : Spells (.members true ms) w) (rest : Bytes) :
    Decides (shape.readObject (w ++ rest)) (form.needing? needs ms) rest := by
  have enough : ms.length < (w ++ rest).length + 1 := by
    have := spelled.members_length
    simp only [List.length_append]
    omega
  have start : form.Reached [] [] form.initial := ⟨.nil, by simp [valuesOf]⟩
  obtain ⟨o, told, seen, read⟩ := has.readMembers_spelled spelled start enough rest
  rw [← has.initial] at read
  rw [List.nil_append] at told seen
  cases o with
  | none =>
    obtain ⟨f, left, failed⟩ := read
    rw [Form.needing?_untold told.symm]
    exact ⟨f, left, bind_error failed⟩
  | some result =>
    obtain ⟨names, a⟩ := result
    rw [readObject_members read]
    cases missing : shape.missing? names with
    | none =>
      have complete := (has.missing?_eq_none names).1 missing
      rw [Form.needing?_complete fun f there needed =>
        (seen _ rfl f there).1 (complete f there needed), ← told]
      rfl
    | some m =>
      have incomplete : ∃ f ∈ form.slots, needs f.name = true ∧ f.name ∉ names := by
        by_contra none
        push Not at none
        rw [(has.missing?_eq_none names).2 none] at missing
        cases missing
      obtain ⟨f, there, needed, absent⟩ := incomplete
      rw [Form.needing?_missing there needed
        (Classical.not_not.1 (mt (seen _ rfl f there).2 absent))]
      exact ⟨_, _, rfl⟩

/-- A record is read as what it means, as an object or as a list. -/
theorem interprets : Interprets shape.read (form.meaningNeeding? needs) := by
  intro v b t blanks spelled rest closes
  have found := Reader.found_spelled blanks spelled closes
  rw [List.append_assoc]
  cases v with
  | object ms =>
    cases spelled with
    | @object _ w members =>
      have step : shape.read (b ++ (0x7b :: w ++ rest)) = shape.readObject (w ++ rest) :=
        bind_ok found
      rw [step]
      exact has.readObject_spelled members rest
  | list vs =>
    cases spelled with
    | @list _ w items =>
      have read := readElements_spelled shape (i := 0) items (.start form needs) rest
      rw [← has.members, ← has.initial] at read
      have step : shape.read (b ++ (0x5b :: w ++ rest)) =
          (do
            let a ← shape.readElements shape.members 0 shape.initial
            Reader.listEnd
            return a : Reader α) (w ++ rest) := bind_ok found
      rw [step]
      exact read
  | null => exact ⟨_, _, bind_ok found⟩
  | boolean => exact ⟨_, _, bind_ok found⟩
  | numeral n =>
    cases number : n.number? with
    | none =>
      rw [Tree.found?, number] at found
      obtain ⟨f, left, failed⟩ := found
      exact ⟨f, left, bind_error failed⟩
    | some x =>
      rw [Tree.found?, number] at found
      exact ⟨_, _, bind_ok found⟩
  | text us =>
    cases chars : string? us with
    | none =>
      rw [Tree.found?, chars] at found
      obtain ⟨f, left, failed⟩ := found
      exact ⟨f, left, bind_error failed⟩
    | some x =>
      rw [Tree.found?, chars] at found
      exact ⟨_, _, bind_ok found⟩

end Needs

theorem Has.interprets (has : shape.Has form) : Interprets shape.read form.meaning? := by
  rw [← Form.meaningNeeding?_none]
  exact has.needs.interprets

end Shape
end DeviceRegistry.Json
