import DeviceRegistry.Proofs.Json.Record

/-! What is true of everything that a reader reads, whatever the text. Of numbers it is that they are
finite: a numeral that is too large is refused, and one that stays whole has 64 bits. -/
namespace DeviceRegistry.Json

variable {α β : Type}

/-- Whatever the reader makes of a text has the property. -/
def Gives (r : Reader α) (P : α → Prop) : Prop := ∀ input a rest, r input = .ok a rest → P a

namespace Gives

variable {r : Reader α} {f : α → Reader β} {P : α → Prop} {Q : β → Prop}

theorem any (r : Reader α) : Gives r fun _ => True := fun _ _ _ _ => trivial

theorem pure {a : α} (h : P a) : Gives (pure a : Reader α) P := by
  rintro input _ rest ⟨⟩
  exact h

theorem fail (cause : Cause) : Gives (Reader.fail cause : Reader α) P := nofun

theorem refuseObject (what : Mismatch) : Gives (Reader.refuseObject what : Reader α) P := nofun

theorem refuseList (what : Mismatch) : Gives (Reader.refuseList what : Reader α) P := nofun

theorem bind (h : Gives r P) (rest : ∀ a, P a → Gives (f a) Q) : Gives (r >>= f) Q := by
  intro input b after done
  obtain ⟨a, between, first, second⟩ := bind_eq_ok done
  exact rest a (h input a between first) between b after second

/-- What comes after something else, of which nothing matters. -/
theorem after (r : Reader α) (rest : ∀ a, Gives (f a) Q) : Gives (r >>= f) Q :=
  (any r).bind fun a _ => rest a

theorem ite {p : Prop} [Decidable p] {r r' : Reader α} (yes : p → Gives r P)
    (no : ¬ p → Gives r' P) : Gives (if p then r else r') P := by
  split
  next h => exact yes h
  next h => exact no h

theorem inside (s : Segment) (h : Gives r P) : Gives (Reader.inside s r) P := by
  intro input a rest done
  cases first : r input with
  | ok a' rest' =>
    rw [Reader.inside_ok first] at done
    cases done
    exact h input _ _ first
  | error failure rest' =>
    rw [Reader.inside_error first] at done
    contradiction

theorem read {a : α} {input : Bytes} (h : Gives r P) (done : Json.read r input = .ok a) : P a := by
  rw [Json.read] at done
  split at done
  next a' rest all =>
    cases done
    obtain ⟨a'', between, first, second⟩ := bind_eq_ok all
    obtain ⟨-, between', -, third⟩ := bind_eq_ok second
    cases third
    exact h input _ between first
  next => contradiction

end Gives

def Number.IsFinite (n : Number) : Prop := n.toReal.isFinite = true

theorem wholeNumber?_finite {negative : Bool} {n : Nat} {number : Number}
    (whole : wholeNumber? negative n = some number) : number.IsFinite := by
  have small (n : UInt64) : (Binary64.ofNat n.toNat).isFinite = true :=
    Binary64.isFinite_ofNat n.toNat_lt
  rw [wholeNumber?] at whole
  split at whole <;> split at whole <;> cases whole
  · exact (Binary64.isFinite_neg _).trans (small _)
  · exact small _

namespace Reader

theorem realOf_finite (x : Decimal) : Gives (realOf x) Number.IsFinite :=
  .ite (fun finite => .pure finite) fun _ => .fail _

theorem numberRest_finite (negative : Bool) : Gives (numberRest negative) Number.IsFinite := by
  refine .after _ fun n => .after _ fun next => .ite (fun _ => ?_) fun _ => ?_
  · exact .after _ fun _ => .after _ fun _ => .after _ fun _ => realOf_finite _
  · refine .after _ fun exponent => ?_
    cases exponent with
    | some e => exact realOf_finite _
    | none =>
      dsimp only
      cases whole : wholeNumber? negative n with
      | some number => exact .pure (wholeNumber?_finite whole)
      | none => exact realOf_finite _

theorem number_finite : Gives number Number.IsFinite :=
  .after _ fun _ => .ite (fun _ => .after _ fun _ => numberRest_finite true)
    fun _ => numberRest_finite false

/-- A number that is found is finite. -/
theorem found_finite : Gives found fun f => ∀ n, f = .number n → n.IsFinite := by
  refine .after _ fun next => ?_
  cases next with
  | none => exact .fail _
  | some c =>
    refine .ite (fun _ => .after _ fun _ => .after _ fun _ => .pure nofun) fun _ => ?_
    refine .ite (fun _ => .after _ fun _ => .after _ fun _ => .pure nofun) fun _ => ?_
    refine .ite (fun _ => .after _ fun _ => .after _ fun _ => .pure nofun) fun _ => ?_
    refine .ite (fun _ => number_finite.bind fun n finite => .pure ?_) fun _ => ?_
    · rintro _ ⟨⟩
      exact finite
    refine .ite (fun _ => .after _ fun _ => .after _ fun _ => .pure nofun) fun _ => ?_
    refine .ite (fun _ => .pure nofun) fun _ => ?_
    exact .ite (fun _ => .pure nofun) fun _ => .after _ fun _ => .fail _

theorem real_finite : Gives real fun x => x.isFinite = true := by
  refine found_finite.bind fun f finite => ?_
  cases f with
  | number n => exact .pure (finite n rfl)
  | null | boolean | text | list | object => exact .fail _

theorem nullable_gives {r : Reader α} {P : α → Prop} (h : Gives r P) :
    Gives (nullable r) fun a => ∀ b ∈ a, P b := by
  refine .after _ fun _ => .ite (fun _ => .after _ fun _ => .after _ fun _ => .pure nofun) fun _ => ?_
  refine h.bind fun a holds => .pure ?_
  rintro _ ⟨⟩
  exact holds

end Reader

namespace Shape

variable {shape : Shape α} {P : α → Prop}

/-- The record has the property before a member is read, and each member keeps it. -/
structure Keeps (shape : Shape α) (P : α → Prop) : Prop where
  initial : P shape.initial
  members : ∀ m ∈ shape.members, Gives m.read fun change => ∀ a, P a → P (change a)

theorem readMembers_gives (keeps : shape.Keeps P) (fuel : Nat) (seen : List String) (first : Bool)
    {a : α} (h : P a) : Gives (shape.readMembers fuel seen first a) fun read => P read.2 := by
  induction fuel generalizing seen first a with
  | zero => exact .fail _
  | succ fuel ih =>
    -- A member that the record does not know leaves it as it is, whatever its value.
    refine .after _ fun name => ?_
    cases name with
    | none => exact .pure h
    | some name =>
      dsimp only
      cases known : shape.member? name with
      | none => exact .after _ fun _ => .after _ fun _ => ih _ _ h
      | some m =>
        refine .ite (fun _ => .refuseObject _) fun _ => .after _ fun _ => ?_
        have change := keeps.members m (List.mem_of_find?_eq_some known)
        exact (change.inside _).bind fun change keeps => ih _ _ (keeps a h)

theorem readObject_gives (keeps : shape.Keeps P) : Gives shape.readObject P := by
  have members : Gives (fun input : Bytes =>
      shape.readMembers (input.length + 1) [] true shape.initial input) fun read => P read.2 :=
    fun input => readMembers_gives keeps _ _ _ keeps.initial input
  refine Gives.bind members fun read h => ?_
  dsimp only
  refine .after _ fun _ => ?_
  split
  · exact .fail _
  · exact .pure h

theorem readElements_gives {members : List (Member α)}
    (keeps : ∀ m ∈ members, Gives m.read fun change => ∀ a, P a → P (change a)) (i : Nat) {a : α}
    (h : P a) : Gives (shape.readElements members i a) P := by
  induction members generalizing i a with
  | nil => exact .pure h
  | cons m rest ih =>
    rw [List.forall_mem_cons] at keeps
    refine .after _ fun more => .ite (fun _ => ?_) fun _ => ?_
    · exact (keeps.1.inside _).bind fun change each => ih keeps.2 _ (each a h)
    · exact .ite (fun _ => .refuseList _) fun _ => ih keeps.2 _ h

/-- What each member keeps is true of the record, in object form and in list form. -/
theorem read_gives (keeps : shape.Keeps P) : Gives shape.read P := by
  refine .after _ fun found => ?_
  cases found with
  | object => exact .after _ fun _ => readObject_gives keeps
  | list =>
    refine .after _ fun _ => (readElements_gives keeps.members 0 keeps.initial).bind fun a h => ?_
    exact .after _ fun _ => .pure h
  | null | boolean | number | text => exact .fail _

end Shape
end DeviceRegistry.Json
