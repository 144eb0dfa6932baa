import DeviceRegistry.Proofs.Json.Record
import DeviceRegistry.Proofs.Json.Skipping

/-! What a reader makes of a text depends on what the text tells, and not on how it is spelled. -/
namespace DeviceRegistry.Json
open Bytes

/-- In front of whatever may follow, the reader comes to `o` with these bytes. -/
def Settles {α : Type} (r : Reader α) (w : Bytes) (o : Option α) : Prop :=
  ∀ rest, Closes rest → Decides (r (w ++ rest)) o rest

/-- The reader makes of every value what it means, and refuses one that means nothing. -/
def Interprets {α : Type} (r : Reader α) (meaning? : Tree → Option α) : Prop :=
  ∀ v b t, IsBlanks b → Spells (.value v) t → Settles r (b ++ t) (meaning? v)

namespace Reader

theorem finish_blanks {b : Bytes} (blanks : IsBlanks b) : finish b = .ok () [] := by
  have all : b.dropWhile isBlank = [] := by
    simpa using @List.dropWhile_append_of_pos _ isBlank b [] blanks
  simp [finish, peekToken?, Reader.blanks, peek?, bind, EStateM.bind, pure, EStateM.pure, all]

end Reader

/-- A whole text is read as what it tells means. -/
theorem Interprets.read {α : Type} {r : Reader α} {meaning? : Tree → Option α}
    (h : Interprets r meaning?) {w : Bytes} {v : Tree} (tells : Tells w v) :
    (Json.read r w).toOption = meaning? v := by
  obtain ⟨b, t, b', blanks, spelled, blanks', rfl⟩ := tells
  have decided := h v b t blanks spelled b' (List.append_nil b' ▸ closes_nil.blanks blanks')
  rw [List.append_assoc] at decided
  rw [Json.read]
  cases meaning : meaning? v with
  | none =>
    rw [meaning] at decided
    obtain ⟨f, rest, failed⟩ := decided
    rw [bind_error failed]
    rfl
  | some a =>
    rw [meaning] at decided
    have done : r (b ++ (t ++ b')) = .ok a b' := decided
    rw [bind_ok done, bind_ok (Reader.finish_blanks blanks')]
    rfl

namespace Numeral

/-- The number that a numeral is read as, unless it lies beyond the finite ones. -/
def number? (n : Numeral) : Option Number :=
  n.wholeNumber?.or (if n.decimal.nearest.isFinite then some (.real n.decimal.nearest) else none)

end Numeral

namespace Tree

/-- What a value is found to be. -/
def found? : Tree → Option Found
  | null => some .null
  | boolean b => some (.boolean b)
  | numeral n => n.number?.map .number
  | text us => (string? us).map .text
  | list _ => some .list
  | object _ => some .object

/-- What is left of the value itself when its kind is known. -/
def left (t : Bytes) : Tree → Bytes
  | list _ => t
  | object _ => t
  | _ => []

end Tree

namespace Reader

theorem numberRest_spelled {n : Numeral} (wellFormed : n.WellFormed) {rest : Bytes}
    (closes : Closes rest) :
    Decides (numberRest n.negative (n.chars.map ofChar ++ rest)) n.number? rest := by
  rw [numberRest_chars wellFormed closes, Numeral.number?]
  cases n.wholeNumber? with
  | some number => rfl
  | none =>
    by_cases finite : n.decimal.nearest.isFinite = true
    · simp only [Option.none_or, realOf, if_pos finite]
      rfl
    · simp only [Option.none_or, realOf, if_neg finite]
      exact ⟨_, _, rfl⟩

theorem found_spelled {v : Tree} {b t rest : Bytes} (blanks : IsBlanks b)
    (spelled : Spells (.value v) t) (closes : Closes rest) :
    Decides (found (b ++ (t ++ rest))) v.found? (v.left t ++ rest) := by
  obtain ⟨c, w, first, token, -⟩ := spelled.first
  have same : found (b ++ (t ++ rest)) = found (t ++ rest) := by
    rw [first, List.cons_append, found, bind_ok (peekToken?_blanks blanks token _),
      bind_ok (peekToken?_cons token _)]
  rw [same]
  cases spelled with
  | null => rfl
  | boolean b => cases b <;> rfl
  | numeral wellFormed =>
    rw [found_bytes wellFormed]
    exact (numberRest_spelled wellFormed closes).map
  | @text us w inside =>
    have decided := (quotedRest_spelled inside rest).map (f := Found.text)
    rw [List.cons_append, List.append_assoc, found, bind_ok (peekToken?_cons (by rfl) _)]
    exact decided
  | list => rfl
  | object => rfl

end Reader

section Readers

variable {α : Type}

/-- The reader takes what it finds or refuses it at once, and it refuses a list and an object. -/
structure LooksAt (r : Reader α) (g : Found → Option α) : Prop where
  decides : ∃ k, r = Reader.found >>= k ∧ ∀ x rest, Decides (k x rest) (g x) rest
  list : g .list = none
  object : g .object = none

theorem LooksAt.interprets {r : Reader α} {g : Found → Option α} (looks : LooksAt r g) :
    Interprets r (·.found?.bind g) := by
  obtain ⟨⟨k, rfl, decides⟩, list, object⟩ := looks
  intro v b t blanks spelled rest closes
  rw [List.append_assoc]
  refine (Reader.found_spelled blanks spelled closes).bind fun x hx => ?_
  have decided := decides x (v.left t ++ rest)
  cases v with
  | null | boolean | numeral | text => exact decided
  | list =>
    cases hx
    rw [list] at decided ⊢
    exact decided
  | object =>
    cases hx
    rw [object] at decided ⊢
    exact decided

namespace Found

def text? : Found → Option String
  | text s => some s
  | _ => none

def real? : Found → Option Binary64
  | number n => some n.toReal
  | _ => none

end Found

theorem looksAt_text : LooksAt Reader.text Found.text? := by
  refine ⟨⟨_, rfl, fun x rest => ?_⟩, rfl, rfl⟩
  cases x with
  | text s => rfl
  | _ => exact ⟨_, _, rfl⟩

theorem looksAt_real : LooksAt Reader.real Found.real? := by
  refine ⟨⟨_, rfl, fun x rest => ?_⟩, rfl, rfl⟩
  cases x with
  | number n => rfl
  | _ => exact ⟨_, _, rfl⟩

/-- Null means nothing, and any other value what it means alone. -/
def nullable? (meaning? : Tree → Option α) : Tree → Option (Option α)
  | .null => some none
  | v => (meaning? v).map some

theorem nullable?_some {meaning? : Tree → Option α} {v : Tree} (other : v ≠ .null) :
    nullable? meaning? v = (meaning? v).map some := by
  cases v with
  | null => contradiction
  | _ => rfl

theorem nullable?_none {meaning? : Tree → Option α} {v : Tree} (other : v ≠ .null)
    (meaningless : meaning? v = none) : nullable? meaning? v = none := by
  rw [nullable?_some other, meaningless, Option.map_none]

theorem nullable?_congr {meaning? : Tree → Option α} {v v' : Tree} (null : v = .null ↔ v' = .null)
    (same : meaning? v = meaning? v') : nullable? meaning? v = nullable? meaning? v' := by
  by_cases h : v = .null
  · rw [h, null.1 h]
  · rw [nullable?_some h, nullable?_some (mt null.2 h), same]

theorem Interprets.nullable {r : Reader α} {meaning? : Tree → Option α} (h : Interprets r meaning?) :
    Interprets (Reader.nullable r) (nullable? meaning?) := by
  intro v b t blanks spelled rest closes
  rw [List.append_assoc]
  by_cases null : v = .null
  · subst null
    cases spelled
    rw [List.cons_append, Reader.nullable, bind_ok (Reader.peekToken?_blanks blanks (by rfl) _),
      if_pos rfl]
    rfl
  · have decided := (h v [] t isBlanks_nil spelled rest closes).map (f := some)
    obtain ⟨c, w, rfl, token, -, -, other⟩ := spelled.first
    have absent : ¬ some c = some 0x6e := fun same => other null (Option.some.inj same)
    rw [nullable?_some null, List.cons_append, Reader.nullable,
      bind_ok (Reader.peekToken?_blanks blanks token _), if_neg absent]
    exact decided

end Readers
end DeviceRegistry.Json
