import DeviceRegistry.Proofs.Json.Members
import DeviceRegistry.Proofs.Json.Recognition

/-! Whatever a reader takes off a text is a value that is spelled rightly. So a text is read if it tells
something that has a meaning to the reader, and refused otherwise. -/
namespace DeviceRegistry.Json
open Bytes

namespace Reader

/-- What is found without its brackets is a value; of a list or an object the bracket comes next. -/
theorem found_accepts {input rest : Bytes} {x : Found} (text : IsText input)
    (read : found input = .ok x rest) :
    ∃ b w, IsBlanks b ∧ input = b ++ w ∧
      ((x = .list ∧ ∃ w', w = 0x5b :: w' ∧ rest = w ∧ IsText w') ∨
        (x = .object ∧ ∃ w', w = 0x7b :: w' ∧ rest = w ∧ IsText w') ∨
        (x ≠ .list ∧ x ≠ .object ∧ ValueAhead w rest)) := by
  obtain ⟨o, w, seen, later⟩ := bind_eq_ok read
  obtain ⟨rfl, token, b, blanks, same⟩ := exists_token seen
  have text : IsText w := (same ▸ text).behind_ascii blanks.ascii
  refine ⟨b, w, blanks, same, ?_⟩
  cases w with
  | nil => cases later
  | cons c w =>
    by_cases list : c = 0x5b
    · subst list
      cases later
      exact .inl ⟨rfl, w, rfl, rfl, text.tail (by decide)⟩
    by_cases object : c = 0x7b
    · subst object
      cases later
      exact .inr (.inl ⟨rfl, w, rfl, rfl, text.tail (by decide)⟩)
    have again : found (c :: w) = .ok x rest := by
      rw [found, bind_ok (peekToken?_cons (token c rfl) w)]
      exact later
    obtain ⟨noList, noObject, passed⟩ := skipScalar_of_found (token c rfl) list object again
    exact .inr (.inr ⟨noList, noObject, skipScalar_accepts text passed⟩)

end Reader

section Readers

variable {α β : Type}

theorem LooksAt.accepts {r : Reader α} {g : Found → Option α} (looks : LooksAt r g) : Accepts r := by
  obtain ⟨⟨k, rfl, decides⟩, list, object⟩ := looks
  intro input a rest text read
  obtain ⟨x, mid, found, later⟩ := bind_eq_ok read
  have taken : g x = some a ∧ mid = rest := by
    have decided := decides x mid
    cases told : g x with
    | none =>
      rw [told] at decided
      obtain ⟨f, left, failed⟩ := decided
      rw [failed] at later
      cases later
    | some b =>
      rw [told] at decided
      cases later.symm.trans decided
      exact ⟨rfl, rfl⟩
  obtain ⟨told, rfl⟩ := taken
  obtain ⟨b, w, blanks, same, ⟨rfl, -⟩ | ⟨rfl, -⟩ | ⟨-, -, ahead⟩⟩ := Reader.found_accepts text found
  · rw [list] at told
    cases told
  · rw [object] at told
    cases told
  · exact ⟨b, w, blanks, same, ahead⟩

theorem Accepts.map {r : Reader α} (h : Accepts r) (f : α → β) :
    Accepts (do let a ← r; return f a : Reader β) := by
  intro input _ rest text read
  obtain ⟨a, first, -⟩ := Reader.return_ok read
  exact h text first

end Readers

namespace Reader

variable {input rest : Bytes} {first : Bool}

theorem inside_eq_ok {α : Type} {s : Segment} {r : Reader α} {a : α}
    (read : inside s r input = .ok a rest) : r input = .ok a rest := by
  cases inner : r input with
  | ok => simpa [inside, inner] using read
  | error => simp [inside, inner] at read

theorem anotherMember_accepts {more : Bool} (text : IsText input)
    (read : anotherMember first input = .ok more rest) :
    if more then ∃ b b' w, IsBlanks b ∧ IsBlanks b' ∧ rest = 0x22 :: w ∧ IsText w ∧
      input = separator first b ++ (b' ++ rest)
    else ∃ b w, IsBlanks b ∧ rest = 0x7d :: w ∧ IsText w ∧ input = b ++ rest := by
  obtain ⟨b, c, w, blanks, same, text, later⟩ := asked_accepts text read
  by_cases closing : c = 0x7d
  · subst closing
    rw [if_pos rfl] at later
    cases later
    exact ⟨b, w, blanks, rfl, text.tail (by decide), same⟩
  rw [if_neg closing] at later
  cases first with
  | true =>
    rw [if_pos rfl] at later
    by_cases quote : c = 0x22
    · subst quote
      rw [if_pos rfl] at later
      cases later
      exact ⟨[], b, w, isBlanks_nil, blanks, rfl, text.tail (by decide), same⟩
    · rw [if_neg quote] at later
      cases later
  | false =>
    rw [if_neg (by decide)] at later
    by_cases comma : c = 0x2c
    · subst comma
      rw [if_pos rfl, bind_ok (drop_cons _ _)] at later
      obtain ⟨b', d, w', blanks', same', text, last⟩ := asked_accepts (text.tail (by decide)) later
      by_cases quote : d = 0x22
      · subst quote
        rw [if_pos rfl] at last
        cases last
        refine ⟨b, b', w', blanks, blanks', rfl, text.tail (by decide), ?_⟩
        simp [same, same', separator]
      · rw [if_neg quote] at last
        split at last <;> cases last
    · rw [if_neg comma] at later
      cases later

theorem anotherElement_accepts {more : Bool} (text : IsText input)
    (read : anotherElement first input = .ok more rest) :
    IsText rest ∧ if more then ∃ b b', IsBlanks b ∧ IsBlanks b' ∧
      input = separator first b ++ (b' ++ rest)
    else ∃ b w, IsBlanks b ∧ rest = 0x5d :: w ∧ input = b ++ rest := by
  obtain ⟨b, c, w, blanks, same, text, later⟩ := asked_accepts text read
  by_cases closing : c = 0x5d
  · subst closing
    rw [if_pos rfl] at later
    cases later
    exact ⟨text, b, w, blanks, rfl, same⟩
  rw [if_neg closing] at later
  cases first with
  | true =>
    rw [if_pos rfl] at later
    cases later
    exact ⟨text, [], b, isBlanks_nil, blanks, same⟩
  | false =>
    rw [if_neg (by decide)] at later
    by_cases comma : c = 0x2c
    · subst comma
      rw [if_pos rfl, bind_ok (drop_cons _ _)] at later
      obtain ⟨b', d, w', blanks', same', text, last⟩ := asked_accepts (text.tail (by decide)) later
      split at last
      · cases last
      · cases last
        refine ⟨text, b, b', blanks, blanks', ?_⟩
        simp [same, same', separator]
    · rw [if_neg comma] at later
      cases later

theorem colon_accepts (text : IsText input) (read : colon input = .ok () rest) :
    IsText rest ∧ ∃ b, IsBlanks b ∧ input = b ++ 0x3a :: rest := by
  obtain ⟨b, c, w, blanks, same, text, later⟩ := asked_accepts text read
  by_cases colon : c = 0x3a
  · subst colon
    cases later
    exact ⟨text.tail (by decide), b, blanks, same⟩
  · rw [if_neg colon] at later
    cases later

theorem listEnd_accepts (text : IsText input) (read : listEnd input = .ok () rest) :
    IsText rest ∧ ∃ b, IsBlanks b ∧ input = b ++ 0x5d :: rest := by
  obtain ⟨b, c, w, blanks, same, text, later⟩ := asked_accepts text read
  by_cases closing : c = 0x5d
  · subst closing
    cases later
    exact ⟨text.tail (by decide), b, blanks, same⟩
  · rw [if_neg closing] at later
    split at later
    · obtain ⟨_, _, -, later⟩ := bind_eq_ok later
      obtain ⟨_, _, -, later⟩ := bind_eq_ok later
      split at later <;> cases later
    · cases later

/-- A member's name stands in front, or else the closing brace, which stays. -/
theorem nextName?_accepts {o : Option String} (text : IsText input)
    (read : nextName? first input = .ok o rest) :
    (o.isSome ∧ IsText rest ∧ ∃ b b' us n, IsBlanks b ∧ IsBlanks b' ∧ SpellsText us n ∧
        input = separator first b ++ (b' ++ 0x22 :: (n ++ 0x22 :: rest))) ∨
      (o = none ∧ ∃ b w, IsBlanks b ∧ IsText w ∧ rest = 0x7d :: w ∧ input = b ++ rest) := by
  obtain ⟨more, mid, another, later⟩ := bind_eq_ok (inside_eq_ok read)
  have met := anotherMember_accepts text another
  cases more with
  | false =>
    cases later
    obtain ⟨b, w, blanks, same, text, whole⟩ := met
    exact .inr ⟨rfl, b, w, blanks, text, same, whole⟩
  | true =>
    obtain ⟨b, b', w, blanks, blanks', rfl, textName, rfl⟩ := met
    rw [if_pos rfl, bind_ok (drop_cons _ _)] at later
    obtain ⟨s, quoted, rfl⟩ := return_ok later
    obtain ⟨us, n, spelled, rfl, behind⟩ :=
      skipTextRest_accepts textName (skipTextRest_of_quotedRest quoted)
    exact .inl ⟨rfl, behind, b, b', us, n, blanks, blanks', spelled, rfl⟩

end Reader

namespace Shape

variable {α : Type} {shape : Shape α}

/-- The value of a member, and the members behind it. -/
theorem ahead_member {α β : Type} {r : Reader α} (accepts : Accepts r) {s : Segment}
    {k : α → Reader β} {result : β} {input mid rest n b b' : Bytes} {first : Bool} {us : List Nat}
    (text : IsText mid) (blanks : IsBlanks b) (blanks' : IsBlanks b') (name : SpellsText us n)
    (same : input = separator first b ++ (b' ++ 0x22 :: (n ++ 0x22 :: mid)))
    (read : (do Reader.colon; let a ← Reader.inside s r; k a : Reader β) mid = .ok result rest) :
    ∃ a left, IsText left ∧ k a left = .ok result rest ∧
      ∀ {w}, (∃ ms, Ahead (.members false ms) left w) → ∃ ms, Ahead (.members first ms) input w := by
  obtain ⟨_, behind, separated, later⟩ := bind_eq_ok read
  obtain ⟨textBehind, c, colon, rfl⟩ := Reader.colon_accepts text separated
  obtain ⟨a, left, value, last⟩ := bind_eq_ok later
  obtain ⟨c', w, colon', rfl, v, ahead⟩ := accepts textBehind (Reader.inside_eq_ok value)
  refine ⟨a, left, ahead.text, last, fun ⟨ms, members⟩ => ⟨(us, v) :: ms, ?_⟩⟩
  rw [same]
  exact .member blanks blanks' name colon colon' ahead members

/-- The members that a record reads are those of its object. -/
theorem readMembers_accepts (members : ∀ m ∈ shape.members, Accepts m.read) {fuel : Nat}
    {seen : List String} {first : Bool} {a : α} {input rest : Bytes} {result : List String × α}
    (text : IsText input) (read : shape.readMembers fuel seen first a input = .ok result rest) :
    ∃ w, rest = 0x7d :: w ∧ ∃ ms, Ahead (.members first ms) input w := by
  induction fuel generalizing seen first a input with
  | zero => cases read
  | succ fuel ih =>
    obtain ⟨o, mid, next, later⟩ := bind_eq_ok read
    obtain ⟨more, textMid, b, b', us, n, blanks, blanks', name, same⟩ |
      ⟨rfl, b, w, blanks, textRest, rfl, rfl⟩ := Reader.nextName?_accepts text next
    · obtain ⟨name', rfl⟩ := Option.isSome_iff_exists.1 more
      dsimp only at later
      cases known : shape.member? name' with
      | none =>
        rw [known] at later
        obtain ⟨_, left, textLeft, last, joined⟩ :=
          ahead_member accepts_skipValue textMid blanks blanks' name same later
        obtain ⟨w, closing, ahead⟩ := ih textLeft last
        exact ⟨w, closing, joined ahead⟩
      | some m =>
        rw [known] at later
        dsimp only at later
        split at later
        · cases later
        · have there : m ∈ shape.members := List.mem_of_find?_eq_some known
          obtain ⟨_, left, textLeft, last, joined⟩ :=
            ahead_member (members m there) textMid blanks blanks' name same later
          obtain ⟨w, closing, ahead⟩ := ih textLeft last
          exact ⟨w, closing, joined ahead⟩
    · cases later
      exact ⟨w, rfl, [], textRest, _, .objectEnd blanks, by simp⟩

theorem readObject_accepts (members : ∀ m ∈ shape.members, Accepts m.read) {a : α}
    {input rest : Bytes} (text : IsText input) (read : shape.readObject input = .ok a rest) :
    ∃ ms, Ahead (.members true ms) input rest := by
  obtain ⟨⟨seen, a'⟩, mid, first, later⟩ := bind_eq_ok read
  obtain ⟨w, rfl, ms, ahead⟩ := readMembers_accepts members text first
  dsimp only at later
  cases missing : shape.missing? seen with
  | some m =>
    rw [missing] at later
    cases later
  | none =>
    rw [missing] at later
    cases later
    exact ⟨ms, ahead⟩

/-- In front of the closing bracket no element is read. -/
theorem readElements_closing {later : List (Member α)} {i : Nat} {a b : α} {w rest : Bytes}
    (read : shape.readElements later i a (0x5d :: w) = .ok b rest) : rest = 0x5d :: w := by
  induction later generalizing i a with
  | nil =>
    cases read
    rfl
  | cons m later ih =>
    have none : Reader.anotherElement (i == 0) (0x5d :: w) = .ok false (0x5d :: w) :=
      Reader.anotherElement_closing (i == 0) isBlanks_nil w
    rw [readElements, bind_ok none, if_neg (by decide)] at read
    split at read
    · cases read
    · exact ih read

theorem readElements_accepts {later : List (Member α)} (members : ∀ m ∈ later, Accepts m.read)
    {i : Nat} {a b : α} {input rest : Bytes} (text : IsText input)
    (read : (do
      let a ← shape.readElements later i a
      Reader.listEnd
      return a : Reader α) input = .ok b rest) :
    ∃ vs, Ahead (.items (i == 0) vs) input rest := by
  obtain ⟨a', mid, elements, ended⟩ := bind_eq_ok read
  obtain ⟨_, _, ended, same⟩ := bind_eq_ok ended
  cases same
  clear read
  induction later generalizing i a input with
  | nil =>
    cases elements
    obtain ⟨textRest, b, blanks, rfl⟩ := Reader.listEnd_accepts text ended
    exact ⟨[], textRest, _, .listEnd blanks, by simp⟩
  | cons m later ih =>
    obtain ⟨first, others⟩ := List.forall_mem_cons.1 members
    obtain ⟨more, behind, another, element⟩ := bind_eq_ok elements
    obtain ⟨textBehind, met⟩ := Reader.anotherElement_accepts text another
    cases more with
    | true =>
      rw [if_pos rfl] at element
      obtain ⟨b, b', blanks, blanks', same⟩ := met
      obtain ⟨change, left, value, others'⟩ := bind_eq_ok element
      obtain ⟨c, w, blanks'', rfl, v, ahead⟩ := first textBehind (Reader.inside_eq_ok value)
      obtain ⟨vs, items⟩ := ih others (i := i + 1) ahead.text others'
      refine ⟨v :: vs, ?_⟩
      rw [same, ← List.append_assoc b']
      exact .item blanks (blanks'.append blanks'') ahead items
    | false =>
      rw [if_neg (by decide)] at element
      obtain ⟨b, w, blanks, rfl, same⟩ := met
      split at element
      · cases element
      · obtain rfl := readElements_closing element
        rw [show 0x5d :: w = [] ++ 0x5d :: w from rfl, Reader.listEnd_blanks isBlanks_nil] at ended
        cases ended
        exact ⟨[], textBehind.tail (by decide), _, .listEnd blanks, by simp [same]⟩

end Shape

theorem accepts_shape {α : Type} {shape : Shape α} (members : ∀ m ∈ shape.members, Accepts m.read) :
    Accepts shape.read := by
  intro input a rest text read
  obtain ⟨x, mid, found, later⟩ := bind_eq_ok read
  obtain ⟨b, w, blanks, same, ⟨rfl, w', rfl, rfl, text⟩ | ⟨rfl, w', rfl, rfl, text⟩ |
    ⟨noList, noObject, -⟩⟩ := Reader.found_accepts text found
  · obtain ⟨vs, items⟩ := Shape.readElements_accepts members (i := 0) text later
    exact ⟨b, _, blanks, same, _, items.list⟩
  · obtain ⟨ms, object⟩ := Shape.readObject_accepts members text later
    exact ⟨b, _, blanks, same, _, object.object⟩
  · cases x with
    | list => exact absurd rfl noList
    | object => exact absurd rfl noObject
    | _ => cases later

/-- A text that is read to its end tells something. -/
theorem Accepts.tells {α : Type} {r : Reader α} (h : Accepts r) {w : Bytes} (text : IsText w) {a : α}
    (read : Json.read r w = .ok a) : ∃ v, Tells w v := by
  rw [Json.read] at read
  cases whole : (do let a ← r; Reader.finish; return a : Reader α) w with
  | error f rest =>
    rw [whole] at read
    cases read
  | ok b rest =>
    obtain ⟨_, mid, first, later⟩ := bind_eq_ok whole
    obtain ⟨_, _, finished, -⟩ := bind_eq_ok later
    obtain ⟨b, t, blanks, rfl, v, -, t, spelled, rfl⟩ := h text first
    refine ⟨v, b, t, mid, blanks, spelled, ?_, rfl⟩
    obtain ⟨o, left, seen, last⟩ := bind_eq_ok finished
    obtain ⟨rfl, -, b', blanks', rfl⟩ := Reader.exists_token seen
    cases left with
    | nil => simpa using blanks'
    | cons => cases last

/-- What an interpreting reader makes of a text is what the text tells means; so a text that tells
nothing is refused. -/
theorem Interprets.read_eq_ok {α : Type} {r : Reader α} {meaning? : Tree → Option α}
    (h : Interprets r meaning?) (accepts : Accepts r) (s : String) (a : α) :
    Json.read r (ofText s) = .ok a ↔ ∃ v, Tells (ofText s) v ∧ meaning? v = some a := by
  constructor
  · intro read
    obtain ⟨v, tells⟩ := accepts.tells (isText_ofText s) read
    refine ⟨v, tells, ?_⟩
    rw [← h.read tells, read]
    rfl
  · rintro ⟨v, tells, means⟩
    have read := h.read tells
    rw [means] at read
    cases result : Json.read r (ofText s) with
    | ok b =>
      rw [result] at read
      rw [Option.some.inj read]
    | error =>
      rw [result] at read
      cases read

end DeviceRegistry.Json
