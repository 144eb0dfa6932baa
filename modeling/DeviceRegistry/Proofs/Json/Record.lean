import DeviceRegistry.Json.Record
import DeviceRegistry.Proofs.Json.Number

/-! A record is read back as it was written: the values of its members change it one after the
other. A member that its reader refuses makes the whole record unreadable. -/
namespace DeviceRegistry.Json
open Bytes

/-- Of these bytes the reader makes `a`. -/
def Reads {α : Type} (r : Reader α) (w : Bytes) (a : α) : Prop :=
  ∀ rest, Closes rest → r (w ++ rest) = .ok a rest

def Refuses {α : Type} (r : Reader α) (w : Bytes) : Prop :=
  ∀ rest, Closes rest → ∃ f rest', r (w ++ rest) = .error f rest'

theorem Reads.map {α β : Type} {r : Reader α} {w : Bytes} {a : α} (h : Reads r w a) (f : α → β) :
    Reads (do let x ← r; return f x) w (f a) := by
  intro rest closes
  rw [bind_ok (h rest closes)]
  rfl

theorem Refuses.map {α β : Type} {r : Reader α} {w : Bytes} (h : Refuses r w) (f : α → β) :
    Refuses (do let x ← r; return f x) w := by
  intro rest closes
  obtain ⟨failure, rest', failed⟩ := h rest closes
  exact ⟨failure, rest', bind_error failed⟩

/-- What is written alone is read to its end. -/
theorem Reads.read {α : Type} {r : Reader α} {w : Bytes} {a : α} (h : Reads r w a) :
    Json.read r w = .ok a := by
  have all := h [] closes_nil
  rw [List.append_nil] at all
  rw [Json.read, bind_ok all]
  rfl

theorem Reads.readPlacing {α : Type} {r : Reader α} {w : Bytes} {a : α} (h : Reads r w a) :
    Json.readPlacing r w = .ok a := by
  have all := h [] closes_nil
  rw [List.append_nil] at all
  rw [Json.readPlacing, bind_ok all]
  rfl

theorem reads_text (s : String) : Reads Reader.text (Value.text s).write s :=
  fun rest _ => Reader.text_write s rest

theorem reads_natural (n : UInt64) : Reads Reader.natural (Value.natural n).write n :=
  fun _ closes => Reader.natural_write n closes

theorem reads_real {x : Binary64} (finite : x.isFinite = true) :
    Reads Reader.real (Value.real x).write x :=
  fun _ closes => Reader.real_write finite closes

theorem found_infinite {x : Binary64} (infinite : x.isFinite = false) :
    Reads Reader.found (Value.real x).write .null := by
  intro rest closes
  have null : (Value.real x).write = 0x6e :: [0x75, 0x6c, 0x6c] := by
    rw [Value.real, Value.write, Number.write, if_neg (by simp [infinite]),
      ofText_of_ascii (by simp [IsAscii])]
    rfl
  rw [null, List.cons_append, Reader.found, bind_ok (Reader.peekToken?_cons (by rfl) _)]
  rfl

/-- A number that is not finite is written as null, which is no number. -/
theorem refuses_real {x : Binary64} (infinite : x.isFinite = false) :
    Refuses Reader.real (Value.real x).write :=
  fun rest closes => ⟨_, rest, (bind_ok (found_infinite infinite rest closes)).trans rfl⟩

/-- What is written for a number can be read, whatever the number. -/
theorem found_real (x : Binary64) : ∃ f, Reads Reader.found (Value.real x).write f := by
  cases finite : x.isFinite with
  | true => exact ⟨_, fun rest closes => Reader.found_real finite closes⟩
  | false => exact ⟨_, found_infinite finite⟩

namespace Reader

theorem inside_ok {α : Type} {s : Segment} {r : Reader α} {input rest : Bytes} {a : α}
    (h : r input = .ok a rest) : inside s r input = .ok a rest := by
  simp [inside, h]

theorem inside_error {α : Type} {s : Segment} {r : Reader α} {input rest : Bytes} {f : Failure}
    (h : r input = .error f rest) : inside s r input = .error (f.inside s) rest := by
  simp [inside, h]

theorem anotherMember_first (rest : Bytes) :
    anotherMember true (0x22 :: rest) = .ok true (0x22 :: rest) := by
  rw [anotherMember, bind_ok (peekToken?_cons (by rfl) rest)]
  rfl

theorem anotherMember_later (rest : Bytes) :
    anotherMember false (0x2c :: 0x22 :: rest) = .ok true (0x22 :: rest) := by
  rw [anotherMember, bind_ok (peekToken?_cons (by rfl) _)]
  dsimp only
  rw [if_neg (by decide), if_neg (by decide), if_pos rfl, bind_ok (drop_cons _ _),
    bind_ok (peekToken?_cons (by rfl) rest)]
  rfl

theorem anotherMember_none (first : Bool) (rest : Bytes) :
    anotherMember first (0x7d :: rest) = .ok false (0x7d :: rest) := by
  rw [anotherMember, bind_ok (peekToken?_cons (by rfl) rest)]
  rfl

def lead (first : Bool) : Bytes := if first then [] else [0x2c]

theorem nextName?_write (first : Bool) (name : String) (rest : Bytes) :
    nextName? first (lead first ++ (writeText name ++ rest)) = .ok (some name) rest := by
  have another : anotherMember first (lead first ++ (writeText name ++ rest)) =
      .ok true (writeText name ++ rest) := by
    cases first
    · exact anotherMember_later _
    · exact anotherMember_first _
  apply inside_ok
  rw [bind_ok another, if_pos rfl]
  simp only [writeText, List.cons_append, List.append_assoc, List.nil_append]
  rw [bind_ok (drop_cons _ _), bind_ok (quotedRest_write name rest)]
  rfl

theorem nextName?_none (first : Bool) (rest : Bytes) :
    nextName? first (0x7d :: rest) = .ok none (0x7d :: rest) := by
  apply inside_ok
  rw [bind_ok (anotherMember_none first rest)]
  rfl

theorem found_brace (rest : Bytes) : found (0x7b :: rest) = .ok .object (0x7b :: rest) := by
  rw [found, bind_ok (peekToken?_cons (by rfl) rest)]
  rfl

theorem colon_cons (rest : Bytes) : colon (0x3a :: rest) = .ok () rest := by
  rw [colon, bind_ok (peekToken?_cons (by rfl) rest)]
  rfl

end Reader

namespace Shape

variable {α : Type} {shape : Shape α}

/-- Reads a member that was not seen, up to its value. -/
theorem readMembers_member (fuel : Nat) {seen : List String} (first : Bool) (a : α) {name : String}
    {m : Member α} (known : shape.member? name = some m) (fresh : name ∉ seen) (input : Bytes) :
    shape.readMembers (fuel + 1) seen first a
        (Reader.lead first ++ (writeText name ++ 0x3a :: input)) =
      (do
        let change ← Reader.inside (.member name) m.read
        shape.readMembers fuel (name :: seen) false (change a) : Reader _) input := by
  rw [readMembers, bind_ok (Reader.nextName?_write first name _)]
  simp only [known]
  rw [if_neg (by simpa using fresh), bind_ok (Reader.colon_cons input)]

theorem readMembers_end (fuel : Nat) (seen : List String) (first : Bool) (a : α) (rest : Bytes) :
    shape.readMembers (fuel + 1) seen first a (0x7d :: rest) = .ok (seen, a) (0x7d :: rest) := by
  rw [readMembers, bind_ok (Reader.nextName?_none first rest)]
  rfl

/-- A member with its written value, and the change that the value means. -/
structure Entry (α : Type) where
  member : Member α
  value : Value
  change : α → α

namespace Entry

def name (e : Entry α) : String := e.member.name

def write (e : Entry α) : Bytes := writeText e.name ++ 0x3a :: e.value.write

/-- The shape has the member, and its reader makes the change of the written value. -/
structure Readable (shape : Shape α) (e : Entry α) : Prop where
  known : shape.member? e.name = some e.member
  reads : Reads e.member.read e.value.write e.change

/-- A member that the record cannot do without, with the value `b` written as `v`. -/
def required {β : Type} (name : String) (r : Reader β) (f : β → α → α) (v : Value) (b : β) :
    Entry α where
  member := ⟨name, true, do let x ← r; return f x⟩
  value := v
  change := f b

theorem readable_required {β : Type} {name : String} {r : Reader β} {f : β → α → α} {v : Value}
    {b : β} (known : shape.member? name = some (required name r f v b).member)
    (reads : Reads r v.write b) : (required name r f v b).Readable shape :=
  ⟨known, reads.map f⟩

/-- A member that may be left out, with the value `b` written as `v`. -/
def optional {β : Type} (name : String) (r : Reader β) (f : β → α → α) (v : Value) (b : β) :
    Entry α where
  member := ⟨name, false, do let x ← r; return f x⟩
  value := v
  change := f b

theorem readable_optional {β : Type} {name : String} {r : Reader β} {f : β → α → α} {v : Value}
    {b : β} (known : shape.member? name = some (optional name r f v b).member)
    (reads : Reads r v.write b) : (optional name r f v b).Readable shape :=
  ⟨known, reads.map f⟩

theorem refuses_required {β : Type} {name : String} {r : Reader β} {f : β → α → α} {v : Value}
    {b : β} (refused : Refuses r v.write) :
    Refuses (required name r f v b).member.read (required name r f v b).value.write :=
  refused.map f

def changeAll (entries : List (Entry α)) (a : α) : α := entries.foldl (fun a e => e.change a) a

/-- Members with the commas between them, and a comma in front unless they come first. -/
def writeAll (first : Bool) : List (Entry α) → Bytes
  | [] => []
  | e :: rest => Reader.lead first ++ (e.write ++ writeAll false rest)

theorem writeAll_closes (entries : List (Entry α)) {input : Bytes} (closes : Closes input) :
    Closes (writeAll false entries ++ input) := by
  cases entries with
  | nil => exact closes
  | cons e rest => exact closes_cons _ (by decide)

theorem writeAll_cons (first : Bool) (e : Entry α) (rest : List (Entry α)) (input : Bytes) :
    writeAll first (e :: rest) ++ input =
      Reader.lead first ++ (writeText e.name ++ 0x3a ::
        (e.value.write ++ (writeAll false rest ++ input))) := by
  simp only [writeAll, write, List.append_assoc, List.cons_append]

theorem writeAll_append (first : Bool) (good later : List (Entry α)) :
    writeAll first (good ++ later) =
      writeAll first good ++ writeAll (first && good.isEmpty) later := by
  induction good generalizing first with
  | nil => simp [writeAll]
  | cons e rest ih => simp [writeAll, ih]

theorem separated_writeMembers (entries : List (Entry α)) :
    separated (Value.writeMembers (entries.map fun e => (e.name, e.value))) =
      writeAll true entries := by
  induction entries with
  | nil => rfl
  | cons e rest ih =>
    cases rest with
    | nil => simp [separated, Value.writeMembers, writeAll, write, Reader.lead]
    | cons e' rest =>
      simp only [List.map_cons, Value.writeMembers, separated] at ih ⊢
      rw [ih]
      simp [writeAll, write, Reader.lead]

end Entry

/-- Readable members that were not seen are read one after the other. -/
theorem readMembers_entries (entries : List (Entry α)) (fuel : Nat) (seen : List String)
    (first : Bool) (a : α) {input : Bytes} (readable : ∀ e ∈ entries, e.Readable shape)
    (distinct : (entries.map Entry.name).Nodup) (fresh : ∀ e ∈ entries, e.name ∉ seen)
    (closes : Closes input) :
    shape.readMembers (fuel + entries.length) seen first a
        (Entry.writeAll first entries ++ input) =
      shape.readMembers fuel ((entries.map Entry.name).reverse ++ seen)
        (first && entries.isEmpty) (Entry.changeAll entries a) input := by
  induction entries generalizing seen first a with
  | nil => simp [Entry.writeAll, Entry.changeAll]
  | cons e rest ih =>
    have head := readable e List.mem_cons_self
    have later := head.reads _ (Entry.writeAll_closes rest closes)
    rw [List.map_cons, List.nodup_cons] at distinct
    rw [Entry.writeAll_cons, List.length_cons, ← Nat.add_assoc]
    apply (readMembers_member _ first a head.known (fresh e List.mem_cons_self) _).trans
    rw [bind_ok (Reader.inside_ok later), ih]
    · simp [Entry.changeAll, Entry.name]
    · intro e' he'
      exact readable e' (List.mem_cons_of_mem _ he')
    · exact distinct.2
    · intro e' he' known
      rcases List.mem_cons.1 known with same | known
      · exact distinct.1 (List.mem_map.2 ⟨e', he', same⟩)
      · exact fresh e' (List.mem_cons_of_mem _ he') known

theorem write_object (entries : List (Entry α)) :
    (Value.object (entries.map fun e => (e.name, e.value))).write =
      0x7b :: (Entry.writeAll true entries ++ [0x7d]) := by
  rw [Value.write, Entry.separated_writeMembers]
  rfl

theorem length_writeAll (first : Bool) (entries : List (Entry α)) :
    entries.length ≤ (Entry.writeAll first entries).length := by
  induction entries generalizing first with
  | nil => simp
  | cons e rest ih =>
    have := ih false
    simp only [Entry.writeAll, Entry.write, List.length_append, List.length_cons]
    omega

theorem closes_brace (rest : Bytes) : Closes (0x7d :: rest) := closes_cons _ (by decide)

theorem read_brace (input : Bytes) : shape.read (0x7b :: input) = shape.readObject input := by
  rw [read, bind_ok (Reader.found_brace input)]
  exact bind_ok (Reader.drop_cons _ _)

/-- The length of the input is enough fuel for its members, and one step more. -/
theorem exists_fuel (entries : List (Entry α)) (input : Bytes) :
    ∃ n, (Entry.writeAll true entries ++ input).length + 1 = n + 1 + entries.length := by
  have := length_writeAll true entries
  refine ⟨(Entry.writeAll true entries ++ input).length - entries.length, ?_⟩
  simp only [List.length_append]
  omega

/-- What is written for distinct readable members, with every member that is required, is read as
the record that the values make. -/
theorem reads_object {entries : List (Entry α)} (readable : ∀ e ∈ entries, e.Readable shape)
    (distinct : (entries.map Entry.name).Nodup)
    (complete : shape.missing? (entries.map Entry.name).reverse = none) :
    Reads shape.read (Value.object (entries.map fun e => (e.name, e.value))).write
      (Entry.changeAll entries shape.initial) := by
  intro rest _
  obtain ⟨n, fuel⟩ := exists_fuel entries (0x7d :: rest)
  have members := readMembers_entries entries (n + 1) [] true shape.initial readable distinct
    (by simp) (closes_brace rest)
  rw [readMembers_end, ← fuel, List.append_nil] at members
  rw [write_object, List.cons_append, List.append_assoc, read_brace, readObject]
  apply (bind_ok members).trans
  simp only [complete]
  rfl

/-- A value that its reader refuses makes the record unreadable. -/
theorem readPlacing_refused {good : List (Entry α)} (later : List (Entry α)) {e : Entry α}
    (readable : ∀ e ∈ good, e.Readable shape)
    (distinct : ((good ++ [e]).map Entry.name).Nodup)
    (known : shape.member? e.name = some e.member) (refused : Refuses e.member.read e.value.write) :
    ∃ f, readPlacing shape.read
      (Value.object ((good ++ e :: later).map fun e => (e.name, e.value))).write = .error f := by
  have fresh : e.name ∉ (good.map Entry.name).reverse ++ [] := by
    simp only [List.map_append, List.map_cons, List.map_nil, List.nodup_append] at distinct
    intro seen
    exact distinct.2.2 _ (by simpa using seen) _ List.mem_cons_self rfl
  obtain ⟨f, rest, failed⟩ := refused _ (Entry.writeAll_closes later (closes_brace []))
  have whole : Entry.writeAll true (good ++ e :: later) ++ [0x7d] = Entry.writeAll true good ++
      (Entry.writeAll (true && good.isEmpty) (e :: later) ++ [0x7d]) := by
    rw [Entry.writeAll_append, List.append_assoc]
  have closes : Closes (Entry.writeAll (true && good.isEmpty) (e :: later) ++ [0x7d]) := by
    cases good <;> exact closes_cons _ (by decide)
  obtain ⟨n, fuel⟩ := exists_fuel good (Entry.writeAll (true && good.isEmpty) (e :: later) ++ [0x7d])
  have members := readMembers_entries good (n + 1) [] true shape.initial readable
    (by simpa using (List.nodup_append.1 (List.map_append ▸ distinct)).1) (by simp) closes
  have stuck := (readMembers_member n (true && good.isEmpty) (Entry.changeAll good shape.initial) known
    fresh _).trans (bind_error (Reader.inside_error failed))
  rw [← Entry.writeAll_cons] at stuck
  have all : shape.read
      (Value.object ((good ++ e :: later).map fun e => (e.name, e.value))).write =
        .error (f.inside (.member e.name)) rest := by
    rw [write_object, read_brace, readObject]
    apply bind_error
    rw [whole, fuel]
    exact members.trans stuck
  rw [readPlacing, bind_error all]
  exact ⟨_, rfl⟩

end Shape
end DeviceRegistry.Json
