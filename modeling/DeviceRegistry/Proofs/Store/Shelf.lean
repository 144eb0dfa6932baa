import DeviceRegistry.Proofs.Store.Row
import DeviceRegistry.Proofs.Table
import DeviceRegistry.Store.Tables

/-! Rows, the index of their unique column and the relation to what they refer to, as images of one
map. An insertion or a deletion there accounts for what is done by hand in each of them. -/
namespace DeviceRegistry
open StoredRow

/-- Rows with an id and a value in a unique column. -/
class Keyed (ρ : Type) where
  id : ρ → UInt64
  key : ρ → String

instance : Keyed UserRow := ⟨UserRow.id, UserRow.uid⟩
instance : Keyed DeviceRow := ⟨DeviceRow.id, DeviceRow.token⟩
instance : Keyed StreamRow := ⟨StreamRow.id, StreamRow.uid⟩

variable {ρ : Type} [StoredRow ρ] [Keyed ρ]

/-- Rows are filed under their ids, and the index of the unique column leads to them. -/
structure Shelf (rows : Table UInt64 Bytes) (index : Table String UInt64) (c : Table UInt64 ρ) :
    Prop where
  stored : ∀ id, rows.get? id = (c.get? id).map encode
  own : ∀ id row, c.get? id = some row → Keyed.id row = id
  found : ∀ key id, index.get? key = some id ↔ ∃ row, c.get? id = some row ∧ Keyed.key row = key

namespace Shelf

variable {rows rows' : Table UInt64 Bytes} {index index' : Table String UInt64} {c : Table UInt64 ρ}
  {id : UInt64} {row : ρ}

theorem get?_row (h : Shelf rows index c) (there : c.get? id = some row) :
    rows.get? id = some (encode row) := by
  rw [h.stored, there, Option.map_some]

theorem get?_none (h : Shelf rows index c) (absent : c.get? id = none) : rows.get? id = none := by
  rw [h.stored, absent, Option.map_none]

theorem get?_index (h : Shelf rows index c) (there : c.get? id = some row) :
    index.get? (Keyed.key row) = some id :=
  (h.found _ _).2 ⟨row, there, rfl⟩

/-- A row of which the unique column is not in the index has a new value there. -/
theorem new_of_index {key : String} (h : Shelf rows index c) (none : index.get? key = none)
    (there : c.get? id = some row) : Keyed.key row ≠ key := by
  rintro rfl
  rw [h.get?_index there] at none
  contradiction

/-- Rows with the same value in the unique column are the same row. -/
theorem id_eq {id' : UInt64} {row' : ρ} (h : Shelf rows index c) (there : c.get? id = some row)
    (there' : c.get? id' = some row') (same : Keyed.key row = Keyed.key row') : id = id' := by
  have found := h.get?_index there
  rw [same, h.get?_index there'] at found
  exact (Option.some.inj found).symm

theorem insert {row : ρ} (h : Shelf rows index c) (fresh : c.get? (Keyed.id row) = none)
    (new : index.get? (Keyed.key row) = none) :
    Shelf (rows.insert (Keyed.id row) (encode row)) (index.insert (Keyed.key row) (Keyed.id row))
      (c.insert (Keyed.id row) row) where
  stored id := by
    by_cases same : id = Keyed.id row
    · rw [same, Table.get?_insert_self, Table.get?_insert_self, Option.map_some]
    · rw [Table.get?_insert_ne _ _ same, Table.get?_insert_ne _ _ same, h.stored]
  own id other there := by
    by_cases same : id = Keyed.id row
    · rw [same, Table.get?_insert_self] at there
      rw [← Option.some.inj there, same]
    · rw [Table.get?_insert_ne _ _ same] at there
      exact h.own id other there
  found key id := by
    by_cases same : id = Keyed.id row
    · subst same
      rw [Table.get?_insert_self]
      constructor
      · intro found
        by_cases sameKey : key = Keyed.key row
        · exact ⟨row, rfl, sameKey.symm⟩
        · rw [Table.get?_insert_ne _ _ sameKey, h.found, fresh] at found
          obtain ⟨_, none, _⟩ := found
          contradiction
      · rintro ⟨other, there, rfl⟩
        rw [← Option.some.inj there, Table.get?_insert_self]
    · rw [Table.get?_insert_ne _ _ same]
      by_cases sameKey : key = Keyed.key row
      · subst sameKey
        rw [Table.get?_insert_self, ← h.found, new]
        constructor
        · intro found
          exact absurd (Option.some.inj found).symm same
        · intro none
          contradiction
      · rw [Table.get?_insert_ne _ _ sameKey, h.found]

theorem erase (h : Shelf rows index c) (there : c.get? id = some row) :
    Shelf (rows.erase id) (index.erase (Keyed.key row)) (c.erase id) where
  stored other := by
    by_cases same : other = id
    · rw [same, Table.get?_erase_self, Table.get?_erase_self, Option.map_none]
    · rw [Table.get?_erase_ne _ same, Table.get?_erase_ne _ same, h.stored]
  own other row' there' := by
    by_cases same : other = id
    · rw [same, Table.get?_erase_self] at there'
      contradiction
    · rw [Table.get?_erase_ne _ same] at there'
      exact h.own other row' there'
  found key other := by
    by_cases same : other = id
    · subst same
      rw [Table.get?_erase_self]
      constructor
      · intro found
        by_cases sameKey : key = Keyed.key row
        · rw [sameKey, Table.get?_erase_self] at found
          contradiction
        · rw [Table.get?_erase_ne _ sameKey, h.found, there] at found
          obtain ⟨_, same, rfl⟩ := found
          exact absurd (congrArg Keyed.key (Option.some.inj same)).symm sameKey
      · rintro ⟨_, none, _⟩
        contradiction
    · rw [Table.get?_erase_ne _ same]
      by_cases sameKey : key = Keyed.key row
      · subst sameKey
        rw [Table.get?_erase_self, ← h.found, h.get?_index there]
        constructor
        · intro none
          contradiction
        · intro found
          exact absurd (Option.some.inj found).symm same
      · rw [Table.get?_erase_ne _ sameKey, h.found]

theorem eraseAll {gone : List ρ} (h : Shelf rows index c)
    (there : ∀ row ∈ gone, c.get? (Keyed.id row) = some row)
    (distinct : (gone.map Keyed.id).Nodup) :
    Shelf (gone.foldl (fun t row => t.erase (Keyed.id row)) rows)
      (gone.foldl (fun t row => t.erase (Keyed.key row)) index)
      (gone.foldl (fun t row => t.erase (Keyed.id row)) c) := by
  induction gone generalizing rows index c with
  | nil => exact h
  | cons row gone ih =>
    rw [List.map_cons, List.nodup_cons] at distinct
    refine ih (h.erase (there row List.mem_cons_self)) (fun later hl => ?_) distinct.2
    have other : Keyed.id later ≠ Keyed.id row := by
      intro same
      exact distinct.1 (List.mem_map.2 ⟨later, hl, same⟩)
    rw [Table.get?_erase_ne _ other]
    exact there later (List.mem_cons_of_mem _ hl)

theorem unique (h : Shelf rows index c) (h' : Shelf rows' index' c) :
    rows = rows' ∧ index = index' := by
  constructor
  · exact Table.ext_get? fun id => by rw [h.stored, h'.stored]
  · apply Table.ext_get?
    intro key
    apply Option.ext
    intro id
    rw [h.found, h'.found]

end Shelf

theorem Tables.mem_members {links : Table Link Unit} {o m : UInt64} :
    m ∈ Tables.members links o ↔ links.get? ⟨o, m⟩ = some () := by
  simp only [Tables.members, List.mem_map, List.mem_filter, beq_iff_eq, Table.mem_keys]
  constructor
  · rintro ⟨⟨_, _⟩, ⟨⟨⟨⟩, linked⟩, rfl⟩, rfl⟩
    exact linked
  · intro linked
    exact ⟨⟨o, m⟩, ⟨⟨_, linked⟩, rfl⟩, rfl⟩

omit [StoredRow ρ] [Keyed ρ] in
/-- A relation holds the ids of the rows with the ids that they refer to. -/
structure Linked (owner : ρ → UInt64) (links : Table Link Unit) (c : Table UInt64 ρ) : Prop where
  link : ∀ o m, links.get? ⟨o, m⟩ = some () ↔ ∃ row, c.get? m = some row ∧ owner row = o

namespace Linked

omit [StoredRow ρ] [Keyed ρ]

variable {owner : ρ → UInt64} {links links' : Table Link Unit} {c : Table UInt64 ρ} {id : UInt64}
  {row : ρ}

theorem insert (h : Linked owner links c) (fresh : c.get? id = none) :
    Linked owner (links.insert ⟨owner row, id⟩ ()) (c.insert id row) where
  link o m := by
    by_cases same : m = id
    · subst same
      rw [Table.get?_insert_self]
      constructor
      · intro linked
        by_cases sameOwner : o = owner row
        · exact ⟨row, rfl, sameOwner.symm⟩
        · have other : (⟨o, m⟩ : Link) ≠ ⟨owner row, m⟩ := by simp [sameOwner]
          rw [Table.get?_insert_ne _ _ other, h.link, fresh] at linked
          obtain ⟨_, none, _⟩ := linked
          contradiction
      · rintro ⟨_, there, rfl⟩
        rw [← Option.some.inj there, Table.get?_insert_self]
    · have other : (⟨o, m⟩ : Link) ≠ ⟨owner row, id⟩ := by simp [same]
      rw [Table.get?_insert_ne _ _ other, Table.get?_insert_ne _ _ same, h.link]

theorem erase (h : Linked owner links c) (there : c.get? id = some row) :
    Linked owner (links.erase ⟨owner row, id⟩) (c.erase id) where
  link o m := by
    by_cases same : m = id
    · subst same
      rw [Table.get?_erase_self]
      constructor
      · intro linked
        by_cases sameOwner : o = owner row
        · rw [sameOwner, Table.get?_erase_self] at linked
          contradiction
        · have other : (⟨o, m⟩ : Link) ≠ ⟨owner row, m⟩ := by simp [sameOwner]
          rw [Table.get?_erase_ne _ other, h.link, there] at linked
          obtain ⟨_, same, rfl⟩ := linked
          exact absurd (congrArg owner (Option.some.inj same)).symm sameOwner
      · rintro ⟨_, none, _⟩
        contradiction
    · have other : (⟨o, m⟩ : Link) ≠ ⟨owner row, id⟩ := by simp [same]
      rw [Table.get?_erase_ne _ other, Table.get?_erase_ne _ same, h.link]

theorem eraseAll {gone : List ρ} {key : ρ → UInt64} {o : UInt64} (h : Linked owner links c)
    (there : ∀ row ∈ gone, c.get? (key row) = some row ∧ owner row = o)
    (distinct : (gone.map key).Nodup) :
    Linked owner (gone.foldl (fun t row => t.erase ⟨o, key row⟩) links)
      (gone.foldl (fun t row => t.erase (key row)) c) := by
  induction gone generalizing links c with
  | nil => exact h
  | cons row gone ih =>
    rw [List.map_cons, List.nodup_cons] at distinct
    obtain ⟨mine, rfl⟩ := there row List.mem_cons_self
    refine ih (h.erase mine) (fun later hl => ?_) distinct.2
    have other : key later ≠ key row := by
      intro same
      exact distinct.1 (List.mem_map.2 ⟨later, hl, same⟩)
    rw [Table.get?_erase_ne _ other]
    exact there later (List.mem_cons_of_mem _ hl)

theorem unique (h : Linked owner links c) (h' : Linked owner links' c) : links = links' := by
  apply Table.ext_get?
  rintro ⟨o, m⟩
  apply Option.ext
  intro _
  rw [h.link, h'.link]

theorem mem_members (h : Linked owner links c) {o m : UInt64} :
    m ∈ Tables.members links o ↔ ∃ row, c.get? m = some row ∧ owner row = o := by
  rw [Tables.mem_members, h.link]

end Linked

theorem Tables.members_ascending (links : Table Link Unit) (o : UInt64) :
    (Tables.members links o).Pairwise (· < ·) := by
  have keys : links.keys.Pairwise fun a b => compare a b = .lt :=
    List.pairwise_map.2 links.ascending
  refine List.pairwise_map.2 ((keys.filter _).imp_of_mem ?_)
  rintro ⟨_, m⟩ ⟨_, m'⟩ mine mine' below
  simp only [List.mem_filter, beq_iff_eq] at mine mine'
  rw [Link.compare_def, mine.2, mine'.2, Std.ReflOrd.compare_self, Ordering.then_eq_lt] at below
  exact compareOfLessAndEq_eq_lt.1 (below.resolve_left (by simp)).2

end DeviceRegistry
