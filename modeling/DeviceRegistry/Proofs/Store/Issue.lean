import DeviceRegistry.Proofs.Table
import DeviceRegistry.Store.Tables

/-! Ids and the sequences that issue them. A sequence counts in 64 bits; as long as it has not come
round, the next id is larger than those of all the rows. -/
namespace DeviceRegistry

/-- The sequence can issue another id. -/
def Room (last : UInt64) : Prop := last.toNat + 1 < UInt64.size

theorem Room.toNat {last : UInt64} (room : Room last) : (last + 1).toNat = last.toNat + 1 := by
  rw [UInt64.toNat_add]
  exact Nat.mod_eq_of_lt room

theorem Room.not_le {last : UInt64} (room : Room last) : ¬ last + 1 ≤ last := by
  intro le
  rw [UInt64.le_iff_toNat_le, room.toNat] at le
  omega

theorem Room.zero_of_not {last : UInt64} (full : ¬ Room last) : last + 1 = 0 := by
  rw [← UInt64.toNat_inj, UInt64.toNat_add]
  have := last.toNat_lt
  have : last.toNat + 1 = 2 ^ 64 := by
    rw [Room, UInt64.size] at full
    omega
  simp [this]

theorem add_one_ne (last : UInt64) : last + 1 ≠ last := by
  intro same
  have := congrArg UInt64.toNat same
  rw [UInt64.toNat_add] at this
  have := last.toNat_lt
  simp only [UInt64.toNat_one] at *
  omega

/-- The ids of the rows were issued by the sequence that stands at `last`. -/
def IssuedBy {ρ : Type} (last : UInt64) (c : Table UInt64 ρ) : Prop :=
  ∀ id row, c.get? id = some row → 1 ≤ id ∧ id ≤ last

namespace IssuedBy

variable {ρ : Type} {last : UInt64} {c : Table UInt64 ρ} {id : UInt64} {row : ρ}

theorem mono {last' : UInt64} (h : IssuedBy last c) (le : last ≤ last') : IssuedBy last' c :=
  fun id row there => ⟨(h id row there).1, UInt64.le_trans (h id row there).2 le⟩

theorem le_next (room : Room last) : last ≤ last + 1 := by
  rw [UInt64.le_iff_toNat_le, room.toNat]
  omega

theorem fresh (h : IssuedBy last c) (room : Room last) : c.get? (last + 1) = none := by
  cases there : c.get? (last + 1) with
  | none => rfl
  | some row => exact absurd (h _ _ there).2 room.not_le

/-- The next id is new even when the sequence comes round: no row has the id zero. -/
theorem next_new (h : IssuedBy last c) : c.get? (last + 1) = none := by
  by_cases room : Room last
  · exact h.fresh room
  · rw [Room.zero_of_not room]
    cases there : c.get? 0 with
    | none => rfl
    | some row => exact absurd (h 0 row there).1 (by decide)

theorem insert (h : IssuedBy last c) (room : Room last) :
    IssuedBy (last + 1) (c.insert (last + 1) row) := by
  intro id row' there
  by_cases same : id = last + 1
  · rw [same]
    refine ⟨?_, UInt64.le_refl _⟩
    rw [UInt64.le_iff_toNat_le, room.toNat]
    exact Nat.le_add_left 1 _
  · rw [Table.get?_insert_ne _ _ same] at there
    exact h.mono (le_next room) id row' there

theorem erase (h : IssuedBy last c) : IssuedBy last (c.erase id) := by
  intro other row' there
  by_cases same : other = id
  · rw [same, Table.get?_erase_self] at there
    contradiction
  · rw [Table.get?_erase_ne _ same] at there
    exact h other row' there

theorem filter (h : IssuedBy last c) (p : ρ → Bool) : IssuedBy last (c.filter p) := by
  intro other row' there
  rw [Table.get?_filter, Option.filter_eq_some_iff] at there
  exact h other row' there.1

end IssuedBy

namespace Tables

theorem issued_congr {t t' : Tables} (same : t.sequences = t'.sequences) (sequence : String) :
    t.issued sequence = t'.issued sequence := by
  rw [issued, issued, same]

theorem issued_insert (t : Tables) (sequence other : String) (id : UInt64) :
    ({ t with sequences := t.sequences.insert sequence id } : Tables).issued other =
      if other = sequence then id else t.issued other := by
  by_cases same : other = sequence
  · rw [issued, if_pos same, same, Table.get?_insert_self, Option.getD_some]
  · rw [issued, if_neg same, Table.get?_insert_ne _ _ same, issued]

/-- The tables after the next id of a sequence was issued. -/
def skip (t : Tables) (sequence : String) : Tables :=
  { t with sequences := t.sequences.insert sequence (t.issued sequence + 1) }

theorem issued_skip (t : Tables) (sequence other : String) :
    (t.skip sequence).issued other =
      if other = sequence then t.issued sequence + 1 else t.issued other :=
  issued_insert t ..

/-- How many ids of a sequence are issued from `t` to `t'`, if it is at most one. -/
def issues (t t' : Tables) (sequence : String) : Nat :=
  if t'.issued sequence = t.issued sequence then 0 else 1

theorem issues_le_one (t t' : Tables) (sequence : String) : t.issues t' sequence ≤ 1 := by
  rw [issues]
  split <;> omega

end Tables

/-- From `t` to `t'` there was room for the ids that were issued. -/
def Spare (t t' : Tables) : Prop := ∀ q, t'.issued q ≠ t.issued q → Room (t.issued q)

/-- From `t` to `t'` each sequence stays or issues one id. -/
def Onward (t t' : Tables) : Prop := ∀ q, t'.issued q = t.issued q ∨ t'.issued q = t.issued q + 1

namespace Onward

variable {t t' : Tables}

theorem refl (t : Tables) : Onward t t := fun _ => .inl rfl

theorem of_issued (sequence : String)
    (issued : ∀ q, t'.issued q = if q = sequence then t.issued sequence + 1 else t.issued q) :
    Onward t t' := by
  intro q
  rw [issued]
  by_cases same : q = sequence
  · rw [if_pos same, same]
    exact .inr rfl
  · rw [if_neg same]
    exact .inl rfl

end Onward

/-- No sequence has issued more ids than were counted. -/
def Within (count : String → Nat) (t : Tables) : Prop := ∀ q, (t.issued q).toNat ≤ count q

namespace Within

variable {count : String → Nat} {t t' : Tables}

theorem spare (h : Within count t) (few : ∀ q, count q + t.issues t' q < UInt64.size) :
    Spare t t' := by
  intro q issued
  have := few q
  rw [Tables.issues, if_neg issued] at this
  exact Nat.lt_of_le_of_lt (Nat.add_le_add_right (h q) 1) this

theorem onward (h : Within count t) (onward : Onward t t') :
    Within (fun q => count q + t.issues t' q) t' := by
  intro q
  have := h q
  show _ ≤ count q + if t'.issued q = t.issued q then 0 else 1
  by_cases same : t'.issued q = t.issued q
  · rw [if_pos same, same]
    exact this
  · have next := (onward q).resolve_left same
    have := Nat.mod_le ((t.issued q).toNat + 1) (2 ^ 64)
    rw [if_neg same, next, UInt64.toNat_add, UInt64.toNat_one]
    omega

end Within
end DeviceRegistry
