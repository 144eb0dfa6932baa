import DeviceRegistry.Store.Row
import DeviceRegistry.Table

/-! The tables of a store. Rows are filed by id; unique columns and the two relations have indexes
of their own; a sequence holds the last id that was issued. -/
namespace DeviceRegistry

/-- An entry of a relation: `member` refers to `owner`. Entries of one owner stand together. -/
structure Link where
  owner : UInt64
  member : UInt64
deriving DecidableEq, Inhabited

namespace Link

instance : Ord Link where
  compare a b := (compare a.owner b.owner).then (compare a.member b.member)

theorem compare_def (a b : Link) :
    compare a b = (compare a.owner b.owner).then (compare a.member b.member) := rfl

instance : Std.OrientedOrd Link where
  eq_swap {a b} := by
    rw [compare_def, compare_def, Ordering.swap_then, ← Std.OrientedOrd.eq_swap,
      ← Std.OrientedOrd.eq_swap]

instance : Std.TransOrd Link where
  isLE_trans {a b c} hab hbc := by
    simp only [compare_def, Ordering.isLE_then_iff_or] at hab hbc ⊢
    rcases hab with h | ⟨h, hab⟩ <;> rcases hbc with h' | ⟨h', hbc⟩
    · exact .inl (Std.TransCmp.lt_trans h h')
    · exact .inl (Std.LawfulEqOrd.eq_of_compare h' ▸ h)
    · exact .inl (Std.LawfulEqOrd.eq_of_compare h ▸ h')
    · exact .inr ⟨Std.LawfulEqOrd.eq_of_compare h ▸ h', Std.TransOrd.isLE_trans hab hbc⟩

instance : Std.LawfulEqOrd Link where
  eq_of_compare {a b} h := by
    rw [compare_def, Ordering.then_eq_eq] at h
    rcases a with ⟨o, m⟩
    rcases b with ⟨o', m'⟩
    obtain rfl := Std.LawfulEqOrd.eq_of_compare h.1
    obtain rfl := Std.LawfulEqOrd.eq_of_compare h.2
    rfl

end Link

structure Tables where
  users : Table UInt64 Bytes := .empty
  usersByUid : Table String UInt64 := .empty
  devices : Table UInt64 Bytes := .empty
  devicesByToken : Table String UInt64 := .empty
  userDevices : Table Link Unit := .empty
  streams : Table UInt64 Bytes := .empty
  streamsByUid : Table String UInt64 := .empty
  deviceStreams : Table Link Unit := .empty
  sequences : Table String UInt64 := .empty
  metadata : Table String Bytes := .empty
deriving Inhabited

namespace Tables

def row? {ρ : Type} [StoredRow ρ] (t : Table UInt64 Bytes) (id : UInt64) :
    Except StoreError (Option ρ) :=
  match t.get? id with
  | none => .ok none
  | some b => (StoredRow.decode b).map some

def withRow {ρ : Type} [StoredRow ρ] (t : Table UInt64 Bytes) (id : UInt64) (row : ρ) :
    Table UInt64 Bytes :=
  t.insert id (StoredRow.encode row)

/-- The last id issued by a sequence, zero before the first. -/
def issued (t : Tables) (sequence : String) : UInt64 := (t.sequences.get? sequence).getD 0

/-- The members of an owner, in ascending order. -/
def members (t : Table Link Unit) (owner : UInt64) : List UInt64 :=
  (t.keys.filter (·.owner == owner)).map (·.member)

end Tables

structure RowCounts where
  users : Nat
  devices : Nat
  streams : Nat
deriving DecidableEq, Inhabited

def Tables.counts (t : Tables) : RowCounts := ⟨t.users.size, t.devices.size, t.streams.size⟩

end DeviceRegistry
