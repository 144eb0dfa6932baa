/-! Finite maps as their entries in ascending order of keys, so that equal maps are equal lists.
The lemmas say what each operation does to the value under a key. -/
namespace DeviceRegistry

/-- A finite map from `κ` to `ν`. -/
structure Table (κ ν : Type) [Ord κ] where
  entries : List (κ × ν)
  ascending : entries.Pairwise fun a b => compare a.1 b.1 = .lt

namespace Table

variable {κ ν : Type} [Ord κ]

def empty : Table κ ν := ⟨[], .nil⟩

instance : Inhabited (Table κ ν) := ⟨empty⟩

def valueIn? (k : κ) : List (κ × ν) → Option ν
  | [] => none
  | (a, v) :: rest => if compare k a = .eq then some v else valueIn? k rest

def get? (t : Table κ ν) (k : κ) : Option ν := valueIn? k t.entries

def contains (t : Table κ ν) (k : κ) : Bool := (t.get? k).isSome

def size (t : Table κ ν) : Nat := t.entries.length

def keys (t : Table κ ν) : List κ := t.entries.map (·.1)

def isEmpty (t : Table κ ν) : Bool := t.entries.isEmpty

/-- Files a value in front of the first larger key, in place of an equal one. -/
def insertEntry (k : κ) (v : ν) : List (κ × ν) → List (κ × ν)
  | [] => [(k, v)]
  | (a, w) :: rest =>
    match compare k a with
    | .lt => (k, v) :: (a, w) :: rest
    | .eq => (k, v) :: rest
    | .gt => (a, w) :: insertEntry k v rest

theorem mem_insertEntry {k : κ} {v : ν} {es : List (κ × ν)} {e : κ × ν}
    (h : e ∈ insertEntry k v es) : e = (k, v) ∨ e ∈ es := by
  induction es with
  | nil => simpa [insertEntry] using h
  | cons head rest ih =>
    rcases head with ⟨a, w⟩
    simp only [insertEntry] at h
    split at h
    · simpa using h
    · rcases List.mem_cons.1 h with rfl | h
      · exact .inl rfl
      · exact .inr (List.mem_cons_of_mem _ h)
    · rcases List.mem_cons.1 h with rfl | h
      · exact .inr List.mem_cons_self
      · exact (ih h).imp id (List.mem_cons_of_mem _)

variable [Std.TransOrd κ] [Std.LawfulEqOrd κ]

theorem ascending_insertEntry (k : κ) (v : ν) {es : List (κ × ν)}
    (h : es.Pairwise fun a b => compare a.1 b.1 = .lt) :
    (insertEntry k v es).Pairwise fun a b => compare a.1 b.1 = .lt := by
  induction es with
  | nil => simp [insertEntry]
  | cons head rest ih =>
    rcases head with ⟨a, w⟩
    rw [List.pairwise_cons] at h
    simp only [insertEntry]
    split <;> rename_i order
    · refine List.pairwise_cons.2 ⟨fun e he => ?_, List.pairwise_cons.2 h⟩
      rcases List.mem_cons.1 he with rfl | he
      · exact order
      · exact Std.TransCmp.lt_trans order (h.1 e he)
    · obtain rfl := Std.LawfulEqOrd.eq_of_compare order
      exact List.pairwise_cons.2 h
    · refine List.pairwise_cons.2 ⟨fun e he => ?_, ih h.2⟩
      rcases mem_insertEntry he with rfl | he
      · exact Std.OrientedCmp.lt_of_gt order
      · exact h.1 e he

def insert (t : Table κ ν) (k : κ) (v : ν) : Table κ ν :=
  ⟨insertEntry k v t.entries, ascending_insertEntry k v t.ascending⟩

omit [Std.TransOrd κ] [Std.LawfulEqOrd κ] in
theorem ascending_filter (p : κ × ν → Bool) (t : Table κ ν) :
    (t.entries.filter p).Pairwise fun a b => compare a.1 b.1 = .lt :=
  t.ascending.filter p

def erase (t : Table κ ν) (k : κ) : Table κ ν :=
  ⟨t.entries.filter fun e => compare k e.1 != .eq, ascending_filter _ t⟩

/-- The map of a list of entries, of which later ones win. -/
def ofList (es : List (κ × ν)) : Table κ ν := es.foldl (fun t e => t.insert e.1 e.2) empty

omit [Std.TransOrd κ] [Std.LawfulEqOrd κ] in
theorem get?_empty (k : κ) : (empty : Table κ ν).get? k = none := rfl

theorem valueIn?_insertEntry (k : κ) (v : ν) (es : List (κ × ν)) (j : κ) :
    valueIn? j (insertEntry k v es) = if compare j k = .eq then some v else valueIn? j es := by
  induction es with
  | nil => simp [insertEntry, valueIn?]
  | cons head rest ih =>
    rcases head with ⟨a, w⟩
    simp only [insertEntry]
    split <;> rename_i order
    · simp [valueIn?]
    · obtain rfl := Std.LawfulEqOrd.eq_of_compare order
      simp only [valueIn?]
      split <;> simp_all
    · simp only [valueIn?, ih]
      split
      · rename_i h
        obtain rfl := Std.LawfulEqOrd.eq_of_compare h
        rw [if_neg]
        intro h
        rw [Std.OrientedCmp.eq_symm h] at order
        contradiction
      · rfl

/-- After an insertion the key has the new value, and every other key what it had. -/
theorem get?_insert (t : Table κ ν) (k : κ) (v : ν) (j : κ) :
    (t.insert k v).get? j = if compare j k = .eq then some v else t.get? j :=
  valueIn?_insertEntry k v t.entries j

theorem valueIn?_filter (k : κ) (es : List (κ × ν)) (j : κ) :
    valueIn? j (es.filter fun e => compare k e.1 != .eq) =
      if compare j k = .eq then none else valueIn? j es := by
  induction es with
  | nil => simp [valueIn?]
  | cons head rest ih =>
    rcases head with ⟨a, w⟩
    by_cases h : compare k a = .eq
    · obtain rfl := Std.LawfulEqOrd.eq_of_compare h
      simp only [List.filter_cons, h, bne_self_eq_false, Bool.false_eq_true, if_false, ih, valueIn?]
      split <;> rfl
    · simp only [List.filter_cons, bne_iff_ne, ne_eq, h, not_false_eq_true, if_true, valueIn?, ih]
      split
      · rename_i hj
        obtain rfl := Std.LawfulEqOrd.eq_of_compare hj
        rw [if_neg]
        intro hk
        exact h (Std.OrientedCmp.eq_symm hk)
      · rfl

/-- After an erasure the key has no value, and every other key what it had. -/
theorem get?_erase (t : Table κ ν) (k : κ) (j : κ) :
    (t.erase k).get? j = if compare j k = .eq then none else t.get? j :=
  valueIn?_filter k t.entries j

end Table
end DeviceRegistry
