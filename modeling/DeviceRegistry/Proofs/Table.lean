import DeviceRegistry.Table

/-! Finite maps are determined by their values. Whatever is said of a map below is therefore said
through `get?`. -/
namespace DeviceRegistry.Table

variable {κ ν : Type} [Ord κ] [Std.LawfulEqOrd κ]

theorem mem_of_valueIn? {k : κ} {v : ν} {es : List (κ × ν)}
    (h : valueIn? k es = some v) : (k, v) ∈ es := by
  induction es with
  | nil => simp [valueIn?] at h
  | cons head rest ih =>
    rcases head with ⟨a, w⟩
    simp only [valueIn?] at h
    split at h
    · rename_i same
      obtain rfl := Std.LawfulEqOrd.eq_of_compare same
      obtain rfl := Option.some.inj h
      exact List.mem_cons_self
    · exact List.mem_cons_of_mem _ (ih h)

theorem compare_eq_iff (a b : κ) : compare a b = .eq ↔ a = b :=
  ⟨Std.LawfulEqOrd.eq_of_compare, fun h => h ▸ Std.ReflOrd.compare_self⟩

theorem valueIn?_of_mem {k : κ} {v : ν} {es : List (κ × ν)}
    (ascending : es.Pairwise fun a b => compare a.1 b.1 = .lt) (h : (k, v) ∈ es) :
    valueIn? k es = some v := by
  induction es with
  | nil => contradiction
  | cons head rest ih =>
    rcases head with ⟨a, w⟩
    rw [List.pairwise_cons] at ascending
    rcases List.mem_cons.1 h with same | later
    · obtain ⟨rfl, rfl⟩ := Prod.mk.inj same
      simp [valueIn?]
    · have below := ascending.1 _ later
      have other : compare k a ≠ .eq := by
        intro same
        obtain rfl := Std.LawfulEqOrd.eq_of_compare same
        simp at below
      simpa [valueIn?, other] using ih ascending.2 later

theorem get?_eq_some_iff {t : Table κ ν} {k : κ} {v : ν} :
    t.get? k = some v ↔ (k, v) ∈ t.entries :=
  ⟨mem_of_valueIn?, valueIn?_of_mem t.ascending⟩

theorem mem_keys {t : Table κ ν} {k : κ} : k ∈ t.keys ↔ ∃ v, t.get? k = some v := by
  simp [keys, get?_eq_some_iff]

theorem valueIn?_of_above {k : κ} {es : List (κ × ν)} (above : ∀ e ∈ es, compare k e.1 = .lt) :
    valueIn? k es = none := by
  cases value : valueIn? k es with
  | none => rfl
  | some v => simpa using above _ (mem_of_valueIn? value)

/-- Two ascending lists of entries with the same values begin with the same key. -/
theorem head_le_of_values {k : κ} {v : ν} {rest es : List (κ × ν)}
    (ascending : ((k, v) :: rest).Pairwise fun a b => compare a.1 b.1 = .lt)
    (same : ∀ j, valueIn? j ((k, v) :: rest) = valueIn? j es) {a : κ} {w : ν}
    (first : es.head? = some (a, w)) : compare k a ≠ .gt := by
  intro above
  obtain ⟨tail, rfl⟩ : ∃ tail, es = (a, w) :: tail := by
    cases es <;> simp_all
  have found : valueIn? a ((k, v) :: rest) = some w := by
    rw [same]
    simp [valueIn?, Std.ReflOrd.compare_self]
  rcases List.mem_cons.1 (mem_of_valueIn? found) with e | later
  · rw [(Prod.mk.inj e).1, Std.ReflOrd.compare_self] at above
    contradiction
  · have below := (List.pairwise_cons.1 ascending).1 _ later
    rw [below] at above
    contradiction

variable [Std.TransOrd κ]

theorem entries_eq_of_values {es fs : List (κ × ν)}
    (ascending : es.Pairwise fun a b => compare a.1 b.1 = .lt)
    (ascending' : fs.Pairwise fun a b => compare a.1 b.1 = .lt)
    (same : ∀ j, valueIn? j es = valueIn? j fs) : es = fs := by
  induction es generalizing fs with
  | nil =>
    cases fs with
    | nil => rfl
    | cons head rest =>
      have := same head.1
      simp [valueIn?] at this
  | cons head rest ih =>
    rcases head with ⟨k, v⟩
    cases fs with
    | nil =>
      have := same k
      simp [valueIn?] at this
    | cons head' rest' =>
      rcases head' with ⟨a, w⟩
      have low := head_le_of_values ascending same rfl
      have high := head_le_of_values ascending' (fun j => (same j).symm) rfl
      obtain rfl : k = a := by
        apply Std.LawfulEqOrd.eq_of_compare
        cases order : compare k a with
        | eq => rfl
        | gt => exact absurd order low
        | lt => exact absurd (Std.OrientedCmp.gt_of_lt order) high
      obtain rfl : v = w := by simpa [valueIn?] using same k
      rw [List.pairwise_cons] at ascending ascending'
      have tails : rest = rest' := by
        apply ih ascending.2 ascending'.2
        intro j
        by_cases h : compare j k = .eq
        · obtain rfl := Std.LawfulEqOrd.eq_of_compare h
          rw [valueIn?_of_above ascending.1, valueIn?_of_above ascending'.1]
        · simpa [valueIn?, h] using same j
      rw [tails]

theorem ext_get? {t u : Table κ ν} (same : ∀ k, t.get? k = u.get? k) : t = u := by
  rcases t with ⟨es, ascending⟩
  rcases u with ⟨fs, ascending'⟩
  obtain rfl := entries_eq_of_values ascending ascending' same
  rfl

/-- Entries in ascending order win over what was there, and leave the rest. -/
theorem get?_foldl_insert {es : List (κ × ν)}
    (ascending : es.Pairwise fun a b => compare a.1 b.1 = .lt) (t : Table κ ν) (k : κ) :
    (es.foldl (fun t e => t.insert e.1 e.2) t).get? k = (valueIn? k es).or (t.get? k) := by
  induction es generalizing t with
  | nil => rfl
  | cons e rest ih =>
    rw [List.pairwise_cons] at ascending
    rw [List.foldl_cons, ih ascending.2, get?_insert, valueIn?]
    split
    next same =>
      obtain rfl := Std.LawfulEqOrd.eq_of_compare same
      rw [valueIn?_of_above ascending.1]
      rfl
    next => rfl

/-- A map is made of its entries. -/
theorem ofList_entries (t : Table κ ν) : ofList t.entries = t := by
  apply ext_get?
  intro k
  rw [ofList, get?_foldl_insert t.ascending, get?_empty, Option.or_none]
  rfl

theorem get?_insert_self (t : Table κ ν) (k : κ) (v : ν) : (t.insert k v).get? k = some v := by
  simp [get?_insert]

theorem get?_insert_ne (t : Table κ ν) {k j : κ} (v : ν) (h : j ≠ k) :
    (t.insert k v).get? j = t.get? j := by
  rw [get?_insert, if_neg (mt (compare_eq_iff j k).1 h)]

theorem get?_erase_self (t : Table κ ν) (k : κ) : (t.erase k).get? k = none := by
  simp [get?_erase]

theorem get?_erase_ne (t : Table κ ν) {k j : κ} (h : j ≠ k) : (t.erase k).get? j = t.get? j := by
  rw [get?_erase, if_neg (mt (compare_eq_iff j k).1 h)]

/-- Filing what is there already changes nothing. -/
theorem insert_of_get? {t : Table κ ν} {k : κ} {v : ν} (h : t.get? k = some v) :
    t.insert k v = t := by
  apply ext_get?
  intro j
  by_cases same : j = k
  · rw [same, get?_insert_self, h]
  · rw [get?_insert_ne _ _ same]

/-- Erasing a new key again restores the map. -/
theorem erase_insert {t : Table κ ν} {k : κ} (v : ν) (h : t.get? k = none) :
    (t.insert k v).erase k = t := by
  apply ext_get?
  intro j
  by_cases same : j = k
  · rw [same, get?_erase_self, h]
  · rw [get?_erase_ne _ same, get?_insert_ne _ _ same]

theorem forall_insert {p : ν → Prop} {t : Table κ ν} {k : κ} {v : ν}
    (h : ∀ j w, t.get? j = some w → p w) (new : p v) :
    ∀ j w, (t.insert k v).get? j = some w → p w := by
  intro j w there
  by_cases same : j = k
  · rw [same, get?_insert_self] at there
    exact Option.some.inj there ▸ new
  · rw [get?_insert_ne _ _ same] at there
    exact h j w there

theorem forall_erase {p : ν → Prop} {t : Table κ ν} {k : κ} (h : ∀ j w, t.get? j = some w → p w) :
    ∀ j w, (t.erase k).get? j = some w → p w := by
  intro j w there
  by_cases same : j = k
  · rw [same, get?_erase_self] at there
    contradiction
  · rw [get?_erase_ne _ same] at there
    exact h j w there

omit [Std.TransOrd κ] [Std.LawfulEqOrd κ] in
def filter (t : Table κ ν) (p : ν → Bool) : Table κ ν :=
  ⟨t.entries.filter fun e => p e.2, ascending_filter _ t⟩

omit [Std.TransOrd κ] in
theorem get?_filter (t : Table κ ν) (p : ν → Bool) (k : κ) :
    (t.filter p).get? k = (t.get? k).filter p := by
  apply Option.ext
  intro v
  rw [get?_eq_some_iff, Option.filter_eq_some_iff, get?_eq_some_iff]
  exact List.mem_filter

omit [Std.TransOrd κ] [Std.LawfulEqOrd κ] in
/-- The values, in the order of their keys. -/
def rows (t : Table κ ν) : List ν := t.entries.map (·.2)

omit [Std.TransOrd κ] in
theorem mem_rows {t : Table κ ν} {v : ν} : v ∈ t.rows ↔ ∃ k, t.get? k = some v := by
  simp [rows, get?_eq_some_iff]

/-- Each key of `t` has a value in `u` that goes with its own, and the other way round. -/
def Shows {α : Type} (r : α → ν → Prop) (t : Table κ α) (u : Table κ ν) : Prop :=
  ∀ k, Option.Rel r (t.get? k) (u.get? k)

namespace Shows

variable {α : Type} {r : α → ν → Prop} {t : Table κ α} {u : Table κ ν} {k : κ} {a : α} {b : ν}

omit [Std.TransOrd κ] [Std.LawfulEqOrd κ]

theorem empty : Shows r (.empty : Table κ α) .empty := fun _ => .none

theorem of_left (h : Shows r t u) (there : t.get? k = some a) : ∃ b, u.get? k = some b ∧ r a b := by
  have shown := h k
  rw [there] at shown
  cases shown' : u.get? k with
  | none =>
    rw [shown'] at shown
    nomatch shown
  | some b =>
    rw [shown'] at shown
    cases shown with
    | some related => exact ⟨b, rfl, related⟩

theorem of_right (h : Shows r t u) (there : u.get? k = some b) : ∃ a, t.get? k = some a ∧ r a b := by
  have shown := h k
  rw [there] at shown
  cases shown' : t.get? k with
  | none =>
    rw [shown'] at shown
    nomatch shown
  | some a =>
    rw [shown'] at shown
    cases shown with
    | some related => exact ⟨a, rfl, related⟩

theorem none_iff (h : Shows r t u) : t.get? k = none ↔ u.get? k = none := by
  have shown := h k
  cases left : t.get? k <;> cases right : u.get? k <;> rw [left, right] at shown
  · simp
  · nomatch shown
  · nomatch shown
  · simp

variable [Std.TransOrd κ] [Std.LawfulEqOrd κ]

theorem insert (h : Shows r t u) (k : κ) (related : r a b) :
    Shows r (t.insert k a) (u.insert k b) := by
  intro j
  by_cases same : j = k
  · rw [same, get?_insert_self, get?_insert_self]
    exact .some related
  · rw [get?_insert_ne _ _ same, get?_insert_ne _ _ same]
    exact h j

theorem erase (h : Shows r t u) (k : κ) : Shows r (t.erase k) (u.erase k) := by
  intro j
  by_cases same : j = k
  · rw [same, get?_erase_self, get?_erase_self]
    exact .none
  · rw [get?_erase_ne _ same, get?_erase_ne _ same]
    exact h j

end Shows

theorem get?_foldl_erase {α : Type} (key : α → κ) (as : List α) (t : Table κ ν) (k : κ) (v : ν) :
    (as.foldl (fun t a => t.erase (key a)) t).get? k = some v ↔
      t.get? k = some v ∧ ∀ a ∈ as, key a ≠ k := by
  induction as generalizing t with
  | nil => simp
  | cons a as ih =>
    rw [List.foldl_cons, ih, List.forall_mem_cons]
    by_cases same : k = key a
    · rw [same, get?_erase_self]
      simp
    · rw [get?_erase_ne _ same]
      simp [Ne.symm same]

end DeviceRegistry.Table
