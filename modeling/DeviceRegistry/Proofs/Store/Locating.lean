import DeviceRegistry.Proofs.Stateful
import DeviceRegistry.Proofs.Table
import DeviceRegistry.Store.Disk

/-! A path leads to the same store again. The directories above it and its file are made once;
looking for them a second time finds them and leaves the disk alone. -/
namespace DeviceRegistry.Disk

variable {d d' : Disk} {here there place : Place} {name path : String} {names : List String}

theorem look_ok {α : Type} {f : Disk → Except FileError α} {a : α} (h : f d = .ok a) :
    look f d = .ok a d := by
  rw [look, h]

theorem look_bind_eq_ok {α β : Type} {f : Disk → Except FileError α}
    {rest : α → EStateM FileError Disk β} {b : β} (h : (look f >>= rest) d = .ok b d') :
    ∃ a, f d = .ok a ∧ rest a d = .ok b d' := by
  cases result : f d with
  | ok a => exact ⟨a, rfl, (bind_ok (look_ok result)).symm.trans h⟩
  | error e =>
    have failed : look f d = .error e d := by rw [look, result]
    rw [bind_error failed] at h
    cases h

theorem lookUp_eq_ok {found : Option DiskEntry} (h : d.lookUp here name = .ok found) :
    ¬ longestName < name.utf8ByteSize ∧ d.entries.get? (name :: here) = found := by
  rw [lookUp] at h
  split at h
  · cases h
  next short => exact ⟨short, Except.ok.inj h⟩

theorem lookUp_short (short : ¬ longestName < name.utf8ByteSize) :
    d.lookUp here name = .ok (d.entries.get? (name :: here)) := if_neg short

/-- A name that is not dots leads to the directory of that name. -/
theorem lookUp_of_enter (h : d.enter here name = .ok there) (plain : ¬ isDots name) :
    d.lookUp here name = .ok (some .directory) ∧ there = name :: here := by
  rw [isDots, Bool.or_eq_true, beq_iff_eq, beq_iff_eq, not_or] at plain
  rw [enter, if_neg plain.1, if_neg plain.2] at h
  obtain ⟨found, looked, h⟩ := except_bind_eq_ok h
  split at h
  · exact ⟨looked, (Except.ok.inj h).symm⟩
  · cases h
  · cases h

theorem enter_of_lookUp (h : d.lookUp here name = .ok (some .directory)) (plain : ¬ isDots name) :
    d.enter here name = .ok (name :: here) := by
  rw [isDots, Bool.or_eq_true, beq_iff_eq, beq_iff_eq, not_or] at plain
  rw [enter, if_neg plain.1, if_neg plain.2, h]
  rfl

/-- The directories of `d` are in `d'`. -/
def Grows (d d' : Disk) : Prop :=
  ∀ p, d.entries.get? p = some .directory → d'.entries.get? p = some .directory

theorem grows_put {p : Place} (e : DiskEntry) (new : d.entries.get? p = none) :
    d.Grows (d.put p e) := by
  intro q there
  by_cases same : q = p
  · rw [same, new] at there
    contradiction
  · rw [put, Table.get?_insert_ne _ _ same, there]

theorem enter_mono (grows : d.Grows d') (h : d.enter here name = .ok there) :
    d'.enter here name = .ok there := by
  by_cases dots : isDots name
  · rw [isDots, Bool.or_eq_true, beq_iff_eq, beq_iff_eq] at dots
    rcases dots with rfl | rfl <;> exact h
  · obtain ⟨looked, rfl⟩ := lookUp_of_enter h dots
    obtain ⟨short, found⟩ := lookUp_eq_ok looked
    exact enter_of_lookUp ((lookUp_short short).trans (congrArg Except.ok (grows _ found))) dots

theorem directoryAt_mono (grows : d.Grows d') (h : d.directoryAt names = .ok there) :
    d'.directoryAt names = .ok there := by
  have along : ∀ here, names.foldlM d.enter here = .ok there →
      names.foldlM d'.enter here = .ok there := by
    clear h
    induction names with
    | nil => exact fun _ h => h
    | cons name rest ih =>
      intro here h
      rw [List.foldlM_cons] at h ⊢
      obtain ⟨next, entered, rest⟩ := except_bind_eq_ok h
      rw [enter_mono grows entered]
      exact ih next rest
  exact along [] h

theorem directoryAt_concat (d : Disk) (names : List String) (name : String) :
    d.directoryAt (names ++ [name]) = d.directoryAt names >>= (d.enter · name) := by
  rw [directoryAt, List.foldlM_append]
  refine bind_congr fun here => ?_
  simp only [List.foldlM_cons, List.foldlM_nil, bind_pure]

/-- A directory that was made is there. -/
theorem makeDirectory_leads (h : makeDirectory names d = .ok () d') :
    ∃ there, d'.directoryAt names.reverse = .ok there := by
  cases names with
  | nil => cases h
  | cons name above =>
    rw [makeDirectory] at h
    obtain ⟨here, reached, making⟩ := look_bind_eq_ok h
    dsimp only at making
    split at making
    · cases making
    next plain =>
      obtain ⟨found, looked, making⟩ := look_bind_eq_ok making
      obtain ⟨short, rfl⟩ := lookUp_eq_ok looked
      split at making
      · cases making
      next new =>
        cases making
        rw [Option.not_isSome_iff_eq_none] at new
        refine ⟨name :: here, ?_⟩
        rw [List.reverse_cons, directoryAt_concat, directoryAt_mono (grows_put _ new) reached]
        refine enter_of_lookUp ?_ plain
        rw [lookUp_short short]
        exact congrArg Except.ok (Table.get?_insert_self ..)

theorem ensureDirectory_leads (h : ensureDirectory names d = .ok () d') :
    ∃ there, d'.directoryAt names.reverse = .ok there := by
  rw [ensureDirectory] at h
  split at h
  next d₁ made =>
    split at h
    next reached =>
      cases h
      cases result : d'.directoryAt names.reverse with
      | ok there => exact ⟨there, rfl⟩
      | error e =>
        rw [result] at reached
        cases reached
    next => cases h
  next => exact makeDirectory_leads h

/-- A directory that is there is not made again. -/
theorem ensureDirectory_there (h : d.directoryAt names.reverse = .ok there) :
    ensureDirectory names d = .ok () d := by
  have occupied : makeDirectory names d = .error .occupied d := by
    cases names with
    | nil => rfl
    | cons name above =>
      rw [List.reverse_cons, directoryAt_concat] at h
      obtain ⟨here, reached, entered⟩ := except_bind_eq_ok h
      rw [makeDirectory, bind_ok (look_ok reached)]
      dsimp only
      split
      · rfl
      next plain =>
        obtain ⟨looked, -⟩ := lookUp_of_enter entered plain
        rw [bind_ok (look_ok looked)]
        rfl
  rw [ensureDirectory, occupied]
  dsimp only
  rw [h]
  rfl

theorem ensureDirectories_leads (h : ensureDirectories names d = .ok () d') :
    ∃ there, d'.directoryAt names.reverse = .ok there := by
  cases names with
  | nil => exact ⟨[], rfl⟩
  | cons name above =>
    rw [ensureDirectories] at h
    dsimp only at h
    split at h
    · obtain ⟨-, d₁, -, again⟩ := bind_eq_ok h
      exact ensureDirectory_leads again
    · exact ensureDirectory_leads h

theorem ensureDirectories_there (h : d.directoryAt names.reverse = .ok there) :
    ensureDirectories names d = .ok () d := by
  cases names with
  | nil => rfl
  | cons name above =>
    rw [ensureDirectories]
    dsimp only
    rw [ensureDirectory_there h]

theorem ensureParents_leads (h : ensureParents path d = .ok () d') :
    ∃ there, d'.directoryAt ((namesOf path).filter (· != ".")).dropLast = .ok there ∧
      ∀ d'', d''.directoryAt ((namesOf path).filter (· != ".")).dropLast = .ok there →
        ensureParents path d'' = .ok () d'' := by
  rw [ensureParents] at h
  obtain ⟨⟨⟩, checked, making⟩ := look_bind_eq_ok h
  obtain ⟨there, reached⟩ := ensureDirectories_leads making
  rw [List.reverse_reverse] at reached
  refine ⟨there, reached, ?_⟩
  intro d'' reached
  have looked : look (fun _ => checkPath ("/".intercalate ((namesOf path).filter (· != ".")).dropLast))
      d'' = .ok () d'' := look_ok checked
  rw [ensureParents, bind_ok looked]
  exact ensureDirectories_there (by rw [List.reverse_reverse, reached])

/-- What opening a file comes to: it is there, or it is made where nothing was. -/
theorem openFile_eq_ok (h : openFile path d = .ok place d') :
    ∃ here name, checkPath path = .ok () ∧ d.directoryAt (namesOf path).dropLast = .ok here ∧
      (namesOf path).getLast? = some name ∧
      ¬ (isDots name || path.toList.getLast? == some '/') ∧ place = name :: here ∧
      ¬ longestName < name.utf8ByteSize ∧
      (d' = d ∧ (∃ entry, d.entries.get? place = some entry ∧ entry ≠ .directory) ∨
        d.entries.get? place = none ∧ d' = d.put place (.content [])) := by
  rw [openFile] at h
  obtain ⟨⟨⟩, checked, opening⟩ := look_bind_eq_ok h
  dsimp only at opening
  obtain ⟨here, reached, opening⟩ := look_bind_eq_ok opening
  cases last : (namesOf path).getLast? with
  | none =>
    rw [last] at opening
    cases opening
  | some name =>
    rw [last] at opening
    dsimp only at opening
    split at opening
    · cases opening
    next plain =>
      obtain ⟨found, looked, opening⟩ := look_bind_eq_ok opening
      obtain ⟨short, there⟩ := lookUp_eq_ok looked
      refine ⟨here, name, checked, reached, rfl, plain, ?_⟩
      cases found with
      | none =>
        cases opening
        exact ⟨rfl, short, .inr ⟨there, rfl⟩⟩
      | some entry =>
        cases entry with
        | directory => cases opening
        | tables t =>
          cases opening
          exact ⟨rfl, short, .inl ⟨rfl, .tables t, there, nofun⟩⟩
        | content b =>
          cases opening
          exact ⟨rfl, short, .inl ⟨rfl, .content b, there, nofun⟩⟩

/-- Opening a file again finds it and leaves the disk alone. -/
theorem openFile_again (h : openFile path d = .ok place d') :
    d.Grows d' ∧ openFile path d' = .ok place d' := by
  obtain ⟨here, name, checked, reached, last, plain, rfl, short, made⟩ := openFile_eq_ok h
  have grows : d.Grows d' := by
    rcases made with ⟨rfl, -⟩ | ⟨new, rfl⟩
    · exact fun _ there => there
    · exact grows_put _ new
  obtain ⟨entry, there, file⟩ : ∃ entry, d'.entries.get? (name :: here) = some entry ∧
      entry ≠ .directory := by
    rcases made with ⟨rfl, file⟩ | ⟨-, rfl⟩
    · exact file
    · exact ⟨.content [], Table.get?_insert_self .., nofun⟩
  refine ⟨grows, ?_⟩
  have looked := (lookUp_short short).trans (congrArg Except.ok there)
  have checked : look (fun _ => checkPath path) d' = .ok () d' := look_ok checked
  rw [openFile, bind_ok checked]
  dsimp only
  rw [bind_ok (look_ok (directoryAt_mono grows reached)), last]
  dsimp only
  rw [if_neg plain, bind_ok (look_ok looked)]
  cases entry with
  | directory => contradiction
  | tables t => rfl
  | content b => rfl

theorem orStoreError_ok {α : Type} {toError : String → StoreError} {work : EStateM FileError Disk α}
    {a : α} : orStoreError toError work d = .ok a d' ↔ work d = .ok a d' := by
  rw [orStoreError]
  cases work d <;> simp

theorem locate_eq_ok {t : Tables} : locate path d = .ok (place, t) d' ↔
    ∃ d₁, ensureParents path d = .ok () d₁ ∧ openFile path d₁ = .ok place d' ∧
      (d'.entries.get? place).bind DiskEntry.tables? = some t := by
  constructor
  · intro h
    obtain ⟨⟨⟩, d₁, parents, opening⟩ := bind_eq_ok h
    obtain ⟨place, d₂, opened, reading⟩ := bind_eq_ok opening
    obtain ⟨d₃, d₄, got, reading⟩ := bind_eq_ok reading
    cases got
    cases found : (d₂.entries.get? place).bind DiskEntry.tables? with
    | none =>
      rw [found] at reading
      cases reading
    | some t =>
      rw [found] at reading
      cases reading
      exact ⟨d₁, orStoreError_ok.1 parents, orStoreError_ok.1 opened, found⟩
  · rintro ⟨d₁, parents, opened, found⟩
    rw [locate, bind_ok (orStoreError_ok.2 parents), bind_ok (orStoreError_ok.2 opened),
      bind_ok (get_ok d'), found]
    rfl

/-- What opening a store comes to where a path leads to its tables. -/
theorem openStore_located {t : Tables} (located : locate path d = .ok (place, t) d')
    (password : String) (source : Tables → Entropy) :
    d.openStore path password source =
      match Store.opened password t (source t) with
      | .error e _ => .error e d'
      | .ok s _ => .ok (place, s) (d'.save place s) := by
  delta openStore
  rewrite [located]
  rfl

/-- A path leads to the same tables again. -/
theorem locate_again {t : Tables} (h : locate path d = .ok (place, t) d') :
    locate path d' = .ok (place, t) d' := by
  obtain ⟨d₁, parents, opened, found⟩ := locate_eq_ok.1 h
  obtain ⟨grows, again⟩ := openFile_again opened
  obtain ⟨there, reached, parentsAgain⟩ := ensureParents_leads parents
  exact locate_eq_ok.2 ⟨d', parentsAgain d' (directoryAt_mono grows reached), again, found⟩

end DeviceRegistry.Disk
