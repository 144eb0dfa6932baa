import DeviceRegistry.Proofs.Store.Removal

/-! Contents without some of the devices. Which devices are taken away tells what is left, so that
the order in which they are taken away does not matter. -/
namespace DeviceRegistry

/-- A table is determined by what it has of another one. -/
theorem Table.Sheds.unique {κ ν : Type} [Ord κ] [Std.TransOrd κ] [Std.LawfulEqOrd κ]
    {t u u' : Table κ ν} {gone : κ → ν → Prop} (h : t.Sheds u gone) (h' : t.Sheds u' gone) :
    u = u' := by
  apply Table.ext_get?
  intro k
  apply Option.ext
  intro v
  rw [h k v, h' k v]

namespace Contents

/-- An owner goes if one of its devices does and it has no others. -/
def Bereft (c : Contents) (gone : UInt64 → Prop) (owner : UInt64) : Prop :=
  (∃ id row, c.devices.get? id = some row ∧ row.userId = owner ∧ gone id) ∧
    ∀ id row, c.devices.get? id = some row → row.userId = owner → gone id

/-- `c'` is `c` without the devices that are gone: without their streams, and without the owners who
have nothing left. -/
structure Without (c : Contents) (gone : UInt64 → Prop) (c' : Contents) : Prop where
  users : c.users.Sheds c'.users fun owner _ => c.Bereft gone owner
  devices : c.devices.Sheds c'.devices fun id _ => gone id
  streams : c.streams.Sheds c'.streams fun _ row => gone row.deviceId

namespace Without

variable {c c' c'' : Contents} {gone gone' : UInt64 → Prop}

theorem none (nothing : ∀ id, ¬ gone id) : c.Without gone c where
  users owner row := by
    have stays : ¬ c.Bereft gone owner := by
      rintro ⟨⟨id, device, -, -, taken⟩, -⟩
      exact nothing id taken
    simp [stays]
  devices id row := by simp [nothing]
  streams id row := by simp [nothing]

theorem sameRows (h : c.Without gone c') (h' : c.Without gone c'') : c'.SameRows c'' :=
  ⟨h.users.unique h'.users, h.devices.unique h'.devices, h.streams.unique h'.streams⟩

/-- An owner who loses devices twice goes the first time or the second time, as he would go if he
lost all of them at once. -/
theorem bereft_iff (h : c.Without gone c') {owner : UInt64} :
    c.Bereft (fun id => gone id ∨ gone' id) owner ↔ c.Bereft gone owner ∨ c'.Bereft gone' owner := by
  constructor
  · rintro ⟨⟨id, row, there, mine, taken⟩, all⟩
    by_cases first : ∀ id row, c.devices.get? id = some row → row.userId = owner → gone id
    · exact .inl ⟨⟨id, row, there, mine, first id row there mine⟩, first⟩
    · -- A device that was left the first time went the second time.
      push Not at first
      obtain ⟨kept, device, found, owned, left⟩ := first
      have later := (all kept device found owned).resolve_left left
      refine .inr ⟨⟨kept, device, (h.devices kept device).2 ⟨found, left⟩, owned, later⟩, ?_⟩
      intro other row' found' owned'
      obtain ⟨found', left'⟩ := (h.devices other row').1 found'
      exact (all other row' found' owned').resolve_left left'
  · rintro (⟨⟨id, row, there, mine, taken⟩, all⟩ | ⟨⟨id, row, there, mine, taken⟩, all⟩)
    · exact ⟨⟨id, row, there, mine, .inl taken⟩,
        fun other row' found owned => .inl (all other row' found owned)⟩
    · refine ⟨⟨id, row, ((h.devices id row).1 there).1, mine, .inr taken⟩, ?_⟩
      intro other row' found owned
      by_cases before : gone other
      · exact .inl before
      · exact .inr (all other row' ((h.devices other row').2 ⟨found, before⟩) owned)

/-- Taking devices away twice is taking them away at once. -/
theorem trans (h : c.Without gone c') (h' : c'.Without gone' c'') :
    c.Without (fun id => gone id ∨ gone' id) c'' where
  users owner row := by
    rw [h'.users, h.users, and_assoc, ← not_or]
    exact and_congr_right fun _ => not_congr h.bereft_iff.symm
  devices id row := by rw [h'.devices, h.devices, not_or, and_assoc]
  streams id row := by rw [h'.streams, h.streams, not_or, and_assoc]

theorem finite (h : c.Without gone c')
    (finite : ∀ id row, c.devices.get? id = some row → row.IsFinite) :
    ∀ id row, c'.devices.get? id = some row → row.IsFinite :=
  fun id row there => finite id row ((h.devices id row).1 there).1

/-- Whoever has access to a device that stays has it afterwards, and nobody else. -/
theorem grants_iff (h : c.Without gone c') {token publicKey : String}
    (stays : ∀ id row, c.devices.get? id = some row → row.token = token → ¬ gone id)
    {id : UInt64} {device : DeviceRow} {owner : UserRow} :
    c'.Grants token publicKey id device owner ↔ c.Grants token publicKey id device owner := by
  constructor
  · rintro ⟨there, mine, finite, owned, key⟩
    exact ⟨((h.devices id device).1 there).1, mine, finite, ((h.users _ owner).1 owned).1, key⟩
  · rintro ⟨there, mine, finite, owned, key⟩
    have left := stays id device there mine
    refine ⟨(h.devices id device).2 ⟨there, left⟩, mine, finite, ?_, key⟩
    refine (h.users _ owner).2 ⟨owned, ?_⟩
    rintro ⟨-, all⟩
    exact left (all id device there rfl)

theorem streamsOf_iff (h : c.Without gone c') {id : UInt64} (stays : ¬ gone id)
    {rows : List StreamRow} : c'.StreamsOf id rows ↔ c.StreamsOf id rows := by
  have same : ∀ row : StreamRow, (c'.streams.get? row.id = some row ∧ row.deviceId = id) ↔
      c.streams.get? row.id = some row ∧ row.deviceId = id := by
    intro row
    rw [h.streams]
    constructor
    · rintro ⟨⟨there, -⟩, mine⟩
      exact ⟨there, mine⟩
    · rintro ⟨there, rfl⟩
      exact ⟨⟨there, stays⟩, rfl⟩
  constructor
  · rintro ⟨mem, ascending⟩
    exact ⟨fun row => (mem row).trans (same row), ascending⟩
  · rintro ⟨mem, ascending⟩
    exact ⟨fun row => (mem row).trans (same row).symm, ascending⟩

end Without

/-- Removing a device takes that device away, and no other. -/
theorem Removed.without {c c' : Contents} {id : UInt64} {device : DeviceRow}
    (h : c.Removed id device.userId c') (there : c.devices.get? id = some device) :
    c.Without (· = id) c' where
  users owner row := by
    rw [h.sheds_users]
    apply and_congr_right
    intro found
    apply not_congr
    constructor
    · rintro ⟨rfl, alone⟩
      refine ⟨⟨id, device, there, rfl, rfl⟩, ?_⟩
      intro other row' found' mine
      by_contra ne
      apply alone other row' _ mine
      rwa [withoutDevice, Table.get?_erase_ne _ ne]
    · rintro ⟨⟨other, row', found', mine, rfl⟩, all⟩
      rw [there] at found'
      obtain rfl := Option.some.inj found'
      refine ⟨mine.symm, ?_⟩
      intro kept row'' found'' mine'
      rw [withoutDevice] at found''
      by_cases same : kept = other
      · rw [same, Table.get?_erase_self] at found''
        contradiction
      · rw [Table.get?_erase_ne _ same] at found''
        exact same (all kept row'' found'' (mine'.trans mine))
  devices := h.sheds_devices
  streams stream row := by
    constructor
    · intro kept
      refine ⟨h.old_stream kept, ?_⟩
      have rest : (c.withoutDevice id).streams.get? stream = some row := by
        cases h <;> exact kept
      rw [withoutDevice, Table.get?_filter, Option.filter_eq_some_iff, bne_iff_ne] at rest
      exact rest.2
    · rintro ⟨found, others⟩
      exact h.streams_get? found others

end Contents
end DeviceRegistry
