import DeviceRegistry.Proofs.Store.Removal

/-! Whose rows have which public key. A registration adds a user and a device at most, each with its own
key; nothing else makes a row with a key. -/
namespace DeviceRegistry
open StoredRow

/-- Whoever has a row with a public key. -/
inductive Principal where
  | user (id : UInt64)
  | device (id : UInt64)
deriving DecidableEq

/-- The principal's row has the public key. -/
def Tables.Bears (t : Tables) : Principal → String → Prop
  | .user id, key => ∃ row : UserRow, Stores t.users id row ∧ row.publicKey = key
  | .device id, key => ∃ row : DeviceRow, Stores t.devices id row ∧ row.publicKey = key

/-- A public key belongs to one user or to one device at most. -/
def Tables.KeysApart (t : Tables) : Prop :=
  ∀ p q key, t.Bears p key → t.Bears q key → p = q

/-- From `t` to `t'` one user may have come to have the one key and one device the other. Nobody else
has come to have a key. -/
def Tables.Gains (t t' : Tables) (userKey deviceKey : String) : Prop :=
  ∃ user device, ∀ p key, t'.Bears p key → t.Bears p key ∨
    (p = .user user ∧ key = userKey) ∨ (p = .device device ∧ key = deviceKey)

namespace Tables

variable {t t' : Tables} {userKey deviceKey : String}

theorem Gains.of_fewer (fewer : ∀ p key, t'.Bears p key → t.Bears p key) :
    t.Gains t' userKey deviceKey :=
  ⟨0, 0, fun p key bears => .inl (fewer p key bears)⟩

theorem KeysApart.of_fewer (h : t.KeysApart) (fewer : ∀ p key, t'.Bears p key → t.Bears p key) :
    t'.KeysApart :=
  fun p q key bears bears' => h p q key (fewer p key bears) (fewer q key bears')

/-- Keys that nobody had keep the keys apart. -/
theorem KeysApart.gains (h : t.KeysApart) (gains : t.Gains t' userKey deviceKey)
    (different : userKey ≠ deviceKey) (user : ∀ p, ¬ t.Bears p userKey)
    (device : ∀ p, ¬ t.Bears p deviceKey) : t'.KeysApart := by
  obtain ⟨id, id', added⟩ := gains
  intro p q key bears bears'
  rcases added p key bears with old | ⟨rfl, rfl⟩ | ⟨rfl, rfl⟩ <;>
    rcases added q _ bears' with old' | ⟨rfl, same⟩ | ⟨rfl, same⟩
  · exact h p q key old old'
  · exact absurd (same ▸ old) (user p)
  · exact absurd (same ▸ old) (device p)
  · exact absurd old' (user q)
  · rfl
  · exact absurd same different
  · exact absurd old' (device q)
  · exact absurd same.symm different
  · rfl

end Tables

namespace Contents

def Bears (c : Contents) : Principal → String → Prop
  | .user id, key => ∃ row, c.users.get? id = some row ∧ row.publicKey = key
  | .device id, key => ∃ row, c.devices.get? id = some row ∧ row.publicKey = key

variable {c c' : Contents} {p : Principal} {key : String}

theorem Removed.bears {id owner : UInt64} (h : c.Removed id owner c') (bears : c'.Bears p key) :
    c.Bears p key := by
  cases p with
  | user other =>
    obtain ⟨row, there, mine⟩ := bears
    exact ⟨row, h.old_user there, mine⟩
  | device other =>
    obtain ⟨row, there, mine⟩ := bears
    exact ⟨row, ((h.sheds_devices other row).1 there).1, mine⟩

theorem Enrolled.bears {user : UserRow} {device : DeviceRow} (h : c.Enrolled user device c')
    (bears : c'.Bears p key) :
    c.Bears p key ∨ (p = .user user.id ∧ key = user.publicKey) ∨
      (p = .device device.id ∧ key = device.publicKey) := by
  cases p with
  | user id =>
    obtain ⟨row, there, rfl⟩ := bears
    by_cases same : id = user.id
    · rw [same, h.user_get?] at there
      obtain rfl := Option.some.inj there
      exact .inr (.inl ⟨congrArg _ same, rfl⟩)
    · obtain ⟨c₁, joined, rfl⟩ := h.joined
      exact .inl ⟨row, joined.old same there, rfl⟩
  | device id =>
    obtain ⟨row, there, rfl⟩ := bears
    by_cases same : id = device.id
    · rw [same, h.device_get?] at there
      obtain rfl := Option.some.inj there
      exact .inr (.inr ⟨congrArg _ same, rfl⟩)
    · rw [h.devices_get? same] at there
      exact .inl ⟨row, there, rfl⟩

end Contents

theorem Tables.Holds.bears_iff {t : Tables} {c : Contents} (held : t.Holds c)
    (finite : ∀ id row, c.devices.get? id = some row → row.IsFinite) {p : Principal} {key : String} :
    t.Bears p key ↔ c.Bears p key := by
  cases p with
  | user id => simp only [Tables.Bears, Contents.Bears, held.stores_user]
  | device id => simp only [Tables.Bears, Contents.Bears, held.stores_device finite]

end DeviceRegistry
