import DeviceRegistry.Disk.Basic
import DeviceRegistry.Store.Basic

/-! Stores on a disk. A store is opened by the path of its file; the file and the directories above
it are made as needed. -/
namespace DeviceRegistry

/-- The committed tables of a store's file; an empty file is that of a new store. -/
def DiskEntry.tables? : DiskEntry → Option Tables
  | .tables t => some t
  | .content [] => some {}
  | _ => none

namespace Disk

/-- Tells a failure of the disk as one of the store. -/
def orStoreError {α : Type} (toError : String → StoreError) (work : EStateM FileError Disk α) :
    EStateM StoreError Disk α := fun d =>
  match work d with
  | .ok a d => .ok a d
  | .error e d => .error (toError e.message) d

/-- The place of the store to which a path leads, and its committed tables. -/
def locate (path : String) : EStateM StoreError Disk (Place × Tables) := do
  orStoreError .io (ensureParents path)
  let place ← orStoreError (.database <| "I/O error: " ++ ·) (openFile path)
  match ((← get).entries.get? place).bind DiskEntry.tables? with
  | some t => return (place, t)
  | none => throw (.database "I/O error: invalid data")

/-- Puts a store's committed tables at a place. -/
def save (d : Disk) (place : Place) (s : Store) : Disk := d.put place (.tables s.tables)

/-- Opens the store at a path and keeps what the opening commits. What the store draws comes from
a source that its committed tables tell. -/
def openStore (d : Disk) (path password : String) (source : Tables → Entropy) :
    EStateM.Result StoreError Disk (Place × Store) :=
  match locate path d with
  | .error e d => .error e d
  | .ok (place, t) d =>
    match Store.opened password t (source t) with
    | .error e _ => .error e d
    | .ok s _ => .ok (place, s) (d.save place s)

end Disk
end DeviceRegistry
