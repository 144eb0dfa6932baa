import DeviceRegistry.Store.Tables

/-! Disks. There may be a directory or a file at a place, which is told by the names that lead to
it from the root. A path leads to a place by way of directories; two dots lead back up, and one dot
leads nowhere. -/
namespace DeviceRegistry

/-- Why a disk refuses an operation. -/
inductive FileError where
  | notFound | occupied | notDirectory | isDirectory | nameTooLong | containsNul
deriving DecidableEq, Inhabited

def FileError.message : FileError → String
  | notFound => "No such file or directory (os error 2)"
  | occupied => "File exists (os error 17)"
  | notDirectory => "Not a directory (os error 20)"
  | isDirectory => "Is a directory (os error 21)"
  | nameTooLong => "File name too long (os error 36)"
  | containsNul => "file name contained an unexpected NUL byte"

/-- The names that lead from the root to a place, the last first. -/
abbrev Place := List String

/-- What is at a place: a directory, or a file that holds a store's committed tables or other
content. -/
inductive DiskEntry where
  | directory
  | tables (t : Tables)
  | content (b : Bytes)

structure Disk where
  /-- What is at each place below the root. -/
  entries : Table Place DiskEntry := .empty
deriving Inhabited

namespace Disk

/-- The longest name, and the first length that a path must not have, in bytes. -/
def longestName : Nat := 255
def pathBound : Nat := 4096

/-- The names of a path, between its slashes. -/
def namesOf (path : String) : List String :=
  ((path.toList.splitOn '/').filter (!·.isEmpty)).map String.ofList

/-- The name tells a direction and is not that of an entry. -/
def isDots (name : String) : Bool := name == "." || name == ".."

def checkPath (path : String) : Except FileError Unit :=
  if path.toList.contains '\x00' then .error .containsNul
  else if pathBound ≤ path.utf8ByteSize then .error .nameTooLong
  else .ok ()

/-- What is below a directory under a name. -/
def lookUp (d : Disk) (here : Place) (name : String) : Except FileError (Option DiskEntry) :=
  if longestName < name.utf8ByteSize then .error .nameTooLong
  else .ok (d.entries.get? (name :: here))

/-- The directory to which a name leads from another. -/
def enter (d : Disk) (here : Place) (name : String) : Except FileError Place := do
  if name = "." then return here
  if name = ".." then return here.drop 1
  match ← d.lookUp here name with
  | some .directory => return name :: here
  | some _ => throw .notDirectory
  | none => throw .notFound

/-- The directory to which names lead from the root. -/
def directoryAt (d : Disk) (names : List String) : Except FileError Place :=
  names.foldlM d.enter []

def put (d : Disk) (p : Place) (e : DiskEntry) : Disk := { d with entries := d.entries.insert p e }

/-- Works on the disk without changing it. -/
def look {α : Type} (f : Disk → Except FileError α) : EStateM FileError Disk α := fun d =>
  match f d with
  | .ok a => .ok a d
  | .error e => .error e d

/-- Makes the directory to which names lead, the last of them first. -/
def makeDirectory : List String → EStateM FileError Disk Unit
  | [] => throw .occupied
  | name :: above => do
    let here ← look (directoryAt · above.reverse)
    if isDots name then throw .occupied
    if (← look (lookUp · here name)).isSome then throw .occupied
    modify (·.put (name :: here) .directory)

def ensureDirectory (names : List String) : EStateM FileError Disk Unit := fun d =>
  match makeDirectory names d with
  | .error .occupied d =>
    if (d.directoryAt names.reverse).isOk then .ok () d else .error .occupied d
  | r => r

/-- Makes a directory and, as far as they are missing, those above it. The names stand last
first. -/
def ensureDirectories : List String → EStateM FileError Disk Unit
  | [] => pure ()
  | name :: above => fun d =>
    match ensureDirectory (name :: above) d with
    | .error .notFound d =>
      (do ensureDirectories above; ensureDirectory (name :: above) :
        EStateM FileError Disk Unit) d
    | r => r

/-- Makes the directories above the place to which a path leads. -/
def ensureParents (path : String) : EStateM FileError Disk Unit := do
  let names := ((namesOf path).filter (· != ".")).dropLast
  look fun _ => checkPath ("/".intercalate names)
  ensureDirectories names.reverse

/-- The place of the file to which a path leads; an empty file is made where nothing is. A path
that ends in a slash or in dots is that of a directory. -/
def openFile (path : String) : EStateM FileError Disk Place := do
  look fun _ => checkPath path
  let names := namesOf path
  let here ← look (directoryAt · names.dropLast)
  match names.getLast? with
  | none => throw .isDirectory
  | some name =>
    if isDots name || path.toList.getLast? == some '/' then throw .isDirectory
    match ← look (lookUp · here name) with
    | some .directory => throw .isDirectory
    | some _ => pure ()
    | none => modify (·.put (name :: here) (.content []))
    return name :: here

/-- The content of the file to which a path leads. That of a store is not text. -/
def read (d : Disk) (path : String) : Except FileError Bytes := do
  checkPath path
  let names := namesOf path
  let here ← d.directoryAt names.dropLast
  match names.getLast? with
  | none => throw .isDirectory
  | some name =>
    if isDots name then throw .isDirectory
    match ← d.lookUp here name with
    | none => throw .notFound
    | some .directory => throw .isDirectory
    | some (.tables _) => if path.toList.getLast? = some '/' then throw .notDirectory else return []
    | some (.content b) => if path.toList.getLast? = some '/' then throw .notDirectory else return b

/-- Writes a file and makes the directories above it. -/
def write (path : String) (b : Bytes) : EStateM FileError Disk Unit := do
  ensureParents path
  let place ← openFile path
  modify (·.put place (.content b))

end Disk
end DeviceRegistry
