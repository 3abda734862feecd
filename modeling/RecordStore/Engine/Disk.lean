import RecordStore.Engine.Database

/-!
# Disks

A disk keeps databases in volumes. A volume of a file is shared by all connections to that
file; a volume in memory belongs to one connection and goes with it. A volume knows its
committed database and what each connection holds of it.

Many connections may read at once and one more may write beside them, for what it writes is
seen by nobody else. Only at its end does a writer need the volume for itself: then nobody
else may be reading, and while it waits for the readers to go no new ones come in.
-/

namespace RecordStore.Engine

/-- Where a database is kept. -/
inductive Location where
  | file (path : String)
  /-- Memory that belongs to the connection of this number. -/
  | memory (owner : Nat)
  deriving DecidableEq, Repr

/-- What a connection holds of a volume. -/
inductive Hold where
  | reading
  | writing
  /-- It has written and waits for the readers to go. -/
  | closing
  /-- It has the volume for itself. -/
  | alone
  deriving DecidableEq, Repr

namespace Hold

/-- Whether a hold leaves room for further readers. -/
def letsRead : Hold → Bool
  | .reading => true
  | .writing => true
  | .closing => false
  | .alone => false

/-- Whether a hold leaves room for a writer. -/
def letsWrite : Hold → Bool
  | .reading => true
  | _ => false

end Hold

/-- A committed database, and what connections hold of it. -/
structure Volume where
  content : Database := {}
  holds : List (Nat × Hold) := []
  deriving Repr, Inhabited

namespace Volume

/-- What a connection holds. -/
def hold? (volume : Volume) (connection : Nat) : Option Hold :=
  (volume.holds.find? fun entry => entry.1 == connection).map Prod.snd

/-- What all others hold. -/
def others (volume : Volume) (connection : Nat) : List Hold :=
  (volume.holds.filter fun entry => entry.1 != connection).map Prod.snd

/-- Whether what the others hold lets a connection read. -/
def mayRead (volume : Volume) (connection : Nat) : Bool :=
  (volume.others connection).all Hold.letsRead

/-- Whether what the others hold lets a connection write. -/
def mayWrite (volume : Volume) (connection : Nat) : Bool :=
  (volume.others connection).all Hold.letsWrite

/-- Whether nobody else holds anything. -/
def mayClose (volume : Volume) (connection : Nat) : Bool := (volume.others connection).isEmpty

/-- The volume when a connection holds nothing. -/
def release (volume : Volume) (connection : Nat) : Volume :=
  { volume with holds := volume.holds.filter fun entry => entry.1 != connection }

/-- The volume when a connection holds this and nothing else. -/
def grant (volume : Volume) (connection : Nat) (hold : Hold) : Volume :=
  { volume with holds := (volume.release connection).holds ++ [(connection, hold)] }

end Volume

/-- The volumes by their locations, the folders in which files can be, and how many
connections there have been. -/
structure Disk where
  volumes : List (Location × Volume) := []
  folders : List String := []
  connections : Nat := 0
  deriving Repr, Inhabited

namespace Disk

/-- The volume at a location; where nothing was put there is an empty one. -/
def volume (disk : Disk) (location : Location) : Volume :=
  ((disk.volumes.find? fun entry => entry.1 == location).map Prod.snd).getD {}

/-- The disk without the volume at a location. -/
def remove (disk : Disk) (location : Location) : Disk :=
  { disk with volumes := disk.volumes.filter fun entry => entry.1 != location }

/-- The disk with a volume at a location. -/
def put (disk : Disk) (location : Location) (volume : Volume) : Disk :=
  { disk with volumes := (location, volume) :: (disk.remove location).volumes }

/-- Whether a volume is at a location. -/
def holds (disk : Disk) (location : Location) : Bool :=
  disk.volumes.any fun entry => entry.1 == location

/-- Whether a path leads to a file or a folder. -/
def hasPath (disk : Disk) (path : String) : Bool :=
  disk.folders.contains path || disk.holds (.file path)

/-- The folder of a path: everything before the last slash, the root for a path right below
it, and the current folder for a path without a slash. -/
def folderOf (path : String) : String :=
  let reversed := path.toList.reverse
  let name := reversed.takeWhile (· != '/')
  match reversed.drop name.length with
  | [] => "."
  | [_] => "/"
  | _ :: above => String.ofList above.reverse

/-- Whether a file can be opened or made at a path. -/
def canOpen (disk : Disk) (path : String) : Bool :=
  disk.folders.contains (folderOf path) && !disk.folders.contains path

end Disk

end RecordStore.Engine
