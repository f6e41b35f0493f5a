import IrExcerpt.Storage.FileAccess

/-!
# A disk

Files and directories as a value: what lies where, and which directory paths
start from. A path is followed one segment at a time, and every segment but the
last must lead to a directory; `.` stays, `..` goes up, and a slash at the end
asks for a directory as well.
-/

namespace IrExcerpt

/-- A place on a disk: the names on the way to it from the root. -/
abbrev Location := List (List UInt8)

/-- What can lie at a place. -/
inductive Disk.Entry where
  | file (content : ByteArray)
  | directory

/-- Whether a directory lies there. -/
def Disk.Entry.isDirectory : Disk.Entry → Bool
  | .directory => true
  | .file _ => false

/-- Files and directories. The root is a directory and is not listed. -/
structure Disk where
  entries : List (Location × Disk.Entry)
  /-- The working directory. -/
  here : Location
  /-- The times that will be told, the next one first. -/
  clock : Nat → String

namespace Disk

/-! ## Places -/

/-- What lies at a place. -/
def occupant? (d : Disk) (loc : Location) : Option Entry :=
  if loc.isEmpty then some .directory else d.entries.lookup loc

/-- The disk with something else at a place. -/
def set (d : Disk) (loc : Location) (entry : Entry) : Disk :=
  { d with entries := (loc, entry) :: d.entries.filter fun (l, _) => l != loc }

/-- The disk with nothing at a place. -/
def erase (d : Disk) (loc : Location) : Disk :=
  { d with entries := d.entries.filter fun (l, _) => l != loc }

/-! ## Paths -/

/-- The segment that leads up. -/
def upward : List UInt8 := [Path.dot, Path.dot]

/-- The longest name that a file can have, in bytes. -/
def longestName : Nat := 255

/-- The length from which on a path is too long, in bytes. -/
def pathLimit : Nat := 4096

/-- Fails unless a directory lies at a place. -/
def checkDirectory (d : Disk) (loc : Location) : Except IoError Unit :=
  match d.occupant? loc with
  | some .directory => .ok ()
  | some (.file _) => .error .notDirectory
  | none => .error .notFound

/-- Follows one segment. -/
def step (d : Disk) (loc : Location) (segment : List UInt8) : Except IoError Location := do
  d.checkDirectory loc
  if Path.idle segment then return loc
  else if segment = upward then return loc.dropLast
  else if longestName < segment.length then throw .nameTooLong
  else return loc ++ [segment]

/-- Where a path starts, if it can be followed at all. -/
def start (d : Disk) (p : Path) : Except IoError Location :=
  if p.bytes.contains 0 then .error .nulInPath
  else if p.bytes.isEmpty then .error .notFound
  else if pathLimit ≤ p.bytes.length then .error .nameTooLong
  else .ok (if p.isAbsolute then [] else d.here)

/-- Where a path leads; nothing needs to lie there. -/
def resolve (d : Disk) (p : Path) : Except IoError Location := do
  (Path.split p.bytes).foldlM d.step (← d.start p)

/-- Where a path would put a file. -/
structure Destination where
  directory : Location
  /-- The last segment; empty for the root. -/
  name : List UInt8
  /-- Whether a slash stands behind the name. -/
  slashed : Bool

/-- Whether the last segment is not a name that a file can have. -/
def Destination.unnamed (t : Destination) : Bool :=
  Path.idle t.name || t.name == upward

/-- Where the file lies. -/
def Destination.location (t : Destination) : Location := t.directory ++ [t.name]

/-- Where a path would put a file. Its directory must be there. -/
def destination (d : Disk) (p : Path) : Except IoError Destination := do
  let segments := (Path.split p.bytes).reverse
  let named := segments.dropWhile List.isEmpty
  let directory ← named.tail.reverse.foldlM d.step (← d.start p)
  d.checkDirectory directory
  return ⟨directory, named.headD [], named.length < segments.length⟩

/-! ## Operations -/

/-- The disk when `n` times have been told. -/
def later (d : Disk) (n : Nat) : Disk :=
  { d with clock := fun k => d.clock (k + n) }

/-- The text at a path. -/
def readText (d : Disk) (p : Path) : Except IoError String := do
  match d.occupant? (← d.resolve p) with
  | none => throw .notFound
  | some .directory => throw .isDirectory
  | some (.file content) =>
    match String.fromUTF8? content with
    | some text => return text
    | none => throw .notText

/-- What a path leads to. -/
def find? (d : Disk) (p : Path) : Option Entry :=
  match d.resolve p with
  | .ok loc => d.occupant? loc
  | .error _ => none

/-- Whether a directory lies at a path. -/
def isDirectory (d : Disk) (p : Path) : Bool :=
  (d.find? p).any Entry.isDirectory

/-- The name of the `n`th temporary file of a directory. It is no text, so that
no path that is text leads to it. -/
def tempName (n : Nat) : List UInt8 :=
  (".tmp" ++ toString n).toUTF8.toList ++ List.replicate 5 0xFF

/-- Makes an empty file in a directory, under the first name that is free. -/
def createTemp (d : Disk) (directory : Path) : Except IoError (Path × Disk) := do
  d.checkDirectory (← d.resolve directory)
  let named (n : Nat) : Path := directory.join ⟨tempName n⟩
  match (List.range (d.entries.length + 1)).find? fun n => (d.find? (named n)).isNone with
  | some n => return (named n, d.set (← d.resolve (named n)) (.file ByteArray.empty))
  | none => throw (.other "no free name for a temporary file")

/-- Puts text into a file that is there. -/
def writeTemp (d : Disk) (p : Path) (text : String) : Except IoError Disk := do
  let loc ← d.resolve p
  match d.occupant? loc with
  | some (.file _) => return d.set loc (.file text.toUTF8)
  | some .directory => throw .isDirectory
  | none => throw .notFound

/-- Moves a file. Nothing but a file is replaced. -/
def rename (d : Disk) (source target : Path) : Except IoError Disk := do
  let origin ← d.resolve source
  match d.occupant? origin with
  | none => throw .notFound
  | some .directory => throw .isDirectory
  | some (.file content) =>
    let t ← d.destination target
    if t.unnamed then throw .busy
    else if longestName < t.name.length then throw .nameTooLong
    else if t.slashed then throw .notDirectory
    else if (d.occupant? t.location).any Entry.isDirectory then throw .isDirectory
    else return (d.erase origin).set t.location (.file content)

/-- Removes a file. -/
def discard (d : Disk) (p : Path) : Disk :=
  match d.resolve p with
  | .error _ => d
  | .ok loc =>
    match d.occupant? loc with
    | some (.file _) => d.erase loc
    | _ => d

/-- Puts text at a path. -/
def writeText (d : Disk) (p : Path) (text : String) : Except IoError Disk := do
  let t ← d.destination p
  if t.unnamed || t.slashed then throw .isDirectory
  else if longestName < t.name.length then throw .nameTooLong
  else if (d.occupant? t.location).any Entry.isDirectory then throw .isDirectory
  else return d.set t.location (.file text.toUTF8)

/-- Runs an operation that may fail; a failure leaves the disk as it is. -/
def attempt (operation : Disk → Except IoError (α × Disk)) : StateM Disk (Except IoError α) := fun d =>
  match operation d with
  | .ok (a, d') => (.ok a, d')
  | .error e => (.error e, d)

instance : FileAccess (StateM Disk) where
  readText p := fun d => (d.readText p, d)
  exists? p := fun d => ((d.find? p).isSome, d)
  isDirectory p := fun d => (d.isDirectory p, d)
  createTemp p := attempt fun d => d.createTemp p
  writeTemp p text := attempt fun d => do return ((), ← d.writeTemp p text)
  syncTemp _ := pure (.ok ())
  rename p q := attempt fun d => do return ((), ← d.rename p q)
  discard p := modify fun d => d.discard p
  writeText p text := attempt fun d => do return ((), ← d.writeText p text)
  now := fun d => (d.clock 0, d.later 1)

/-! ## Setting up -/

/-- The disk with directories all the way to a place. -/
def makeDirectories (d : Disk) (loc : Location) : Disk :=
  (List.range (loc.length + 1)).foldl (fun d n =>
    let part := loc.take n
    if (d.occupant? part).isNone then d.set part .directory else d) d

/-- A disk with nothing but a working directory, on which it is always the same time. -/
def empty (here : Location) (time : String) : Disk :=
  makeDirectories ⟨[], here, fun _ => time⟩ here

/-- The place that a path names, whatever lies on the way. -/
def placeOf (d : Disk) (p : Path) : Location :=
  (Path.split p.bytes).foldl (fun loc segment =>
    if Path.idle segment then loc
    else if segment = upward then loc.dropLast
    else loc ++ [segment]) (if p.isAbsolute then [] else d.here)

/-- The disk with a directory at a path, made with all that lead to it. -/
def addDirectory (d : Disk) (p : Path) : Disk :=
  d.makeDirectories (d.placeOf p)

/-- The disk with a file at a path, made with the directories that lead to it. -/
def addFile (d : Disk) (p : Path) (content : ByteArray) : Disk :=
  let loc := d.placeOf p
  (d.makeDirectories loc.dropLast).set loc (.file content)

/-- The disk without what lies at a path and below it. -/
def remove (d : Disk) (p : Path) : Disk :=
  let loc := d.placeOf p
  { d with entries := d.entries.filter fun (l, _) => !loc.isPrefixOf l }

/-- The files below the working directory, with their paths from there. -/
def files (d : Disk) : List (Path × ByteArray) :=
  d.entries.filterMap fun (l, entry) =>
    match entry with
    | .directory => none
    | .file content =>
      if d.here.isPrefixOf l then some (⟨Path.unsplit (l.drop d.here.length)⟩, content) else none

end Disk

end IrExcerpt
