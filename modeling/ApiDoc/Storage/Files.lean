import ApiDoc.Storage.Path
import ApiDoc.Text.Quoted

/-!
# Files

The files that a run of the program can see, as a value: files and directories by the paths that lead to them, from the working directory or from the root. The working directory, the directories above it and the root are always there.
-/

namespace ApiDoc.Storage

inductive Entry where
  | file (bytes : List UInt8)
  | directory
  deriving DecidableEq, Repr, Inhabited

/-- The files and directories by their paths. -/
abbrev Files := List (Path × Entry)

inductive FileFault where
  | notFound
  | notADirectory
  | isADirectory
  | nameTooLong
  /-- The path holds a character that no path can hold. -/
  | nullByte
  deriving DecidableEq, Repr, Inhabited

structure FileError where
  fault : FileFault
  path : String
  deriving DecidableEq, Repr, Inhabited

def FileFault.text : FileFault → String
  | .notFound => "[Errno 2] No such file or directory"
  | .notADirectory => "[Errno 20] Not a directory"
  | .isADirectory => "[Errno 21] Is a directory"
  | .nameTooLong => "[Errno 36] File name too long"
  | .nullByte => "embedded null byte"

def FileError.message (e : FileError) : String :=
  if e.fault == .nullByte then e.fault.text else e.fault.text ++ ": " ++ Text.quotedString e.path

/-- The greatest length of a name in bytes. -/
def nameLimit : Nat := 255

def pathLimit : Nat := 4095

/-- Whether a path leads to the working directory, to a directory above it or to the root. -/
def Path.isBase (p : Path) : Bool := p.names.all (· == "..")

/-- Whether a path leads to something below the directory that another path leads to, or to that directory itself. -/
def Path.isBelow (p directory : Path) : Bool :=
  p.slashes == directory.slashes && directory.names.isPrefixOf p.names

/-- The directory that holds what a path leads to. -/
def Path.parent (p : Path) : Path :=
  if !p.isBase then ⟨p.slashes, p.names.dropLast⟩
  else if p.slashes == 0 then ⟨0, p.names ++ [".."]⟩
  else p

/-- What stands at a path that has no detours. The directories on the way to a file are there with it. -/
def Files.entry? (files : Files) (path : Path) : Option Entry :=
  match files.lookup path with
  | some e => some e
  | none => if path.isBase || files.any fun f => f.1.isBelow path then some .directory else none

/-- Enters a directory and goes to a name in it. -/
def Files.step (files : Files) (place : Path) (name : String) : Except FileFault Path :=
  match files.entry? place with
  | none => .error .notFound
  | some (.file _) => .error .notADirectory
  | some .directory =>
    if name == ".." then .ok place.parent
    else if name.utf8ByteSize > nameLimit then .error .nameTooLong
    else .ok ⟨place.slashes, place.names ++ [name]⟩

/-- The path without detours to where a path leads. All but its last name have to be directories. -/
def Files.locate (files : Files) (path : Path) : Except FileFault Path :=
  if path.names.any fun name => name.toList.contains '\x00' then .error .nullByte
  else if path.text.utf8ByteSize > pathLimit then .error .nameTooLong
  else path.names.foldlM files.step ⟨min path.slashes 1, []⟩

def Files.read (files : Files) (path : String) : Except FileError (List UInt8) :=
  match files.locate (Path.ofString path) with
  | .error fault => .error ⟨fault, path⟩
  | .ok place =>
    match files.entry? place with
    | some (.file bytes) => .ok bytes
    | some .directory => .error ⟨.isADirectory, path⟩
    | none => .error ⟨.notFound, path⟩

/-- Whether something stands at a path. Some paths are too long to tell. -/
def Files.exists (files : Files) (path : String) : Except FileError Bool :=
  match files.locate (Path.ofString path) with
  | .error .nameTooLong => .error ⟨.nameTooLong, path⟩
  | .error _ => .ok false
  | .ok place => .ok (files.entry? place).isSome

/-- Replaces what stands at a path that has no detours. -/
def Files.put (files : Files) (place : Path) (e : Entry) : Files :=
  files.filter (fun f => f.1 != place) ++ [(place, e)]

/-- Writes a file. The directory it stands in has to be there. -/
def Files.write (files : Files) (path : String) (bytes : List UInt8) : Except FileError Files :=
  match files.locate (Path.ofString path) with
  | .error fault => .error ⟨fault, path⟩
  | .ok place =>
    match files.entry? place with
    | some .directory => .error ⟨.isADirectory, path⟩
    | _ => .ok (files.put place (.file bytes))

/-- The files without what stands at a path. -/
def Files.remove (files : Files) (path : String) : Files :=
  match files.locate (Path.ofString path) with
  | .error _ => files
  | .ok place => files.filter fun f => f.1 != place

end ApiDoc.Storage
