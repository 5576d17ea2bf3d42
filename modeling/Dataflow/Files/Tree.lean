import Dataflow.Files.Path
import Dataflow.Text.Quoted

namespace Dataflow

inductive FileEntry where
  | directory
  | file (octets : List UInt8)

/-- The entries below the root by their names from there, and the working directory. -/
structure FileTree where
  entries : List (List String × FileEntry) := []
  cwd : List String := []

inductive FileErrorCause where
  | notFound
  | exists
  | notDirectory
  | isDirectory
  | nullCharacter
  | nameTooLong
deriving DecidableEq, Repr

structure FileError where
  cause : FileErrorCause
  path : Path
deriving DecidableEq, Repr

def FileError.message (e : FileError) : String :=
  let shown := Text.quoted e.path.text
  match e.cause with
  | .notFound => s!"[Errno 2] No such file or directory: {shown}"
  | .exists => s!"[Errno 17] File exists: {shown}"
  | .notDirectory => s!"[Errno 20] Not a directory: {shown}"
  | .isDirectory => s!"[Errno 21] Is a directory: {shown}"
  | .nullCharacter => "embedded null byte"
  | .nameTooLong => s!"[Errno 36] File name too long: {shown}"

/-- Where a path leads. A missing entry has a directory to be put into. -/
inductive Location where
  | directory (place : List String)
  | file (place : List String) (octets : List UInt8)
  | missing (place : List String)

namespace FileTree

variable (t : FileTree)

/-- The entry at a place; the root is a directory. -/
def find? (place : List String) : Option FileEntry :=
  if place.isEmpty then some .directory else t.entries.lookup place

def put (place : List String) (entry : FileEntry) : FileTree :=
  { t with entries := (place, entry) :: t.entries.filter (·.1 != place) }

def maxNameLength : Nat := 255

def maxPathLength : Nat := 4095

def follow (place : List String) : List String → Except FileErrorCause Location
  | [] => .ok (.directory place)
  | name :: rest =>
    if name = ".." then follow place.dropLast rest
    else if maxNameLength < name.utf8ByteSize then .error .nameTooLong
    else
      let next := place ++ [name]
      match t.find? next with
      | some .directory => follow next rest
      | some (.file octets) => if rest.isEmpty then .ok (.file next octets) else .error .notDirectory
      | none => if rest.isEmpty then .ok (.missing next) else .error .notFound

def locate (p : Path) : Except FileError Location :=
  if p.text.toList.contains '\x00' then .error ⟨.nullCharacter, p⟩
  else if maxPathLength < p.text.utf8ByteSize then .error ⟨.nameTooLong, p⟩
  else (t.follow (if p.root = "" then t.cwd else []) p.names).mapError (⟨·, p⟩)

/-- Whether there is an entry at a path. Only of a path that is too long it cannot be said. -/
def exists? (p : Path) : Except FileError Bool :=
  match t.locate p with
  | .ok (.directory _) | .ok (.file ..) => .ok true
  | .ok (.missing _) => .ok false
  | .error e => if e.cause = .nameTooLong then .error e else .ok false

def isDirectory (p : Path) : Bool :=
  match t.locate p with
  | .ok (.directory _) => true
  | _ => false

def read (p : Path) : Except FileError (List UInt8) := do
  match ← t.locate p with
  | .file _ octets => return octets
  | .directory _ => throw ⟨.isDirectory, p⟩
  | .missing _ => throw ⟨.notFound, p⟩

def write (p : Path) (octets : List UInt8) : Except FileError FileTree := do
  match ← t.locate p with
  | .file place _ | .missing place => return t.put place (.file octets)
  | .directory _ => throw ⟨.isDirectory, p⟩

def makeDirectory (p : Path) : Except FileError FileTree := do
  match ← t.locate p with
  | .missing place => return t.put place .directory
  | .directory _ | .file .. => throw ⟨.exists, p⟩

def ensureDirectory (p : Path) : Except FileError FileTree :=
  match t.makeDirectory p with
  | .error e => if e.cause != .nullCharacter && t.isDirectory p then .ok t else .error e
  | made => made

/-- The tree after a change, which is the one before it if the change failed, and whether it did. -/
def settle : Except FileError FileTree → FileTree × Except FileError Unit
  | .ok changed => (changed, .ok ())
  | .error e => (t, .error e)

/-- Makes a directory, and before it those that lead to it, unless they are there. Where one of them cannot be made,
those before it are. -/
def makeDirectories (t : FileTree) (p : Path) : FileTree × Except FileError Unit :=
  match t.makeDirectory p with
  | .ok made => (made, .ok ())
  | .error e =>
    if e.cause = .notFound then
      if h : p.names.length = 0 then (t, .error e)
      else
        have : p.parent.names.length < p.names.length := by
          simp only [Path.parent, List.length_dropLast]; omega
        match makeDirectories t p.parent with
        | (parents, .ok ()) => parents.settle (parents.ensureDirectory p)
        | failed => failed
    else t.settle (t.ensureDirectory p)
termination_by p.names.length

/-- Makes directories, for callers that stop where this fails. -/
def ensureDirectories (p : Path) : Except FileError FileTree :=
  let (made, result) := t.makeDirectories p
  result.map fun () => made

def files : List (List String × List UInt8) :=
  t.entries.filterMap fun (place, entry) =>
    match entry with
    | .file octets =>
      if t.cwd.isPrefixOf place then some (place.drop t.cwd.length, octets) else none
    | .directory => none

end FileTree

end Dataflow
