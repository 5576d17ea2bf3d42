import Dataflow.Calendar
import Dataflow.CommandLine.Run
import Std.Time.DateTime.Timestamp

namespace Dataflow.CommandLine

def Request.paths : Request → List Path
  | .help => []
  | .compile o =>
    let source := match o.source with
      | .file path => [path]
      | _ => []
    (source ++ o.directory?.toList).map Path.ofText

def diskText (place : List String) : String := "/" ++ "/".intercalate place

def diskEntry (place : List String) : IO (Option FileEntry) := do
  let path := (← IO.currentDir) / diskText place
  if ← path.isDir then return some .directory
  else if ← path.pathExists then return some (.file (← IO.FS.readBinFile path).toList)
  else return none

def readAlong (t : FileTree) (place : List String) : List String → IO FileTree
  | [] => return t
  | name :: rest => do
    if name = ".." then readAlong t place.dropLast rest
    else
      let next := place ++ [name]
      match ← diskEntry next with
      | none => return t
      | some entry => readAlong (t.put next entry) next rest

/-- Adds the entries along a path, and those in the directory at its end. -/
def readPath (t : FileTree) (p : Path) : IO FileTree := do
  let t ← readAlong t (if p.root = "" then t.cwd else []) p.names
  match t.locate p with
  | .ok (.directory place) =>
    let found ← ((← IO.currentDir) / diskText place).readDir
    found.foldlM (fun t e => do
      let isDirectory ← e.path.isDir
      let next := place ++ [e.fileName]
      return if (t.find? next).isSome then t
        else t.put next (if isDirectory then .directory else .file [])) t
  | _ => return t

/-- Writes the entries that `before` does not have, directories before what is in them. -/
def writeChanges (before after : FileTree) : IO Unit := do
  for (place, entry) in after.entries.mergeSort (fun a b => a.1.length ≤ b.1.length) do
    match entry, before.find? place with
    | .directory, none => IO.FS.createDir (diskText place)
    | .file octets, some (.file old) =>
      unless octets == old do IO.FS.writeBinFile (diskText place) ⟨octets.toArray⟩
    | .file octets, none => IO.FS.writeBinFile (diskText place) ⟨octets.toArray⟩
    | _, _ => pure ()

def environmentNames : List String :=
  ["PIPEGRAPH_COMPLEXITY_THRESHOLD", "PIPEGRAPH_RUNTIME_MODULE", "PIPEGRAPH_RUNTIME_CLASS"]

end Dataflow.CommandLine

open Dataflow Dataflow.CommandLine in
def main (args : List String) : IO UInt32 := do
  let cwd := (← IO.currentDir).components.filter (· != "")
  let paths := match Request.ofArguments args with
    | .ok request => request.paths
    | .error _ => []
  let tree ← paths.foldlM readPath { cwd }
  let environment ← environmentNames.filterMapM fun name => do return (← IO.getEnv name).map (name, ·)
  let now ← Std.Time.Timestamp.now
  let seconds := now.toSecondsSinceUnixEpoch.val.toNat
  let outcome := run ⟨tree, environment, (Moment.ofUnix seconds).text⟩ args
  writeChanges tree outcome.tree
  IO.print outcome.stdout
  IO.eprint outcome.stderr
  match outcome.status with
  | .ok status => return UInt32.ofNat status
  | .error abort =>
    IO.eprintln abort.message
    return 1
