import Dataflow.Vocabulary

namespace Dataflow

/-- For some source types, in order, the target types that they may feed besides themselves. The rules are neither
symmetric nor transitive. -/
structure FeedRules where
  rules : List (DataType × List DataType)
deriving DecidableEq, Repr

namespace FeedRules

def standard : FeedRules where
  rules := [
    (.pdf, [.text]),
    (.text, [.chunks]),
    (.chunks, [.embeddings, .text]),
    (.embeddings, []),
    (.json, [.text]),
    (.boolean, [.text]),
    (.number, [.text])]

def targets (r : FeedRules) (source : DataType) : List DataType := (r.rules.lookup source).getD []

def allows (r : FeedRules) (source target : DataType) : Bool :=
  source == target || (r.targets source).contains target

/-- Gives a source its targets: in its place if it is listed, else at the end. -/
def assign (source : DataType) (targets : List DataType) :
    List (DataType × List DataType) → List (DataType × List DataType)
  | [] => [(source, targets)]
  | (s, ts) :: rest =>
    if s = source then (s, targets) :: rest else (s, ts) :: assign source targets rest

/-- The rules of a table; of two entries for one source the later one counts. -/
def ofEntries (entries : List (DataType × List DataType)) : FeedRules :=
  ⟨entries.foldl (fun acc e => assign e.1 e.2 acc) []⟩

def extend (r : FeedRules) (source : DataType) (targets : List DataType) : FeedRules :=
  ⟨assign source (r.targets source ++ targets) r.rules⟩

/-- The items of a list, the characters of a text or the keys of an object. Nothing else has parts. -/
def parts? : Json → Option (List Json)
  | .arr items => some items
  | .str s => some (s.toList.map fun c => .str c.toString)
  | .obj fields => some (fields.map fun f => .str f.1)
  | _ => none

def parts (v : Json) : List Json := (parts? v).getD []

/-- Reads a table whose keys name sources and whose values list targets. -/
def read (table : Json.Fields) : Except Unrecognised FeedRules := do
  let entries ← table.mapM fun entry => do
    let source ← DataType.read (.str entry.1)
    let targets ← (← (parts? entry.2).elim (.error (.listing entry.2)) .ok).mapM DataType.read
    return (source, targets)
  return ofEntries entries

/-- The tags of some types, each once and in alphabetical order. -/
def sortedTags (ts : List DataType) : List String := (ts.map DataType.tag).eraseDups.mergeSort (· ≤ ·)

/-- The table that lists for each source its targets in alphabetical order. -/
def table (r : FeedRules) : List (String × List String) :=
  r.rules.map fun e => (e.1.tag, sortedTags e.2)

end FeedRules

end Dataflow
