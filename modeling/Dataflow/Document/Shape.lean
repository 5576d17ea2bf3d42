import Dataflow.Document.Error

namespace Dataflow.Document

open Json (Fields)

def require (fields : Fields) (keys : List String) (place : Place) : Except ShapeError Unit :=
  match keys.find? fun key => (fields.get? key).isNone with
  | some key => .error (.missing place key)
  | none => .ok ()

def asString (place : Place) : Json → Except ShapeError String
  | .str s => .ok s
  | _ => .error (.mistyped place .aString)

def asList (place : Place) : Json → Except ShapeError (List Json)
  | .arr items => .ok items
  | _ => .error (.mistyped place .aList)

def asFields (place : Place) (v : Json) : Except ShapeError Fields :=
  v.fields?.elim (.error (.mistyped place .anObject)) .ok

def asMember (place : Place) (noun : Noun) (v : Json) : Except ShapeError Fields :=
  v.fields?.elim (.error (.notAMember place noun)) .ok

def asWord {α : Type} (place : Place) (read : Json → Except Unrecognised α) (v : Json) :
    Except ShapeError α :=
  (read v).mapError (.unrecognised place)

/-- An id that is a string and was not seen before. -/
def freshId (place : Place) (noun : Noun) (seen : List String) (v : Json) :
    Except ShapeError String := do
  let id ← asString (place ++ [.field "id"]) v
  if id ∈ seen then .error (.repeatedId place noun id) else return id

/-- Reads the members of the list at `place` from index `i` on. Each gives its id, and `seen` holds
the ids of those before it. -/
def readMembers (read : Place → List String → Json → Except ShapeError String) (place : Place) (i : Nat)
    (seen : List String) : List Json → Except ShapeError Unit
  | [] => .ok ()
  | v :: rest => do
    let id ← read (place ++ [.index i]) seen v
    readMembers read place (i + 1) (id :: seen) rest

def readPort (place : Place) (seen : List String) (v : Json) : Except ShapeError String := do
  let fields ← asMember place .port v
  require fields ["id", "dataType"] place
  let id ← freshId place .port seen (fields.getD "id" .null)
  let _ ← asWord (place ++ [.field "dataType"]) DataType.read (fields.getD "dataType" .null)
  return id

def readPorts (place : Place) (v : Json) : Except ShapeError Unit := do
  let items ← asList place v
  readMembers readPort place 0 [] items

def readNode (place : Place) (seen : List String) (v : Json) : Except ShapeError String := do
  let fields ← asMember place .node v
  require fields ["id", "category"] place
  let id ← freshId place .node seen (fields.getD "id" .null)
  let _ ← asWord (place ++ [.field "category"]) Category.read (fields.getD "category" .null)
  let _ ← asWord (place ++ [.field "kind"]) Kind.read (fields.getD "kind" .null)
  let _ ← asString (place ++ [.field "label"]) (fields.getD "label" (.str ""))
  let _ ← asFields (place ++ [.field "config"]) (fields.getD "config" (.obj []))
  readPorts (place ++ [.field "inputs"]) (fields.getD "inputs" (.arr []))
  readPorts (place ++ [.field "outputs"]) (fields.getD "outputs" (.arr []))
  return id

def edgeTexts : List String := ["id", "sourceNodeId", "sourcePortId", "targetNodeId", "targetPortId"]

def readTexts (place : Place) (fields : Fields) : List String → Except ShapeError Unit
  | [] => .ok ()
  | key :: rest => do
    let _ ← asString (place ++ [.field key]) (fields.getD key .null)
    readTexts place fields rest

def readEdge (place : Place) (v : Json) : Except ShapeError Unit := do
  let fields ← asMember place .edge v
  require fields edgeTexts place
  readTexts place fields edgeTexts
  match fields.get? "dataType" with
  | none => return ()
  | some word =>
    let _ ← asWord (place ++ [.field "dataType"]) DataType.read word
    return ()

def readEdges (i : Nat) : List Json → Except ShapeError Unit
  | [] => .ok ()
  | v :: rest => do
    readEdge [.field "edges", .index i] v
    readEdges (i + 1) rest

/-- The fields of a canonical document. The checks stop at the first fault, in the order in which the document lists its
parts. -/
def read (v : Json) : Except ShapeError Fields := do
  let fields ← v.fields?.elim (.error .notAnObject) .ok
  require fields ["nodes", "edges"] []
  let _ ← asString [.field "name"] (fields.getD "name" (.str ""))
  let nodes ← asList [.field "nodes"] (fields.getD "nodes" .null)
  let edges ← asList [.field "edges"] (fields.getD "edges" .null)
  readMembers readNode [.field "nodes"] 0 [] nodes
  readEdges 0 edges
  return fields

end Dataflow.Document
