import Dataflow.Document.Error

namespace Dataflow.Document

open Json (Fields)

/-- The fields of a nested `data` object. One that is missing or empty counts as having none. -/
def dataFields (place : Place) (fields : Fields) : Except ShapeError Fields :=
  match fields.get? "data" with
  | none => .ok []
  | some data =>
    if data.truthy then
      data.fields?.elim (.error (.mistyped (place ++ [.field "data"]) .anObject)) .ok
    else .ok []

/-- The fields that have a value, nulls left out. -/
def known (entries : List (String × Option Json)) : Fields :=
  entries.filterMap fun e => (e.2.filter (!·.isNull)).map (e.1, ·)

/-- The canonical fields of a node; those inside `data` win. -/
def foldNodeFields (fields data : Fields) : Fields :=
  let merged := Fields.merge (fields.filter (·.1 != "data")) data
  known [
    ("id", (fields.get? "id").or (data.get? "id")),
    ("category", merged.firstPresent? ["category", "type"]),
    ("label", (merged.get? "label").or (fields.get? "id")),
    ("config", some (merged.getD "config" (.obj []))),
    ("inputs", some (merged.getD "inputs" (.arr []))),
    ("outputs", some (merged.getD "outputs" (.arr []))),
    ("kind", merged.get? "kind"),
    ("description", (merged.get? "description").filter Json.truthy)]

def foldNode (place : Place) (v : Json) : Except ShapeError Json :=
  match v.fields? with
  | none => .error (.notAMember place .node)
  | some fields => do
    let data ← dataFields place fields
    return .obj (foldNodeFields fields data)

/-- The canonical fields of an edge; those inside `data` win. -/
def foldEdgeFields (fields data : Fields) : Fields :=
  let merged := Fields.merge fields data
  known [
    ("id", merged.get? "id"),
    ("sourceNodeId", merged.firstPresent? ["sourceNodeId", "source"]),
    ("sourcePortId", merged.firstPresent? ["sourcePortId", "sourcePort", "sourceHandle"]),
    ("targetNodeId", merged.firstPresent? ["targetNodeId", "target"]),
    ("targetPortId", merged.firstPresent? ["targetPortId", "targetPort", "targetHandle"]),
    ("dataType", merged.get? "dataType")]

def foldEdge (place : Place) (v : Json) : Except ShapeError Json :=
  match v.fields? with
  | none => .error (.notAMember place .edge)
  | some fields => do
    let data ← dataFields place fields
    return .obj (foldEdgeFields fields data)

/-- Folds the items of the list at a field, counting from `i`. -/
def foldItems (field : String) (f : Place → Json → Except ShapeError Json) (i : Nat) :
    List Json → Except ShapeError (List Json)
  | [] => .ok []
  | item :: rest => do
    let folded ← f [.field field, .index i] item
    let others ← foldItems field f (i + 1) rest
    return folded :: others

def foldRoot (fields : Fields) (nodes edges : List Json) : Fields := [
  ("name", fields.getD "name" (.str "Generated Pipeline")),
  ("nodes", .arr nodes),
  ("edges", .arr edges)] ++
  known [("description", (fields.get? "description").filter Json.truthy)]

/-- The document in the canonical shape. An editor keeps a node's fields in a nested `data` object and names the ends of
an edge by shorter keys; both shapes are folded into one. Only what the folding needs is checked. -/
def fold (v : Json) : Except ShapeError Json :=
  match v.fields? with
  | none => .error .notAnObject
  | some fields =>
    match fields.get? "nodes", fields.getD "edges" (.arr []) with
    | none, _ => .error (.missing [] "nodes")
    | some (.arr nodes), .arr edges => do
      let nodes ← foldItems "nodes" foldNode 0 nodes
      let edges ← foldItems "edges" foldEdge 0 edges
      return .obj (foldRoot fields nodes edges)
    | some (.arr _), _ => .error (.mistyped [.field "edges"] .aList)
    | some _, _ => .error (.mistyped [.field "nodes"] .aList)

end Dataflow.Document
