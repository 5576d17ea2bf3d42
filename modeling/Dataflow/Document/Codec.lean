import Dataflow.Document.Fold
import Dataflow.Document.Shape

namespace Dataflow

namespace Document

open Json (Fields)

def need (fields : Fields) (key : String) : Except BuildError Json :=
  (fields.get? key).elim (.error (.missing key)) .ok

def toText : Json → Except BuildError String
  | .str s => .ok s
  | _ => .error (.mistyped .aString)

def toItems : Json → Except BuildError (List Json)
  | .arr items => .ok items
  | _ => .error (.mistyped .aList)

def toFields (v : Json) : Except BuildError Fields :=
  v.fields?.elim (.error (.mistyped .anObject)) .ok

def toWord {α : Type} (read : Json → Except Unrecognised α) (v : Json) : Except BuildError α :=
  (read v).mapError .unrecognised

def needText (fields : Fields) (key : String) : Except BuildError String := do
  toText (← need fields key)

def buildPort (v : Json) : Except BuildError Port := do
  let fields ← toFields v
  let id ← needText fields "id"
  let dataType ← toWord DataType.read (← need fields "dataType")
  return {
    id
    label := fields.getD "label" (.str id)
    dataType
    required := (fields.getD "required" (.bool true)).truthy
    description := fields.getD "description" (.str "") }

def buildPorts (v : Json) : Except BuildError (List Port) := do
  (← toItems v).mapM buildPort

/-- The label of a node. One that is missing or empty is the node's id. -/
def nodeLabel (fields : Fields) (id : String) : Except BuildError String :=
  if (fields.getD "label" .null).truthy then toText (fields.getD "label" .null) else .ok id

def buildNode (v : Json) : Except BuildError Node := do
  let fields ← toFields v
  let id ← needText fields "id"
  let category ← toWord Category.read (← need fields "category")
  let label ← nodeLabel fields id
  let config ← toFields (fields.getD "config" (.obj []))
  let inputs ← buildPorts (fields.getD "inputs" (.arr []))
  let outputs ← buildPorts (fields.getD "outputs" (.arr []))
  let kind ← toWord Kind.read (fields.getD "kind" .null)
  (Node.make id category label config inputs outputs kind
    (fields.getD "description" (.str ""))).mapError .model

/-- The type of an edge. One that is left open is that of the source port, or text if there is none. -/
def edgeType (nodes : List Node) (fields : Fields) : Except BuildError DataType :=
  match fields.get? "dataType" with
  | some word => toWord DataType.read word
  | none => do
    let node ← needText fields "sourceNodeId"
    let port ← needText fields "sourcePortId"
    return (((nodes.find? (·.id == node)).bind (·.port? .output port)).map Port.dataType).getD .text

def buildEdge (nodes : List Node) (v : Json) : Except BuildError Edge := do
  let fields ← toFields v
  let dataType ← edgeType nodes fields
  let id ← needText fields "id"
  let sourceNode ← needText fields "sourceNodeId"
  let sourcePort ← needText fields "sourcePortId"
  let targetNode ← needText fields "targetNodeId"
  let targetPort ← needText fields "targetPortId"
  return { id, sourceNode, sourcePort, targetNode, targetPort, dataType }

def build (fields : Fields) : Except BuildError Pipeline := do
  let nodes ← (← toItems (← need fields "nodes")).mapM buildNode
  let edges ← (← toItems (← need fields "edges")).mapM (buildEdge nodes)
  let name ← toText (fields.getD "name" (.str "Generated Pipeline"))
  (Pipeline.make nodes edges name (fields.getD "description" (.str ""))).mapError .model

end Document

namespace Pipeline

def ofJson (v : Json) : Except LoadError Pipeline := do
  let canonical ← (Document.fold v).mapError .shape
  let fields ← (Document.read canonical).mapError .shape
  (Document.build fields).mapError .build

/-- The pipeline of a document's text, which may come from a file. -/
def ofText (text : String) (file : Option String := none) : Except LoadError Pipeline := do
  let v ← (Json.parse text).mapError (.json file)
  ofJson v

end Pipeline

def Port.toJson (p : Port) : Json := .obj [
  ("id", .str p.id),
  ("label", p.label),
  ("dataType", .str p.dataType.tag),
  ("required", .bool p.required),
  ("description", p.description)]

/-- A description is left out if it is empty. -/
def descriptionFields (description : Json) : Json.Fields :=
  if description.truthy then [("description", description)] else []

def Node.toJson (n : Node) : Json := .obj ([
  ("id", .str n.id),
  ("category", .str n.category.tag),
  ("label", .str n.label),
  ("config", .obj n.config),
  ("inputs", .arr (n.inputs.map Port.toJson)),
  ("outputs", .arr (n.outputs.map Port.toJson))] ++
  (n.kind.map fun k => ("kind", .str k.tag)).toList ++
  descriptionFields n.description)

def Edge.toJson (e : Edge) : Json := .obj [
  ("id", .str e.id),
  ("sourceNodeId", .str e.sourceNode),
  ("sourcePortId", .str e.sourcePort),
  ("targetNodeId", .str e.targetNode),
  ("targetPortId", .str e.targetPort),
  ("dataType", .str e.dataType.tag)]

def Pipeline.toJson (p : Pipeline) : Json := .obj ([
  ("name", .str p.name),
  ("nodes", .arr (p.nodes.map Node.toJson)),
  ("edges", .arr (p.edges.map Edge.toJson))] ++
  descriptionFields p.description)

end Dataflow
