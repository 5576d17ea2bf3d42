import Dataflow.Vocabulary

namespace Dataflow

structure Port where
  id : String
  label : Json
  dataType : DataType
  required : Bool := true
  description : Json := .str ""

inductive Side where
  | input
  | output
deriving DecidableEq, Repr

def Side.name : Side → String
  | .input => "input"
  | .output => "output"

/-- A node. The ids of its input ports are distinct, and so are those of its output ports. -/
structure Node where
  id : String
  category : Category
  label : String
  config : Json.Fields := []
  inputs : List Port := []
  outputs : List Port := []
  kind : Option Kind := none
  description : Json := .str ""
  inputs_nodup : (inputs.map Port.id).Nodup := by decide
  outputs_nodup : (outputs.map Port.id).Nodup := by decide

/-- An edge. Its data type records what its source port produced when it was drawn. -/
structure Edge where
  id : String
  sourceNode : String
  sourcePort : String
  targetNode : String
  targetPort : String
  dataType : DataType := .text
deriving DecidableEq, Repr

/-- A pipeline. The ids of its nodes are distinct. -/
structure Pipeline where
  nodes : List Node := []
  edges : List Edge := []
  name : String := "Generated Pipeline"
  description : Json := .str ""
  nodes_nodup : (nodes.map Node.id).Nodup := by decide

inductive ModelError where
  | duplicatePorts (node : String) (side : Side)
  | duplicateNode (node : String)
  | noOutputPort (node port : String)
  | kindRequired
deriving DecidableEq, Repr

def ModelError.message : ModelError → String
  | .duplicatePorts node side => s!"Node '{node}' declares duplicate {side.name} port ids"
  | .duplicateNode node => s!"Node with id '{node}' already exists in the pipeline"
  | .noOutputPort node port => s!"Node '{node}' has no output port '{port}'"
  | .kindRequired => "A node kind is required"

namespace Node

/-- Makes a node if its port ids are distinct on either side. -/
def make (id : String) (category : Category) (label : String) (config : Json.Fields)
    (inputs outputs : List Port) (kind : Option Kind) (description : Json) : Except ModelError Node :=
  if hi : (inputs.map Port.id).Nodup then
    if ho : (outputs.map Port.id).Nodup then
      .ok ⟨id, category, label, config, inputs, outputs, kind, description, hi, ho⟩
    else .error (.duplicatePorts id .output)
  else .error (.duplicatePorts id .input)

def ports (n : Node) : Side → List Port
  | .input => n.inputs
  | .output => n.outputs

def port? (n : Node) (side : Side) (id : String) : Option Port := (n.ports side).find? (·.id == id)

/-- The node with further settings; those it has already are replaced in place. -/
def withConfig (n : Node) (changes : Json.Fields) : Node :=
  { n with config := n.config.merge changes }

end Node

/-- An edge from an output port of `source`, typed by that port. -/
def Edge.connect (id : String) (source : Node) (sourcePort : String) (target : Node)
    (targetPort : String) : Except ModelError Edge :=
  match source.port? .output sourcePort with
  | none => .error (.noOutputPort source.id sourcePort)
  | some port => .ok ⟨id, source.id, sourcePort, target.id, targetPort, port.dataType⟩

namespace Pipeline

/-- The first id that occurs again further up. -/
def firstRepeat? (seen : List String) : List String → Option String
  | [] => none
  | id :: rest => if id ∈ seen then some id else firstRepeat? (id :: seen) rest

/-- Makes a pipeline if its node ids are distinct; else names the first one that comes again. -/
def make (nodes : List Node) (edges : List Edge) (name : String) (description : Json) :
    Except ModelError Pipeline :=
  if h : (nodes.map Node.id).Nodup then .ok ⟨nodes, edges, name, description, h⟩
  else .error (.duplicateNode ((firstRepeat? [] (nodes.map Node.id)).getD ""))

variable (p : Pipeline)

def ids : List String := p.nodes.map Node.id

def node? (id : String) : Option Node := p.nodes.find? (·.id == id)

def nodesOf (category : Category) : List Node := p.nodes.filter (·.category == category)

/-- The edges that lead into a node, or into one of its ports. -/
def incoming (node : String) (port : Option String := none) : List Edge :=
  p.edges.filter fun e => e.targetNode == node && port.all (e.targetPort == ·)

/-- The edges that lead out of a node, or out of one of its ports. -/
def outgoing (node : String) (port : Option String := none) : List Edge :=
  p.edges.filter fun e => e.sourceNode == node && port.all (e.sourcePort == ·)

end Pipeline

end Dataflow
