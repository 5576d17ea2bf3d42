import Dataflow.Naming.SymbolTable
import Dataflow.Pipeline.Basic

namespace Dataflow

/-- A node with its names: of its procedure, of the procedure's parameters by input port, of the
variables that feed its input ports, of those that receive its output ports, and of the one that
holds the result of an output node. -/
structure BoundNode where
  node : Node
  procedure : String
  params : List (String × String) := []
  inputVars : List (String × Option String) := []
  outputVars : List (String × String) := []
  resultVar : Option String := none

namespace BoundNode

def firstParam (b : BoundNode) : String := (b.params.head?.map Prod.snd).getD "None"

/-- The parameter for a port, or `default` if the node has no such port. -/
def param (b : BoundNode) (port : String) (default : String := "None") : String :=
  (b.params.lookup port).getD default

end BoundNode

namespace Pipeline

/-- The edge that feeds an input port: the first one that leads to it. -/
def feeder? (p : Pipeline) (node port : String) : Option Edge :=
  p.edges.find? fun e => e.targetNode == node && e.targetPort == port

end Pipeline

namespace Binding

/-- The parameters for some input ports; `taken` holds those given already. -/
def paramsFor (taken : List String) : List String → List (String × String)
  | [] => []
  | port :: rest =>
    let name := Naming.parameter taken port
    (port, name) :: paramsFor (name :: taken) rest

def inputVarsFor (p : Pipeline) (t : SymbolTable) (node : String) :
    List String → Except SymbolError (List (String × Option String))
  | [] => .ok []
  | port :: rest => do
    let var ← (p.feeder? node port).mapM fun e => t.resolve ⟨e.sourceNode, e.sourcePort⟩
    let others ← inputVarsFor p t node rest
    return (port, var) :: others

/-- Binds some output ports of a node, each to a new variable or all to the one that is given. -/
def outputVarsFor (t : SymbolTable) (node : String) (name : Option String) :
    List String → Except SymbolError (List (String × String) × SymbolTable)
  | [] => .ok ([], t)
  | port :: rest => do
    let (var, t) ← t.define ⟨node, port⟩ name
    let (others, t) ← outputVarsFor t node name rest
    return ((port, var) :: others, t)

/-- Binds a node. The declared outputs of an output node share the variable of its result. -/
def bind (p : Pipeline) (t : SymbolTable) (n : Node) : Except SymbolError (BoundNode × SymbolTable) := do
  let (procedure, t) := t.allocate s!"node_{n.id}"
  let params := paramsFor [] (n.inputs.map Port.id)
  let inputVars ← inputVarsFor p t n.id (n.inputs.map Port.id)
  if n.category = .output then
    let (result, t) ← t.define ⟨n.id, PortKey.resultPort⟩
    let (outputVars, t) ← outputVarsFor t n.id (some result) (n.outputs.map Port.id)
    return (⟨n, procedure, params, inputVars, outputVars, some result⟩, t)
  else
    let (outputVars, t) ← outputVarsFor t n.id none (n.outputs.map Port.id)
    return (⟨n, procedure, params, inputVars, outputVars, none⟩, t)

/-- Nodes bound one after the other, up to the first that cannot be. -/
structure Outcome where
  bound : List BoundNode
  result : Except SymbolError SymbolTable

def bindAll (p : Pipeline) (t : SymbolTable) : List Node → Outcome
  | [] => ⟨[], .ok t⟩
  | n :: rest =>
    match bind p t n with
    | .error e => ⟨[], .error e⟩
    | .ok (b, t) =>
      let others := bindAll p t rest
      ⟨b :: others.bound, others.result⟩

end Binding

end Dataflow
