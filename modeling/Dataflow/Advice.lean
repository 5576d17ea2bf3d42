import Dataflow.Pipeline.Basic

namespace Dataflow

inductive Advice where
  | unconfigured (label : String)
  | manyProcessingNodes
  | staleType (edge : String) (drawn : DataType) (label port : String) (live : DataType)
  | sharedInput (port label : String) (count : Nat) (used : String)
  | sharedLabel (label : String) (count : Nat)
deriving DecidableEq, Repr

def Advice.message : Advice → String
  | .unconfigured label => s!"Node '{label}' has no configuration - using defaults"
  | .manyProcessingNodes =>
    "Pipeline has many processing nodes - consider optimizing for performance"
  | .staleType edge drawn label port live =>
    s!"Connection '{edge}' was drawn as {drawn.tag} but {label}.{port} now produces {live.tag} - " ++
      s!"using {live.tag}"
  | .sharedInput port label count used =>
    s!"Input '{port}' of node '{label}' has {count} connections - only '{used}' is used"
  | .sharedLabel label count =>
    s!"Output label '{label}' is used by {count} output nodes - only the last result is kept"

namespace Pipeline

variable (p : Pipeline)

def unconfiguredAdvice : List Advice :=
  (p.nodes.filter (·.config.isEmpty)).map fun n => .unconfigured n.label

def processingAdvice (threshold : Nat) : List Advice :=
  if threshold < (p.nodesOf .processing).length then [.manyProcessingNodes] else []

/-- Edges that were drawn when their source port had another type. -/
def staleAdvice : List Advice :=
  p.edges.filterMap fun e => do
    let n ← p.node? e.sourceNode
    let port ← n.port? .output e.sourcePort
    if port.dataType = e.dataType then none
    else some (.staleType e.id e.dataType n.label port.id port.dataType)

/-- The input ports that edges lead to, in order of first mention. -/
def fedPorts : List (String × String) := (p.edges.map fun e => (e.targetNode, e.targetPort)).eraseDups

/-- The edges that lead to an input port, in order. -/
def feeding (port : String × String) : List Edge :=
  p.edges.filter fun e => e.targetNode == port.1 && e.targetPort == port.2

/-- Input ports that several edges lead to; the first of them counts. -/
def sharedInputAdvice : List Advice :=
  p.fedPorts.filterMap fun port =>
    match p.feeding port with
    | used :: other :: more =>
      let label := ((p.node? port.1).map Node.label).getD port.1
      some (.sharedInput port.2 label (used :: other :: more).length used.id)
    | _ => none

/-- Labels that several output nodes have. -/
def sharedLabelAdvice : List Advice :=
  let labels := (p.nodesOf .output).map Node.label
  labels.eraseDups.filterMap fun label =>
    if 1 < labels.count label then some (.sharedLabel label (labels.count label)) else none

def advice (threshold : Nat) : List Advice :=
  p.unconfiguredAdvice ++ p.processingAdvice threshold ++ p.staleAdvice ++ p.sharedInputAdvice ++
    p.sharedLabelAdvice

end Pipeline

end Dataflow
