import Dataflow.Pipeline.Basic

namespace Dataflow

inductive DiagnosticKind where
  | structural
  | reference
  | typing
  | cycle
  | strategy
deriving DecidableEq, Repr

def DiagnosticKind.name : DiagnosticKind → String
  | .structural => "StructuralError"
  | .reference => "ReferenceError"
  | .typing => "TypeError"
  | .cycle => "CycleError"
  | .strategy => "StrategyError"

/-- A report: its kind, its text, and the node or edge that it is about. -/
structure Diagnostic where
  kind : DiagnosticKind
  message : String
  node : Option String := none
  edge : Option String := none
deriving DecidableEq, Repr

namespace Diagnostic

def structural (message : String) : Diagnostic := { kind := .structural, message }

def reference (message edge : String) : Diagnostic := { kind := .reference, message, edge }

def typing (message edge : String) : Diagnostic := { kind := .typing, message, edge }

def cycle (message : String) (node : Option String) : Diagnostic := { kind := .cycle, message, node }

def strategy (message node : String) : Diagnostic := { kind := .strategy, message, node }

def text (d : Diagnostic) : String := s!"{d.kind.name}: {d.message}"

end Diagnostic

/-- An end of an edge that leads nowhere. -/
inductive LooseEnd where
  | noSourceNode (node : String)
  | noSourcePort (node port : String)
  | noTargetNode (node : String)
  | noTargetPort (node port : String)
deriving DecidableEq, Repr

def LooseEnd.message : LooseEnd → String
  | .noSourceNode node => s!"source node '{node}' does not exist"
  | .noSourcePort node port => s!"source node '{node}' has no output port '{port}'"
  | .noTargetNode node => s!"target node '{node}' does not exist"
  | .noTargetPort node port => s!"target node '{node}' has no input port '{port}'"

inductive Problem where
  | noInput
  | noOutput
  | loose (edge : Edge) (ends : List LooseEnd)
  | incompatible (edge : Edge) (source target : DataType) (sourceLabel targetLabel : String)
  | cycle (path : List String)
  | noTemplate (node : String) (category : Category)
  | unresolved (node port : String)
deriving DecidableEq, Repr

def arrows (ids : List String) : String := " -> ".intercalate ids

def Problem.diagnostic : Problem → Diagnostic
  | .noInput => .structural "missing input node"
  | .noOutput => .structural "missing output node"
  | .loose e ends =>
    let found := "; ".intercalate (ends.map LooseEnd.message)
    .reference (s!"Invalid connection '{e.id}' ({e.sourceNode}.{e.sourcePort} -> " ++
      s!"{e.targetNode}.{e.targetPort}): {found}") e.id
  | .incompatible e source target sourceLabel targetLabel =>
    .typing (s!"Incompatible data types: {source.tag} -> {target.tag} " ++
      s!"({sourceLabel} -> {targetLabel})") e.id
  | .cycle path => .cycle s!"Pipeline contains circular dependencies: {arrows path}" path.head?
  | .noTemplate node category =>
    .strategy (s!"No code generation strategy registered for node '{node}' " ++
      s!"(category: {category.title})") node
  | .unresolved node port => .strategy s!"Symbol for {node}.{port} referenced before it was defined" node

end Dataflow
