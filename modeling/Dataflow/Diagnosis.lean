import Dataflow.FeedRules
import Dataflow.Problem

namespace Dataflow.Pipeline

variable (p : Pipeline)

/-- A pipeline takes something in and gives something out. -/
def missingCategories : List Problem :=
  (if (p.nodesOf .input).isEmpty then [.noInput] else []) ++
  (if (p.nodesOf .output).isEmpty then [.noOutput] else [])

/-- The output port that an edge leaves, or what is missing of it. -/
def sourceOf (e : Edge) : Except LooseEnd (Node × Port) :=
  match p.node? e.sourceNode with
  | none => .error (.noSourceNode e.sourceNode)
  | some n =>
    match n.port? .output e.sourcePort with
    | none => .error (.noSourcePort e.sourceNode e.sourcePort)
    | some port => .ok (n, port)

/-- The input port that an edge enters, or what is missing of it. -/
def targetOf (e : Edge) : Except LooseEnd (Node × Port) :=
  match p.node? e.targetNode with
  | none => .error (.noTargetNode e.targetNode)
  | some n =>
    match n.port? .input e.targetPort with
    | none => .error (.noTargetPort e.targetNode e.targetPort)
    | some port => .ok (n, port)

/-- What is wrong with an edge. Its types are those of its ports, not the one it was drawn with. -/
def edgeProblem? (rules : FeedRules) (e : Edge) : Option Problem :=
  match p.sourceOf e, p.targetOf e with
  | .error s, .error t => some (.loose e [s, t])
  | .error s, .ok _ => some (.loose e [s])
  | .ok _, .error t => some (.loose e [t])
  | .ok (source, out), .ok (target, into) =>
    if rules.allows out.dataType into.dataType then none
    else some (.incompatible e out.dataType into.dataType source.label target.label)

/-- All problems of a pipeline, in the order of the checks. Every check runs, so that one pass finds everything. -/
def problems (rules : FeedRules) : List Problem :=
  p.missingCategories ++ p.edges.filterMap (p.edgeProblem? rules)

end Dataflow.Pipeline
