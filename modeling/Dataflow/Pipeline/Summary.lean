import Dataflow.Pipeline.Basic

namespace Dataflow

def Port.summary (p : Port) : String := s!"Port({p.id}:{p.dataType.tag})"

def Node.summary (n : Node) : String := s!"Node({n.id}, {n.category.tag})"

def Edge.summary (e : Edge) : String :=
  s!"Edge({e.sourceNode}.{e.sourcePort} -> {e.targetNode}.{e.targetPort})"

/-- Entries in parentheses; a comma follows an entry that stands alone. -/
def tupleText : List String → String
  | [entry] => s!"({entry},)"
  | entries => "(" ++ ", ".intercalate entries ++ ")"

def Pipeline.summary (p : Pipeline) : String :=
  let nodes := tupleText (p.nodes.map Node.summary)
  let edges := tupleText (p.edges.map Edge.summary)
  s!"Pipeline(nodes={nodes}, edges={edges}, name={Text.quoted p.name}, description={p.description.shown})"

end Dataflow
