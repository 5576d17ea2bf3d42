import Dataflow.Script.Template

namespace Dataflow

namespace Stmt

mutual

def ops : Stmt → List Writer.Op
  | .line text => [.line text]
  | .comment text => [.comment text]
  | .call head args =>
    .line (head ++ "(") :: .push :: ((args.map fun arg => .line (arg ++ ",")) ++ [.pop, .line ")"])
  | .block head body => .line (head ++ ":") :: .push :: (opsAll body ++ [.pop])

def opsAll : List Stmt → List Writer.Op
  | [] => []
  | s :: rest => ops s ++ opsAll rest

end

theorem opsAll_eq_flatMap (body : List Stmt) : opsAll body = body.flatMap ops := by
  induction body with
  | nil => rfl
  | cons s rest ih => rw [opsAll, ih, List.flatMap_cons]

end Stmt

namespace Writer

theorem performAll_append (w : Writer) (front back : List Op) :
    w.performAll (front ++ back) = (w.performAll front).performAll back :=
  List.foldl_append

theorem performAll_lines {α : Type} (w : Writer) (text : α → String) (as : List α) :
    w.performAll (as.map fun a => .line (text a)) = as.foldl (fun w a => w.line (text a)) w := by
  rw [performAll, List.foldl_map]
  rfl

mutual

theorem performAll_ops (w : Writer) (s : Stmt) : w.performAll s.ops = w.stmt s := by
  cases s with
  | line text => rfl
  | comment text => rfl
  | call head args =>
      have hargs := (w.line (head ++ "(")).indent.performAll_lines (· ++ ",") args
      rw [stmt, ← hargs]
      exact performAll_append _ _ [.pop, .line ")"]
  | block head body =>
      rw [stmt, ← performAll_opsAll _ body]
      exact performAll_append _ _ [.pop]

theorem performAll_opsAll (w : Writer) (body : List Stmt) : w.performAll (Stmt.opsAll body) = w.stmts body := by
  cases body with
  | nil => rfl
  | cons s rest => rw [Stmt.opsAll, performAll_append, performAll_ops w s, performAll_opsAll _ rest, stmts]

end

theorem performAll_callOps (w : Writer) (b : BoundNode) : w.performAll b.callOps = w.stmts b.call := by
  have hlines : b.callOps = Stmt.opsAll b.call := by
    rw [Stmt.opsAll_eq_flatMap, BoundNode.call, List.flatMap_cons, List.flatMap_map]
    exact congrArg (_ :: ·) (List.map_eq_flatMap ..)
  rw [hlines, performAll_opsAll]

end Writer

theorem BoundNode.head_append (b : BoundNode) :
    s!"def {b.procedure}(" ++ ", ".intercalate (b.node.category.fixedParams ++
      b.params.map fun entry => s!"{entry.2}: Any = None") ++ ") -> Any" ++ ":" = b.signature := by
  rw [signature, String.append_assoc]
  rfl

namespace Template

/-- What a template has a writer do for a body is what prints its statements. -/
theorem bodyOps_eq (t : Template) (b : BoundNode) : t.bodyOps b = Stmt.opsAll (t.body b).stmts := by
  cases t with
  | forward | processing | retrieval | logic | input | textInput | output | textResponse | jsonExport => rfl
  | pdfTextExtractor | textChunker | embeddingGenerator | vectorStore | semanticSearch =>
      simp [bodyOps, body, pdfTextExtractorOps, pdfTextExtractorBody, textChunkerOps, textChunkerBody,
        embeddingGeneratorOps, embeddingGeneratorBody, vectorStoreOps, vectorStoreBody, semanticSearchOps,
        semanticSearchBody, Stmt.ops, Stmt.opsAll, ToString.toString, String.append_assoc]
  | languageModel | llmGenerator | promptBuilder =>
      simp [bodyOps, body, languageModelOps, languageModelBody, promptBuilderOps, promptBuilderBody, Stmt.ops,
        Stmt.opsAll, ToString.toString, String.append_assoc]
  | dataMerger => simp [bodyOps, body, dataMergerOps, dataMergerBody, Stmt.ops, Stmt.opsAll]
  -- These two have a block for each port, or for each condition.
  | pdfInput =>
      rw [Stmt.opsAll_eq_flatMap]
      simp [bodyOps, body, pdfInputOps, pdfInputBody, Stmt.ops, Stmt.opsAll, List.flatMap_map, ToString.toString,
        String.append_assoc]
  | conditionalBranch =>
      rw [Stmt.opsAll_eq_flatMap]
      simp [bodyOps, body, conditionalBranchOps, conditionalBranchBody, conditionChain, Stmt.ops, Stmt.opsAll,
        List.flatMap_append, List.flatMap_map, ToString.toString, String.append_assoc]

theorem ops_eq (t : Template) (b : BoundNode) : t.ops b = (t.procedure b).ops := by
  rw [ops, BoundNode.procedureOps, bodyOps_eq, ← b.head_append]
  simp [procedure, BoundNode.procedureWith, Stmt.ops, Stmt.opsAll_eq_flatMap]

end Template

theorem Writer.perform_template (w : Writer) (t : Template) (b : BoundNode) :
    w.performAll (Strategy.procedure t b) = w.stmt (t.procedure b) := by
  rw [← performAll_ops, ← t.ops_eq b]
  rfl

end Dataflow
