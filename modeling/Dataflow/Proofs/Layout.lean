import Dataflow.Proofs.Emission
import Dataflow.Proofs.Operations

namespace Dataflow

namespace Stmt

mutual

/-- The lines of a statement at a level. -/
def laid (level : Int) : Stmt → List Line
  | .line text => [⟨level, text⟩]
  | .comment text => [⟨level, "# " ++ Text.oneLine text⟩]
  | .call head args => ⟨level, head ++ "("⟩ :: (args.map fun arg => ⟨level + 1, arg ++ ","⟩) ++ [⟨level, ")"⟩]
  | .block head body => ⟨level, head ++ ":"⟩ :: laidAll (level + 1) body

def laidAll (level : Int) : List Stmt → List Line
  | [] => []
  | s :: rest => laid level s ++ laidAll level rest

end

theorem laidAll_eq_flatMap (level : Int) (body : List Stmt) : laidAll level body = body.flatMap (laid level) := by
  induction body with
  | nil => rfl
  | cons s rest ih => rw [laidAll, ih, List.flatMap_cons]

theorem laidAll_append (level : Int) (front back : List Stmt) :
    laidAll level (front ++ back) = laidAll level front ++ laidAll level back := by
  simp only [laidAll_eq_flatMap, List.flatMap_append]

end Stmt

namespace Writer

def add (w : Writer) (ls : List Line) : Writer := { w with lines := w.lines ++ ls.toArray }

@[simp] theorem level_add (w : Writer) (ls : List Line) : (w.add ls).level = w.level := rfl

@[simp] theorem add_nil (w : Writer) : w.add [] = w := by simp [add]

@[simp] theorem add_add (w : Writer) (ls more : List Line) : (w.add ls).add more = w.add (ls ++ more) := by simp [add]

theorem line_eq_add (w : Writer) (text : String) : w.line text = w.add [⟨w.level, text⟩] := by simp [line, add]

theorem dedent_indent {w : Writer} (h : 0 ≤ w.level) (ls : List Line) : (w.indent.add ls).dedent = w.add ls := by
  simp [indent, dedent, add, Int.max_eq_right h]

theorem foldl_eq_add {α : Type} {f : Writer → α → Writer} {g : α → List Line} {level : Int}
    (h : ∀ w a, w.level = level → f w a = w.add (g a)) (w : Writer) (hw : w.level = level) (as : List α) :
    as.foldl f w = w.add (as.flatMap g) := by
  induction as generalizing w with
  | nil => simp
  | cons a as ih => rw [List.foldl_cons, h w a hw, ih (w.add (g a)) hw, add_add, List.flatMap_cons]

mutual

theorem stmt_eq_add (w : Writer) (h : 0 ≤ w.level) (s : Stmt) : w.stmt s = w.add (s.laid w.level) := by
  cases s with
  | line text => exact line_eq_add w text
  | comment text => exact line_eq_add w _
  | call head args =>
      have hargs : ∀ (u : Writer) (arg : String), u.level = w.level + 1 →
          u.line (arg ++ ",") = u.add [⟨w.level + 1, arg ++ ","⟩] := by
        intro u arg hu
        rw [line_eq_add, hu]
      rw [stmt, line_eq_add w, foldl_eq_add hargs _ rfl, dedent_indent (by exact h), line_eq_add, add_add, add_add,
        ← List.map_eq_flatMap]
      rfl
  | block head body =>
      have hlevel : (w.line (head ++ ":")).indent.level = w.level + 1 := rfl
      rw [stmt, stmts_eq_add _ (by omega) body, hlevel, line_eq_add w, dedent_indent (by exact h), add_add]
      rfl

theorem stmts_eq_add (w : Writer) (h : 0 ≤ w.level) (body : List Stmt) :
    w.stmts body = w.add (Stmt.laidAll w.level body) := by
  cases body with
  | nil => simp [stmts, Stmt.laidAll]
  | cons s rest => rw [stmts, stmt_eq_add w h, stmts_eq_add (w.add _) h, add_add, Stmt.laidAll, level_add]

end

theorem text_add (w : Writer) (ls : List Line) : (w.add ls).text = w.text ++ ls.map Line.render := by simp [text, add]

end Writer

namespace Script

theorem procedures_eq (bound : List (BoundNode × Template)) :
    procedures bound = bound.flatMap fun b => ((b.2.procedure b.1).laid 0).map Line.render ++ ["", ""] := by
  have hstep : ∀ (w : Writer) (b : BoundNode × Template), w.level = 0 →
      ((w.performAll (Strategy.procedure b.2 b.1)).blank).blank =
        w.add ((b.2.procedure b.1).laid 0 ++ [⟨0, ""⟩, ⟨0, ""⟩]) := by
    intro w b hw
    rw [w.perform_template, Writer.blank, Writer.blank, Writer.stmt_eq_add w (by omega), Writer.line_eq_add,
      Writer.line_eq_add]
    simp [hw]
  rw [procedures, Writer.foldl_eq_add hstep _ rfl, Writer.text_add]
  simp [Writer.text, List.map_flatMap, Line.render]

def returnLines (bound : List BoundNode) : List Line :=
  match results bound with
  | [] => [⟨1, "return \x7b\x7d"⟩]
  | entries =>
    ⟨1, "return \x7b"⟩ :: (entries.map fun entry => ⟨2, s!"{Text.quoted entry.1}: {entry.2},"⟩) ++ [⟨1, "\x7d"⟩]

def runOpening (usesRuntime : Bool) (s : Settings) : List Line :=
  [⟨0, "def run_pipeline(inputs: Optional[Dict[str, Any]] = None) -> Dict[str, Any]:"⟩,
    ⟨1, "\"\"\"Run every node in dependency order and return the results by output label.\"\"\""⟩,
    ⟨1, "inputs = dict(inputs or \x7b\x7d)"⟩] ++
  if usesRuntime then [⟨1, s!"rag = {s.runtimeClass}.get_instance()"⟩] else []

def runLines (bound : List BoundNode) (usesRuntime : Bool) (s : Settings) : List Line :=
  runOpening usesRuntime s ++ (bound.flatMap fun b => ⟨1, ""⟩ :: Stmt.laidAll 1 b.call) ++ ⟨1, ""⟩ :: returnLines bound

theorem writeReturn_eq_add (w : Writer) (hw : w.level = 1) (bound : List BoundNode) :
    writeReturn w bound = w.add (returnLines bound) := by
  have hentry : ∀ (u : Writer) (entry : String × String), u.level = 2 →
      u.line s!"{Text.quoted entry.1}: {entry.2}," = u.add [⟨2, s!"{Text.quoted entry.1}: {entry.2},"⟩] := by
    intro u entry hu
    rw [Writer.line_eq_add, hu]
  rw [writeReturn, returnLines]
  cases results bound with
  | nil => rw [Writer.line_eq_add, hw]
  | cons entry entries =>
      have hlevel : (w.line "return \x7b").indent.level = 2 := by simp [Writer.line, Writer.indent, hw]
      simp only
      rw [Writer.foldl_eq_add hentry _ hlevel, Writer.line_eq_add w, Writer.dedent_indent (by simp [hw]),
        Writer.line_eq_add, ← List.map_eq_flatMap]
      simp [hw]

theorem runFunction_eq (pairs : List (BoundNode × Template)) (usesRuntime : Bool) (s : Settings) :
    runFunction pairs usesRuntime s = (runLines (pairs.map Prod.fst) usesRuntime s).map Line.render := by
  have hcall : ∀ (w : Writer) (pair : BoundNode × Template), w.level = 1 →
      w.blank.performAll (Strategy.call pair.2 pair.1) = w.add (⟨1, ""⟩ :: Stmt.laidAll 1 pair.1.call) := by
    intro w pair hw
    rw [show Strategy.call pair.2 pair.1 = pair.1.callOps from rfl, Writer.performAll_callOps, Writer.blank,
      Writer.line_eq_add, Writer.stmts_eq_add _ (by simp [hw]), Writer.add_add, Writer.level_add, hw]
    rfl
  -- Each of the writers adds its lines to the one before.
  unfold runFunction
  extract_lets w₀ w₁ w₂ w₃ w₄ w₅
  have h₄ : w₄ = w₃.add (if usesRuntime then [⟨1, s!"rag = {s.runtimeClass}.get_instance()"⟩] else []) := by
    unfold w₄
    split
    · rw [Writer.line_eq_add]
      rfl
    · rw [Writer.add_nil]
  have h₅ : w₅ = w₄.add (pairs.flatMap fun pair => ⟨1, ""⟩ :: Stmt.laidAll 1 pair.1.call) :=
    Writer.foldl_eq_add hcall w₄ (by rw [h₄]; rfl) pairs
  have hlevel : w₅.level = 1 := by rw [h₅, h₄]; rfl
  rw [Writer.blank, Writer.line_eq_add, writeReturn_eq_add (w₅.add _) hlevel, hlevel, h₅, h₄]
  simp only [Writer.add_add, Writer.text_add]
  simp [runLines, runOpening, Writer.text, w₀, w₁, w₂, w₃, Writer.line, Writer.indent, List.flatMap_map]

end Script

def BoundNode.opening (b : BoundNode) : List Stmt :=
  let kind := (b.node.kind.map fun k => s!" / {k.tag}").getD ""
  [.comment s!"{b.node.label} [{b.node.category.title}{kind}]",
    .line s!"config = NODE_CONFIGS[{Text.quoted b.node.id}]"]

theorem Template.laid_procedure (t : Template) (b : BoundNode) (level : Int) :
    (t.procedure b).laid level = ⟨level, b.signature⟩ ::
      Stmt.laidAll (level + 1) (b.opening ++ (t.body b).stmts ++ [.line s!"return {t.returned b}"]) := by
  rw [← b.head_append]
  rfl

theorem Command.text_ne_empty (c : Command) : c.text ≠ "" := by
  match c with
  | .outputs [] call => simp [text, Call.text]
  | .outputs (_ :: _) _ | .result _ _ | .copy _ _ => simp [text, ToString.toString]

namespace Script

theorem signature_mem_procedures {pairs : List (BoundNode × Template)} {b : BoundNode} {t : Template}
    (h : (b, t) ∈ pairs) : b.signature ∈ procedures pairs := by
  rw [procedures_eq]
  refine List.mem_flatMap.2 ⟨(b, t), h, List.mem_append_left _ (List.mem_map.2 ?_)⟩
  refine ⟨⟨0, b.signature⟩, ?_, by simp [Line.render]⟩
  rw [Template.laid_procedure]
  exact List.mem_cons_self

/-- The lines of the run function that call the procedure of a node. -/
def callLines (b : BoundNode) : List String :=
  "" :: ("    # " ++ Text.oneLine s!"{b.node.label} ({b.node.id})") :: b.commands.map fun c => "    " ++ c.text

theorem callLines_eq (b : BoundNode) : callLines b = (⟨1, ""⟩ :: Stmt.laidAll 1 b.call).map Line.render := by
  have hremark : Line.render ⟨1, "# " ++ Text.oneLine s!"{b.node.label} ({b.node.id})"⟩ =
      "    # " ++ Text.oneLine s!"{b.node.label} ({b.node.id})" := by
    simp [Line.render, ← String.append_assoc]
  have hcommand : ∀ c : Command, Line.render ⟨1, c.text⟩ = "    " ++ c.text := by
    intro c
    simp [Line.render, c.text_ne_empty]
  rw [Stmt.laidAll_eq_flatMap, BoundNode.call, List.flatMap_cons, List.flatMap_map, callLines, ← hremark]
  simp only [← hcommand]
  simp [Stmt.laid, Line.render, ← List.map_eq_flatMap]

theorem runFunction_sections (pairs : List (BoundNode × Template)) (usesRuntime : Bool) (s : Settings) :
    runFunction pairs usesRuntime s = (runOpening usesRuntime s).map Line.render ++
      (pairs.map Prod.fst).flatMap callLines ++ "" :: (returnLines (pairs.map Prod.fst)).map Line.render := by
  rw [runFunction_eq, runLines, List.map_append, List.map_append, List.map_flatMap, funext callLines_eq]
  rfl

end Script

/-- The lines of the procedure of a node, and the two empty lines after it. -/
def Script.procedureLines (pair : BoundNode × Template) : List String :=
  ((pair.2.procedure pair.1).laid 0).map Line.render ++ ["", ""]

theorem Template.procedureLines_eq (t : Template) (b : BoundNode) : Script.procedureLines (b, t) =
    b.signature :: (Stmt.laidAll 1 (b.opening ++ (t.body b).stmts)).map Line.render ++
      [Line.render ⟨1, s!"return {t.returned b}"⟩, "", ""] := by
  have hsignature : Line.render ⟨0, b.signature⟩ = b.signature := by simp [Line.render]
  rw [Script.procedureLines, laid_procedure, Stmt.laidAll_append, List.map_cons, List.map_append, hsignature]
  simp [Stmt.laidAll, Stmt.laid]

namespace Pipeline

theorem emission_sections (p : Pipeline) (s : Settings) (timestamp : String) (pairs : List (BoundNode × Template)) :
    ∃ usesRuntime, usesRuntime = (pairs.map Prod.fst).any (·.node.category.usesRuntime) ∧
      (p.emission s timestamp pairs).lines =
        Script.header p timestamp ++ Script.imports usesRuntime s ++ ["", ""] ++
          Script.nodeConfigs (pairs.map Prod.fst) ++ ["", "", Script.proceduresHeading, ""] ++
          pairs.flatMap Script.procedureLines ++
          (Script.runFunction pairs usesRuntime s ++ ["", ""] ++ Script.entryPoint) := by
  refine ⟨_, rfl, ?_⟩
  rw [emission, Script.procedures_eq]
  simp only [List.append_assoc]
  rfl

theorem runFunction_within (p : Pipeline) (s : Settings) (timestamp : String) (pairs : List (BoundNode × Template)) :
    ∃ usesRuntime, Script.runFunction pairs usesRuntime s <:+: (p.emission s timestamp pairs).lines := by
  obtain ⟨usesRuntime, -, hlines⟩ := emission_sections p s timestamp pairs
  rw [hlines, List.append_assoc (Script.runFunction ..)]
  exact ⟨usesRuntime, List.infix_append' _ _ _⟩

theorem callLines_within {p : Pipeline} {s : Settings} {timestamp : String} {pairs : List (BoundNode × Template)}
    {b : BoundNode} (hb : b ∈ (p.emission s timestamp pairs).bound) :
    Script.callLines b <:+: (p.emission s timestamp pairs).lines := by
  obtain ⟨before, after, hsplit⟩ := List.append_of_mem hb
  obtain ⟨usesRuntime, hrun⟩ := runFunction_within p s timestamp pairs
  refine List.IsInfix.trans ?_ hrun
  rw [Script.runFunction_sections, show pairs.map Prod.fst = _ from hsplit, List.flatMap_append, List.flatMap_cons]
  exact (List.infix_append' _ _ _).trans (List.infix_append _ _ _)

theorem emission_declares {p : Pipeline} {s : Settings} {timestamp : String} {pairs : List (BoundNode × Template)} :
    ∀ b ∈ (p.emission s timestamp pairs).bound, b.signature ∈ (p.emission s timestamp pairs).lines ∧
      ∀ c ∈ b.commands, "    " ++ c.text ∈ (p.emission s timestamp pairs).lines := by
  intro b hb
  refine ⟨?_, fun c hc => (callLines_within hb).subset ?_⟩
  · obtain ⟨⟨b, t⟩, hpair, rfl⟩ := List.mem_map.1 hb
    simp [emission, Script.signature_mem_procedures hpair]
  · exact List.mem_cons_of_mem _ (List.mem_cons_of_mem _ (List.mem_map_of_mem hc))

end Pipeline

end Dataflow
