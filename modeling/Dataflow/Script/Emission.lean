import Dataflow.Log
import Dataflow.Script.Registry
import Dataflow.Settings

namespace Dataflow

namespace Script

def timestampMark : String := "Generated at: "

/-- Doubles backslashes and escapes runs of three quotes. -/
def docEscape : List Char → List Char
  | '\x22' :: '\x22' :: '\x22' :: rest => "\\\"\\\"\\\"".toList ++ docEscape rest
  | '\\' :: rest => '\\' :: '\\' :: docEscape rest
  | c :: rest => c :: docEscape rest
  | [] => []

/-- The text on one line, as it may stand in the script's opening string. -/
def docText (s : String) : String := String.ofList (docEscape (Text.oneLine s).toList)

def header (p : Pipeline) (timestamp : String) : List String := [
  "#!/usr/bin/env python3",
  "\"\"\"",
  s!"Compiled pipeline: {docText p.name}",
  s!"Nodes: {p.nodes.length}",
  s!"Edges: {p.edges.length}",
  timestampMark ++ timestamp] ++
  (if p.description.truthy then ["", docText p.description.display] else []) ++ [
  "",
  "This file was produced by pipegraph.compiler.",
  "Do not edit by hand - re-run compile_pipeline() to regenerate.",
  "\"\"\""]

def imports (usesRuntime : Bool) (s : Settings) : List String := [
  "from __future__ import annotations",
  "",
  "import json",
  "import sys",
  "from typing import Any, Dict, Optional"] ++
  (if usesRuntime then ["", s!"from {s.runtimeModule} import {s.runtimeClass}"] else [])

def nodeConfigs (bound : List BoundNode) : List String :=
  ["NODE_CONFIGS: Dict[str, Dict[str, Any]] = \x7b"] ++
  (bound.map fun b => s!"    {Text.quoted b.node.id}: {(Json.obj b.node.config).literal},") ++
  ["\x7d"]

def proceduresHeading : String :=
  "# ── Node procedures " ++ String.ofList (List.replicate 59 '─')

variable {τ : Type} [Strategy τ]

def procedures (bound : List (BoundNode × τ)) : List String :=
  (bound.foldl (fun (w : Writer) (b, t) => ((w.performAll (Strategy.procedure t b)).blank).blank) {}).text

/-- The entries of the mapping that the run function returns: the labels of the output nodes with
the variables of their results. -/
def results (bound : List BoundNode) : List (String × String) :=
  bound.filterMap fun b => b.resultVar.map (b.node.label, ·)

def writeReturn (w : Writer) (bound : List BoundNode) : Writer :=
  match results bound with
  | [] => w.line "return \x7b\x7d"
  | entries =>
    let w := entries.foldl (fun (w : Writer) (label, var) => w.line s!"{Text.quoted label}: {var},")
      (w.line "return \x7b").indent
    w.dedent.line "\x7d"

def runFunction (bound : List (BoundNode × τ)) (usesRuntime : Bool) (s : Settings) : List String :=
  let w : Writer := {}
  let w := (w.line "def run_pipeline(inputs: Optional[Dict[str, Any]] = None) -> Dict[str, Any]:").indent
  let w := w.line "\"\"\"Run every node in dependency order and return the results by output label.\"\"\""
  let w := w.line "inputs = dict(inputs or \x7b\x7d)"
  let w := if usesRuntime then w.line s!"rag = {s.runtimeClass}.get_instance()" else w
  let w := bound.foldl (fun (w : Writer) (b, t) => w.blank.performAll (Strategy.call t b)) w
  (writeReturn w.blank (bound.map Prod.fst)).text

def entryPoint : List String := [
  "def main(argv=None) -> int:",
  "    argv = sys.argv[1:] if argv is None else argv",
  "    inputs = json.loads(argv[0]) if argv else \x7b\x7d",
  "    print(json.dumps(run_pipeline(inputs), indent=2, default=str))",
  "    return 0",
  "",
  "",
  "if __name__ == \"__main__\":",
  "    sys.exit(main())"]

/-- The text with its first timestamp line blanked out, so that two scripts can be compared. -/
def stripTimestamp (source : String) : String :=
  let rec blankFirst : List (List Char) → List (List Char)
    | [] => []
    | line :: rest =>
      if timestampMark.toList.isPrefixOf line then (timestampMark ++ "<timestamp>").toList :: rest
      else line :: blankFirst rest
  String.ofList (List.intercalate ['\n'] (blankFirst (Text.splitAt '\n' source.toList)))

end Script

/-- A script: its lines, what it needs installed, and the bindings that it was written from. -/
structure Emission where
  lines : List String
  manifest : List String
  bound : List BoundNode

def Emission.source (e : Emission) : String := "\n".intercalate e.lines ++ "\n"

inductive EmitError where
  | notAnOrder
  | noTemplate (problem : Problem)
  | symbol (cause : SymbolError)

namespace EmitError

def message : EmitError → String
  | .notAnOrder => "order must list every node id of the pipeline exactly once"
  | .noTemplate problem => problem.diagnostic.text
  | .symbol (.unresolved key) => (Problem.unresolved key.node key.port).diagnostic.text
  | .symbol (.alreadyDefined key) => s!"Symbol for {key.node}.{key.port} is already defined"

end EmitError

def BoundNode.logRecord (b : BoundNode) : LogRecord :=
  let into : Json := .obj (b.inputVars.map fun (port, var) => (port, (var.map Json.str).getD .null))
  let out : Json := .obj (b.outputVars.map fun (port, var) => (port, .str var))
  ⟨.debug, .emitter, s!"Bound {b.node.id}: in={into.shown} out={out.shown}"⟩

namespace Pipeline

variable {τ : Type} (p : Pipeline)

def templatesFor (registry : Registry τ) (order : List String) : Except Problem (List (Node × τ)) :=
  (order.filterMap p.node?).mapM fun n => do return (n, ← registry.lookup n)

/-- The names that a script's variables stay clear of. -/
def scriptReserved (s : Settings) : List String :=
  Naming.reserved ++
    [s.runtimeClass, String.ofList ((Text.splitAt '.' s.runtimeModule.toList).headD [])]

/-- The dependencies of some nodes, each once and in alphabetical order. -/
def manifestOf (nodes : List Node) : List String :=
  ((nodes.flatMap (·.category.dependencies)).eraseDups).mergeSort (· ≤ ·)

variable [Strategy τ]

/-- The script of nodes that are bound and have their templates. -/
def emission (s : Settings) (timestamp : String) (bound : List (BoundNode × τ)) : Emission :=
  let nodes := bound.map Prod.fst
  let usesRuntime := nodes.any (·.node.category.usesRuntime)
  { lines :=
      Script.header p timestamp ++ Script.imports usesRuntime s ++ ["", ""] ++ Script.nodeConfigs nodes ++
        ["", "", Script.proceduresHeading, ""] ++ Script.procedures bound ++
        Script.runFunction bound usesRuntime s ++ ["", ""] ++ Script.entryPoint
    manifest := manifestOf (nodes.map BoundNode.node)
    bound := nodes }

/-- Emits the script for nodes that run in the given order, with the log of the work. -/
def emit (order : List String) (registry : Registry τ) (s : Settings) (timestamp : String) :
    Logged (Except EmitError Emission) :=
  if !order.isPerm p.ids then ⟨[], .error .notAnOrder⟩
  else
    match p.templatesFor registry order with
    | .error problem => ⟨[], .error (.noTemplate problem)⟩
    | .ok templates =>
      let outcome := Binding.bindAll p (.empty (scriptReserved s)) (templates.map Prod.fst)
      let log := outcome.bound.map BoundNode.logRecord
      match outcome.result with
      | .error e => ⟨log, .error (.symbol e)⟩
      | .ok table =>
        let emission := p.emission s timestamp (outcome.bound.zip (templates.map Prod.snd))
        let manifest := Json.arr (emission.manifest.map Json.str)
        ⟨log ++ [⟨.debug, .emitter, s!"Emitted '{p.name}': {outcome.bound.length} procedures, " ++
          s!"{table.symbols.length} symbols, manifest={manifest.shown}"⟩], .ok emission⟩

end Pipeline

end Dataflow
