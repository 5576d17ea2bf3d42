import Dataflow.Advice
import Dataflow.Diagnosis
import Dataflow.Schedule
import Dataflow.Script.Emission
import Dataflow.Text.LineBreak

namespace Dataflow

inductive Verdict where
  | emitted (order : List String) (emission : Emission)
  | rejected (problems : List Problem)

structure Compilation where
  verdict : Verdict
  warnings : List String

namespace Compilation

variable (c : Compilation)

def success : Bool :=
  match c.verdict with
  | .emitted .. => true
  | .rejected _ => false

def state : String := if c.success then "emitted" else "rejected"

def source? : Option String :=
  match c.verdict with
  | .emitted _ e => some e.source
  | .rejected _ => none

def manifest : List String :=
  match c.verdict with
  | .emitted _ e => e.manifest
  | .rejected _ => []

def order : List String :=
  match c.verdict with
  | .emitted order _ => order
  | .rejected _ => []

def problems : List Problem :=
  match c.verdict with
  | .emitted .. => []
  | .rejected problems => problems

def diagnostics : List Diagnostic := c.problems.map Problem.diagnostic

def errors : List String := c.diagnostics.map Diagnostic.text

/-- The compilation as a document; success and failure have different fields. -/
def toJson : Json :=
  let texts (xs : List String) : Json := .arr (xs.map .str)
  match c.verdict with
  | .emitted _ e => .obj [
      ("sourceText", .str e.source),
      ("dependencyManifest", texts e.manifest),
      ("warnings", texts c.warnings)]
  | .rejected _ => .obj [("errors", texts c.errors), ("warnings", texts c.warnings)]

end Compilation

/-- What a compilation depends on besides the pipeline. -/
structure CompileOptions (τ : Type := Template) where
  settings : Settings := {}
  rules : FeedRules := .standard
  registry : Registry τ := by exact Registry.standard

namespace Pipeline

variable {τ : Type} [Strategy τ] (p : Pipeline)

def logInfo (message : String) : LogRecord := ⟨.info, .compiler, s!"'{p.name}': {message}"⟩

def reject (problems : List Problem) (warnings : List String) : Logged Compilation where
  log := (problems.map fun d => ⟨.error, .compiler, s!"'{p.name}': {d.diagnostic.text}"⟩) ++
    [p.logInfo s!"REJECTED with {problems.length} error(s)"]
  value := ⟨.rejected problems, warnings⟩

def compileChecked (options : CompileOptions τ) (timestamp : String) (warnings : List String) :
    Logged (Except EmitError Compilation) :=
  match p.schedule with
  | .error path =>
    let r := p.reject [.cycle path] warnings
    ⟨r.log, .ok r.value⟩
  | .ok order =>
    let emitted := p.emit order options.registry options.settings timestamp
    let log := [⟨.debug, .scheduler, s!"Scheduled '{p.name}': {arrows order}"⟩, p.logInfo "SCHEDULED"] ++
      emitted.log
    match emitted.value with
    | .error (.noTemplate problem) =>
      let r := p.reject [problem] warnings
      ⟨log ++ r.log, .ok r.value⟩
    | .error e => ⟨log, .error e⟩
    | .ok e =>
      ⟨log ++ [p.logInfo s!"EMITTED ({(Text.splitLines e.source).length} lines)"],
        .ok ⟨.emitted order e, warnings⟩⟩

/-- Compiles the pipeline. The only error is one that the emission ends in without there being a
problem to report. -/
def compile (options : CompileOptions τ) (timestamp : String) : Logged (Except EmitError Compilation) :=
  let warnings := (p.advice options.settings.threshold).map Advice.message
  let problems := p.problems options.rules
  let counts := s!"{p.nodes.length} nodes, {p.edges.length} edges"
  let log := [p.logInfo s!"BUILT ({counts})"] ++
    (warnings.map fun w => ⟨.warning, .warnings, w⟩) ++
    [⟨.debug, .validator, s!"Validated '{p.name}': {counts}, {problems.length} diagnostics"⟩]
  if problems.isEmpty then
    let rest := p.compileChecked options timestamp warnings
    ⟨log ++ p.logInfo "VALIDATED" :: rest.log, rest.value⟩
  else
    let r := p.reject problems warnings
    ⟨log ++ r.log, .ok r.value⟩

end Pipeline

end Dataflow
