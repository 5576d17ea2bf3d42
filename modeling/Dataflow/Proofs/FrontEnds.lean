import Dataflow.CommandLine.Run
import Dataflow.Proofs.TextFiles
import Dataflow.Proofs.Timestamp
import Dataflow.Service

namespace Dataflow

/-- The texts are the same but for one line, on which each has its own timestamp. -/
def SameButTimestamp (t t' source source' : String) : Prop :=
  ∃ front back, source = front ++ "\n" ++ Script.timestampMark ++ t ++ "\n" ++ back ∧
    source' = front ++ "\n" ++ Script.timestampMark ++ t' ++ "\n" ++ back

namespace Pipeline

variable {τ : Type} [Strategy τ]

end Pipeline

namespace FileTree

variable {tree : FileTree} {path : Path} {octets : List UInt8}

theorem exists?_of_read (h : tree.read path = .ok octets) : tree.exists? path = .ok true := by
  obtain ⟨location, hlocation, hread⟩ := Steps.bind_eq_ok.1 h
  cases location with
  | file => simp only [exists?, hlocation]
  | directory | missing => cases hread

theorem pipeline_of_parse {text : String} {v : Json} (hread : tree.read path = .ok octets)
    (htext : Utf8.decode octets = .ok text) (hparse : Json.parse text = .ok v) :
    tree.pipeline path = (Pipeline.ofJson v).mapError .load := by
  simp only [pipeline, hread, htext, Except.mapError, Steps.ok_bind, Pipeline.ofText,
    Json.parse_unifyLineEnds hparse]

end FileTree

/-- The settings, with a threshold in place of theirs if there is one. -/
def Settings.over (s : Settings) (threshold : Option Nat) : Settings :=
  { s with threshold := threshold.getD s.threshold }

/-- The arguments ask for the script of the pipeline in a file, with a threshold if there is one. -/
structure CommandLine.Prints (args : List String) (file : String) (threshold : Option Nat) : Prop where
  options : ∃ o, CommandLine.Request.ofArguments args = .ok (.compile o) ∧ o.source = .file file ∧
    o.printOnly = true ∧ o.threshold = threshold.elim .absent fun n => .value n

theorem Settings.withThreshold_natCast (s : Settings) (n : Nat) : s.withThreshold n = .ok (s.over (some n)) := by
  have hn : ¬(n : Int) < 0 := by omega
  simp only [withThreshold, make, if_neg hn, s.module_dotted, s.class_identifier, dif_pos]
  rfl

namespace CommandLine

theorem loadSettings_over {s : Surroundings} {settings : Settings}
    (h : Settings.ofEnvironment s.environment = .ok settings) (threshold : Option Nat) :
    loadSettings s (threshold.elim .absent fun n => .value n) = .ok (settings.over threshold) := by
  cases threshold with
  | none => simp only [loadSettings, settingsOf, h, Option.elim, Steps.ok_bind]; rfl
  | some n =>
      simp only [loadSettings, settingsOf, h, Option.elim, Steps.ok_bind, Settings.withThreshold_natCast]

def Notice.error? : Notice → Option String
  | .error text => some text
  | _ => none

def Notice.warning? : Notice → Option String
  | .warning text => some text
  | _ => none

def Outcome.errors (o : Outcome) : List String := o.notices.filterMap Notice.error?

def Outcome.warnings (o : Outcome) : List String := o.notices.filterMap Notice.warning?

def report (log : List LogRecord) (warnings errors : List String) : List Notice :=
  log.map .log ++ warnings.map .warning ++ errors.map .error

section

variable (status : Except Abort Nat) (stdout : String) (log : List LogRecord) (warnings errors : List String)
  (tree : FileTree)

theorem errors_report : (Outcome.mk status stdout (report log warnings errors) tree).errors = errors := by
  simp [Outcome.errors, report, List.filterMap_map, Function.comp_def, Notice.error?]

end

end CommandLine

namespace Service.Response

def status : Response → Nat
  | .json status _ => status
  | .bare status => status
  | .invalid _ => 422

end Service.Response

/-- How an answer of the service and a run of the command line go together. -/
inductive Agree (posted printed : String) : Except Service.Fault Service.Response → CommandLine.Outcome → Prop
  | refused (message : String) (tree : FileTree) :
      Agree posted printed (.ok (Service.detail 400 message)) {
        status := .ok 1
        notices := CommandLine.report [] [] [s!"Schema validation failed: {message}"]
        tree }
  | rejected (problems : List Problem) (warnings : List String) (log : List LogRecord) (tree : FileTree) :
      Agree posted printed (.ok (.json 422 (Compilation.toJson ⟨.rejected problems, warnings⟩))) {
        status := .ok 1
        notices := CommandLine.report log warnings (Compilation.errors ⟨.rejected problems, warnings⟩)
        tree }
  | emitted (order : List String) {e e' : Emission} (h : SameButTimestamp posted printed e.source e'.source)
      (warnings : List String) (log : List LogRecord) (tree : FileTree) :
      Agree posted printed (.ok (.json 200 (Compilation.toJson ⟨.emitted order e, warnings⟩))) {
        status := .ok 0
        stdout := e'.source ++ "\n"
        notices := CommandLine.report log warnings []
        tree }
  | failed (fault : Service.Fault) (abort : CommandLine.Abort) (notices : List CommandLine.Notice) (tree : FileTree) :
      Agree posted printed (.error fault) { status := .error abort, notices, tree }

namespace Agree

variable {posted printed : String} {answer : Except Service.Fault Service.Response} {outcome : CommandLine.Outcome}

end Agree

section

variable {args : List String} {fields : Json.Fields} {threshold : Option Nat} {file text : String}
  {octets : List UInt8} {s : CommandLine.Surroundings} {settings : Settings}

end

namespace Lone

def document : String :=
  "\x7b\"nodes\": [\x7b\"id\": \"sum\",\r\n\"category\": \"processing\"\x7d],\n\"edges\": []\x7d"

def fields : Json.Fields := [
  ("nodes", .arr [.obj [("id", .str "sum"), ("category", .str "processing")]]),
  ("edges", .arr [])]

def request : Service.Request where
  method := "Post"
  address := "/api/compile?threshold=0"
  body := some (.obj fields)

def arguments : List String := ["--print", "--threshold", "0", "lone.json"]

def surroundings : CommandLine.Surroundings where
  tree := { entries := [(["lone.json"], .file (Utf8.encode document))] }
  environment := []
  timestamp := "later"

theorem prints_arguments : CommandLine.Prints arguments "lone.json" (some 0) where
  options := by
    have hroles : Argument.classify CommandLine.specs arguments = .ok [
        ⟨"--print", .option ⟨.print, ["--print"], false⟩ .nothing⟩,
        ⟨"--threshold", .option ⟨.threshold, ["--threshold"], true⟩ .nothing⟩, ⟨"0", .value⟩, ⟨"lone.json", .value⟩] :=
      rfl
    have hreading : Reading.ofTexts CommandLine.specs arguments =
        .ok { used := [.flag .print, .option .threshold (some "0"), .free "lone.json"] } := by
      rw [Reading.ofTexts, hroles, Steps.ok_bind]
      simp only [Reading.ofArguments, Reading.runOf]
      rfl
    rw [CommandLine.Request.ofArguments, hreading]
    exact ⟨_, rfl, rfl, rfl, rfl⟩

end Lone

end Dataflow
