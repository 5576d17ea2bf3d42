import Dataflow.CommandLine.Options
import Dataflow.Compilation
import Dataflow.Files.Document
import Dataflow.Naming.Identifier

namespace Dataflow.CommandLine

def program : String := "pipegraph-compile"

/-- What ends a run before it has an exit status. -/
inductive Abort where
  | read (cause : ReadError)
  | emit (cause : EmitError)
  /-- The value of an option is needed, and the option is given without one. -/
  | valueless (option : OptionKey)

def Abort.message : Abort → String
  | .read cause => cause.message
  | .emit cause => cause.message
  | .valueless option =>
    let titles := (specs.filter (·.key = option)).map OptionSpec.title
    s!"argument {String.join titles} has no value"

/-- What a run says on the error stream, each on a line of its own. -/
inductive Notice where
  | log (record : LogRecord)
  | warning (text : String)
  | error (text : String)
  | usage (cause : ArgumentError)

def Notice.text : Notice → String
  | .log record => record.text
  | .warning text => s!"[warning] {text}"
  | .error text => s!"[error] {text}"
  | .usage cause => s!"{program}: error: {cause.message}"

structure Outcome where
  status : Except Abort Nat
  stdout : String := ""
  notices : List Notice := []
  tree : FileTree

structure Surroundings where
  tree : FileTree
  environment : Environment
  timestamp : String

def lines (texts : List String) : String := String.join (texts.map (· ++ "\n"))

def Outcome.stderr (o : Outcome) : String := lines (o.notices.map Notice.text)

/-- The log as it is shown: with all records, or from warnings on. -/
def shownLog (verbose : Bool) (log : List LogRecord) : List Notice :=
  (log.filter fun r => verbose || LogLevel.warning.rank ≤ r.level.rank).map .log

/-- The end of a run whose file has no pipeline. -/
def refuse (s : Surroundings) : ReadError → Outcome
  | .load e =>
    if e.isDocumentFault then
      { status := .ok 1, notices := [.error s!"Schema validation failed: {e.message}"], tree := s.tree }
    else { status := .error (.read (.load e)), tree := s.tree }
  | e => { status := .error (.read e), tree := s.tree }

def loadFile (s : Surroundings) (path : Path) : Except Outcome Pipeline :=
  match s.tree.exists? path with
  | .error e => .error { status := .error (.read (.file e)), tree := s.tree }
  | .ok false => .error { status := .ok 1, notices := [.error s!"File not found: {path.text}"], tree := s.tree }
  | .ok true => (s.tree.pipeline path).mapError (refuse s)

def loadSource (s : Surroundings) : Source → Except Outcome Pipeline
  | .stock p => .ok p
  | .unnamed => .error { status := .error (.valueless .template), tree := s.tree }
  | .file text => loadFile s (Path.ofText text)

/-- The settings of the environment, with the threshold of the options if they have one. -/
def settingsOf (env : Environment) (threshold : Given Int) : Except SettingsError Settings := do
  let settings ← Settings.ofEnvironment env
  match threshold with
  | .value n => settings.withThreshold n
  | _ => return settings

def loadSettings (s : Surroundings) (threshold : Given Int) : Except Outcome Settings :=
  match settingsOf s.environment threshold, threshold with
  | .error e, _ => .error { status := .ok 1, notices := [.error e.message], tree := s.tree }
  | .ok _, .bare => .error { status := .error (.valueless .threshold), tree := s.tree }
  | .ok settings, _ => .ok settings

def requirementsName : String := "requirements.txt"

/-- Writes the script and its requirements into the directory `out`. What was made or written before a failure
stays. -/
def writeFiles (tree : FileTree) (out : Path) (script : String) (source : String) (manifest : List String) :
    FileTree × Except FileError Unit :=
  match tree.makeDirectories out with
  | (tree, .error e) => (tree, .error e)
  | (tree, .ok ()) =>
    match tree.write (out.child script) (Utf8.encode source) with
    | .error e => (tree, .error e)
    | .ok tree => tree.settle (tree.write (out.child requirementsName) (Utf8.encode (lines manifest)))

/-- The end of a run that writes to the directory `out`. -/
def deliverTo (out : Path) (tree : FileTree) (p : Pipeline) (c : Compilation) (notices : List Notice) : Outcome :=
  let script := Naming.fileName p.name
  let (tree, written) := writeFiles tree out script (c.source?.getD "") c.manifest
  match written with
  | .error e => { status := .error (.read (.file e)), notices, tree }
  | .ok () =>
    { status := .ok 0
      stdout := lines [
        s!"[{program}] pipeline : {p.name}",
        s!"[{program}] order    : {arrows c.order}",
        s!"[{program}] written  : {(out.child script).text}",
        s!"[{program}] manifest : {(out.child requirementsName).text}"]
      notices, tree }

/-- The end of a run whose compilation went through. -/
def deliver (o : Options) (tree : FileTree) (p : Pipeline) (c : Compilation) (notices : List Notice) : Outcome :=
  if o.printOnly then { status := .ok 0, stdout := lines [c.source?.getD ""], notices, tree }
  else
    match o.directory? with
    | none => { status := .error (.valueless .out), notices, tree }
    | some name => deliverTo (Path.ofText name) tree p c notices

/-- The end of a run that has a pipeline and its settings. -/
def compilePipeline (s : Surroundings) (o : Options) (settings : Settings) (p : Pipeline) : Outcome :=
  let compiled := p.compile { settings } s.timestamp
  let log := shownLog o.verbose compiled.log
  match compiled.value with
  | .error e => { status := .error (.emit e), notices := log, tree := s.tree }
  | .ok c =>
    let notices := log ++ c.warnings.map .warning
    if c.success then deliver o s.tree p c notices
    else { status := .ok 1, notices := notices ++ c.errors.map .error, tree := s.tree }

def compile (s : Surroundings) (o : Options) : Outcome :=
  match loadSource s o.source with
  | .error outcome => outcome
  | .ok p =>
    match loadSettings s o.threshold with
    | .error outcome => outcome
    | .ok settings => compilePipeline s o settings p

def usage : String :=
  s!"usage: {program} [-h] [--template KEY] [--out DIR] [--print] [--threshold N] [--verbose] [{fileTitle}]"

def run (s : Surroundings) (args : List String) : Outcome :=
  match Request.ofArguments args with
  | .error e => { status := .ok 2, notices := [.usage e], tree := s.tree }
  | .ok .help => { status := .ok 0, stdout := lines [usage], tree := s.tree }
  | .ok (.compile o) => compile s o

end Dataflow.CommandLine
