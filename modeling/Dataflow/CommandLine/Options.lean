import Dataflow.CommandLine.Arguments
import Dataflow.Stock
import Dataflow.Text.Integer

namespace Dataflow.CommandLine

inductive OptionKey where
  | help
  | template
  | out
  | print
  | threshold
  | verbose
deriving DecidableEq, Repr

/-- An option that takes a value: it is absent, or given without a value, or with one. -/
inductive Given (α : Type) where
  | absent
  | bare
  | value (a : α)

namespace Given

variable {α ε : Type}

def isGiven : Given α → Bool
  | .absent => false
  | _ => true

def read (f : String → Except ε α) : Option String → Except ε (Given α)
  | none => .ok .bare
  | some text => (f text).map .value

end Given

def specs : List (OptionSpec OptionKey) := [
  ⟨.help, ["-h", "--help"], false⟩,
  ⟨.template, ["--template"], true⟩,
  ⟨.out, ["--out"], true⟩,
  ⟨.print, ["--print"], false⟩,
  ⟨.threshold, ["--threshold"], true⟩,
  ⟨.verbose, ["--verbose"], false⟩]

def fileTitle : String := "graph.json"

/-- Where the pipeline comes from. A stock pipeline may be asked for without its key. -/
inductive Source where
  | file (path : String)
  | stock (pipeline : Pipeline)
  | unnamed

structure Options where
  source : Source
  out : Given String := .absent
  printOnly : Bool := false
  threshold : Given Int := .absent
  verbose : Bool := false

/-- The directory to write to, unless it is given without a name. -/
def Options.directory? (o : Options) : Option String :=
  match o.out with
  | .absent => some "compiled"
  | .bare => none
  | .value name => some name

inductive Request where
  | help
  | compile (options : Options)

inductive ArgumentError where
  | usage (cause : UsageError)
  | notInteger (value : String)
  | notStock (value : String)
  | conflict (later earlier : String)
  | noSource
  | unrecognised (extras : List String)

def ArgumentError.message : ArgumentError → String
  | .usage cause => cause.message
  | .notInteger value => s!"argument --threshold: invalid int value: {Text.quoted value}"
  | .notStock value =>
    s!"argument --template: invalid choice: {Text.quoted value} (choose from " ++
      ", ".intercalate (Stock.keys.map Text.quoted) ++ ")"
  | .conflict later earlier => s!"argument {later}: not allowed with argument {earlier}"
  | .noSource => s!"one of the arguments {fileTitle} --template is required"
  | .unrecognised extras => "unrecognized arguments: " ++ " ".intercalate extras

def readStock (key : String) : Except ArgumentError Pipeline :=
  (Stock.pipeline? key).elim (.error (.notStock key)) .ok

def readThreshold (text : String) : Except ArgumentError Int :=
  (Text.integer? text).elim (.error (.notInteger text)) .ok

structure Draft where
  file : Option String := none
  stock : Given Pipeline := .absent
  out : Given String := .absent
  printOnly : Bool := false
  threshold : Given Int := .absent
  verbose : Bool := false

/-- Takes one argument into the draft; none stands for a call for help. -/
def Draft.take (d : Draft) : Assignment OptionKey → Except ArgumentError (Option Draft)
  | .free path =>
    if d.stock.isGiven then .error (.conflict fileTitle "--template")
    else .ok (some { d with file := some path })
  | .option .template key => do
    let stock ← Given.read readStock key
    if d.file.isSome then throw (.conflict "--template" fileTitle)
    return some { d with stock }
  | .option .threshold text => do
    let threshold ← Given.read readThreshold text
    return some { d with threshold }
  | .option .out name => do
    let out ← Given.read .ok name
    return some { d with out }
  | .flag .print => .ok (some { d with printOnly := true })
  | .flag .verbose => .ok (some { d with verbose := true })
  | .flag .help => .ok none
  | .flag _ | .option .. => .ok (some d)

def Draft.source? (d : Draft) : Option Source :=
  match d.stock with
  | .value p => some (.stock p)
  | .bare => some .unnamed
  | .absent => d.file.map .file

def Draft.takeAll (d : Draft) : List (Assignment OptionKey) → Except ArgumentError (Option Draft)
  | [] => .ok (some d)
  | a :: rest => do
    match ← d.take a with
    | none => return none
    | some d => d.takeAll rest

/-- Reads the arguments. A value that cannot be used is reported before a missing source, and that
before arguments that are left over. -/
def Request.ofArguments (args : List String) : Except ArgumentError Request := do
  let reading ← (Reading.ofTexts specs args).mapError .usage
  match ← Draft.takeAll {} reading.used with
  | none => return .help
  | some d =>
    if let some fault := reading.fault then throw (.usage fault)
    let source ← d.source?.elim (throw .noSource) pure
    unless reading.extras.isEmpty do throw (.unrecognised reading.extras)
    return .compile ⟨source, d.out, d.printOnly, d.threshold, d.verbose⟩

end Dataflow.CommandLine
