import Dataflow.Text.Identifier
import Dataflow.Text.Integer
import Dataflow.Text.Quoted
import Dataflow.Text.Split

namespace Dataflow

namespace Text

/-- Whether the text is made of identifiers with points between them. -/
def isDottedIdentifier (s : String) : Bool :=
  (splitAt '.' s.toList).all fun part => isIdentifier (String.ofList part)

end Text

/-- The settings of the compiler: the number of processing nodes above which it advises against
them, and the module and class that a script takes its runtime from. -/
structure Settings where
  threshold : Nat := 10
  runtimeModule : String := "pipegraph_runtime"
  runtimeClass : String := "RagPipeline"
  module_dotted : Text.isDottedIdentifier runtimeModule = true := by decide
  class_identifier : Text.isIdentifier runtimeClass = true := by decide

inductive SettingsError where
  | negativeThreshold
  | notDotted (moduleName : String)
  | notIdentifier (className : String)
  | notInteger (text : String)
deriving DecidableEq, Repr

def SettingsError.message : SettingsError → String
  | .negativeThreshold => "complexity_threshold must be >= 0"
  | .notDotted name => s!"runtime_module must be a dotted Python identifier, got {Text.quoted name}"
  | .notIdentifier name => s!"runtime_class must be a Python identifier, got {Text.quoted name}"
  | .notInteger text => s!"PIPEGRAPH_COMPLEXITY_THRESHOLD must be an integer, got {Text.quoted text}"

abbrev Environment := List (String × String)

namespace Settings

def make (threshold : Int) (runtimeModule runtimeClass : String) : Except SettingsError Settings :=
  if threshold < 0 then .error .negativeThreshold
  else if hm : Text.isDottedIdentifier runtimeModule then
    if hc : Text.isIdentifier runtimeClass then
      .ok ⟨threshold.toNat, runtimeModule, runtimeClass, hm, hc⟩
    else .error (.notIdentifier runtimeClass)
  else .error (.notDotted runtimeModule)

def withThreshold (s : Settings) (threshold : Int) : Except SettingsError Settings :=
  make threshold s.runtimeModule s.runtimeClass

/-- The value of a variable, unless it is unset or empty. -/
def lookup? (env : Environment) (name : String) : Option String :=
  (env.lookup name).filter (· != "")

def thresholdOf (env : Environment) : Except SettingsError Int :=
  match lookup? env "PIPEGRAPH_COMPLEXITY_THRESHOLD" with
  | none => .ok (10 : Nat)
  | some text => (Text.integer? text).elim (.error (.notInteger text)) .ok

def ofEnvironment (env : Environment) : Except SettingsError Settings := do
  let threshold ← thresholdOf env
  make threshold ((lookup? env "PIPEGRAPH_RUNTIME_MODULE").getD "pipegraph_runtime")
    ((lookup? env "PIPEGRAPH_RUNTIME_CLASS").getD "RagPipeline")

end Settings

end Dataflow
