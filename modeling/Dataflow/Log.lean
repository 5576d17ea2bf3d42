namespace Dataflow

inductive LogLevel where
  | debug
  | info
  | warning
  | error
deriving DecidableEq, Repr

def LogLevel.name : LogLevel → String
  | .debug => "DEBUG"
  | .info => "INFO"
  | .warning => "WARNING"
  | .error => "ERROR"

/-- How grave a record is, the least first. -/
def LogLevel.rank : LogLevel → Nat
  | .debug => 0
  | .info => 1
  | .warning => 2
  | .error => 3

inductive LogSource where
  | compiler
  | validator
  | scheduler
  | emitter
  | warnings
deriving DecidableEq, Repr

def LogSource.name : LogSource → String
  | .compiler => "pipegraph.compiler"
  | .validator => "pipegraph.compiler.validator"
  | .scheduler => "pipegraph.compiler.scheduler"
  | .emitter => "pipegraph.compiler.emitter"
  | .warnings => "pipegraph.compiler.warnings"

structure LogRecord where
  level : LogLevel
  source : LogSource
  message : String
deriving DecidableEq, Repr

def LogRecord.text (r : LogRecord) : String := s!"{r.level.name} {r.source.name}: {r.message}"

/-- A value and the log of how it came about. -/
structure Logged (α : Type) where
  log : List LogRecord
  value : α

end Dataflow
