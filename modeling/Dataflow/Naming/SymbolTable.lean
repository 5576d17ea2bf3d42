import Dataflow.Naming.Identifier

namespace Dataflow

structure PortKey where
  node : String
  port : String
deriving DecidableEq, Repr

namespace PortKey

/-- The port under which the result of an output node is bound. -/
def resultPort : String := "__result__"

/-- The text that the variable of a port is named after. -/
def hint (k : PortKey) : String :=
  if k.port = resultPort then s!"{k.node}_result" else s!"{k.node}_{k.port}"

end PortKey

inductive SymbolError where
  | alreadyDefined (key : PortKey)
  | unresolved (key : PortKey)
deriving DecidableEq, Repr

/-- The variables bound so far, and all names that are taken. -/
structure SymbolTable where
  symbols : List (PortKey × String) := []
  taken : List String
deriving DecidableEq, Repr

namespace SymbolTable

/-- A table without bindings; built-in names are always taken. -/
def empty (reserved : List String) : SymbolTable := { taken := reserved ++ Naming.builtins }

def allocate (t : SymbolTable) (hint : String) : String × SymbolTable :=
  let name := Naming.fresh t.taken (Naming.safeIdentifier hint)
  (name, { t with taken := name :: t.taken })

def find? (t : SymbolTable) (key : PortKey) : Option String := t.symbols.lookup key

/-- Binds a port that is not bound yet, to a new name or to one that is given. The table is that after the attempt,
whether it went through or not. -/
def attempt (t : SymbolTable) (key : PortKey) (name : Option String) : Except SymbolError String × SymbolTable :=
  if (t.find? key).isSome then (.error (.alreadyDefined key), t)
  else
    match name with
    | some name => (.ok name, { t with symbols := t.symbols ++ [(key, name)] })
    | none =>
      let (name, t) := t.allocate key.hint
      (.ok name, { t with symbols := t.symbols ++ [(key, name)] })

/-- Binds a port, for callers that stop where this fails. -/
def define (t : SymbolTable) (key : PortKey) (name : Option String := none) :
    Except SymbolError (String × SymbolTable) :=
  let (result, t) := t.attempt key name
  result.map (·, t)

def resolve (t : SymbolTable) (key : PortKey) : Except SymbolError String :=
  (t.find? key).elim (.error (.unresolved key)) .ok

end SymbolTable

end Dataflow
