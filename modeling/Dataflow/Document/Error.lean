import Dataflow.Json.Parser
import Dataflow.Pipeline.Basic

namespace Dataflow

inductive Place.Step where
  | field (name : String)
  | index (i : Nat)
deriving DecidableEq, Repr

/-- A place in a document: the steps to it from the root. -/
abbrev Place := List Place.Step

namespace Place

def suffix : Place → String
  | [] => ""
  | .field name :: rest => s!".{name}" ++ suffix rest
  | .index i :: rest => s!"[{i}]" ++ suffix rest

/-- Fields are set off by points and indices stand in brackets. -/
def text : Place → String
  | .field name :: rest => name ++ suffix rest
  | place => suffix place

end Place

inductive Noun where
  | node
  | edge
  | port
deriving DecidableEq, Repr

def Noun.text : Noun → String
  | .node => "node"
  | .edge => "edge"
  | .port => "port"

inductive Expected where
  | aString
  | aList
  | anObject
deriving DecidableEq, Repr

def Expected.text : Expected → String
  | .aString => "a string"
  | .aList => "a list"
  | .anObject => "an object"

inductive ShapeError where
  | notAnObject
  | missing (place : Place) (field : String)
  | mistyped (place : Place) (expected : Expected)
  | notAMember (place : Place) (noun : Noun)
  | repeatedId (place : Place) (noun : Noun) (id : String)
  | unrecognised (place : Place) (cause : Unrecognised)
deriving Repr

def ShapeError.message : ShapeError → String
  | .notAnObject => "pipeline JSON must be a JSON object at the top level"
  | .missing [] field => s!"pipeline root: missing required field '{field}'"
  | .missing place field => s!"{place.text}: missing required field '{field}'"
  | .mistyped place expected => s!"{place.text} must be {expected.text}"
  | .notAMember place noun => s!"{place.text}: each {noun.text} must be a JSON object"
  | .repeatedId place noun id => s!"{place.text}: duplicate {noun.text} id '{id}'"
  | .unrecognised place cause => s!"{place.text}: {cause.message}"

inductive BuildError where
  | missing (field : String)
  | mistyped (expected : Expected)
  | unrecognised (cause : Unrecognised)
  | model (cause : ModelError)
deriving Repr

def BuildError.message : BuildError → String
  | .missing field => Text.quoted field
  | .mistyped expected => s!"the value must be {expected.text}"
  | .unrecognised cause => cause.message
  | .model cause => cause.message

/-- Why no pipeline was loaded. A text is named by the file that it came from, if any. -/
inductive LoadError where
  | json (file : Option String) (cause : Json.ParseError)
  | shape (cause : ShapeError)
  | build (cause : BuildError)
deriving Repr

def LoadError.message : LoadError → String
  | .json _ (.tooManyDigits count) => (Json.ParseError.tooManyDigits count).message
  | .json none cause => s!"invalid JSON ({cause.message})"
  | .json (some file) cause => s!"{file}: invalid JSON ({cause.message})"
  | .shape cause => cause.message
  | .build cause => cause.message

/-- Whether the document is at fault, rather than a limit of the reader or a graph value. -/
def LoadError.isDocumentFault : LoadError → Bool
  | .json _ (.tooManyDigits _) => false
  | .json _ _ => true
  | .shape _ => true
  | .build _ => false

end Dataflow
