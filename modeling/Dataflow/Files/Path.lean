import Dataflow.Text.Split

namespace Dataflow

/-- A path: the slashes that it starts at, and its names. -/
structure Path where
  root : String := ""
  names : List String
deriving DecidableEq, Repr

namespace Path

/-- The slashes that make the root: one, or two if there are exactly two. -/
def rootOf (text : List Char) : String :=
  match (text.takeWhile (· == '/')).length with
  | 0 => ""
  | 2 => "//"
  | _ => "/"

/-- The path of a text. Empty names and the name `.` lead nowhere and are dropped. -/
def ofText (text : String) : Path where
  root := rootOf text.toList
  names := ((Text.splitAt '/' text.toList).map String.ofList).filter fun n => n != "" && n != "."

def text (p : Path) : String :=
  if p.root = "" && p.names.isEmpty then "." else p.root ++ "/".intercalate p.names

def parent (p : Path) : Path := { p with names := p.names.dropLast }

def child (p : Path) (name : String) : Path := { p with names := p.names ++ [name] }

end Path

end Dataflow
