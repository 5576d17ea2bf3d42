import Dataflow.Text.Blank

namespace Dataflow

/-- A line of code and its level of indentation. -/
structure Line where
  level : Int
  text : String
deriving DecidableEq, Repr

/-- Four blanks for each level; an empty line has none. -/
def Line.render (l : Line) : String :=
  if l.text = "" then "" else String.ofList (List.replicate (4 * l.level).toNat ' ') ++ l.text

/-- The lines written so far, and the level of the next one. -/
structure Writer where
  level : Int := 0
  lines : Array Line := #[]

namespace Writer

def line (w : Writer) (text : String) : Writer := { w with lines := w.lines.push ⟨w.level, text⟩ }

def blank (w : Writer) : Writer := w.line ""

/-- A comment stands on one line, whatever its text. -/
def comment (w : Writer) (text : String) : Writer := w.line ("# " ++ Text.oneLine text)

def indent (w : Writer) : Writer := { w with level := w.level + 1 }

def dedent (w : Writer) : Writer := { w with level := max 0 (w.level - 1) }

def text (w : Writer) : List String := w.lines.toList.map Line.render

inductive Op where
  | line (text : String)
  | comment (text : String)
  | push
  | pop
deriving DecidableEq, Repr

def perform (w : Writer) : Op → Writer
  | .line text => w.line text
  | .comment text => w.comment text
  | .push => w.indent
  | .pop => w.dedent

def performAll (w : Writer) (ops : List Op) : Writer := ops.foldl perform w

end Writer

inductive Stmt where
  | line (text : String)
  | comment (text : String)
  /-- A call that ends the line `head` and has each of its arguments on a line of its own. -/
  | call (head : String) (args : List String)
  /-- A line `head` that opens a block. -/
  | block (head : String) (body : List Stmt)

namespace Writer

mutual

def stmt (w : Writer) : Stmt → Writer
  | .line text => w.line text
  | .comment text => w.comment text
  | .call head args =>
    ((args.foldl (fun w arg => w.line (arg ++ ",")) (w.line (head ++ "(")).indent).dedent).line ")"
  | .block head body => (stmts (w.line (head ++ ":")).indent body).dedent

def stmts (w : Writer) : List Stmt → Writer
  | [] => w
  | s :: rest => stmts (stmt w s) rest

end

end Writer

end Dataflow
