import Dataflow.Document.Codec
import Dataflow.Files.Tree
import Dataflow.Text.Utf8

namespace Dataflow

inductive ReadError where
  | file (cause : FileError)
  | encoding (cause : Utf8.Fault)
  | load (cause : LoadError)

def ReadError.message : ReadError → String
  | .file cause => cause.message
  | .encoding cause => cause.message
  | .load cause => cause.message

/-- Line ends of every sort as newlines; `done` holds what was read before, the last first. -/
def Text.unifyLineEnds (done : List Char) : List Char → List Char
  | '\r' :: '\n' :: rest => unifyLineEnds ('\n' :: done) rest
  | '\r' :: rest => unifyLineEnds ('\n' :: done) rest
  | c :: rest => unifyLineEnds (c :: done) rest
  | [] => done.reverse

def FileTree.pipeline (t : FileTree) (p : Path) : Except ReadError Pipeline := do
  let octets ← (t.read p).mapError .file
  let text ← (Utf8.decode octets).mapError .encoding
  (Pipeline.ofText (String.ofList (Text.unifyLineEnds [] text.toList)) p.text).mapError .load

end Dataflow
