import Dataflow.Naming.Reserved
import Dataflow.Text.Alphanumeric
import Dataflow.Text.Blank
import Dataflow.Text.Digit
import Dataflow.Text.Lowercase

namespace Dataflow.Naming

/-- Writes one `mark` for each maximal run of characters outside `keep`. -/
def squeeze (keep : Char → Bool) (mark : Char) : List Char → List Char
  | [] => []
  | c :: rest =>
    if keep c then c :: squeeze keep mark rest
    else
      match rest with
      | [] => [mark]
      | d :: _ => if keep d then mark :: squeeze keep mark rest else squeeze keep mark rest

/-- Puts `n` in place of nothing and in front of a digit. -/
def startWithLetter : List Char → List Char
  | [] => ['n']
  | c :: rest => if Text.isDigit c then 'n' :: '_' :: c :: rest else c :: rest

/-- Sets a name off from the keywords. -/
def avoidKeyword (name : String) : String := if name ∈ keywords then name ++ "_" else name

/-- An identifier fragment for free text: the text in lower case with underscores for everything
but letters and numbers. -/
def safeIdentifier (text : String) : String :=
  let words := squeeze Text.isWord '_' (Text.lower (Text.trim text)).toList
  avoidKeyword (String.ofList (startWithLetter (Text.trimWhere (· == '_') words)))

/-- The names to try for `base`: itself, then with the suffixes `_2`, `_3` and so on. -/
def candidate (base : String) : Nat → String
  | 0 => base
  | n + 1 => s!"{base}_{n + 2}"

/-- The first candidate for `base` that is not taken. One more candidate than there are names taken
is enough to find one. -/
def fresh (taken : List String) (base : String) : String :=
  (((List.range (taken.length + 1)).map (candidate base)).find? (!taken.contains ·)).getD base

/-- The parameter for an input port; `taken` holds those of the ports before it. -/
def parameter (taken : List String) (port : String) : String :=
  fresh (taken ++ reserved) (safeIdentifier port)

/-- Leaves one of several marks in a row. -/
def mergeMarks (mark : Char) : List Char → List Char
  | c :: d :: rest => if c = mark ∧ d = mark then mergeMarks mark (d :: rest) else c :: mergeMarks mark (d :: rest)
  | cs => cs

/-- The stem of the file for a pipeline: its name in lower case with single underscores for
everything but letters and numbers. -/
def fileStem (name : String) : String :=
  let marked := (Text.lower name).toList.map fun c => if Text.isAlphanumeric c then c else '_'
  match mergeMarks '_' (Text.trimWhere (· == '_') marked) with
  | [] => "pipeline"
  | cs => String.ofList cs

def fileName (name : String) : String := fileStem name ++ ".py"

end Dataflow.Naming
