namespace Dataflow.Text

/-- Characters that end a line; a carriage return and the line feed after it are one break. -/
def lineBreaks : List Char :=
  ['\n', '\r', '\x0b', '\x0c', '\x1c', '\x1d', '\x1e', '\u0085', '\u2028', '\u2029']

def isLineBreak (c : Char) : Bool := lineBreaks.contains c

/-- The lines of a text that goes on from an unfinished line, which is given backwards. -/
def linesFrom (line : List Char) : List Char → List (List Char)
  | [] => if line.isEmpty then [] else [line.reverse]
  | '\r' :: '\n' :: rest => line.reverse :: linesFrom [] rest
  | c :: rest =>
    if isLineBreak c then line.reverse :: linesFrom [] rest else linesFrom (c :: line) rest

/-- The lines of a text without their breaks; a break at the end starts no further line. -/
def splitLines (s : String) : List String := (linesFrom [] s.toList).map String.ofList

end Dataflow.Text
