namespace Dataflow.Text

/-- Puts a character before the first part, or starts a new one at the mark. -/
def splitStep (mark c : Char) (parts : List (List Char)) : List (List Char) :=
  if c = mark then [] :: parts
  else
    match parts with
    | [] => [[c]]
    | part :: rest => (c :: part) :: rest

/-- The parts of a text between the occurrences of a character. -/
def splitAt (mark : Char) (s : List Char) : List (List Char) := s.foldr (splitStep mark) [[]]

end Dataflow.Text
