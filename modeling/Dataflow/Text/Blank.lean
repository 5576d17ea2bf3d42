import Dataflow.Text.CharSet

namespace Dataflow.Text

/-- White space: the blanks of the bidirectional classes WS, B and S, and the separators (Z*). -/
def blanks : CharSet where
  ranges := [(0x9, 0xd), (0x1c, 0x20), (0x85, 0x85), (0xa0, 0xa0), (0x1680, 0x1680),
    (0x2000, 0x200a), (0x2028, 0x2029), (0x202f, 0x202f), (0x205f, 0x205f), (0x3000, 0x3000)]

def isBlank (c : Char) : Bool := blanks.contains c

/-- Drops the characters that satisfy `p` from both ends. -/
def trimWhere (p : Char → Bool) (cs : List Char) : List Char :=
  ((cs.dropWhile p).reverse.dropWhile p).reverse

def trim (s : String) : String := String.ofList (trimWhere isBlank s.toList)

/-- The maximal runs of characters that satisfy `p`, in order. -/
def runs (p : Char → Bool) : List Char → List (List Char)
  | [] => []
  | c :: rest =>
    if p c then
      match rest, runs p rest with
      | d :: _, run :: more => if p d then (c :: run) :: more else [c] :: run :: more
      | _, more => [c] :: more
    else runs p rest

/-- The text's words with one space between them, so that it stands on one line. -/
def oneLine (s : String) : String :=
  " ".intercalate ((runs (fun c => !isBlank c) s.toList).map String.ofList)

end Dataflow.Text
