import Dataflow.Text.Blank
import Dataflow.Text.Digit

namespace Dataflow.Text

/-- Numerals of more digits than this are refused. -/
def maxDigits : Nat := 4300

/-- Reads digits with single underscores between them: the values of the digits, or nothing if
the text is anything else. `valueOf` says which characters are digits. -/
def digitsBetweenUnderscores? (valueOf : Char → Option Nat) : List Char → Option (List Nat)
  | [] => none
  | [c] => (valueOf c).map ([·])
  | c :: '_' :: rest => do
    let d ← valueOf c
    let ds ← digitsBetweenUnderscores? valueOf rest
    return d :: ds
  | c :: rest => do
    let d ← valueOf c
    let ds ← digitsBetweenUnderscores? valueOf rest
    return d :: ds

def ofDigits (ds : List Nat) : Nat := ds.foldl (fun n d => 10 * n + d) 0

/-- Splits a sign off; the boolean says whether the number is negative. -/
def splitSign : List Char → Bool × List Char
  | '-' :: rest => (true, rest)
  | '+' :: rest => (false, rest)
  | cs => (false, cs)

/-- Blanks that may surround a numeral: all but the four information separators. -/
def isNumeralBlank (c : Char) : Bool := isBlank c && !(0x1c ≤ c.toNat && c.toNat ≤ 0x1f)

/-- The integer that a text spells: blanks around it, one sign, and decimal digits of any script
with single underscores between them. -/
def integer? (s : String) : Option Int := do
  let (negative, cs) := splitSign (trimWhere isNumeralBlank s.toList)
  let ds ← digitsBetweenUnderscores? decimalValue? cs
  guard (ds.length ≤ maxDigits)
  return if negative then -(ofDigits ds : Int) else ofDigits ds

end Dataflow.Text
