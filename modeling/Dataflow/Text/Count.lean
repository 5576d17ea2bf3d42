import Dataflow.Text.Integer

namespace Dataflow.Text

def digitValue? (c : Char) : Option Nat :=
  if '0' ≤ c ∧ c ≤ '9' then some (c.toNat - '0'.toNat) else none

/-- Drops the zeros that a numeral starts with, and the underscores among them. Of a numeral that
has nothing else the last character stays. -/
def dropLeadingZeros (cs : List Char) : List Char :=
  match cs with
  | '0' :: _ =>
    match cs.dropWhile fun c => c == '0' || c == '_' with
    | [] => cs.getLast?.toList
    | rest => rest
  | _ => cs

/-- Whether a numeral is zeros, a minus sign and one more zero. The zeros in front are dropped here
too, so that the sign comes first; an underscore may stand behind it. -/
def isLateMinusZero (cs : List Char) : Bool :=
  cs.head? == some '0' && [['-', '0'], ['-', '_', '0']].contains (dropLeadingZeros cs)

/-- The count that a text spells: blanks around it, one sign, digits with single underscores
between them, and perhaps a fraction of zeros. Leading zeros are not held against its length, and
may stand in front of a minus sign. -/
def count? (s : String) : Option Nat := do
  let (negative, cs) := splitSign (trimWhere isNumeralBlank s.toList)
  let fraction := cs.dropWhile (· != '.')
  guard (fraction.isEmpty || (fraction.length > 1 && (fraction.drop 1).all (· == '0')))
  let whole := cs.takeWhile (· != '.')
  if !negative && isLateMinusZero whole then return 0
  let ds ← digitsBetweenUnderscores? digitValue? (dropLeadingZeros whole)
  guard (ds.length ≤ maxDigits)
  guard (!negative || ofDigits ds = 0)
  return ofDigits ds

end Dataflow.Text
