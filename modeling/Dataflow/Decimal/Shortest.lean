import Dataflow.Decimal.Binary64

namespace Dataflow

structure Decimal where
  digits : Nat
  exponent : Int
deriving DecidableEq, Repr

namespace Decimal

/-- The exponent of the leading digit of `num / den`, which lies above `10 ^ -400`. -/
def leadingExponent (num den : Nat) : Int :=
  (Nat.toDigits 10 (num * Binary64.powNonneg 10 400 / den)).length - 401

/-- The point of the grid `10 ^ k` that rounds to the binary number `m * 2 ^ e`, if one of its two
neighbours on the grid does: the nearer one, and of two equally near the even one.

In quarters of the unit `2 ^ e` the numbers that round to `4 * m` lie between `4 * m - below` and
`4 * m + 2`, ends included if `m` is even; `below` is 1 at a power of two, where the numbers
underneath are twice as dense, and 2 elsewhere. -/
def onGrid? (m : Nat) (e k : Int) (below : Nat) : Option Decimal :=
  let grid := Binary64.powNonneg 10 k * Binary64.powNonneg 2 (2 - e)
  let quarter := Binary64.powNonneg 10 (-k) * Binary64.powNonneg 2 (e - 2)
  let value := 4 * m * quarter
  let low := (4 * m - below) * quarter
  let high := (4 * m + 2) * quarter
  let d := value / grid
  let even := m % 2 = 0
  let lowHit := if even then low ≤ d * grid else low < d * grid
  let highHit := if even then (d + 1) * grid ≤ high else (d + 1) * grid < high
  let toLow := value - d * grid
  let toHigh := (d + 1) * grid - value
  if lowHit ∧ (¬highHit ∨ toLow < toHigh ∨ toLow = toHigh ∧ d % 2 = 0) then some ⟨d, k⟩
  else if highHit then some ⟨d + 1, k⟩
  else none

/-- The decimal of fewest digits that rounds to `m * 2 ^ e`. Seventeen digits always suffice. -/
def shortest (m : Nat) (e : Int) : Decimal :=
  let below := if m = Binary64.powNonneg 2 52 ∧ Binary64.leastExponent < e then 1 else 2
  let lead := leadingExponent (m * Binary64.powNonneg 2 e) (Binary64.powNonneg 2 (-e))
  ((List.range 17).findSome? fun n : Nat => onGrid? m e (lead - n) below).getD ⟨0, 0⟩

/-- The digits without zeros at their end, and the exponent of the first of them. -/
def scientific (d : Decimal) : List Char × Int :=
  let ds := Nat.toDigits 10 d.digits
  ((ds.reverse.dropWhile (· == '0')).reverse, d.exponent + ds.length - 1)

end Decimal

/-- How decimals are laid out: with a point in place while the exponent of the first digit lies
within the given bounds, otherwise with an exponent of at least `exponentWidth` digits. -/
structure DecimalLayout where
  leastPositional : Int
  greatestPositional : Int
  exponentWidth : Nat

namespace DecimalLayout

/-- A point in place from four zeros after it up to sixteen digits before it. -/
def plain : DecimalLayout := ⟨-4, 15, 2⟩

def zeros (n : Nat) : List Char := List.replicate n '0'

def positional (digits : List Char) (exponent : Int) : List Char :=
  if exponent < 0 then '0' :: '.' :: zeros (-exponent - 1).toNat ++ digits
  else
    let whole := exponent.toNat + 1
    if digits.length ≤ whole then digits ++ zeros (whole - digits.length) ++ ['.', '0']
    else digits.take whole ++ '.' :: digits.drop whole

def exponential (width : Nat) (digits : List Char) (exponent : Int) : List Char :=
  let mantissa := if digits.length ≤ 1 then digits else digits.take 1 ++ '.' :: digits.drop 1
  let power := Nat.toDigits 10 exponent.natAbs
  mantissa ++ 'e' :: (if exponent < 0 then '-' else '+') :: zeros (width - power.length) ++ power

def text (layout : DecimalLayout) (m : Nat) (e : Int) : List Char :=
  if m = 0 then ['0', '.', '0'] else
  let (digits, exponent) := (Decimal.shortest m e).scientific
  if layout.leastPositional ≤ exponent ∧ exponent ≤ layout.greatestPositional then
    positional digits exponent
  else exponential layout.exponentWidth digits exponent

end DecimalLayout

/-- The text of a number: the fewest digits that read back as it. -/
def Binary64.toText : Binary64 → String
  | .finite negative m e =>
    String.ofList ((if negative then ['-'] else []) ++ DecimalLayout.plain.text m e)
  | .infinite negative => if negative then "-inf" else "inf"
  | .nan => "nan"

end Dataflow
