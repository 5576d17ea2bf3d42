namespace Dataflow

/-- A binary64 number. The finite number `finite negative m e` is `m * 2 ^ e`, negated if so marked;
its mantissa has 53 bits unless `e` is the least exponent, -1074. -/
inductive Binary64 where
  | finite (negative : Bool) (mantissa : Nat) (exponent : Int)
  | infinite (negative : Bool)
  | nan
deriving DecidableEq, Repr

namespace Binary64

def leastExponent : Int := -1074

def greatestExponent : Int := 971

def zero (negative : Bool) : Binary64 := .finite negative 0 leastExponent

def isZero : Binary64 → Bool
  | .finite _ m _ => m == 0
  | _ => false

def isFinite : Binary64 → Bool
  | .finite .. => true
  | _ => false

/-- `b ^ e` for a natural exponent, and 1 for a negative one. -/
def powNonneg (b : Nat) (e : Int) : Nat := b.pow e.toNat

/-- The quotient rounded to the nearest integer, a half to the even one. -/
def divRound (num den : Nat) : Nat :=
  let q := num / den
  let twice := 2 * (num % den)
  if twice < den then q
  else if den < twice then q + 1
  else if q % 2 = 0 then q else q + 1

/-- The exponent of the unit in which `num / den` has 53 bits, or the least one if that is larger. -/
def unitExponent (num den : Nat) : Int :=
  let e := (num.log2 : Int) - den.log2 - 52
  let e := if num * powNonneg 2 (-e) < den * powNonneg 2 e * powNonneg 2 52 then e - 1 else e
  if e < leastExponent then leastExponent else e

/-- The number nearest to `num / den`, of two the one with an even mantissa. -/
def ofRatio (negative : Bool) (num den : Nat) : Binary64 :=
  if num = 0 then zero negative else
  let e := unitExponent num den
  let m := divRound (num * powNonneg 2 (-e)) (den * powNonneg 2 e)
  let (m, e) := if m = powNonneg 2 53 then (powNonneg 2 52, e + 1) else (m, e)
  if greatestExponent < e then .infinite negative else .finite negative m e

/-- The number nearest to `digits * 10 ^ exponent`. Numbers that are far out of range are decided
by their count of digits alone. -/
def ofDecimal (negative : Bool) (digits : Nat) (exponent : Int) : Binary64 :=
  let magnitude : Int := (Nat.toDigits 10 digits).length + exponent
  if digits = 0 ∨ magnitude < -330 then zero negative
  else if 310 < magnitude then .infinite negative
  else ofRatio negative (digits * powNonneg 10 exponent) (powNonneg 10 (-exponent))

end Binary64

end Dataflow
