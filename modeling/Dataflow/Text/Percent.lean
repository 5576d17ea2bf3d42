import Dataflow.Text.Utf8

namespace Dataflow.Percent

def hexValue? (c : Char) : Option Nat :=
  if '0' ≤ c ∧ c ≤ '9' then some (c.toNat - '0'.toNat)
  else if 'a' ≤ c ∧ c ≤ 'f' then some (c.toNat - 'a'.toNat + 10)
  else if 'A' ≤ c ∧ c ≤ 'F' then some (c.toNat - 'A'.toNat + 10)
  else none

/-- The octets of a text. A percent sign that no two digits follow stands for itself. -/
def octets : List Char → List UInt8
  | '%' :: a :: b :: rest =>
    match hexValue? a, hexValue? b with
    | some x, some y => UInt8.ofNat (16 * x + y) :: octets rest
    | _, _ => Utf8.encode "%" ++ octets (a :: b :: rest)
  | c :: rest => Utf8.encode (String.ofList [c]) ++ octets rest
  | [] => []

/-- The text that is meant. If the octets are no text, those beyond ASCII are shown as replacement
characters. -/
def decode (s : String) : String :=
  let bytes := octets s.toList
  match Utf8.decode bytes with
  | .ok text => text
  | .error _ => String.ofList (bytes.map fun b => if b < 0x80 then Char.ofNat b.toNat else '\ufffd')

end Dataflow.Percent
