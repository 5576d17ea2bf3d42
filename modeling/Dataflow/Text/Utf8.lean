import Dataflow.Text.Quoted

namespace Dataflow.Utf8

inductive Reason where
  | invalidStart
  | invalidContinuation
  | unexpectedEnd
deriving DecidableEq, Repr

/-- Octets that are no text: where they start, and what they are. -/
structure Fault where
  position : Nat
  octets : List UInt8
  reason : Reason
deriving DecidableEq, Repr

def Reason.text : Reason → String
  | .invalidStart => "invalid start byte"
  | .invalidContinuation => "invalid continuation byte"
  | .unexpectedEnd => "unexpected end of data"

def Fault.message (f : Fault) : String :=
  let place := match f.octets with
    | [b] => s!"byte 0x{String.ofList (Text.hexDigits 2 b.toNat)} in position {f.position}"
    | bs => s!"bytes in position {f.position}-{f.position + bs.length - 1}"
  s!"'utf-8' codec can't decode {place}: {f.reason.text}"

/-- A character that has been begun: how many octets it still lacks, between which bounds the next
one lies, the value so far, and the octets read, the last first. -/
structure Pending where
  owed : Nat
  low : Nat
  high : Nat
  value : Nat
  read : List UInt8

/-- What the first octet of a character promises; none for one that cannot come first. -/
def lead? (b : UInt8) : Option Pending :=
  let n := b.toNat
  if 0xC2 ≤ n ∧ n ≤ 0xDF then some ⟨1, 0x80, 0xBF, n % 32, [b]⟩
  else if 0xE0 ≤ n ∧ n ≤ 0xEF then
    some ⟨2, if n = 0xE0 then 0xA0 else 0x80, if n = 0xED then 0x9F else 0xBF, n % 16, [b]⟩
  else if 0xF0 ≤ n ∧ n ≤ 0xF4 then
    some ⟨3, if n = 0xF0 then 0x90 else 0x80, if n = 0xF4 then 0x8F else 0xBF, n % 8, [b]⟩
  else none

/-- Reads on at an octet's position, with the characters read before, the last first. -/
def scan (position : Nat) (pending : Option Pending) (done : List Char) :
    List UInt8 → Except Fault (List Char)
  | [] =>
    match pending with
    | none => .ok done.reverse
    | some p => .error ⟨position - p.read.length, p.read.reverse, .unexpectedEnd⟩
  | b :: rest =>
    match pending with
    | none =>
      if b.toNat < 0x80 then scan (position + 1) none (Char.ofNat b.toNat :: done) rest
      else
        match lead? b with
        | none => .error ⟨position, [b], .invalidStart⟩
        | some p => scan (position + 1) (some p) done rest
    | some p =>
      if p.low ≤ b.toNat ∧ b.toNat ≤ p.high then
        let value := p.value * 64 + b.toNat % 64
        if p.owed = 1 then scan (position + 1) none (Char.ofNat value :: done) rest
        else scan (position + 1) (some ⟨p.owed - 1, 0x80, 0xBF, value, b :: p.read⟩) done rest
      else .error ⟨position - p.read.length, p.read.reverse, .invalidContinuation⟩

def decode (octets : List UInt8) : Except Fault String := (scan 0 none [] octets).map String.ofList

def encode (s : String) : List UInt8 := s.toUTF8.data.toList

end Dataflow.Utf8
