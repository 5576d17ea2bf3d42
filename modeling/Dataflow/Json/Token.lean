import Dataflow.Json.Basic
import Dataflow.Text.Integer

namespace Dataflow.Json

/-- What can be wrong at a position of a JSON text. -/
inductive Reason where
  | value
  | propertyName
  | colon
  | comma
  | extraData
  | unterminatedString
  | controlCharacter
  | escape
  | unicodeEscape
  | byteOrderMark
deriving DecidableEq, Repr

def Reason.message : Reason → String
  | .value => "Expecting value"
  | .propertyName => "Expecting property name enclosed in double quotes"
  | .colon => "Expecting ':' delimiter"
  | .comma => "Expecting ',' delimiter"
  | .extraData => "Extra data"
  | .unterminatedString => "Unterminated string starting at"
  | .controlCharacter => "Invalid control character at"
  | .escape => "Invalid \\escape"
  | .unicodeEscape => "Invalid \\uXXXX escape"
  | .byteOrderMark => "Unexpected UTF-8 BOM (decode using utf-8-sig)"

/-- Why a JSON text has no value: what is wrong at a position, or an integer of too many digits. -/
inductive Fault where
  | invalid (reason : Reason) (position : Nat)
  | digits (count : Nat)
deriving DecidableEq, Repr

inductive Token where
  | beginArray
  | endArray
  | beginObject
  | endObject
  | colon
  | comma
  | str (s : String)
  /-- A number, `null`, `true` or `false`. -/
  | scalar (v : Json)
  /-- A string with a fault. -/
  | badString (fault : Fault)
  /-- Anything else with a fault. -/
  | bad (fault : Fault)

structure Lexeme where
  token : Token
  position : Nat

/-- A token, the text after it and the position there. -/
structure Scanned where
  token : Token
  rest : List Char
  position : Nat

def isSpace (c : Char) : Bool := c == ' ' || c == '\t' || c == '\n' || c == '\r'

def hexValue? (c : Char) : Option Nat :=
  if '0' ≤ c ∧ c ≤ '9' then some (c.toNat - '0'.toNat)
  else if 'a' ≤ c ∧ c ≤ 'f' then some (c.toNat - 'a'.toNat + 10)
  else if 'A' ≤ c ∧ c ≤ 'F' then some (c.toNat - 'A'.toNat + 10)
  else none

def simpleEscape? : Char → Option Char
  | '\x22' => some '\x22'
  | '\\' => some '\\'
  | '/' => some '/'
  | 'b' => some '\x08'
  | 'f' => some '\x0c'
  | 'n' => some '\n'
  | 'r' => some '\r'
  | 't' => some '\t'
  | _ => none

def isHighSurrogate (n : Nat) : Bool := 0xd800 ≤ n && n ≤ 0xdbff

def isLowSurrogate (n : Nat) : Bool := 0xdc00 ≤ n && n ≤ 0xdfff

/-- The character of a code unit. A surrogate that stands alone is a code point but no character: it is replaced, so
that texts that differ in such surrogates only are read as one. -/
def unitChar (n : Nat) : Char :=
  if isHighSurrogate n || isLowSurrogate n then '\ufffd' else Char.ofNat n

def pairChar (high low : Nat) : Char :=
  Char.ofNat (0x10000 + (high - 0xd800) * 0x400 + (low - 0xdc00))

/-- Where a scan stands inside a string: in its text, after a backslash, or after `count` of the
four digits of a code unit, with their value and the position of the letter before them. -/
inductive StringMode where
  | text
  | escape
  | unit (count value mark : Nat)

/-- The characters of a string scanned so far, backwards, and a high surrogate that still waits
for its partner. -/
structure StringScan where
  chars : List Char := []
  high : Option Nat := none
  mode : StringMode := .text

namespace StringScan

/-- Gives up waiting for the partner of a high surrogate. -/
def release (s : StringScan) : StringScan :=
  match s.high with
  | some h => ⟨unitChar h :: s.chars, none, s.mode⟩
  | none => s

def push (s : StringScan) (c : Char) : StringScan := ⟨c :: s.release.chars, none, .text⟩

/-- Takes in a complete code unit. -/
def pushUnit (s : StringScan) (unit : Nat) : StringScan :=
  match s.high, isLowSurrogate unit with
  | some h, true => ⟨pairChar h unit :: s.chars, none, .text⟩
  | _, _ => if isHighSurrogate unit then ⟨s.release.chars, some unit, .text⟩ else s.push (unitChar unit)

/-- Reads a character of the string's text at `pos`: the next state, or the token that it ends. -/
def readText (s : StringScan) (pos : Nat) (c : Char) : StringScan ⊕ Token :=
  if c = '\x22' then .inr (.str (String.ofList s.release.chars.reverse))
  else if c = '\\' then .inl { s with mode := .escape }
  else if c.toNat < 0x20 then .inr (.badString (.invalid .controlCharacter pos))
  else .inl (s.push c)

/-- Reads the character at `pos`. A code unit counts once a character follows it. -/
def read (s : StringScan) (pos : Nat) (c : Char) : StringScan ⊕ Token :=
  match s.mode with
  | .text => s.readText pos c
  | .escape =>
    if c = 'u' then .inl { s with mode := .unit 0 0 pos }
    else
      match simpleEscape? c with
      | some d => .inl (s.push d)
      | none => .inr (.badString (.invalid .escape (pos - 1)))
  | .unit count value mark =>
    if count = 4 then (s.pushUnit value).readText pos c
    else
      match hexValue? c with
      | some d => .inl { s with mode := .unit (count + 1) (16 * value + d) mark }
      | none => .inr (.badString (.invalid .unicodeEscape mark))

/-- What is wrong if the text ends here; the string was opened at `start`. -/
def fault (s : StringScan) (start : Nat) : Fault :=
  match s.mode with
  | .unit _ _ mark => .invalid .unicodeEscape mark
  | _ => .invalid .unterminatedString start

end StringScan

/-- Scans a string that was opened at `start` from the text at `pos`. -/
def scanString (start : Nat) (s : StringScan) (pos : Nat) : List Char → Scanned
  | [] => ⟨.badString (s.fault start), [], pos⟩
  | c :: rest =>
    match s.read pos c with
    | .inl s' => scanString start s' (pos + 1) rest
    | .inr (.badString f) => ⟨.badString f, [], pos + 1⟩
    | .inr token => ⟨token, rest, pos + 1⟩

/-- A numeral: its digits before and after the point, and its exponent. -/
structure Numeral where
  negative : Bool
  whole : List Char
  fraction : List Char
  exponent : Option Int

def isDecimal (c : Char) : Bool := '0' ≤ c && c ≤ '9'

def digitValue (c : Char) : Nat := c.toNat - '0'.toNat

def decimalNat (digits : List Char) : Nat := Text.ofDigits (digits.map digitValue)

/-- The longest part of the text that is an exponent, if it starts with one. -/
def scanExponent : List Char → Option Int × List Char
  | e :: rest =>
    if e = 'e' ∨ e = 'E' then
      let tail := (Text.splitSign rest).2
      match tail.takeWhile isDecimal with
      | [] => (none, e :: rest)
      | ds => (some (if (Text.splitSign rest).1 then -(decimalNat ds : Int) else decimalNat ds),
          tail.dropWhile isDecimal)
    else (none, e :: rest)
  | [] => (none, [])

/-- The longest part of the text that is a fraction, if it starts with one. -/
def scanFraction : List Char → List Char × List Char
  | '.' :: rest =>
    match rest.takeWhile isDecimal with
    | [] => ([], '.' :: rest)
    | ds => (ds, rest.dropWhile isDecimal)
  | cs => ([], cs)

/-- The digits before the point: a zero alone, or digits that do not start with one. -/
def scanWhole : List Char → List Char × List Char
  | '0' :: rest => (['0'], rest)
  | cs => (cs.takeWhile isDecimal, cs.dropWhile isDecimal)

/-- The longest numeral without a sign at the start of the text. -/
def scanUnsigned? (negative : Bool) (cs : List Char) : Option (Numeral × List Char) :=
  let whole := scanWhole cs
  let fraction := scanFraction whole.2
  let exponent := scanExponent fraction.2
  if whole.1.isEmpty then none
  else some (⟨negative, whole.1, fraction.1, exponent.1⟩, exponent.2)

def scanNumeral? : List Char → Option (Numeral × List Char)
  | '-' :: rest => scanUnsigned? true rest
  | cs => scanUnsigned? false cs

/-- A numeral with neither fraction nor exponent is an integer; any other is rounded. -/
def Numeral.token (n : Numeral) : Token :=
  match n.fraction, n.exponent with
  | [], none =>
    if n.whole.length ≤ Text.maxDigits then
      .scalar (.int (if n.negative then -(decimalNat n.whole : Int) else decimalNat n.whole))
    else .bad (.digits n.whole.length)
  | fraction, exponent =>
    .scalar (.float (Binary64.ofDecimal n.negative (decimalNat (n.whole ++ fraction))
      (exponent.getD 0 - fraction.length)))

def words : List (List Char × Json) := [
  ("null".toList, .null),
  ("true".toList, .bool true),
  ("false".toList, .bool false),
  ("NaN".toList, .float .nan),
  ("Infinity".toList, .float (.infinite false)),
  ("-Infinity".toList, .float (.infinite true))]

/-- The word at the start of the text, and the text after it. -/
def scanWord? (cs : List Char) : Option (Nat × Json × List Char) :=
  (words.find? fun w => w.1.isPrefixOf cs).map fun w => (w.1.length, w.2, cs.drop w.1.length)

def punctuation? : Char → Option Token
  | '[' => some .beginArray
  | ']' => some .endArray
  | '\x7b' => some .beginObject
  | '\x7d' => some .endObject
  | ':' => some .colon
  | ',' => some .comma
  | _ => none

/-- Scans the token that starts with `c` at `pos`. Nothing is scanned after a fault. -/
def scanToken (pos : Nat) (c : Char) (rest : List Char) : Scanned :=
  match punctuation? c with
  | some t => ⟨t, rest, pos + 1⟩
  | none =>
    if c = '\x22' then scanString pos {} (pos + 1) rest
    else
      match scanWord? (c :: rest) with
      | some (n, v, tail) => ⟨.scalar v, tail, pos + n⟩
      | none =>
        match scanNumeral? (c :: rest) with
        | some (n, tail) =>
          match n.token with
          | .bad f => ⟨.bad f, [], pos⟩
          | t => ⟨t, tail, pos + ((c :: rest).length - tail.length)⟩
        | none => ⟨.bad (.invalid .value pos), [], pos⟩

theorem scanString_rest_le (start pos : Nat) (s : StringScan) (cs : List Char) :
    (scanString start s pos cs).rest.length ≤ cs.length := by
  induction cs generalizing s pos with
  | nil => simp [scanString]
  | cons c rest ih =>
      rw [scanString]
      split
      · exact Nat.le_succ_of_le (ih _ _)
      · simp
      · simp

theorem dropWhile_length_le (p : Char → Bool) (cs : List Char) :
    (cs.dropWhile p).length ≤ cs.length :=
  (List.dropWhile_sublist p).length_le

theorem splitSign_length_le (cs : List Char) : (Text.splitSign cs).2.length ≤ cs.length := by
  unfold Text.splitSign
  split <;> simp

theorem scanExponent_rest_le (cs : List Char) : (scanExponent cs).2.length ≤ cs.length := by
  unfold scanExponent
  split
  · rename_i e rest
    have hs := splitSign_length_le rest
    have hd := dropWhile_length_le isDecimal (Text.splitSign rest).2
    split
    · dsimp only
      split
      · simp
      · simp only [List.length_cons]
        omega
    · simp
  · simp

theorem scanFraction_rest_le (cs : List Char) : (scanFraction cs).2.length ≤ cs.length := by
  unfold scanFraction
  split
  · split
    · simp
    · exact Nat.le_succ_of_le (dropWhile_length_le _ _)
  · simp

theorem scanWhole_rest_lt (cs : List Char) (h : (scanWhole cs).1 ≠ []) :
    (scanWhole cs).2.length < cs.length := by
  unfold scanWhole at h ⊢
  split at h
  · simp
  · dsimp only at h ⊢
    have hl := congrArg List.length (List.takeWhile_append_dropWhile (p := isDecimal) (l := cs))
    rw [List.length_append] at hl
    have := List.length_pos_iff.2 h
    omega

theorem scanUnsigned_rest_lt {negative : Bool} {cs : List Char} {n : Numeral} {rest : List Char}
    (h : scanUnsigned? negative cs = some (n, rest)) : rest.length < cs.length := by
  unfold scanUnsigned? at h
  dsimp only at h
  split at h
  · cases h
  · rename_i hne
    cases h
    have h0 := scanWhole_rest_lt cs (fun h0 => hne (by rw [h0]; rfl))
    have h1 := scanFraction_rest_le (scanWhole cs).2
    have h2 := scanExponent_rest_le (scanFraction (scanWhole cs).2).2
    omega

theorem scanNumeral_rest_lt {cs : List Char} {n : Numeral} {rest : List Char}
    (h : scanNumeral? cs = some (n, rest)) : rest.length < cs.length := by
  unfold scanNumeral? at h
  split at h
  · exact Nat.lt_succ_of_lt (scanUnsigned_rest_lt h)
  · exact scanUnsigned_rest_lt h

theorem scanWord_rest_lt {cs : List Char} {n : Nat} {v : Json} {rest : List Char}
    (h : scanWord? cs = some (n, v, rest)) : rest.length < cs.length := by
  unfold scanWord? at h
  obtain ⟨w, hw, he⟩ := Option.map_eq_some_iff.1 h
  have hp := List.find?_some hw
  have hm : w ∈ words := List.mem_of_find?_eq_some hw
  have hpos : 0 < w.1.length := by
    have : ∀ w ∈ words, 0 < w.1.length := by decide
    exact this w hm
  have hpre := List.isPrefixOf_iff_prefix.1 hp
  have hle := hpre.length_le
  cases he
  rw [List.length_drop]
  omega

theorem scanToken_rest_le (pos : Nat) (c : Char) (rest : List Char) :
    (scanToken pos c rest).rest.length ≤ rest.length := by
  unfold scanToken
  split
  · simp
  · split
    · exact scanString_rest_le _ _ _ _
    · split
      · rename_i h
        exact Nat.le_of_lt_succ (scanWord_rest_lt h)
      · split
        · rename_i h
          split
          · simp
          · exact Nat.le_of_lt_succ (scanNumeral_rest_lt h)
        · simp

/-- The tokens of the text at `pos`. Scanning never fails: a text that breaks the rules of its tokens ends in a token
that carries the fault, which counts only where such a token is due. -/
def scan (pos : Nat) : List Char → List Lexeme
  | [] => []
  | c :: rest =>
    if isSpace c then scan (pos + 1) rest
    else ⟨(scanToken pos c rest).token, pos⟩ ::
      scan (scanToken pos c rest).position (scanToken pos c rest).rest
termination_by cs => cs.length
decreasing_by
  · simp
  · exact Nat.lt_succ_of_le (scanToken_rest_le pos c rest)

end Dataflow.Json
