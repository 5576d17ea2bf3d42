import Dataflow.Json.Token

namespace Dataflow.Json

/-- An array or an object that is not closed yet; of an object also the key that is being given a
value. The items of an array are held backwards. -/
inductive Frame where
  | array (items : List Json)
  | object (fields : Fields) (key : String)

inductive Due where
  | value
  | valueOrEnd
  | name
  | nameOrEnd
  | colon
  | commaOrEnd

inductive Progress where
  /-- Within these frames, innermost first. -/
  | going (frames : List Frame) (due : Due)
  | done (value : Json)

namespace Progress

def start : Progress := .going [] .value

/-- A value is complete within the frames. -/
def deliver (v : Json) : List Frame → Progress
  | [] => .done v
  | .array items :: frames => .going (.array (v :: items) :: frames) .commaOrEnd
  | .object fields key :: frames => .going (.object (fields.set key v) key :: frames) .commaOrEnd

def stepValue (frames : List Frame) (l : Lexeme) : Except Fault Progress :=
  match l.token with
  | .beginArray => .ok (.going (.array [] :: frames) .valueOrEnd)
  | .beginObject => .ok (.going (.object [] "" :: frames) .nameOrEnd)
  | .str s => .ok (deliver (.str s) frames)
  | .scalar v => .ok (deliver v frames)
  | .badString f => .error f
  | .bad f => .error f
  | _ => .error (.invalid .value l.position)

def stepName (frames : List Frame) (l : Lexeme) : Except Fault Progress :=
  match l.token, frames with
  | .str key, .object fields _ :: outer => .ok (.going (.object fields key :: outer) .colon)
  | .badString f, _ => .error f
  | _, _ => .error (.invalid .propertyName l.position)

def stepColon (frames : List Frame) (l : Lexeme) : Except Fault Progress :=
  match l.token with
  | .colon => .ok (.going frames .value)
  | _ => .error (.invalid .colon l.position)

def stepComma (frames : List Frame) (l : Lexeme) : Except Fault Progress :=
  match l.token, frames with
  | .comma, .array _ :: _ => .ok (.going frames .value)
  | .comma, .object .. :: _ => .ok (.going frames .name)
  | .endArray, .array items :: outer => .ok (deliver (.arr items.reverse) outer)
  | .endObject, .object fields _ :: outer => .ok (deliver (.obj fields) outer)
  | _, _ => .error (.invalid .comma l.position)

def step : Progress → Lexeme → Except Fault Progress
  | .done _, l => .error (.invalid .extraData l.position)
  | .going frames .value, l => stepValue frames l
  | .going frames .valueOrEnd, l =>
    match l.token, frames with
    | .endArray, .array _ :: outer => .ok (deliver (.arr []) outer)
    | _, _ => stepValue frames l
  | .going frames .name, l => stepName frames l
  | .going frames .nameOrEnd, l =>
    match l.token, frames with
    | .endObject, .object .. :: outer => .ok (deliver (.obj []) outer)
    | _, _ => stepName frames l
  | .going frames .colon, l => stepColon frames l
  | .going frames .commaOrEnd, l => stepComma frames l

/-- The value, if the text may end here; its length is `length`. -/
def finish (length : Nat) : Progress → Except Fault Json
  | .done v => .ok v
  | .going _ .value => .error (.invalid .value length)
  | .going _ .valueOrEnd => .error (.invalid .value length)
  | .going _ .name => .error (.invalid .propertyName length)
  | .going _ .nameOrEnd => .error (.invalid .propertyName length)
  | .going _ .colon => .error (.invalid .colon length)
  | .going _ .commaOrEnd => .error (.invalid .comma length)

end Progress

def byteOrderMark : Char := '\ufeff'

def read (cs : List Char) : Except Fault Json :=
  if cs.head? = some byteOrderMark then .error (.invalid .byteOrderMark 0)
  else (scan 0 cs).foldlM Progress.step Progress.start >>= Progress.finish cs.length

/-- Why a JSON text was refused, with the line and column of the fault. -/
inductive ParseError where
  | malformed (reason : Reason) (line column position : Nat)
  | tooManyDigits (count : Nat)
deriving DecidableEq, Repr

/-- Lines are counted by line feeds, columns from the last of them. -/
def locate (cs : List Char) : Fault → ParseError
  | .invalid reason position =>
    let before := cs.take position
    .malformed reason (before.count '\n' + 1) ((before.reverse.takeWhile (· != '\n')).length + 1) position
  | .digits count => .tooManyDigits count

def ParseError.message : ParseError → String
  | .malformed reason line column position =>
    s!"{reason.message}: line {line} column {column} (char {position})"
  | .tooManyDigits count =>
    s!"Exceeds the limit ({Text.maxDigits} digits) for integer string conversion: value has {count} " ++
      "digits; use sys.set_int_max_str_digits() to increase the limit"

def parse (text : String) : Except ParseError Json :=
  (read text.toList).mapError (locate text.toList)

end Dataflow.Json
