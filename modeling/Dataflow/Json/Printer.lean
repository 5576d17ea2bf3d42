import Dataflow.Json.Basic
import Dataflow.Decimal.Shortest
import Dataflow.Text.Quoted

namespace Dataflow.Json

def unitEscape (n : Nat) : List Char := '\\' :: 'u' :: Text.hexDigits 4 n

/-- How a character stands in a JSON string: as itself only if it is a printable ASCII character. -/
def escapedChar (c : Char) : List Char :=
  if c = '\x22' then ['\\', '\x22']
  else if c = '\\' then ['\\', '\\']
  else if c = '\n' then ['\\', 'n']
  else if c = '\r' then ['\\', 'r']
  else if c = '\t' then ['\\', 't']
  else if c = '\x0c' then ['\\', 'f']
  else if c = '\x08' then ['\\', 'b']
  else if 0x20 ≤ c.toNat ∧ c.toNat < 0x7f then [c]
  else if c.toNat < 0x10000 then unitEscape c.toNat
  else unitEscape (0xd800 + (c.toNat - 0x10000) / 0x400) ++ unitEscape (0xdc00 + (c.toNat - 0x10000) % 0x400)

def renderString (s : String) : String :=
  String.ofList ('\x22' :: s.toList.flatMap escapedChar ++ ['\x22'])

def renderFloat : Binary64 → String
  | .infinite negative => if negative then "-Infinity" else "Infinity"
  | .nan => "NaN"
  | x => x.toText

mutual

def render : Json → String
  | .null => "null"
  | .bool b => if b then "true" else "false"
  | .int n => toString n
  | .float x => renderFloat x
  | .str s => renderString s
  | .arr items => "[" ++ ", ".intercalate (renderItems items) ++ "]"
  | .obj fields => "\x7b" ++ ", ".intercalate (renderFields fields) ++ "\x7d"

def renderItems : List Json → List String
  | [] => []
  | v :: rest => render v :: renderItems rest

def renderFields : List (String × Json) → List String
  | [] => []
  | (k, v) :: rest => (renderString k ++ ": " ++ render v) :: renderFields rest

end

/-- How numbers that are not finite are written: bare, or as quoted text, so that the literal can
be read back. -/
inductive NonFinite where
  | bare
  | quoted

def NonFinite.text : NonFinite → Binary64 → String
  | .quoted, x => if x.isFinite then x.toText else Text.quoted x.toText
  | .bare, x => x.toText

mutual

/-- The value as a literal of the script's language. The limit on the digits of an integer is one of `parse` only: an
integer of more than `Text.maxDigits` digits, which no text is read as, is written out here. -/
def literalWith (style : NonFinite) : Json → String
  | .null => "None"
  | .bool b => if b then "True" else "False"
  | .int n => toString n
  | .float x => style.text x
  | .str s => Text.quoted s
  | .arr items => "[" ++ ", ".intercalate (literalItems style items) ++ "]"
  | .obj fields => "\x7b" ++ ", ".intercalate (literalFields style fields) ++ "\x7d"

def literalItems (style : NonFinite) : List Json → List String
  | [] => []
  | v :: rest => literalWith style v :: literalItems style rest

def literalFields (style : NonFinite) : List (String × Json) → List String
  | [] => []
  | (k, v) :: rest => (Text.quoted k ++ ": " ++ literalWith style v) :: literalFields style rest

end

/-- The literal that stands for the value in a script. -/
def literal (v : Json) : String := v.literalWith .quoted

/-- The value as messages name it. -/
def shown (v : Json) : String := v.literalWith .bare

/-- The value as running text: a string as it is. -/
def display : Json → String
  | .str s => s
  | v => v.shown

end Dataflow.Json
