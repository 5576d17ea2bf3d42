import Dataflow.Text.Percent
import Dataflow.Text.Quoted
import Dataflow.Text.Split

namespace Dataflow.Service

structure Target where
  path : String
  parameters : List (String × String) := []
deriving DecidableEq, Repr

namespace Target

def isSchemeChar (c : Char) : Bool := c.isAlphanum || c == '+' || c == '.' || c == '-'

/-- The scheme of an address, which may be empty, and what follows it. -/
def cutScheme (cs : List Char) : List Char × List Char :=
  match cs.takeWhile isSchemeChar, cs.dropWhile isSchemeChar with
  | name, ':' :: rest => if name.head?.all Char.isAlpha then (name, rest) else ([], cs)
  | _, _ => ([], cs)

/-- The authority of an address, which may be empty, and what follows it. -/
def cutAuthority : List Char → List Char × List Char
  | '/' :: '/' :: rest => (rest.takeWhile (· != '/'), rest.dropWhile (· != '/'))
  | cs => ([], cs)

/-- The host of an authority: what stands between the user and the port number. -/
def hostOf (authority : List Char) : List Char :=
  (authority.reverse.takeWhile (· != '@')).reverse.takeWhile (· != ':')

/-- Takes a name onto those before it; a point stays, and two points go back, but not beyond the
root. -/
def stepInto (names : List String) (name : String) : List String :=
  if name = "." then names
  else if name = ".." then (if names = [""] then names else names.dropLast)
  else names ++ [name]

def withoutDots (path : List Char) : List Char :=
  ("/".intercalate (((Text.splitAt '/' path).map String.ofList).foldl stepInto [])).toList

/-- The path of an address, through which points lead as it is written. Without a scheme or a host
it starts at the root, with one slash. -/
def addressPath (cs : List Char) : List Char :=
  let (scheme, rest) := cutScheme cs
  let (authority, path) := cutAuthority rest
  let path := if scheme.isEmpty && authority.isEmpty then path else withoutDots path
  if scheme.isEmpty || (hostOf authority).isEmpty then withoutDots ('/' :: path.dropWhile (· == '/')) else path

/-- The name and the value of a part of a query; a plus sign stands for a blank. -/
def parameter (part : List Char) : String × String :=
  let plain (cs : List Char) := Percent.decode (String.ofList (cs.map fun c => if c = '+' then ' ' else c))
  (plain (part.takeWhile (· != '=')), plain ((part.dropWhile (· != '=')).drop 1))

/-- The target of an address. Its path is decoded twice, once for the address and once for the
request. -/
def ofText (text : String) : Target :=
  let address := text.toList.takeWhile (· != '#')
  let query := (address.dropWhile (· != '?')).drop 1
  { path := Percent.decode (Percent.decode (String.ofList (addressPath (address.takeWhile (· != '?')))))
    parameters := ((Text.splitAt '&' query).filter (!·.isEmpty)).map parameter }

/-- The address of a path. The signs that would end the path are written in hexadecimal. -/
def addressOf (path : String) : String :=
  let written (c : Char) := if c = '?' then "%3F" else if c = '#' then "%23" else String.ofList [c]
  String.join (path.toList.map written)

def moveTo (t : Target) (path : String) : Target :=
  { ofText (addressOf path) with parameters := t.parameters }

/-- The value of a parameter; of several the last. -/
def parameter? (t : Target) (name : String) : Option String := t.parameters.reverse.lookup name

end Target

inductive AddressError where
  | tooLong
  | control (c : Char) (position : Nat)
  | slashes
  | colon
deriving DecidableEq, Repr

namespace AddressError

def message : AddressError → String
  | .tooLong => "URL too long"
  | .control c position =>
    let shown := Text.quoted (String.ofList [c])
    s!"Invalid non-printable ASCII character in URL, {shown} at position {position}."
  | .slashes => "Relative URLs cannot have a path starting with '//'"
  | .colon => "Relative URLs cannot have a path starting with ':'"

def maxLength : Nat := 65536

def isControl (c : Char) : Bool := c.toNat < 0x20 || c.toNat = 0x7f

/-- What is wrong with an address: its length, a control character in it, or, if it has neither
scheme nor authority, the start of its path. -/
def find? (address : String) : Option AddressError :=
  let cs := address.toList
  if maxLength < cs.length then some .tooLong
  else
    match cs.find? isControl with
    | some c => some (.control c (cs.takeWhile (!isControl ·)).length)
    | none =>
      let (scheme, rest) := Target.cutScheme (cs.takeWhile fun c => c != '?' && c != '#')
      match scheme, Target.cutAuthority rest with
      | [], ([], '/' :: '/' :: _) => some .slashes
      | [], ([], ':' :: _) => some .colon
      | _, _ => none

end AddressError

end Dataflow.Service
