import Dataflow.Text.Digit
import Dataflow.Text.Quoted
import Dataflow.Text.Split

namespace Dataflow

/-- An option: its spellings, and whether it takes a value. -/
structure OptionSpec (κ : Type) where
  key : κ
  names : List String
  takesValue : Bool

namespace OptionSpec

variable {κ : Type}

def title (o : OptionSpec κ) : String := "/".intercalate o.names

end OptionSpec

/-- What stands in the same argument behind an option's name. -/
inductive Attached where
  | nothing
  | equals (value : String)
  | glued (value : String)

inductive ArgumentRole (κ : Type) where
  | value
  | divider
  | unknown
  | option (spec : OptionSpec κ) (attached : Attached)

structure Argument (κ : Type) where
  raw : String
  role : ArgumentRole κ

inductive UsageError where
  | ambiguous (argument : String) (candidates : List String)
  | expectedValue (option : String)
  | unexpectedValue (option value : String)
deriving DecidableEq, Repr

def UsageError.message : UsageError → String
  | .ambiguous argument candidates =>
    s!"ambiguous option: {argument} could match " ++ ", ".intercalate candidates
  | .expectedValue option => s!"argument {option}: expected one argument"
  | .unexpectedValue option value =>
    s!"argument {option}: ignored explicit argument {Text.quoted value}"

namespace Argument

variable {κ : Type} (specs : List (OptionSpec κ))

def spellings : List (String × OptionSpec κ) := specs.flatMap fun o => o.names.map (·, o)

/-- The text before the first equals sign, and the text behind it if there is one. -/
def cutEquals (text : String) : String × Option String :=
  let cs := text.toList
  let name := String.ofList (cs.takeWhile (· != '='))
  match cs.dropWhile (· != '=') with
  | [] => (name, none)
  | _ :: rest => (name, some (String.ofList rest))

/-- Whether a spelling is one dash and a letter. -/
def isShort (name : String) : Bool :=
  match name.toList with
  | ['-', c] => c != '-'
  | _ => false

def attachedOf : Option String → Attached
  | none => .nothing
  | some value => .equals value

/-- The options that an argument may abbreviate. Behind one dash and a letter a value may follow
at once. -/
def candidates (text : String) : List (String × OptionSpec κ × Attached) :=
  match text.toList with
  | '-' :: '-' :: _ =>
    let (name, value) := cutEquals text
    (spellings specs).filterMap fun (s, o) =>
      if name.toList.isPrefixOf s.toList then some (s, o, attachedOf value) else none
  | cs =>
    (spellings specs).filterMap fun (s, o) =>
      if s.toList = cs.take 2 then some (s, o, .glued (String.ofList (cs.drop 2)))
      else if cs.isPrefixOf s.toList then some (s, o, .nothing) else none

/-- Whether a text is a negative number, perhaps with a newline at its end. -/
def isNegativeNumber (text : String) : Bool :=
  let digits (cs : List Char) := cs.all fun c => (Text.decimalValue? c).isSome
  let number (cs : List Char) :=
    match cs.dropWhile (· != '.') with
    | [] => !cs.isEmpty && digits cs
    | _ :: fraction => digits (cs.takeWhile (· != '.')) && !fraction.isEmpty && digits fraction
  match text.toList with
  | '-' :: cs => number cs || (cs.getLast? == some '\n' && number cs.dropLast)
  | _ => false

def roleOf (text : String) : Except UsageError (ArgumentRole κ) :=
  if !(['-'].isPrefixOf text.toList) then .ok .value
  else
    match (spellings specs).lookup text with
    | some o => .ok (.option o .nothing)
    | none =>
      if text = "-" then .ok .value
      else
        match cutEquals text with
        | (name, some value) =>
          match (spellings specs).lookup name with
          | some o => .ok (.option o (if isShort name && value != "" then .glued value else .equals value))
          | none => abbreviated
        | _ => abbreviated
where
  abbreviated : Except UsageError (ArgumentRole κ) :=
    match candidates specs text with
    | [(_, o, attached)] => .ok (.option o attached)
    | [] => .ok (if isNegativeNumber text || text.toList.contains ' ' then .value else .unknown)
    | several => .error (.ambiguous text (several.map (·.1)))

/-- The arguments with their roles. Behind a double dash all are values. -/
def classify : List String → Except UsageError (List (Argument κ))
  | [] => .ok []
  | text :: rest =>
    if text = "--" then .ok (⟨text, .divider⟩ :: rest.map (⟨·, .value⟩))
    else do
      let role ← roleOf specs text
      return ⟨text, role⟩ :: (← classify rest)

end Argument

/-- An argument that is put to use. An option that takes a value may be given without one. -/
inductive Assignment (κ : Type) where
  | free (value : String)
  | flag (key : κ)
  | option (key : κ) (value : Option String)

/-- What the arguments come to: those used, up to a fault if there is one, and those left over. -/
structure Reading (κ : Type) where
  used : List (Assignment κ) := []
  extras : List String := []
  fault : Option UsageError := none

namespace Reading

variable {κ : Type} (specs : List (OptionSpec κ))

def use (a : Assignment κ) (r : Reading κ) : Reading κ := { r with used := a :: r.used }

def leave (raw : String) (r : Reading κ) : Reading κ := { r with extras := raw :: r.extras }

def failed (e : UsageError) : Reading κ := { fault := some e }

/-- What ends a run of one-letter options. -/
inductive Run (κ : Type) where
  | fault (e : UsageError)
  | last (spec : OptionSpec κ) (value : Option String)

/-- Reads what is glued to a one-letter option: its value, or more such options. -/
def glued (o : OptionSpec κ) : List Char → List κ × Run κ
  | [] => ([], .last o none)
  | c :: rest =>
    let value := String.ofList (c :: rest)
    if o.takesValue then ([], .last o (some value))
    else
      match (Argument.spellings specs).lookup (String.ofList ['-', c]) with
      | none => ([], .fault (.unexpectedValue o.title value))
      | some next => (o.key :: (glued next rest).1, (glued next rest).2)

/-- What an option comes to with what is attached to it. -/
def runOf (o : OptionSpec κ) : Attached → List κ × Run κ
  | .nothing => ([], .last o none)
  | .equals value =>
    ([], if o.takesValue then .last o (some value) else .fault (.unexpectedValue o.title value))
  | .glued value => glued specs o value.toList

/-- The value that is attached to an option. A double dash is dropped here as well, and leaves the
option without a value. -/
def attachedValue (text : String) : Option String := if text = "--" then none else some text

/-- Whether the free argument is still to come, has just come, or lies further back. -/
inductive Free where
  | awaited
  | fresh
  | past

def Free.pass : Free → Free
  | .awaited => .awaited
  | _ => .past

/-- Uses the arguments from left to right. A double dash is dropped with the free argument that it
stands by. -/
def ofArguments (free : Free) : List (Argument κ) → Reading κ
  | [] => {}
  | ⟨raw, .unknown⟩ :: rest => leave raw (ofArguments free.pass rest)
  | ⟨raw, .value⟩ :: rest =>
    match free with
    | .awaited => use (.free raw) (ofArguments .fresh rest)
    | _ => leave raw (ofArguments .past rest)
  | ⟨raw, .divider⟩ :: rest =>
    match free with
    | .awaited => ofArguments .awaited rest
    | .fresh => ofArguments .past rest
    | .past => leave raw (ofArguments .past rest)
  | ⟨_, .option o attached⟩ :: rest =>
    let run := runOf specs o attached
    let flags (r : Reading κ) := run.1.foldr (fun k r => use (.flag k) r) r
    match run.2 with
    | .fault e => failed e
    | .last spec (some value) =>
      flags (use (.option spec.key (attachedValue value)) (ofArguments free.pass rest))
    | .last spec none =>
      if spec.takesValue then
        match rest with
        | ⟨value, .value⟩ :: more =>
          flags (use (.option spec.key (some value)) (ofArguments free.pass more))
        | _ => failed (.expectedValue spec.title)
      else flags (use (.flag spec.key) (ofArguments free.pass rest))

/-- Reads a list of arguments. Every argument is classified before any is used. Then they are used from left to right,
so that the first one that cannot be used is the one to be reported. -/
def ofTexts (args : List String) : Except UsageError (Reading κ) := do
  return ofArguments specs .awaited (← Argument.classify specs args)

end Reading

end Dataflow
