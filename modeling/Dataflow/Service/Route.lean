import Dataflow.Service.Target

namespace Dataflow.Service

inductive Route where
  | health
  | templates
  | template (key : String)
  | palette
  | compatibility
  | compile
  /-- A page on which the service describes itself. What it says is not settled here. -/
  | description
deriving DecidableEq, Repr

namespace Route

def method : Route → String
  | .compile => "POST"
  | _ => "GET"

def accepts (route : Route) (method : String) : Bool :=
  method == route.method || (route = .description && method == "HEAD")

/-- The routes whose path is fixed. A newline at the end of the path does not count. -/
def fixed? (path : String) : Option Route :=
  let cs := path.toList
  let cs := if cs.getLast? = some '\n' then cs.dropLast else cs
  match String.ofList cs with
  | "/health" => some .health
  | "/api/templates" => some .templates
  | "/api/node-templates" => some .palette
  | "/api/compatibility" => some .compatibility
  | "/api/compile" => some .compile
  | "/openapi.json" | "/docs" | "/docs/oauth2-redirect" | "/redoc" => some .description
  | _ => none

/-- The route of a stock pipeline, whose key is any name. -/
def keyed? (path : String) : Option Route :=
  match (Text.splitAt '/' path.toList).map String.ofList with
  | ["", "api", "templates", key] => if key = "" then none else some (.template key)
  | _ => none

def ofPath? (path : String) : Option Route := (fixed? path).or (keyed? path)

def withoutSlashes (path : String) : String :=
  String.ofList (path.toList.reverse.dropWhile (· == '/')).reverse

/-- The route of a target. If its path is one but for slashes at the end, the request goes on to
the path without them, as a new address; `hops` bounds how often. -/
def find? (hops : Nat) (t : Target) : Option (Route × Target) :=
  match ofPath? t.path, hops with
  | some route, _ => some (route, t)
  | none, 0 => none
  | none, hops + 1 =>
    let path := withoutSlashes t.path
    if path != t.path && (ofPath? path).isSome then find? hops (t.moveTo path) else none

def maxHops : Nat := 20

end Route

end Dataflow.Service
