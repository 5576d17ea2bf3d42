import Dataflow.Compilation
import Dataflow.Service.Route
import Dataflow.Stock
import Dataflow.Text.Count
import Dataflow.Text.Uppercase

namespace Dataflow.Service

/-- A request: its method in any case, its address, parameters that are given apart from the
address and take the place of those in it, and a body. -/
structure Request where
  method : String
  address : String
  parameters : Option (List (String × String)) := none
  body : Option Json := none

def Request.target (r : Request) : Target :=
  let t := Target.ofText r.address
  { t with parameters := r.parameters.getD t.parameters }

inductive Response where
  | json (status : Nat) (body : Json)
  | bare (status : Nat)
  /-- A request of the wrong shape, with the places at fault. -/
  | invalid (places : List (List String))

/-- What a request cannot be answered for. -/
inductive Fault where
  | address (cause : AddressError)
  /-- A number in the body is not finite, and so the body cannot be sent. -/
  | bodyNotFinite
  | load (cause : LoadError)
  | emit (cause : EmitError)

def Fault.message : Fault → String
  | .address cause => cause.message
  | .bodyNotFinite => "Out of range float values are not JSON compliant"
  | .load cause => cause.message
  | .emit cause => cause.message

def detail (status : Nat) (text : String) : Response := .json status (.obj [("detail", .str text)])

def threshold (t : Target) : Except Unit (Option Nat) :=
  match t.parameter? "threshold" with
  | none => .ok none
  | some text => (Text.count? text).elim (.error ()) (.ok ∘ some)

def object (r : Request) : Except Unit Json :=
  match r.body with
  | some (.obj fields) => .ok (.obj fields)
  | _ => .error ()

def compilePipeline (settings : Settings) (p : Pipeline) (timestamp : String) : Except Fault Response :=
  match (p.compile { settings } timestamp).value with
  | .error e => .error (.emit e)
  | .ok c => .ok (.json (if c.success then 200 else 422) c.toJson)

def compileBody (settings : Settings) (body : Json) (timestamp : String) : Except Fault Response :=
  match Pipeline.ofJson body with
  | .error e => if e.isDocumentFault then .ok (detail 400 e.message) else .error (.load e)
  | .ok p => compilePipeline settings p timestamp

def compile (env : Environment) (timestamp : String) (r : Request) (t : Target) : Except Fault Response :=
  match Settings.ofEnvironment env with
  | .error e => .ok (detail 500 s!"Invalid compiler configuration: {e.message}")
  | .ok settings =>
    match threshold t, object r with
    | .ok none, .ok body => compileBody settings body timestamp
    | .ok (some n), .ok body => compileBody { settings with threshold := n } body timestamp
    | .error _, .ok _ => .ok (.invalid [["query", "threshold"]])
    | .ok _, .error _ => .ok (.invalid [["body"]])
    | .error _, .error _ => .ok (.invalid [["query", "threshold"], ["body"]])

def version : String := "1.0.0"

def stockSummary (key : String) (p : Pipeline) : Json := .obj [
  ("key", .str key),
  ("name", .str p.name),
  ("description", p.description),
  ("nodeCount", .int p.nodes.length),
  ("edgeCount", .int p.edges.length)]

/-- Answers a request whose method its route accepts. -/
def Route.answer (env : Environment) (timestamp : String) (r : Request) (t : Target) :
    Route → Except Fault Response
  | .health => .ok (.json 200 (.obj [("status", .str "ok"), ("version", .str version)]))
  | .templates => .ok (.json 200 (.arr (Stock.pipelines.map fun (key, p) => stockSummary key p)))
  | .template key =>
    .ok <| match Stock.pipeline? key with
      | none => detail 404 "Template not found"
      | some p => .json 200 p.toJson
  | .palette => .ok (.json 200 (.arr (Palette.entries.map PaletteEntry.toJson)))
  | .compatibility =>
    .ok (.json 200 (.obj (FeedRules.standard.table.map fun (s, ts) => (s, .arr (ts.map .str)))))
  | .compile => Service.compile env timestamp r t
  | .description => .ok (.bare 200)

/-- What is left of a response to a request for its head. -/
def Response.head : Response → Response
  | .json status _ | .bare status => .bare status
  | .invalid _ => .bare 422

def answerAt (env : Environment) (timestamp method : String) (r : Request) (t : Target) :
    Except Fault Response :=
  match Route.find? Route.maxHops t with
  | none => .ok (detail 404 "Not Found")
  | some (route, t) =>
    if route.accepts method then route.answer env timestamp r t
    else .ok (detail 405 "Method Not Allowed")

def respond (env : Environment) (timestamp : String) (r : Request) : Except Fault Response :=
  let method := Text.upper r.method
  let response := answerAt env timestamp method r r.target
  if method = "HEAD" then response.map Response.head else response

/-- Sends a request, if it can be sent, and answers it. -/
def answer (env : Environment) (timestamp : String) (r : Request) : Except Fault Response :=
  match AddressError.find? r.address with
  | some e => .error (.address e)
  | none => if r.body.all Json.isFinite then respond env timestamp r else .error .bodyNotFinite

def origins (env : Environment) : List String :=
  let raw := (env.lookup "PIPEGRAPH_CORS_ORIGINS").getD "*"
  let named := ((Text.splitAt ',' raw.toList).map (Text.trim ∘ String.ofList)).filter (· != "")
  if named.isEmpty then ["*"] else named

end Dataflow.Service
