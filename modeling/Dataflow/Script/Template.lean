import Dataflow.Json.Printer
import Dataflow.Naming.Binding
import Dataflow.Palette
import Dataflow.Script.Writer

namespace Dataflow

namespace Category

/-- Whether nodes of the category work on the runtime. -/
def usesRuntime : Category → Bool
  | .processing | .retrieval | .languageModel => true
  | .input | .logic | .output => false

/-- What a script needs installed for nodes of the category. -/
def dependencies : Category → List String
  | .processing => ["pipegraph-runtime[documents]>=1.0"]
  | .retrieval => ["pipegraph-runtime[vectors]>=1.0"]
  | .languageModel => ["pipegraph-runtime[llm]>=1.0"]
  | .input | .logic | .output => []

/-- The arguments that every call of such a procedure starts with. -/
def fixedArgs (c : Category) : List String :=
  if c = .input then ["inputs"] else if c.usesRuntime then ["rag"] else []

def fixedParams (c : Category) : List String :=
  if c = .input then ["inputs: Dict[str, Any]"] else if c.usesRuntime then ["rag: Any"] else []

end Category

/-- Templates of some type: what each of them has a writer do for the procedure of a node, and for the call in the run
function. -/
class Strategy (τ : Type) where
  procedure : τ → BoundNode → List Writer.Op
  call : τ → BoundNode → List Writer.Op

/-- The ways to write a node that are built in. -/
inductive Template where
  | forward
  | input
  | textInput
  | pdfInput
  | processing
  | pdfTextExtractor
  | textChunker
  | embeddingGenerator
  | retrieval
  | vectorStore
  | semanticSearch
  | languageModel
  | llmGenerator
  | promptBuilder
  | logic
  | conditionalBranch
  | dataMerger
  | output
  | textResponse
  | jsonExport
deriving DecidableEq, Repr

/-- The body of a procedure: its statements, and the expressions that it returns by port. -/
structure Body where
  stmts : List Stmt := []
  results : List (String × String) := []

/-- A variable that is passed for an input port, under the name of its parameter. -/
structure Call.Argument where
  port : String
  param : String
  var : String
deriving DecidableEq, Repr

structure Call where
  node : Node
  procedure : String
  args : List Call.Argument

def Call.text (c : Call) : String :=
  s!"{c.procedure}(" ++
    ", ".intercalate (c.node.category.fixedArgs ++ c.args.map fun a => s!"{a.param}={a.var}") ++ ")"

/-- A command of the run function: it stores what a call gives for each output port of its node, or
the single result of a call, or it copies a variable. -/
inductive Command where
  | outputs (targets : List String) (call : Call)
  | result (target : String) (call : Call)
  | copy (target source : String)

def Command.text : Command → String
  | .outputs [] call => call.text
  | .outputs targets call => ", ".intercalate targets ++ s!" = {call.text}"
  | .result target call => s!"{target} = {call.text}"
  | .copy target source => s!"{target} = {source}"

namespace BoundNode

variable (b : BoundNode)

/-- The call of the node's procedure with the variables that feed its input ports. -/
def invocation : Call :=
  ⟨b.node, b.procedure, b.inputVars.filterMap fun (port, var) => var.map (⟨port, b.param port, ·⟩)⟩

/-- The commands that run the node. An output node is assigned to its result, any other one to the
variables of its output ports. -/
def commands : List Command :=
  let targets := b.outputVars.map Prod.snd
  match b.resultVar with
  | some result => .result result b.invocation :: (targets.filter (· != result)).map (.copy · result)
  | none => [.outputs targets b.invocation]

def call : List Stmt :=
  .comment s!"{b.node.label} ({b.node.id})" :: b.commands.map (.line ·.text)

def callOps : List Writer.Op :=
  .comment s!"{b.node.label} ({b.node.id})" :: b.commands.map (.line ·.text)

def procedureWith (stmts : List Stmt) (returned : String) : Stmt :=
  let params := b.node.category.fixedParams ++ b.params.map fun (_, name) => s!"{name}: Any = None"
  let kind := (b.node.kind.map fun k => s!" / {k.tag}").getD ""
  .block (s!"def {b.procedure}(" ++ ", ".intercalate params ++ ") -> Any") ([
    .comment s!"{b.node.label} [{b.node.category.title}{kind}]",
    .line s!"config = NODE_CONFIGS[{Text.quoted b.node.id}]"] ++
    stmts ++ [.line s!"return {returned}"])

def signature : String :=
  s!"def {b.procedure}(" ++
    ", ".intercalate (b.node.category.fixedParams ++ b.params.map fun entry => s!"{entry.2}: Any = None") ++ ") -> Any:"

/-- The operations that write the procedure, around those for its body. -/
def procedureOps (body : List Writer.Op) (returned : String) : List Writer.Op :=
  let kind := (b.node.kind.map fun k => s!" / {k.tag}").getD ""
  [.line b.signature, .push, .comment s!"{b.node.label} [{b.node.category.title}{kind}]",
    .line s!"config = NODE_CONFIGS[{Text.quoted b.node.id}]"] ++
  body ++ [.line s!"return {returned}", .pop]

def allOutputs (expr : String) : List (String × String) := b.node.outputs.map fun p => (p.id, expr)

/-- The key of the caller's mapping that an input node reads for a port. A node with a single
output may choose it. -/
def inputKey (port : String) : String :=
  match b.node.config.get? "inputKey", b.node.outputs with
  | some (.str key), [_] => if key = "" then port else key
  | _, _ => port

end BoundNode

namespace Template

/-- The expression as text, with nothing for the missing value. -/
def textOf (expr : String) : String := s!"(\"\" if {expr} is None else str({expr}))"

/-- The expression as a list, empty for the missing value. -/
def listOf (expr : String) : String := s!"list({expr} or [])"

/-- The tests of a conditional branch, by the operators that ask for them. -/
def conditions : List (String × String) := [
  ("('contains',)", "_expected in _value"),
  ("('equals',)", "_value == _expected"),
  ("('startsWith', 'starts_with')", "_value.startswith(_expected)"),
  ("('endsWith', 'ends_with')", "_value.endswith(_expected)"),
  ("('greater_than',)", "len(_value) > int(_expected or 0)"),
  ("('not_empty',)", "bool(_value)")]

/-- A chain of conditions that sets whether the value matched. -/
def conditionChain : List Stmt :=
  (conditions.zipIdx.map fun ((names, test), i) =>
    .block ((if i = 0 then "if" else "elif") ++ s!" _operator in {names}") [.line s!"_matched = {test}"]) ++
  [.block "else" [.line "_matched = False"]]

def forwardBody (b : BoundNode) : Body where
  stmts := [.comment "Forwards its input unchanged"]
  results := b.allOutputs b.firstParam

def inputBody (b : BoundNode) (fallback : String) : Body where
  results := b.node.outputs.map fun p =>
    (p.id, s!"inputs.get({Text.quoted (b.inputKey p.id)}, {fallback})")

def pdfInputBody (b : BoundNode) : Body where
  stmts := b.node.outputs.map fun p =>
    let key := Text.quoted (b.inputKey p.id)
    let message := Text.quoted s!"PDF input required: inputs[{key}]"
    .block s!"if {key} not in inputs" [.line s!"raise ValueError({message})"]
  results := b.node.outputs.map fun p => (p.id, s!"inputs[{Text.quoted (b.inputKey p.id)}]")

def pdfTextExtractorBody (b : BoundNode) : Body where
  stmts := [.call "_text = rag.extract_text_from_pdf" [
    b.param "pdf" b.firstParam,
    "strip_formatting=bool(config.get('stripFormatting', True))",
    "preserve_line_breaks=bool(config.get('preserveLineBreaks', False))"]]
  results := b.allOutputs "_text"

def textChunkerBody (b : BoundNode) : Body where
  stmts := [.call "_chunks = rag.chunk_text" [
    textOf (b.param "text" b.firstParam),
    "chunk_size=int(config.get('chunkSize', 512))",
    "overlap=int(config.get('overlap', 64))",
    "method=config.get('method', 'fixed-size')"]]
  results := b.allOutputs "_chunks"

def embeddingGeneratorBody (b : BoundNode) : Body where
  stmts := [.call "_embeddings = rag.generate_embeddings" [
    listOf (b.param "chunks" b.firstParam),
    "model=config.get('model', 'gecko')",
    "dimensions=int(config.get('dimensions', 768))",
    "use_gpu=bool(config.get('useGpu', True))"]]
  results := b.allOutputs "_embeddings"

def vectorStoreBody (b : BoundNode) : Body where
  stmts := [.call "_stored = rag.store_embeddings" [
    listOf (b.param "embeddings" b.firstParam),
    "metadata=" ++ b.param "metadata",
    "table_name=config.get('tableName', 'embeddings')",
    "index_type=config.get('indexType', 'cosine')",
    "persistent=bool(config.get('persistent', True))"]]
  results := b.allOutputs "_stored"

def semanticSearchBody (b : BoundNode) : Body where
  stmts := [.call "_results, _scores = rag.search_similar" [
    textOf (b.param "query" b.firstParam),
    "top_k=int(config.get('topK', 3))",
    "threshold=float(config.get('minSimilarity', config.get('threshold', 0.0)))",
    "rerank=bool(config.get('rerankResults', False))"]]
  results := b.node.outputs.map fun p => (p.id, if p.id = "scores" then "_scores" else "_results")

def languageModelBody (b : BoundNode) : Body where
  stmts :=
    let prompt := b.param "prompt" b.firstParam
    [.line s!"_prompt = {prompt} if {prompt} is not None else config.get('defaultPrompt', '')",
    .call "_response = rag.generate_response" [
      "str(_prompt)",
      "context=" ++ listOf (b.param "context"),
      "model=config.get('model', 'gemma-3b-1b-int4')",
      "temperature=float(config.get('temperature', 0.8))",
      "top_p=float(config.get('topP', 0.95))",
      "top_k=int(config.get('topK', 40))",
      "max_tokens=int(config.get('maxTokens', 2048))"]]
  results := b.allOutputs "_response"

def promptBuilderBody (b : BoundNode) : Body where
  stmts :=
    let query := b.param "query" b.firstParam
    [.line s!"_query = {query} if {query} is not None else config.get('defaultQuery', '')",
    .call "_prompt = rag.build_prompt" [
      "str(_query)",
      listOf (b.param "context"),
      s!"template=config.get('template', {Text.quoted Palette.promptText})",
      "separator=config.get('contextSeparator', '\\n\\n')",
      "max_context_length=int(config.get('maxContextLength', 4000))"]]
  results := b.allOutputs "_prompt"

/-- The value goes to the port `false` if the condition failed, and to the others if it held. -/
def conditionalBranchBody (b : BoundNode) : Body where
  stmts := [
    .line ("_value = " ++ textOf (b.param "input" b.firstParam)),
    .line "_operator = config.get('operator', config.get('condition', 'contains'))",
    .line "_expected = str(config.get('value', ''))"] ++ conditionChain
  results := b.node.outputs.map fun p =>
    (p.id, if p.id = "false" then "None if _matched else _value" else "_value if _matched else None")

def dataMergerBody (b : BoundNode) : Body where
  stmts :=
    let values := ", ".intercalate (b.params.map Prod.snd) ++ (if b.params.isEmpty then "" else ",")
    [.line s!"_parts = [str(_v) for _v in ({values}) if _v is not None]",
    .block "if config.get('mergeMethod', 'concatenate') == 'list'" [.line "_merged = _parts"],
    .block "else" [.line "_merged = config.get('separator', '\\n').join(_parts)"]]
  results := b.allOutputs "_merged"

def jsonExportBody (b : BoundNode) : Body where
  stmts :=
    let data := b.param "data" b.firstParam
    [.line s!"_data = json.loads(json.dumps({data}, default=str))"]
  results := [(PortKey.resultPort, "_data")]

def body (t : Template) (b : BoundNode) : Body :=
  match t with
  | .forward | .processing | .retrieval | .logic => forwardBody b
  | .input => inputBody b "config.get('defaultValue')"
  | .textInput => inputBody b "config.get('defaultText', '')"
  | .pdfInput => pdfInputBody b
  | .pdfTextExtractor => pdfTextExtractorBody b
  | .textChunker => textChunkerBody b
  | .embeddingGenerator => embeddingGeneratorBody b
  | .vectorStore => vectorStoreBody b
  | .semanticSearch => semanticSearchBody b
  | .languageModel | .llmGenerator => languageModelBody b
  | .promptBuilder => promptBuilderBody b
  | .conditionalBranch => conditionalBranchBody b
  | .dataMerger => dataMergerBody b
  | .output => { results := [(PortKey.resultPort, b.firstParam)] }
  | .textResponse => { results := [(PortKey.resultPort, textOf (b.param "text" b.firstParam))] }
  | .jsonExport => jsonExportBody b

/-- Whether the procedure returns the node's result rather than its output ports. -/
def returnsResult : Template → Bool
  | .output | .textResponse | .jsonExport => true
  | _ => false

/-- What the procedure returns: its result, or the expressions of its output ports. -/
def returned (t : Template) (b : BoundNode) : String :=
  let results := (t.body b).results
  if t.returnsResult then (results.lookup PortKey.resultPort).getD "None"
  else
    match b.node.outputs with
    | [] => "None"
    | ports => ", ".intercalate (ports.map fun p => (results.lookup p.id).getD "None")

def procedure (t : Template) (b : BoundNode) : Stmt := b.procedureWith (t.body b).stmts (t.returned b)

def pdfInputOps (b : BoundNode) : List Writer.Op :=
  b.node.outputs.flatMap fun p =>
    let key := Text.quoted (b.inputKey p.id)
    let message := Text.quoted s!"PDF input required: inputs[{key}]"
    [.line s!"if {key} not in inputs:", .push, .line s!"raise ValueError({message})", .pop]

def pdfTextExtractorOps (b : BoundNode) : List Writer.Op :=
  let pdf := b.param "pdf" b.firstParam
  [.line "_text = rag.extract_text_from_pdf(",
  .push,
  .line s!"{pdf},",
  .line "strip_formatting=bool(config.get('stripFormatting', True)),",
  .line "preserve_line_breaks=bool(config.get('preserveLineBreaks', False)),",
  .pop,
  .line ")"]

def textChunkerOps (b : BoundNode) : List Writer.Op :=
  let text := b.param "text" b.firstParam
  [.line "_chunks = rag.chunk_text(",
  .push,
  .line s!"{textOf text},",
  .line "chunk_size=int(config.get('chunkSize', 512)),",
  .line "overlap=int(config.get('overlap', 64)),",
  .line "method=config.get('method', 'fixed-size'),",
  .pop,
  .line ")"]

def embeddingGeneratorOps (b : BoundNode) : List Writer.Op :=
  let chunks := b.param "chunks" b.firstParam
  [.line "_embeddings = rag.generate_embeddings(",
  .push,
  .line s!"{listOf chunks},",
  .line "model=config.get('model', 'gecko'),",
  .line "dimensions=int(config.get('dimensions', 768)),",
  .line "use_gpu=bool(config.get('useGpu', True)),",
  .pop,
  .line ")"]

def vectorStoreOps (b : BoundNode) : List Writer.Op :=
  let embeddings := b.param "embeddings" b.firstParam
  let metadata := b.param "metadata"
  [.line "_stored = rag.store_embeddings(",
  .push,
  .line s!"{listOf embeddings},",
  .line s!"metadata={metadata},",
  .line "table_name=config.get('tableName', 'embeddings'),",
  .line "index_type=config.get('indexType', 'cosine'),",
  .line "persistent=bool(config.get('persistent', True)),",
  .pop,
  .line ")"]

def semanticSearchOps (b : BoundNode) : List Writer.Op :=
  let query := b.param "query" b.firstParam
  [.line "_results, _scores = rag.search_similar(",
  .push,
  .line s!"{textOf query},",
  .line "top_k=int(config.get('topK', 3)),",
  .line "threshold=float(config.get('minSimilarity', config.get('threshold', 0.0))),",
  .line "rerank=bool(config.get('rerankResults', False)),",
  .pop,
  .line ")"]

def languageModelOps (b : BoundNode) : List Writer.Op :=
  let prompt := b.param "prompt" b.firstParam
  let context := b.param "context"
  [.line s!"_prompt = {prompt} if {prompt} is not None else config.get('defaultPrompt', '')",
  .line "_response = rag.generate_response(",
  .push,
  .line "str(_prompt),",
  .line s!"context={listOf context},",
  .line "model=config.get('model', 'gemma-3b-1b-int4'),",
  .line "temperature=float(config.get('temperature', 0.8)),",
  .line "top_p=float(config.get('topP', 0.95)),",
  .line "top_k=int(config.get('topK', 40)),",
  .line "max_tokens=int(config.get('maxTokens', 2048)),",
  .pop,
  .line ")"]

def promptBuilderOps (b : BoundNode) : List Writer.Op :=
  let query := b.param "query" b.firstParam
  let context := b.param "context"
  [.line s!"_query = {query} if {query} is not None else config.get('defaultQuery', '')",
  .line "_prompt = rag.build_prompt(",
  .push,
  .line "str(_query),",
  .line s!"{listOf context},",
  .line s!"template=config.get('template', {Text.quoted Palette.promptText}),",
  .line "separator=config.get('contextSeparator', '\\n\\n'),",
  .line "max_context_length=int(config.get('maxContextLength', 4000)),",
  .pop,
  .line ")"]

def conditionalBranchOps (b : BoundNode) : List Writer.Op :=
  let value := b.param "input" b.firstParam
  [.line s!"_value = {textOf value}",
    .line "_operator = config.get('operator', config.get('condition', 'contains'))",
    .line "_expected = str(config.get('value', ''))"] ++
  (conditions.zipIdx.flatMap fun ((names, test), i) => [
    .line ((if i = 0 then "if" else "elif") ++ s!" _operator in {names}:"),
    .push,
    .line s!"_matched = {test}",
    .pop]) ++
  [.line "else:", .push, .line "_matched = False", .pop]

def dataMergerOps (b : BoundNode) : List Writer.Op :=
  let values := ", ".intercalate (b.params.map Prod.snd) ++ (if b.params.isEmpty then "" else ",")
  [.line s!"_parts = [str(_v) for _v in ({values}) if _v is not None]",
  .line "if config.get('mergeMethod', 'concatenate') == 'list':",
  .push,
  .line "_merged = _parts",
  .pop,
  .line "else:",
  .push,
  .line "_merged = config.get('separator', '\\n').join(_parts)",
  .pop]

def bodyOps (t : Template) (b : BoundNode) : List Writer.Op :=
  match t with
  | .forward | .processing | .retrieval | .logic => [.comment "Forwards its input unchanged"]
  | .input | .textInput | .output | .textResponse => []
  | .pdfInput => pdfInputOps b
  | .pdfTextExtractor => pdfTextExtractorOps b
  | .textChunker => textChunkerOps b
  | .embeddingGenerator => embeddingGeneratorOps b
  | .vectorStore => vectorStoreOps b
  | .semanticSearch => semanticSearchOps b
  | .languageModel | .llmGenerator => languageModelOps b
  | .promptBuilder => promptBuilderOps b
  | .conditionalBranch => conditionalBranchOps b
  | .dataMerger => dataMergerOps b
  | .jsonExport =>
    let data := b.param "data" b.firstParam
    [.line s!"_data = json.loads(json.dumps({data}, default=str))"]

def ops (t : Template) (b : BoundNode) : List Writer.Op := b.procedureOps (t.bodyOps b) (t.returned b)

instance : Strategy Template where
  procedure := ops
  call _ b := b.callOps

end Template

end Dataflow
