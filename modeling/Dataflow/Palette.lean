import Dataflow.Document.Codec

namespace Dataflow

/-- A stock node, less its id. -/
structure PaletteEntry where
  kind : Kind
  category : Category
  label : String
  description : String
  inputs : List Port := []
  outputs : List Port := []
  defaults : Json.Fields := []
  inputs_nodup : (inputs.map Port.id).Nodup := by decide
  outputs_nodup : (outputs.map Port.id).Nodup := by decide

namespace Palette

def required (id label : String) (dataType : DataType) (description : String) : Port where
  id := id
  label := .str label
  dataType := dataType
  description := .str description

def optional (id label : String) (dataType : DataType) (description : String) : Port :=
  { required id label dataType description with required := false }

/-- The number `digits * 10 ^ exponent` as a setting. -/
def decimal (digits : Nat) (exponent : Int) : Json := .float (Binary64.ofDecimal false digits exponent)

def promptText : String :=
  "You are a helpful assistant. Use the following information to answer the " ++
  "user's question. If the answer is not in the context, say you don't know." ++
  "\n\nContext: \x7bcontext\x7d\n\nQuestion: \x7bquery\x7d"

def entry : Kind → PaletteEntry
  | .pdfInput => {
      kind := .pdfInput, category := .input, label := "PDF Input"
      description := "Load PDF documents from device storage"
      outputs := [required "pdf" "PDF Document" .pdf "Raw PDF document"]
      defaults := [("allowMultiple", .bool false), ("fileFilter", .str "*.pdf"), ("maxSize", .str "10MB")] }
  | .textInput => {
      kind := .textInput, category := .input, label := "Text Input"
      description := "Direct text input for processing"
      outputs := [required "text" "Text" .text "Raw text content"]
      defaults := [("placeholder", .str "Enter your text here..."), ("maxLength", .int 10000)] }
  | .pdfTextExtractor => {
      kind := .pdfTextExtractor, category := .processing, label := "PDF Text Extractor"
      description := "Extract text content from PDF documents"
      inputs := [required "pdf" "PDF Document" .pdf "PDF document to extract text from"]
      outputs := [required "text" "Extracted Text" .text "Text extracted from PDF"]
      defaults := [("stripFormatting", .bool true), ("preserveLineBreaks", .bool false)] }
  | .textChunker => {
      kind := .textChunker, category := .processing, label := "Text Chunker"
      description := "Split text into chunks for processing"
      inputs := [required "text" "Text" .text "Text to chunk"]
      outputs := [required "chunks" "Text Chunks" .chunks "Chunked text segments"]
      defaults := [("chunkSize", .int 512), ("overlap", .int 64), ("method", .str "fixed-size")] }
  | .embeddingGenerator => {
      kind := .embeddingGenerator, category := .processing, label := "Embedding Generator"
      description := "Generate vector embeddings using Gecko model"
      inputs := [required "chunks" "Text Chunks" .chunks "Text chunks to embed"]
      outputs := [required "embeddings" "Embeddings" .embeddings "768-dimensional embeddings"]
      defaults := [("model", .str "gecko"), ("dimensions", .int 768), ("useGpu", .bool true)] }
  | .vectorStore => {
      kind := .vectorStore, category := .retrieval, label := "Vector Store"
      description := "Store embeddings in SQLite vector database"
      inputs := [required "embeddings" "Embeddings" .embeddings "Vector embeddings to store",
        optional "metadata" "Metadata" .json "Optional chunk metadata"]
      outputs := [required "stored" "Stored Count" .number "Number of embeddings stored"]
      defaults := [("tableName", .str "embeddings"), ("indexType", .str "cosine"), ("persistent", .bool true)] }
  | .semanticSearch => {
      kind := .semanticSearch, category := .retrieval, label := "Semantic Search"
      description := "Search vector database for relevant chunks"
      inputs := [required "query" "Query" .text "Search query"]
      outputs := [required "results" "Search Results" .chunks "Relevant text chunks",
        optional "scores" "Similarity Scores" .json "Similarity scores for results"]
      defaults := [("topK", .int 3), ("minSimilarity", decimal 0 0), ("rerankResults", .bool false)] }
  | .llmGenerator => {
      kind := .llmGenerator, category := .languageModel, label := "Gemma Generator"
      description := "Generate responses using Gemma 3B model"
      inputs := [required "prompt" "Prompt" .text "Input prompt for generation",
        optional "context" "Context" .chunks "Retrieved context chunks"]
      outputs := [required "response" "Generated Text" .text "LLM generated response"]
      defaults := [("model", .str "gemma-3b-1b-int4"), ("temperature", decimal 8 (-1)),
        ("topP", decimal 95 (-2)), ("topK", .int 40), ("maxTokens", .int 2048), ("useGpu", .bool true)] }
  | .promptBuilder => {
      kind := .promptBuilder, category := .languageModel, label := "Prompt Builder"
      description := "Build prompts with context injection"
      inputs := [required "query" "User Query" .text "User question",
        optional "context" "Context" .chunks "Retrieved context"]
      outputs := [required "prompt" "Formatted Prompt" .text "Formatted prompt with context"]
      defaults := [("template", .str promptText), ("contextSeparator", .str "\n\n"),
        ("maxContextLength", .int 4000)] }
  | .conditionalBranch => {
      kind := .conditionalBranch, category := .logic, label := "Conditional Branch"
      description := "Branch execution based on conditions"
      inputs := [required "input" "Input Value" .text "Value to evaluate"]
      outputs := [optional "true" "True Branch" .text "Output if condition is true",
        optional "false" "False Branch" .text "Output if condition is false"]
      defaults := [("condition", .str "length > 0"), ("operator", .str "greater_than"), ("value", .str "0")] }
  | .dataMerger => {
      kind := .dataMerger, category := .logic, label := "Data Merger"
      description := "Combine multiple inputs into one"
      inputs := [required "input1" "Input 1" .text "First input",
        optional "input2" "Input 2" .text "Second input"]
      outputs := [required "merged" "Merged Output" .text "Combined output"]
      defaults := [("separator", .str "\n"), ("mergeMethod", .str "concatenate")] }
  | .textResponse => {
      kind := .textResponse, category := .output, label := "Text Response"
      description := "Display generated text response"
      inputs := [required "text" "Response Text" .text "Text to display"]
      defaults := [("displayType", .str "chat-message"), ("enableMarkdown", .bool true),
        ("showMetadata", .bool false)] }
  | .jsonExport => {
      kind := .jsonExport, category := .output, label := "JSON Export"
      description := "Export results as JSON data"
      inputs := [required "data" "Data" .json "Data to export"]
      defaults := [("filename", .str "pipeline-results.json"), ("prettyPrint", .bool true),
        ("includeMetadata", .bool true)] }

def entries : List PaletteEntry := Kind.all.map entry

def groups : List (String × List PaletteEntry) :=
  Category.all.map fun c => (c.title, entries.filter (·.category == c))

/-- A node of a kind. Settings that are given replace the defaults, and an empty label stands for
the stock one. -/
def instantiate (kind : Kind) (id : String) (label : String := "") (config : Json.Fields := []) : Node :=
  let e := entry kind
  { id := id
    category := e.category
    label := if label = "" then e.label else label
    config := e.defaults.merge config
    inputs := e.inputs
    outputs := e.outputs
    kind := some kind
    description := .str e.description
    inputs_nodup := e.inputs_nodup
    outputs_nodup := e.outputs_nodup }

end Palette

def PaletteEntry.toJson (e : PaletteEntry) : Json := .obj [
  ("kind", .str e.kind.tag),
  ("category", .str e.category.tag),
  ("label", .str e.label),
  ("description", .str e.description),
  ("inputs", .arr (e.inputs.map Port.toJson)),
  ("outputs", .arr (e.outputs.map Port.toJson)),
  ("defaultConfig", .obj e.defaults)]

end Dataflow
