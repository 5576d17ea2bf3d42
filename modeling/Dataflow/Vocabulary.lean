import Dataflow.Json.Printer
import Dataflow.Text.Lowercase

namespace Dataflow

/-- What passes through a port. -/
inductive DataType where
  | text
  | embeddings
  | json
  | pdf
  | chunks
  | boolean
  | number
deriving DecidableEq, Repr

/-- The part that a node plays in a pipeline. -/
inductive Category where
  | input
  | processing
  | retrieval
  | languageModel
  | logic
  | output
deriving DecidableEq, Repr

/-- What a node does, where the category alone does not say it. -/
inductive Kind where
  | pdfInput
  | textInput
  | pdfTextExtractor
  | textChunker
  | embeddingGenerator
  | vectorStore
  | semanticSearch
  | llmGenerator
  | promptBuilder
  | conditionalBranch
  | dataMerger
  | textResponse
  | jsonExport
deriving DecidableEq, Repr

/-- A value that is not the word that was asked for, or has no words in it where some were. -/
inductive Unrecognised where
  | dataType (value : Json)
  | category (value : Json)
  | kind (value : Json)
  | listing (value : Json)
deriving Repr

def Unrecognised.message : Unrecognised → String
  | .dataType value => s!"Unknown data type: {value.shown}"
  | .category value => s!"Unknown node category: {value.shown}"
  | .kind value => s!"Unknown node kind: {value.shown}"
  | .listing value => s!"'{value.typeName}' object is not iterable"

namespace DataType

def all : List DataType := [.text, .embeddings, .json, .pdf, .chunks, .boolean, .number]

def tag : DataType → String
  | .text => "text"
  | .embeddings => "embeddings"
  | .json => "json"
  | .pdf => "pdf"
  | .chunks => "chunks"
  | .boolean => "boolean"
  | .number => "number"

def symbol : DataType → String
  | .text => "TEXT"
  | .embeddings => "EMBEDDINGS"
  | .json => "JSON"
  | .pdf => "PDF"
  | .chunks => "CHUNKS"
  | .boolean => "BOOLEAN"
  | .number => "NUMBER"

def ofName? (name : String) : Option DataType := all.find? (·.tag == Text.lower name)

def read : Json → Except Unrecognised DataType
  | .str name => (ofName? name).elim (.error (.dataType (.str name))) .ok
  | value => .error (.dataType value)

/-- The type as a literal of a script, which knows no data types: the quoted name. -/
def literal (t : DataType) : String := Text.quoted ("DataType." ++ t.symbol)

end DataType

namespace Category

def all : List Category := [.input, .processing, .retrieval, .languageModel, .logic, .output]

def tag : Category → String
  | .input => "input"
  | .processing => "processing"
  | .retrieval => "retrieval"
  | .languageModel => "llm"
  | .logic => "logic"
  | .output => "output"

def symbol : Category → String
  | .input => "INPUT"
  | .processing => "PROCESSING"
  | .retrieval => "RETRIEVAL"
  | .languageModel => "LANGUAGE_MODEL"
  | .logic => "LOGIC"
  | .output => "OUTPUT"

/-- The heading that the category has in listings. -/
def title : Category → String
  | .input => "Input"
  | .processing => "Processing"
  | .retrieval => "Retrieval"
  | .languageModel => "LanguageModel"
  | .logic => "Logic"
  | .output => "Output"

def names : Category → List String
  | .languageModel => ["llm", "language_model", "languagemodel", "language-model"]
  | c => [c.tag]

def ofName? (name : String) : Option Category := all.find? (·.names.contains (Text.lower name))

def read : Json → Except Unrecognised Category
  | .str name => (ofName? name).elim (.error (.category (.str name))) .ok
  | value => .error (.category value)

end Category

namespace Kind

def all : List Kind := [.pdfInput, .textInput, .pdfTextExtractor, .textChunker, .embeddingGenerator,
  .vectorStore, .semanticSearch, .llmGenerator, .promptBuilder, .conditionalBranch, .dataMerger,
  .textResponse, .jsonExport]

def tag : Kind → String
  | .pdfInput => "pdf-input"
  | .textInput => "text-input"
  | .pdfTextExtractor => "pdf-text-extractor"
  | .textChunker => "text-chunker"
  | .embeddingGenerator => "embedding-generator"
  | .vectorStore => "vector-store"
  | .semanticSearch => "semantic-search"
  | .llmGenerator => "llm-generator"
  | .promptBuilder => "prompt-builder"
  | .conditionalBranch => "conditional-branch"
  | .dataMerger => "data-merger"
  | .textResponse => "text-response"
  | .jsonExport => "json-export"

def symbol : Kind → String
  | .pdfInput => "PDF_INPUT"
  | .textInput => "TEXT_INPUT"
  | .pdfTextExtractor => "PDF_TEXT_EXTRACTOR"
  | .textChunker => "TEXT_CHUNKER"
  | .embeddingGenerator => "EMBEDDING_GENERATOR"
  | .vectorStore => "VECTOR_STORE"
  | .semanticSearch => "SEMANTIC_SEARCH"
  | .llmGenerator => "LLM_GENERATOR"
  | .promptBuilder => "PROMPT_BUILDER"
  | .conditionalBranch => "CONDITIONAL_BRANCH"
  | .dataMerger => "DATA_MERGER"
  | .textResponse => "TEXT_RESPONSE"
  | .jsonExport => "JSON_EXPORT"

/-- Underscores count as hyphens. -/
def hyphenated (s : String) : String := s.map fun c => if c = '_' then '-' else c

def ofName? (name : String) : Option Kind := all.find? (·.tag == hyphenated (Text.lower name))

/-- A node need not have a kind: null is read as none. -/
def read : Json → Except Unrecognised (Option Kind)
  | .null => .ok none
  | .str name => (ofName? name).elim (.error (.kind (.str name))) (.ok ∘ some)
  | value => .error (.kind value)

end Kind

end Dataflow
