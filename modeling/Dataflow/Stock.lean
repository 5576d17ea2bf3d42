import Dataflow.Palette

namespace Dataflow

namespace Stock

structure Link where
  source : String
  sourcePort : String
  target : String
  targetPort : String

/-- The links as edges, numbered from one. -/
def wire (nodes : List Node) (links : List Link) : List Edge :=
  (links.zipIdx 1).filterMap fun (l, i) => do
    let source ← nodes.find? (·.id == l.source)
    let target ← nodes.find? (·.id == l.target)
    (Edge.connect s!"edge-{i}" source l.sourcePort target l.targetPort).toOption

/-- A search whose scores are not offered. -/
def searchNode : Node :=
  let n := Palette.instantiate .semanticSearch "semantic-search-1"
  { n with
    outputs := n.outputs.take 1
    outputs_nodup := (n.outputs_nodup.sublist ((List.take_sublist 1 n.outputs).map Port.id)) }

/-- A generator that takes a prompt only. -/
def generatorNode : Node :=
  let n := Palette.instantiate .llmGenerator "gemma-gen-1"
  { n with
    inputs := n.inputs.take 1
    inputs_nodup := (n.inputs_nodup.sublist ((List.take_sublist 1 n.inputs).map Port.id)) }

def questionNode : Node :=
  { Palette.instantiate .textInput "query-input-1" ""
      [("placeholder", .str "Enter your question here..."), ("maxLength", .int 1000)] with
    description := .str "User question input" }

def documentNodes : List Node := [
  Palette.instantiate .pdfInput "pdf-input-1",
  Palette.instantiate .pdfTextExtractor "pdf-extractor-1",
  Palette.instantiate .textChunker "text-chunker-1",
  Palette.instantiate .embeddingGenerator "embedding-gen-1",
  Palette.instantiate .vectorStore "vector-store-1",
  questionNode,
  searchNode,
  Palette.instantiate .promptBuilder "prompt-builder-1",
  generatorNode,
  Palette.instantiate .textResponse "text-response-1"]

/-- Answers questions about a document: it is stored in one branch and searched in the other. -/
def documentAnswers : Pipeline where
  nodes := documentNodes
  edges := wire documentNodes [
    ⟨"pdf-input-1", "pdf", "pdf-extractor-1", "pdf"⟩,
    ⟨"pdf-extractor-1", "text", "text-chunker-1", "text"⟩,
    ⟨"text-chunker-1", "chunks", "embedding-gen-1", "chunks"⟩,
    ⟨"embedding-gen-1", "embeddings", "vector-store-1", "embeddings"⟩,
    ⟨"query-input-1", "text", "semantic-search-1", "query"⟩,
    ⟨"query-input-1", "text", "prompt-builder-1", "query"⟩,
    ⟨"semantic-search-1", "results", "prompt-builder-1", "context"⟩,
    ⟨"prompt-builder-1", "prompt", "gemma-gen-1", "prompt"⟩,
    ⟨"gemma-gen-1", "response", "text-response-1", "text"⟩]
  name := "Document Q&A Pipeline"
  description := .str "Complete RAG pipeline for document-based question answering"

def quickNodes : List Node := [
  Palette.instantiate .textInput "question-1" "Question",
  Palette.instantiate .promptBuilder "prompt-builder-1" ""
    [("template", .str "Answer briefly.\n\nQuestion: \x7bquery\x7d")],
  Palette.instantiate .llmGenerator "gemma-gen-1" ""
    [("temperature", Palette.decimal 2 (-1)), ("maxTokens", .int 256)],
  Palette.instantiate .conditionalBranch "has-answer-1" "Has Answer",
  Palette.instantiate .textResponse "answer-1" "Answer",
  Palette.instantiate .dataMerger "fallback-1" "Fallback Note",
  Palette.instantiate .textResponse "fallback-out-1" "Fallback"]

/-- Answers a question from the prompt alone, with a branch for an empty answer. -/
def quickAnswer : Pipeline where
  nodes := quickNodes
  edges := wire quickNodes [
    ⟨"question-1", "text", "prompt-builder-1", "query"⟩,
    ⟨"prompt-builder-1", "prompt", "gemma-gen-1", "prompt"⟩,
    ⟨"gemma-gen-1", "response", "has-answer-1", "input"⟩,
    ⟨"has-answer-1", "true", "answer-1", "text"⟩,
    ⟨"has-answer-1", "false", "fallback-1", "input1"⟩,
    ⟨"question-1", "text", "fallback-1", "input2"⟩,
    ⟨"fallback-1", "merged", "fallback-out-1", "text"⟩]
  name := "Quick Answer Pipeline"
  description := .str "Single-prompt answer with an empty-response fallback"

def pipelines : List (String × Pipeline) :=
  [("document-qa", documentAnswers), ("quick-answer", quickAnswer)]

def keys : List String := pipelines.map Prod.fst

def pipeline? (key : String) : Option Pipeline := pipelines.lookup key

end Stock

end Dataflow
