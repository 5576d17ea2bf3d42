import Dataflow.Problem
import Dataflow.Script.Template

namespace Dataflow

/-- The templates by category and kind, of those that are built in or of another type. An entry without a kind serves
every kind of its category that has none of its own. -/
structure Registry (τ : Type := Template) where
  entries : List ((Category × Option Kind) × τ)

namespace Registry

variable {τ : Type}

def standard : Registry where
  entries := [
    ((.input, none), .input),
    ((.input, some .pdfInput), .pdfInput),
    ((.input, some .textInput), .textInput),
    ((.processing, none), .processing),
    ((.processing, some .pdfTextExtractor), .pdfTextExtractor),
    ((.processing, some .textChunker), .textChunker),
    ((.processing, some .embeddingGenerator), .embeddingGenerator),
    ((.retrieval, none), .retrieval),
    ((.retrieval, some .vectorStore), .vectorStore),
    ((.retrieval, some .semanticSearch), .semanticSearch),
    ((.languageModel, none), .languageModel),
    ((.languageModel, some .llmGenerator), .llmGenerator),
    ((.languageModel, some .promptBuilder), .promptBuilder),
    ((.logic, none), .logic),
    ((.logic, some .conditionalBranch), .conditionalBranch),
    ((.logic, some .dataMerger), .dataMerger),
    ((.output, none), .output),
    ((.output, some .textResponse), .textResponse),
    ((.output, some .jsonExport), .jsonExport)]

def empty : Registry τ := ⟨[]⟩

def kindless (r : Registry τ) : Registry τ := ⟨r.entries.filter (·.1.2.isNone)⟩

def without (r : Registry τ) (c : Category) : Registry τ := ⟨r.entries.filter (·.1.1 != c)⟩

def register (r : Registry τ) (c : Category) (k : Option Kind) (t : τ) : Registry τ :=
  ⟨((c, k), t) :: r.entries.filter (·.1 != (c, k))⟩

def contains (r : Registry τ) (c : Category) (k : Option Kind) : Bool := (r.entries.lookup (c, k)).isSome

def template? (r : Registry τ) (c : Category) (k : Option Kind) : Option τ :=
  (r.entries.lookup (c, k)).or (r.entries.lookup (c, none))

def lookup (r : Registry τ) (n : Node) : Except Problem τ :=
  (r.template? n.category n.kind).elim (.error (.noTemplate n.id n.category)) .ok

end Registry

end Dataflow
