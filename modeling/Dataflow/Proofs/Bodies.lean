import Dataflow.Proofs.Fields
import Dataflow.Proofs.Pieces

namespace Dataflow

namespace Script

open Mode

theorem lex_comment {cs : List Char} (h : '\n' ∉ cs) (rest : List Char) :
    lex .comment (cs ++ rest) = lex .comment rest := by
  induction cs with
  | nil => rfl
  | cons c cs ih =>
      rw [List.mem_cons, not_or] at h
      rw [List.cons_append, lex_cons, step, if_neg (Ne.symm h.1), ih h.2, List.nil_append]

theorem lex_remark (text : String) (rest : List Char) :
    lex .code (("# " ++ Text.oneLine text).toList ++ rest) = lex .comment rest := by
  have hline : '\n' ∉ (Text.oneLine text).toList :=
    fun hmem => Text.unbroken_iff.1 (Text.unbroken_oneLine text) _ hmem (by decide)
  have htext : ("# " ++ Text.oneLine text).toList ++ rest = '#' :: ' ' :: ((Text.oneLine text).toList ++ rest) := by
    simp
  have hsharp : step .code '#' = ([], .comment) := rfl
  have hblank : step .comment ' ' = ([], .comment) := rfl
  rw [htext, lex_cons, hsharp, lex_cons, hblank, List.nil_append, List.nil_append, lex_comment hline]

theorem tokens_comment (text : String) : tokens ("# " ++ Text.oneLine text) = [] := by
  have hremark := lex_remark text []
  rwa [List.append_nil] at hremark

theorem closed_comment (text : String) : Closed ("# " ++ Text.oneLine text ++ "\n") [] := by
  intro rest
  rw [String.toList_append, List.append_assoc, lex_remark]
  rfl

theorem closed_blanks (n : Nat) : Closed (String.ofList (List.replicate n ' ')) [] := by
  apply closed_of_run
  induction n with
  | zero => rfl
  | succ n ih => exact ih

theorem tokens_render (l : Line) : tokens l.render = tokens l.text := by
  rw [Line.render]
  split
  · rename_i hempty
    rw [hempty]
  · rw [tokens, String.toList_append, closed_blanks, List.nil_append, tokens]

/-- Code that ends with its last token, has of the watched names only these, and can be read throughout. -/
def Sealed (names : List String) (s : String) : Prop := ∃ ts, Closed s ts ∧ OnlyUses names ts ∧ .fault ∉ ts

section

variable {names more : List String} {s t : String}

theorem Sealed.weaken (h : Sealed names s) (hnames : names ⊆ more) : Sealed more s := by
  obtain ⟨ts, hts, huses, hfault⟩ := h
  exact ⟨ts, hts, huses.weaken hnames, hfault⟩

theorem Sealed.tokens (h : Sealed names s) : OnlyUses names (tokens s) ∧ .fault ∉ tokens s := by
  obtain ⟨ts, hts, huses⟩ := h
  rwa [hts.lexes.tokens]

theorem Sealed.append (hs : Sealed names s) (ht : Sealed names t) : Sealed names (s ++ t) := by
  obtain ⟨ts, hts, huses, hfault⟩ := hs
  obtain ⟨us, hus, huses', hfault'⟩ := ht
  exact ⟨_, hts.append hus, huses.append huses', List.not_mem_append hfault hfault'⟩

theorem Closed.is_sealed (h : Closed s []) : Sealed names s := ⟨[], h, onlyUses_nil, List.not_mem_nil⟩

theorem Made.line {needs : List String} {tight : Bool} {ts : List Token} (h : Made needs names tight s ts)
    (hnames : ∀ x ∈ names, IsName x) : Sealed needs (s ++ "\n") := by
  have hend : Closed "\n" [] := closed_of_run rfl
  refine ⟨_, (h.lexes hnames).1.closed_append hend ⟨'\n', by decide, rfl⟩, ?_⟩
  rw [List.append_nil]
  exact ⟨h.onlyUses hnames, h.fault_notMem⟩

end

theorem sealed_render {names : List String} {l : Line} (h : Sealed names (l.text ++ "\n")) :
    Sealed names (l.render ++ "\n") := by
  rw [Line.render]
  split
  · rename_i hempty
    rwa [hempty] at h
  · rw [String.append_assoc]
    exact (closed_blanks _).is_sealed.append h

theorem sealed_lines {names lines : List String} (hne : lines ≠ []) (h : ∀ line ∈ lines, Sealed names (line ++ "\n")) :
    Sealed names ("\n".intercalate lines ++ "\n") := by
  induction lines with
  | nil => exact absurd rfl hne
  | cons line lines ih =>
      obtain ⟨hline, hlines⟩ := List.forall_mem_cons.1 h
      cases lines with
      | nil => simpa using hline
      | cons next lines =>
          rw [String.intercalate_cons_cons, String.append_assoc]
          exact hline.append (ih (List.cons_ne_nil _ _) hlines)

end Script

theorem Stmt.Made.sealed_laid {needs names remarks : List String} {s : Stmt} (h : s.Made needs names remarks)
    (hnames : ∀ x ∈ names, Script.IsName x) (level : Int) :
    ∀ l ∈ s.laid level, Script.Sealed needs (l.text ++ "\n") := by
  intro l hl
  rcases h.laid level l hl with ⟨_, _, hcode⟩ | ⟨text, -, htext⟩
  · exact hcode.line hnames
  · rw [htext]
    exact (Script.closed_comment text).is_sealed

namespace Template

open Script

variable {b : BoundNode}

theorem of_lookup_standard {n : Node} {t : Template} (h : Registry.standard.lookup n = .ok t) :
    t.needs ⊆ n.category.fixedArgs ∧ (t.returnsResult = true ↔ n.category = .output) := by
  have hentries : ∀ entry ∈ Registry.standard.entries, entry.2.needs ⊆ entry.1.1.fixedArgs ∧
      (entry.2.returnsResult = true ↔ entry.1.1 = .output) := by decide
  obtain ⟨kind, hmem⟩ := Registry.mem_of_lookup_eq_ok h
  exact hentries _ hmem

def expressions (t : Template) (b : BoundNode) : List String :=
  if t.returnsResult = false ∧ b.node.outputs = [] then ["None"] else (t.body b).results.map Prod.snd

theorem results_ports (t : Template) (b : BoundNode) : (t.body b).results.map Prod.fst =
    if t.returnsResult then [PortKey.resultPort] else b.node.outputs.map Port.id := by
  cases t <;> simp [body, returnsResult, forwardBody, inputBody, pdfInputBody, pdfTextExtractorBody, textChunkerBody,
    embeddingGeneratorBody, vectorStoreBody, semanticSearchBody, languageModelBody, promptBuilderBody,
    conditionalBranchBody, dataMergerBody, jsonExportBody, BoundNode.allOutputs]

theorem returned_eq (t : Template) (b : BoundNode) : t.returned b = ", ".intercalate (t.expressions b) := by
  have hports := t.results_ports b
  unfold returned expressions
  extract_lets results
  cases hresult : t.returnsResult with
  | true =>
      rw [hresult, if_pos rfl] at hports
      obtain ⟨⟨port, expr⟩, hexpr, rfl⟩ := List.map_eq_singleton_iff.1 hports
      simp [results, hexpr]
  | false =>
      rw [hresult, if_neg (by decide)] at hports
      cases houtputs : b.node.outputs with
      | nil => simp
      | cons port rest =>
          -- Every port has one result, so looking up the ports in their order gives the results in theirs.
          have hlookup := map_lookup (hports ▸ b.node.outputs_nodup) "None"
          rw [hports, houtputs, List.map_map] at hlookup
          rw [if_neg (by simp), if_neg (by simp), ← hlookup]
          rfl

theorem phrase_expressions {t : Template} {needs names : List String} (hnone : "None" ∈ names)
    (h : ∀ result ∈ (t.body b).results, Phrase needs names result.2) :
    ∀ expr ∈ t.expressions b, Phrase needs names expr := by
  rw [expressions]
  split
  · exact List.forall_mem_singleton.2 (phrase_name hnone)
  · exact List.forall_mem_map.2 h

theorem expressions_ne_nil (t : Template) (b : BoundNode) : t.expressions b ≠ [] := by
  rw [expressions]
  split
  · exact List.cons_ne_nil _ _
  · rename_i hsome
    intro hnil
    have hports := t.results_ports b
    rw [List.map_eq_nil_iff.1 hnil, List.map_nil] at hports
    split at hports
    · cases hports
    · rename_i hresult
      exact hsome ⟨by simpa using hresult, List.map_eq_nil_iff.1 hports.symm⟩

theorem made_return (t : Template) (b : BoundNode) : ∃ tight ts,
    Made ("return" :: t.needs) b.operands tight s!"return {t.returned b}" ts ∧ Whole ['='] ts := by
  have hword : Made ("return" :: t.needs) b.operands true "return " [.name "return"] := .code rfl rfl
  have hbody : (t.body b).Made t.needs b.operands [] := t.made_body b
  obtain ⟨_, ts, hlist, hwhole⟩ := made_intercalate (phrase_expressions List.mem_cons_self hbody.results)
  rw [returned_eq]
  exact ⟨_, _, hword.append (hlist.weaken (List.subset_cons_self _ _)) rfl, Whole.append rfl hwhole⟩

end Template

end Dataflow
