import Dataflow.Proofs.Legible

namespace Dataflow

open Text

namespace Script

/-- What a line of a script is: printable text, a comment on a node, or a part of the header with free text. -/
inductive Writes (p : Pipeline) (timestamp : String) (bound : List BoundNode) : String → Prop
  | code {line : String} (h : Printable line) : Writes p timestamp bound line
  | comment {b : BoundNode} {remark : String} (hb : b ∈ bound) (h : remark ∈ b.remarks) (level : Int) :
      Writes p timestamp bound (Line.render ⟨level, "# " ++ oneLine remark⟩)
  | name : Writes p timestamp bound ("Compiled pipeline: " ++ docText p.name)
  | description : Writes p timestamp bound (docText p.description.display)
  | timestamp : Writes p timestamp bound (timestampMark ++ timestamp)

variable {p : Pipeline} {timestamp : String} {bound : List BoundNode}

theorem printable_blanks (n : Nat) : Printable (String.ofList (List.replicate n ' ')) := by
  rw [printable_ofList]
  intro c hc
  rw [List.eq_of_mem_replicate hc]
  decide

theorem printable_render {l : Line} (h : Printable l.text) : Printable l.render := by
  unfold Line.render
  split
  · decide
  · exact printable_append.2 ⟨printable_blanks _, h⟩

theorem Writes.render {b : BoundNode} (hb : b ∈ bound) {l : Line} (h : l.Tells b.remarks) :
    Writes p timestamp bound l.render := by
  rcases h with h | ⟨remark, hremark, htext⟩
  · exact .code (printable_render h)
  · obtain ⟨level, text⟩ := l
    cases htext
    exact .comment hb hremark level

theorem writes_header (p : Pipeline) (timestamp : String) (bound : List BoundNode) :
    ∀ line ∈ header p timestamp, Writes p timestamp bound line := by
  have hcount : ∀ (label : String) (n : Nat), Printable label → Printable (label ++ toString n) :=
    fun label n h => printable_append.2 ⟨h, printable_toString_nat n⟩
  simp only [header, List.forall_mem_append]
  refine ⟨⟨?_, ?_⟩, ?_⟩
  · simp only [List.forall_mem_cons]
    exact ⟨.code (by decide), .code (by decide), .name, .code (hcount _ _ (by decide)),
      .code (hcount _ _ (by decide)), .timestamp, by simp⟩
  · split
    · simp only [List.forall_mem_cons]
      exact ⟨.code (by decide), .description, by simp⟩
    · simp
  · intro line hline
    have hprintable : ∀ line ∈ ["", "This file was produced by pipegraph.compiler.",
        "Do not edit by hand - re-run compile_pipeline() to regenerate.", "\"\"\""], Printable line := by decide
    exact .code (hprintable line hline)

theorem printable_imports (usesRuntime : Bool) (s : Settings) : ∀ line ∈ imports usesRuntime s, Printable line := by
  have hmarks : Printable "from " ∧ Printable " import " ∧ Printable "" := by decide
  have hmodule := printable_of_isDottedIdentifier s.module_dotted
  have hclass := printable_of_isIdentifier s.class_identifier
  rw [imports, List.forall_mem_append]
  refine ⟨by decide, ?_⟩
  split
  · simp [hmarks, hmodule, hclass]
  · simp

theorem printable_nodeConfigs (bound : List BoundNode) : ∀ line ∈ nodeConfigs bound, Printable line := by
  have hmarks : Printable "    " ∧ Printable ": " ∧ Printable "," := by decide
  simp only [nodeConfigs, List.forall_mem_append, List.forall_mem_map]
  refine ⟨⟨by decide, ?_⟩, by decide⟩
  intro b _
  have hconfig : Printable (Json.obj b.node.config).literal := Json.printable_literalWith _ _
  simp [hmarks, printable_quoted, hconfig]

section

variable (h : ∀ b ∈ bound, b.Every Printable)

include h

theorem writes_procedures {pairs : List (BoundNode × Template)} (hpairs : ∀ b ∈ pairs, b.1 ∈ bound) :
    ∀ line ∈ procedures pairs, Writes p timestamp bound line := by
  intro line hline
  rw [procedures_eq] at hline
  obtain ⟨b, hb, hline⟩ := List.mem_flatMap.1 hline
  rcases List.mem_append.1 hline with hline | hline
  · obtain ⟨l, hl, rfl⟩ := List.mem_map.1 hline
    exact .render (hpairs b hb) ((h b.1 (hpairs b hb)).tells_procedure b.2 l hl)
  · have hprintable : ∀ line ∈ ["", ""], Printable line := by decide
    exact .code (hprintable line hline)

theorem printable_returnLines : ∀ l ∈ returnLines bound, Printable l.text := by
  have hmarks : Printable ": " ∧ Printable "," := by decide
  have hresults : ∀ entry ∈ results bound, Printable entry.2 := by
    intro entry hentry
    obtain ⟨b, hb, hentry⟩ := List.mem_filterMap.1 hentry
    obtain ⟨var, hvar, rfl⟩ := Option.map_eq_some_iff.1 hentry
    exact (h b hb).resultVar var hvar
  unfold returnLines
  split
  · decide
  · simp only [List.forall_mem_append, List.forall_mem_cons, List.forall_mem_map]
    refine ⟨⟨by decide, ?_⟩, by decide, by simp⟩
    intro entry hentry
    simpa [hmarks, printable_quoted] using hresults entry hentry

theorem writes_runLines (usesRuntime : Bool) (s : Settings) :
    ∀ l ∈ runLines bound usesRuntime s, Writes p timestamp bound l.render := by
  have hclass := printable_of_isIdentifier s.class_identifier
  have hmarks : Printable "rag = " ∧ Printable ".get_instance()" := by decide
  have hcode : ∀ l : Line, Printable l.text → Writes p timestamp bound l.render := fun _ h => .code (printable_render h)
  simp only [runLines, runOpening, List.forall_mem_append]
  refine ⟨⟨⟨?_, ?_⟩, ?_⟩, List.forall_mem_cons.2 ⟨hcode _ (by decide), ?_⟩⟩
  · simp only [List.forall_mem_cons]
    exact ⟨hcode _ (printable_of_all rfl), hcode _ (printable_of_all rfl),
      hcode _ (by decide), by simp⟩
  · split
    · exact List.forall_mem_singleton.2 (hcode _ (by simp [hmarks, hclass]))
    · simp
  · intro l hl
    obtain ⟨b, hb, hl⟩ := List.mem_flatMap.1 hl
    rcases List.mem_cons.1 hl with rfl | hl
    · exact hcode _ (by decide)
    · exact .render hb ((h b hb).tells_call l hl)
  · exact fun l hl => hcode l (printable_returnLines h l hl)

end

theorem mem_docEscape {cs : List Char} {c : Char} (h : c ∈ docEscape cs) : c = '\\' ∨ c ∈ cs := by
  fun_induction docEscape cs with
  | case1 rest ih =>
      have hquotes : "\\\"\\\"\\\"".toList = ['\\', '\x22', '\\', '\x22', '\\', '\x22'] := by decide
      rw [hquotes, List.mem_append] at h
      rcases h with h | h
      · simp only [List.mem_cons, List.not_mem_nil] at h ⊢
        tauto
      · rcases ih h with h | h
        · exact .inl h
        · exact .inr (by simp [h])
  | case2 rest ih =>
      simp only [List.mem_cons] at h ⊢
      tauto
  | case3 d rest _ _ ih =>
      simp only [List.mem_cons] at h ⊢
      tauto
  | case4 => cases h

theorem unbroken_docText (s : String) : Unbroken (docText s) := by
  intro c hc
  rw [docText, String.toList_ofList] at hc
  rcases mem_docEscape hc with rfl | hc
  · decide
  · exact unbroken_oneLine s c hc

theorem Writes.unbroken {line : String} (h : Writes p timestamp bound line) (ht : Unbroken timestamp) :
    Unbroken line := by
  cases h with
  | code h => exact unbroken_of_printable h
  | @comment b remark hb h level =>
      have hcomment : Unbroken ("# " ++ oneLine remark) := unbroken_append.2 ⟨by decide, unbroken_oneLine remark⟩
      unfold Line.render
      split
      · decide
      · exact unbroken_append.2 ⟨unbroken_of_printable (printable_blanks _), hcomment⟩
  | name => exact unbroken_append.2 ⟨by decide, unbroken_docText _⟩
  | description => exact unbroken_docText _
  | timestamp => exact unbroken_append.2 ⟨by decide, ht⟩

end Script

namespace Pipeline

variable {p : Pipeline} {order : List String} {registry : Registry} {s : Settings} {timestamp : String} {e : Emission}

theorem emission_writes {pairs : List (BoundNode × Template)} (h : ∀ b ∈ pairs.map Prod.fst, b.Every Printable) :
    ∀ line ∈ (p.emission s timestamp pairs).lines, Script.Writes p timestamp (pairs.map Prod.fst) line := by
  have hgap : ∀ line ∈ ["", ""], Printable line := by decide
  have hempty : Printable "" := by decide
  have hheading : Printable Script.proceduresHeading :=
    printable_append.2 ⟨by decide +kernel, printable_of_all (by decide +kernel)⟩
  have hheadings : ∀ line ∈ ["", "", Script.proceduresHeading, ""], Printable line := by simp [hempty, hheading]
  have hentry : ∀ line ∈ Script.entryPoint, Printable line := by
    simpa [Script.entryPoint] using by and_intros <;> exact printable_of_all rfl
  simp only [emission, List.forall_mem_append]
  refine ⟨⟨⟨⟨⟨⟨⟨⟨?_, ?_⟩, ?_⟩, ?_⟩, ?_⟩, ?_⟩, ?_⟩, ?_⟩, ?_⟩
  · exact Script.writes_header p timestamp _
  · exact fun line hline => .code (Script.printable_imports _ s line hline)
  · exact fun line hline => .code (hgap line hline)
  · exact fun line hline => .code (Script.printable_nodeConfigs _ line hline)
  · exact fun line hline => .code (hheadings line hline)
  · exact Script.writes_procedures h fun b hb => List.mem_map_of_mem hb
  · rw [Script.runFunction_eq]
    exact List.forall_mem_map.2 (Script.writes_runLines h _ s)
  · exact fun line hline => .code (hgap line hline)
  · exact fun line hline => .code (hentry line hline)

/-- No free text breaks a line: each line that a script is joined from stands on one line, and these are the lines of
the whole text. -/
theorem emit_splitLines (h : (p.emit order registry s timestamp).value = .ok e) (ht : Unbroken timestamp) :
    (∀ line ∈ e.lines, Unbroken line) ∧ splitLines e.source = e.lines := by
  have hlegible := emit_legible h
  obtain ⟨-, templates, table, -, -, rfl, -⟩ := emit_eq_emission h
  have hunbroken : ∀ line ∈ (p.emission s timestamp _).lines, Unbroken line :=
    fun line hline => (emission_writes hlegible line hline).unbroken ht
  exact ⟨hunbroken, splitLines_of_unbroken (List.cons_ne_nil _ _) hunbroken⟩

def broken : Pipeline where
  name := "a\r\nimport os"
  description := .str "b\x0bimport os"
  nodes := [
    ⟨"i\nn", .input, "In\u2028import os", [("key\n", .str "c\x0cimport os")], [],
      [⟨"text\u0085", .null, .text, true, .null⟩], none, .null, List.nodup_nil, List.nodup_singleton "text\u0085"⟩,
    ⟨"out\r", .output, "Out\x1cimport os", [], [⟨"t\x1de", .null, .text, true, .null⟩], [], none, .null,
      List.nodup_singleton "t\x1de", List.nodup_nil⟩]
  edges := [⟨"e\n1", "i\nn", "text\u0085", "out\r", "t\x1de", .text⟩]

theorem broken_splitLines : ∃ e, (broken.emit ["i\nn", "out\r"] .standard {} "now").value = .ok e ∧
    e.lines.length = 63 ∧ Unbroken "now" ∧ (∀ line ∈ e.lines, Unbroken line) ∧ splitLines e.source = e.lines := by
  have hemit : ∃ e, (broken.emit ["i\nn", "out\r"] .standard {} "now").value = .ok e ∧ e.lines.length = 63 :=
    Steps.exists_ok_of_any (by decide)
  obtain ⟨e, he, hlength⟩ := hemit
  exact ⟨e, he, hlength, by decide, emit_splitLines he (by decide)⟩

end Pipeline

end Dataflow
