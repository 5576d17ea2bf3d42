import Dataflow.Proofs.Docstring

namespace Dataflow

open Text

namespace Text

/-- The character is neither white space nor printable. -/
structure Hidden (c : Char) : Prop where
  blank : isBlank c = false
  printable : isPrintable c = false

theorem hidden_null : Hidden '\x00' := ⟨by decide, by decide⟩

namespace Hidden

variable {c : Char} (h : Hidden c)

include h

theorem not_mem {s : String} (hs : Printable s) : c ∉ s.toList :=
  fun hc => Bool.false_ne_true (h.printable.symm.trans (hs c hc))

theorem ne {d : Char} (hd : isPrintable d = true) : c ≠ d := by
  rintro rfl
  exact Bool.false_ne_true (h.printable.symm.trans hd)

theorem mem_append_right {s t : String} (hs : Printable s) : c ∈ (s ++ t).toList ↔ c ∈ t.toList := by
  rw [String.toList_append, List.mem_append, or_iff_right (h.not_mem hs)]

theorem mem_append_left {s t : String} (ht : Printable t) : c ∈ (s ++ t).toList ↔ c ∈ s.toList := by
  rw [String.toList_append, List.mem_append, or_iff_left (h.not_mem ht)]

theorem mem_oneLine_iff {s : String} : c ∈ (oneLine s).toList ↔ c ∈ s.toList := by
  constructor
  · intro hc
    rcases mem_oneLine hc with hspace | ⟨hc, -⟩
    · exact absurd hspace (h.ne (by decide))
    · exact hc
  · intro hc
    have hruns : c ∈ (runs (fun c => !isBlank c) s.toList).flatten := by
      rw [flatten_runs, List.mem_filter]
      exact ⟨hc, by simp [h.blank]⟩
    rw [oneLine, String.toList_intercalate]
    apply mem_intercalate_of_mem_flatten
    simpa [Function.comp_def] using hruns

end Hidden

end Text

/-- The character is in the name or in the description of the pipeline, or in the label or the id of a node. -/
def Pipeline.InFreeText (p : Pipeline) (c : Char) : Prop :=
  c ∈ p.name.toList ∨ (∃ text, p.description = .str text ∧ c ∈ text.toList) ∨
    ∃ n ∈ p.nodes, c ∈ n.label.toList ∨ c ∈ n.id.toList

namespace Script

variable {c : Char}

theorem mem_docEscape_of_mem {cs : List Char} (h : c ∈ cs) : c ∈ docEscape cs := by
  fun_induction docEscape cs with
  | case1 rest ih =>
      have hquotes : "\\\"\\\"\\\"".toList = ['\\', '\x22', '\\', '\x22', '\\', '\x22'] := by decide
      rw [hquotes, List.mem_append]
      simp only [List.mem_cons] at h ⊢
      tauto
  | case2 rest ih =>
      simp only [List.mem_cons] at h ⊢
      tauto
  | case3 d rest _ _ ih =>
      simp only [List.mem_cons] at h ⊢
      tauto
  | case4 => cases h

section

variable (h : Hidden c)

include h

theorem mem_docText_iff {s : String} : c ∈ (docText s).toList ↔ c ∈ s.toList := by
  rw [docText, String.toList_ofList, ← h.mem_oneLine_iff]
  constructor
  · intro hc
    exact (mem_docEscape hc).resolve_left (h.ne (by decide))
  · exact mem_docEscape_of_mem

theorem mem_render_comment_iff {level : Int} {remark : String} :
    c ∈ (Line.render ⟨level, "# " ++ oneLine remark⟩).toList ↔ c ∈ remark.toList := by
  have hne : ¬"# " ++ oneLine remark = "" := by simp
  rw [Line.render, if_neg hne, h.mem_append_right (printable_blanks _), h.mem_append_right (by decide),
    h.mem_oneLine_iff]

theorem mem_of_mem_remark {b : BoundNode} {remark : String} (hremark : remark ∈ b.remarks) (hc : c ∈ remark.toList) :
    c ∈ b.node.label.toList ∨ c ∈ b.node.id.toList := by
  have htitle : Printable b.node.category.title := by cases b.node.category <;> decide
  have hkind : Printable ((b.node.kind.map fun k => s!" / {k.tag}").getD "") := by
    cases b.node.kind with
    | none => decide
    | some k => cases k <;> decide
  rw [BoundNode.remarks, List.mem_pair] at hremark
  rcases hremark with rfl | rfl
  · have hlabel : c ∈ (b.node.label ++ " [" ++ b.node.category.title ++
        (b.node.kind.map fun k => s!" / {k.tag}").getD "" ++ "]").toList := hc
    rw [h.mem_append_left (by decide), h.mem_append_left hkind, h.mem_append_left htitle,
      h.mem_append_left (by decide)] at hlabel
    exact .inl hlabel
  · have hlabel : c ∈ (b.node.label ++ " (" ++ b.node.id ++ ")").toList := hc
    rwa [h.mem_append_left (by decide), String.toList_append, List.mem_append, h.mem_append_left (by decide)] at hlabel

theorem mem_display {v : Json} (hc : c ∈ v.display.toList) : ∃ text, v = .str text ∧ c ∈ text.toList := by
  unfold Json.display at hc
  split at hc
  · rename_i text
    exact ⟨text, rfl, hc⟩
  · exact absurd hc (h.not_mem (Json.printable_literalWith _ _))

theorem Writes.inFreeText {p : Pipeline} {timestamp line : String} {bound : List BoundNode}
    (hbound : ∀ b ∈ bound, b.node ∈ p.nodes) (ht : Printable timestamp) (hline : Writes p timestamp bound line)
    (hc : c ∈ line.toList) : p.InFreeText c := by
  cases hline with
  | code hcode => exact absurd hc (h.not_mem hcode)
  | @comment b remark hb hremark level =>
      have hmem := mem_of_mem_remark h hremark ((mem_render_comment_iff h).1 hc)
      exact .inr (.inr ⟨b.node, hbound b hb, hmem⟩)
  | name =>
      rw [h.mem_append_right (by decide), mem_docText_iff h] at hc
      exact .inl hc
  | description =>
      rw [mem_docText_iff h] at hc
      exact .inr (.inl (mem_display h hc))
  | timestamp =>
      rw [h.mem_append_right (by decide)] at hc
      exact absurd hc (h.not_mem ht)

end

theorem printable_moment (m : Moment) : Printable m.text := by
  have hdigit : ∀ c : Char, c.isDigit = true → isPrintable c = true :=
    fun c hc => isPrintable_of_isWord (isWord_of_isDigit hc).1
  exact List.all_eq_true.1 (all_moment hdigit (by decide) m)

end Script

namespace Pipeline

variable {p : Pipeline} {order : List String} {registry : Registry} {s : Settings} {timestamp : String} {e : Emission}
  {c : Char}

theorem mem_source_iff (h : (p.emit order registry s timestamp).value = .ok e) (hc : Hidden c) :
    c ∈ e.source.toList ↔ ∃ line ∈ e.lines, c ∈ line.toList := by
  have hnewline : c ≠ '\n' := by
    rintro rfl
    exact absurd hc.blank (by decide)
  have hne : e.lines ≠ [] := by
    obtain ⟨pairs, rfl, -⟩ := emit_pairs h
    exact List.cons_ne_nil _ _
  rw [Emission.source, toList_intercalate_newline hne]
  simp [hnewline]

theorem inFreeText_of_mem_source (h : (p.emit order registry s timestamp).value = .ok e) (ht : Printable timestamp)
    (hc : Hidden c) (hmem : c ∈ e.source.toList) : p.InFreeText c := by
  obtain ⟨line, hline, hmem⟩ := (mem_source_iff h hc).1 hmem
  have hlegible := emit_legible h
  have hbound : ∀ b ∈ e.bound, b.node ∈ p.nodes := fun b hb => (emit_nodes h).1 (List.mem_map_of_mem hb)
  obtain ⟨pairs, he, hpairs, -⟩ := emit_pairs h
  rw [← hpairs] at hlegible hbound
  rw [he] at hline
  exact (emission_writes hlegible line hline).inFreeText hc hbound ht hmem

theorem mem_source_of_inFreeText (h : (p.emit order registry s timestamp).value = .ok e) (hc : Hidden c)
    (hfree : p.InFreeText c) : c ∈ e.source.toList := by
  have hheader : ∀ line ∈ Script.header p timestamp, line ∈ e.lines := by
    obtain ⟨pairs, rfl, -⟩ := emit_pairs h
    intro line hline
    simp [emission, hline]
  rw [mem_source_iff h hc]
  rcases hfree with hname | ⟨text, htext, hmem⟩ | ⟨n, hn, hmem⟩
  · refine ⟨_, hheader ("Compiled pipeline: " ++ Script.docText p.name) ?_, ?_⟩
    · exact List.mem_cons_of_mem _ (List.mem_cons_of_mem _ List.mem_cons_self)
    · rwa [hc.mem_append_right (by decide), Script.mem_docText_iff hc]
  · have htruthy : p.description.truthy = true := by
      rw [htext, Json.truthy, bne_iff_ne]
      rintro rfl
      cases hmem
    refine ⟨_, hheader (Script.docText p.description.display) ?_, ?_⟩
    · simp [Script.header, htruthy]
    · rwa [Script.mem_docText_iff hc, htext]
  · obtain ⟨b, hb, rfl⟩ := List.mem_map.1 ((emit_nodes h).2 hn)
    have hline : Line.render ⟨1, "# " ++ oneLine s!"{b.node.label} ({b.node.id})"⟩ ∈ Script.callLines b := by
      rw [Script.callLines_eq, Stmt.laidAll_eq_flatMap]
      exact List.mem_cons_of_mem _ List.mem_cons_self
    have hremark : c ∈ (b.node.label ++ " (" ++ b.node.id ++ ")").toList := by
      rcases hmem with hmem | hmem <;> simp [hmem]
    obtain ⟨pairs, he, -⟩ := emit_pairs h
    rw [he] at hb ⊢
    exact ⟨_, (callLines_within hb).subset hline, (Script.mem_render_comment_iff hc).2 hremark⟩

/-- A script has a NUL character if and only if one is in the free text of the pipeline. No other part of the pipeline
can bring one in. -/
theorem emit_null_iff_inFreeText {m : Moment} (h : (p.emit order registry s m.text).value = .ok e) :
    '\x00' ∈ e.source.toList ↔ p.InFreeText '\x00' :=
  ⟨inFreeText_of_mem_source h (Script.printable_moment m) hidden_null, mem_source_of_inFreeText h hidden_null⟩

def labelled (label : String) (config : Json.Fields) : Pipeline where
  name := "labelled"
  nodes := [
    ⟨"in", .input, label, config, [], [⟨"text", .str "Text", .text, true, .str ""⟩], none, .str "", List.nodup_nil,
      List.nodup_singleton "text"⟩,
    ⟨"out", .output, "Out", [], [⟨"text", .str "Text", .text, true, .str ""⟩], [], none, .str "",
      List.nodup_singleton "text", List.nodup_nil⟩]
  edges := [⟨"e1", "in", "text", "out", "text", .text⟩]
  nodes_nodup := (by decide : ["in", "out"].Nodup)

def secondOfJanuary : Moment := ⟨2024, 1, 2, 3, 4, 5, 0, some 0⟩

/-- A NUL character in a configuration is not in the script. -/
theorem labelled_without_null : ∃ e, ((labelled "In" [("key\x00", .str "\x00")]).emit ["in", "out"] .standard {}
    secondOfJanuary.text).value = .ok e ∧ '\x00' ∉ e.source.toList := by
  have hemit : ∃ e, ((labelled "In" [("key\x00", .str "\x00")]).emit ["in", "out"] .standard {}
    secondOfJanuary.text).value = .ok e ∧ e.bound.length = 2 := Steps.exists_ok_of_any (by decide)
  obtain ⟨e, he, -⟩ := hemit
  refine ⟨e, he, (emit_null_iff_inFreeText he).not.2 ?_⟩
  simp [InFreeText, labelled]

/-- A NUL character in a label is in the script. -/
theorem labelled_with_null : ∃ e, ((labelled "I\x00n" []).emit ["in", "out"] .standard {}
    secondOfJanuary.text).value = .ok e ∧ '\x00' ∈ e.source.toList := by
  have hemit : ∃ e, ((labelled "I\x00n" []).emit ["in", "out"] .standard {} secondOfJanuary.text).value = .ok e ∧
    e.bound.length = 2 := Steps.exists_ok_of_any (by decide)
  obtain ⟨e, he, -⟩ := hemit
  refine ⟨e, he, mem_source_of_inFreeText he hidden_null (.inr (.inr ?_))⟩
  simp [labelled]

end Pipeline

end Dataflow
