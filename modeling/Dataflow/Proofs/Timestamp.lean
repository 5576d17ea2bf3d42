import Dataflow.Proofs.Lines

namespace Dataflow

open Text

namespace Script

def blanked : List Char := (timestampMark ++ "<timestamp>").toList

def Marked (line : List Char) : Prop := timestampMark.toList <+: line

theorem marked_iff {line : List Char} : timestampMark.toList.isPrefixOf line = true ↔ Marked line :=
  List.isPrefixOf_iff_prefix

theorem marked_blanked : Marked blanked := by
  rw [blanked, String.toList_append]
  exact List.prefix_append _ _

namespace stripTimestamp

theorem blankFirst_of_marked {line : List Char} (h : Marked line) (rest : List (List Char)) :
    blankFirst (line :: rest) = blanked :: rest := by
  rw [blankFirst, if_pos (marked_iff.2 h)]
  rfl

theorem blankFirst_of_not_marked {line : List Char} (h : ¬Marked line) (rest : List (List Char)) :
    blankFirst (line :: rest) = line :: blankFirst rest := by
  rw [blankFirst, if_neg (mt marked_iff.1 h)]

theorem blankFirst_append {front : List (List Char)} (h : ∀ line ∈ front, ¬Marked line) (lines : List (List Char)) :
    blankFirst (front ++ lines) = front ++ blankFirst lines := by
  induction front with
  | nil => rfl
  | cons line front ih =>
      obtain ⟨hline, hfront⟩ := List.forall_mem_cons.1 h
      rw [List.cons_append, blankFirst_of_not_marked hline, ih hfront, List.cons_append]

theorem blankFirst_blankFirst (lines : List (List Char)) : blankFirst (blankFirst lines) = blankFirst lines := by
  induction lines with
  | nil => rfl
  | cons line rest ih =>
      by_cases hline : Marked line
      · rw [blankFirst_of_marked hline, blankFirst_of_marked marked_blanked]
      · rw [blankFirst_of_not_marked hline, blankFirst_of_not_marked hline, ih]

theorem mem_blankFirst {lines : List (List Char)} {line : List Char} (h : line ∈ blankFirst lines) :
    line = blanked ∨ line ∈ lines := by
  induction lines with
  | nil => cases h
  | cons first rest ih =>
      by_cases hfirst : Marked first
      · rw [blankFirst_of_marked hfirst, List.mem_cons] at h
        exact h.imp_right (List.mem_cons_of_mem first)
      · rw [blankFirst_of_not_marked hfirst, List.mem_cons] at h
        rcases h with rfl | h
        · exact .inr List.mem_cons_self
        · exact (ih h).imp_right (List.mem_cons_of_mem first)

theorem blankFirst_ne_nil {lines : List (List Char)} (h : lines ≠ []) : blankFirst lines ≠ [] := by
  obtain ⟨line, rest, rfl⟩ := List.exists_cons_of_ne_nil h
  rw [blankFirst]
  split <;> exact List.cons_ne_nil _ _

end stripTimestamp

theorem splitAt_stripTimestamp (source : String) :
    splitAt '\n' (stripTimestamp source).toList = stripTimestamp.blankFirst (splitAt '\n' source.toList) := by
  have hblanked : '\n' ∉ blanked := by decide
  rw [stripTimestamp, String.toList_ofList, splitAt_eq_splitOn, List.splitOn_intercalate]
  · intro line hline
    rcases stripTimestamp.mem_blankFirst hline with rfl | hline
    · exact hblanked
    · exact not_mem_of_mem_splitAt hline
  · refine stripTimestamp.blankFirst_ne_nil ?_
    rw [splitAt_eq_splitOn]
    exact List.splitOn_ne_nil _ _

theorem stripTimestamp_stripTimestamp (source : String) :
    stripTimestamp (stripTimestamp source) = stripTimestamp source := by
  rw [stripTimestamp, splitAt_stripTimestamp, stripTimestamp.blankFirst_blankFirst, ← stripTimestamp]

def front (p : Pipeline) : List String := [
  "#!/usr/bin/env python3",
  "\"\"\"",
  s!"Compiled pipeline: {docText p.name}",
  s!"Nodes: {p.nodes.length}",
  s!"Edges: {p.edges.length}"]

theorem newline_not_mem_front (p : Pipeline) : ∀ line ∈ front p, '\n' ∉ line.toList := by
  have hunbroken : ∀ {line : String}, Unbroken line → '\n' ∉ line.toList :=
    fun h hmem => unbroken_iff.1 h '\n' hmem (by decide)
  have hcount : ∀ (label : String) (n : Nat), Unbroken label → Unbroken (label ++ toString n) :=
    fun label n h => unbroken_append.2 ⟨h, unbroken_of_printable (printable_toString_nat n)⟩
  simp only [front, List.forall_mem_cons]
  refine ⟨by decide, by decide, ?_, ?_, ?_, by simp⟩
  · exact hunbroken (unbroken_append.2 ⟨by decide, unbroken_docText p.name⟩)
  · exact hunbroken (hcount _ _ (by decide))
  · exact hunbroken (hcount _ _ (by decide))

theorem not_marked_front (p : Pipeline) : ∀ line ∈ front p, ¬Marked line.toList := by
  have hmark : timestampMark.toList.head? = some 'G' := by decide
  -- None of the lines starts with the first letter of the mark.
  have hstart : ∀ {line : List Char} {c : Char}, line.head? = some c → c ≠ 'G' → ¬Marked line := by
    rintro line c hline hc ⟨rest, rfl⟩
    rw [List.head?_append, hmark] at hline
    exact hc (Option.some.inj hline).symm
  have hlabel : ∀ (label more : String) {c : Char}, label.toList.head? = some c →
      (label ++ more).toList.head? = some c := by
    intro label more c hlabel
    rw [String.toList_append, List.head?_append, hlabel, Option.some_or]
  simp only [front, List.forall_mem_cons]
  refine ⟨hstart (c := '#') (by decide) (by decide), hstart (c := '\x22') (by decide) (by decide), ?_, ?_, ?_, by simp⟩
  · exact hstart (hlabel "Compiled pipeline: " _ (c := 'C') (by decide)) (by decide)
  · exact hstart (hlabel "Nodes: " _ (c := 'N') (by decide)) (by decide)
  · exact hstart (hlabel "Edges: " _ (c := 'E') (by decide)) (by decide)

end Script

def Emission.rows (e : Emission) : List (List Char) := splitAt '\n' e.source.toList

namespace Pipeline

variable {τ : Type} [Strategy τ] {p : Pipeline}

theorem emission_lines (p : Pipeline) (s : Settings) (pairs : List (BoundNode × τ)) :
    ∃ back, ∀ timestamp, (p.emission s timestamp pairs).lines =
      Script.front p ++ (Script.timestampMark ++ timestamp) :: back :=
  ⟨(p.emission s "" pairs).lines.drop 6, fun _ => rfl⟩

theorem splitAt_source (p : Pipeline) (s : Settings) (pairs : List (BoundNode × τ)) :
    ∃ rest, ∀ timestamp : String, '\n' ∉ timestamp.toList →
      splitAt '\n' (p.emission s timestamp pairs).source.toList =
        (Script.front p).map String.toList ++ (Script.timestampMark ++ timestamp).toList :: rest := by
  obtain ⟨back, hlines⟩ := emission_lines p s pairs
  refine ⟨splitAt '\n' (back.flatMap fun line => line.toList ++ ['\n']), fun timestamp ht => ?_⟩
  have hmark : '\n' ∉ Script.timestampMark.toList := by decide
  have hparts : ∀ part ∈ (Script.front p).map String.toList ++ [(Script.timestampMark ++ timestamp).toList],
      '\n' ∉ part := by
    simp only [List.forall_mem_append, List.forall_mem_map, List.forall_mem_singleton]
    exact ⟨Script.newline_not_mem_front p, by simp [hmark, ht]⟩
  have hsource : (p.emission s timestamp pairs).source.toList =
      ((Script.front p).map String.toList ++ [(Script.timestampMark ++ timestamp).toList]).flatMap (· ++ ['\n']) ++
        back.flatMap fun line => line.toList ++ ['\n'] := by
    rw [Emission.source, hlines, toList_intercalate_newline (by simp)]
    simp [List.flatMap_map]
  rw [hsource, splitAt_flatMap hparts, List.append_assoc, List.singleton_append]

omit [Strategy τ] in
theorem stripTimestamp_of_splitAt {source timestamp : String} {rest : List (List Char)}
    (h : splitAt '\n' source.toList =
      (Script.front p).map String.toList ++ (Script.timestampMark ++ timestamp).toList :: rest) :
    Script.stripTimestamp source =
      String.ofList (['\n'].intercalate ((Script.front p).map String.toList ++ Script.blanked :: rest)) := by
  have hmarked : Script.Marked (Script.timestampMark ++ timestamp).toList := by
    rw [String.toList_append]
    exact List.prefix_append _ _
  have hfront : ∀ line ∈ (Script.front p).map String.toList, ¬Script.Marked line :=
    List.forall_mem_map.2 (Script.not_marked_front p)
  rw [Script.stripTimestamp, h, Script.stripTimestamp.blankFirst_append hfront,
    Script.stripTimestamp.blankFirst_of_marked hmarked]

/-- Two scripts of a pipeline that were emitted at different times differ on their sixth line only, and not at all once
their timestamps are stripped. Stripping a text again changes nothing. -/
theorem emit_differs_at_timestamp :
    (∀ {τ : Type} [Strategy τ] (p : Pipeline) (order : List String) (registry : Registry τ) (s : Settings)
      (t t' : String) (e : Emission), (p.emit order registry s t).value = .ok e → '\n' ∉ t.toList → '\n' ∉ t'.toList →
      ∃ e', (p.emit order registry s t').value = .ok e' ∧ e.rows.length = e'.rows.length ∧
        (∀ i, i ≠ 5 → e.rows[i]? = e'.rows[i]?) ∧
        e.rows[5]? = some (Script.timestampMark ++ t).toList ∧ e'.rows[5]? = some (Script.timestampMark ++ t').toList ∧
        Script.stripTimestamp e.source = Script.stripTimestamp e'.source) ∧
    ∀ source, Script.stripTimestamp (Script.stripTimestamp source) = Script.stripTimestamp source := by
  refine ⟨?_, Script.stripTimestamp_stripTimestamp⟩
  intro _ _ p order registry s t t' e h ht ht'
  obtain ⟨hperm, templates, table, htemplates, hbindings, rfl, -⟩ := emit_eq_emission h
  -- Both texts have the same lines before the timestamp, and the same text after it.
  obtain ⟨rest, hrows⟩ := splitAt_source p s ((p.bindings s order).bound.zip (templates.map Prod.snd))
  refine ⟨_, emit_of_bindings hperm htemplates hbindings, ?_⟩
  have hfive : ((Script.front p).map String.toList).length = 5 := rfl
  rw [Emission.rows, Emission.rows, hrows t ht, hrows t' ht', stripTimestamp_of_splitAt (hrows t ht),
    stripTimestamp_of_splitAt (hrows t' ht')]
  generalize (Script.front p).map String.toList = front at hfive
  refine ⟨by simp, ?_, by simp [hfive], by simp [hfive], rfl⟩
  intro i hi
  rcases Nat.lt_or_gt_of_ne hi with hlt | hgt
  · rw [List.getElem?_append_left (by omega), List.getElem?_append_left (by omega)]
  · obtain ⟨k, hk⟩ : ∃ k, i - front.length = k + 1 := ⟨i - 6, by omega⟩
    rw [List.getElem?_append_right (by omega), List.getElem?_append_right (by omega), hk, List.getElem?_cons_succ,
      List.getElem?_cons_succ]

/-- A pipeline with the mark of the timestamp in its name and its description. -/
def dated : Pipeline where
  name := "noon\nGenerated at: noon"
  description := .str "Generated at: noon"
  nodes := [
    ⟨"in", .input, "In", [], [], [textPort], none, .null, List.nodup_nil, List.nodup_singleton "text"⟩,
    ⟨"out", .output, "Out", [], [textPort], [], none, .null, List.nodup_singleton "text", List.nodup_nil⟩]
  edges := [⟨"e1", "in", "text", "out", "text", .text⟩]

theorem dated_differs_at_timestamp : ∃ e e', (dated.emit ["in", "out"] .standard {} "now").value = .ok e ∧
    "Generated at: noon" ∈ e.lines ∧ (dated.emit ["in", "out"] .standard {} "then").value = .ok e' ∧
    e.rows.length = e'.rows.length ∧ (∀ i, i ≠ 5 → e.rows[i]? = e'.rows[i]?) ∧
    e.rows[5]? = some "Generated at: now".toList ∧ e'.rows[5]? = some "Generated at: then".toList ∧
    Script.stripTimestamp e.source = Script.stripTimestamp e'.source := by
  have hemit : ∃ e, (dated.emit ["in", "out"] .standard {} "now").value = .ok e ∧ "Generated at: noon" ∈ e.lines :=
    Steps.exists_ok_of_any (by decide +kernel)
  obtain ⟨e, he, hline⟩ := hemit
  obtain ⟨e', he', hrest⟩ := emit_differs_at_timestamp.1 dated _ _ _ "now" "then" e he (by decide) (by decide)
  exact ⟨e, e', he, hline, he', hrest⟩

end Pipeline

end Dataflow
