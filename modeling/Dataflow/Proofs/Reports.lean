import Dataflow.Proofs.Diagnosis
import Mathlib.Data.List.Forall2

namespace Dataflow

theorem forall₂_filter_filterMap {α β : Type} {f : α → Option β} {bad : α → Bool} {R : α → β → Prop}
    (hgood : ∀ a, f a = none → bad a = false) (hbad : ∀ a b, f a = some b → bad a = true ∧ R a b) (l : List α) :
    List.Forall₂ R (l.filter bad) (l.filterMap f) := by
  induction l with
  | nil => exact .nil
  | cons a l ih =>
      cases h : f a with
      | none =>
          rw [List.filterMap_cons_none h, List.filter_cons_of_neg (by simp [hgood a h])]
          exact ih
      | some b =>
          obtain ⟨ha, hb⟩ := hbad a b h
          rw [List.filterMap_cons_some h, List.filter_cons_of_pos ha]
          exact .cons hb ih

def Edge.untyped (e : Edge) : Edge := { e with dataType := .text }

namespace Pipeline

variable {p : Pipeline} {rules : FeedRules} {e : Edge} {side : Side} {node port : String}

def Declares (p : Pipeline) (side : Side) (node port : String) : Prop := ∃ n q, p.Names side node port n q

theorem declares_iff_isSome :
    ((p.node? node).bind (·.port? side port)).isSome ↔ p.Declares side node port := by
  rw [Option.isSome_iff_exists]
  constructor
  · rintro ⟨q, h⟩
    obtain ⟨n, hn, hq⟩ := Option.bind_eq_some_iff.1 h
    obtain ⟨hn, hid⟩ := node?_eq_some.1 hn
    obtain ⟨hq, hport⟩ := Node.port?_eq_some.1 hq
    exact ⟨n, q, hn, hid, hq, hport⟩
  · rintro ⟨n, q, h⟩
    refine ⟨q, Option.bind_eq_some_iff.2 ⟨n, ?_, ?_⟩⟩
    · exact node?_eq_some.2 ⟨h.mem_nodes, h.node_eq⟩
    · exact Node.port?_eq_some.2 ⟨h.mem_ports, h.port_eq⟩

instance : Decidable (p.Declares side node port) := decidable_of_iff _ declares_iff_isSome

instance : Decidable (p.Resolves e) :=
  inferInstanceAs (Decidable (p.Declares .output e.sourceNode e.sourcePort ∧
    p.Declares .input e.targetNode e.targetPort))

theorem Names.unique {n m : Node} {q r : Port} (h : p.Names side node port n q) (h' : p.Names side node port m r) :
    n = m ∧ q = r := by
  have hnode : n = m := by
    apply Option.some.inj
    rw [← node?_eq_some.2 ⟨h.mem_nodes, h.node_eq⟩, node?_eq_some.2 ⟨h'.mem_nodes, h'.node_eq⟩]
  subst hnode
  refine ⟨rfl, Option.some.inj ?_⟩
  rw [← Node.port?_eq_some.2 ⟨h.mem_ports, h.port_eq⟩, Node.port?_eq_some.2 ⟨h'.mem_ports, h'.port_eq⟩]

/-- The edge joins two ports whose types, as they are now, may not feed each other. -/
def Mismatched (p : Pipeline) (rules : FeedRules) (e : Edge) : Prop :=
  ∃ source out target into, p.Names .output e.sourceNode e.sourcePort source out ∧
    p.Names .input e.targetNode e.targetPort target into ∧
    out.dataType ≠ into.dataType ∧ into.dataType ∉ rules.targets out.dataType

theorem mismatched_iff : p.Resolves e ∧ ¬p.Fits rules e ↔ p.Mismatched rules e := by
  constructor
  · rintro ⟨⟨⟨source, out, hs⟩, target, into, ht⟩, hfits⟩
    refine ⟨source, out, target, into, hs, ht, ?_, ?_⟩
    · exact fun he => hfits ⟨source, out, target, into, hs, ht, .inl he⟩
    · exact fun hmem => hfits ⟨source, out, target, into, hs, ht, .inr hmem⟩
  · rintro ⟨source, out, target, into, hs, ht, hne, hnot⟩
    refine ⟨⟨⟨source, out, hs⟩, target, into, ht⟩, ?_⟩
    rintro ⟨source', out', target', into', hs', ht', hallowed⟩
    obtain ⟨-, rfl⟩ := hs.unique hs'
    obtain ⟨-, rfl⟩ := ht.unique ht'
    exact hallowed.elim hne hnot

instance : Decidable (p.Fits rules e) := decidable_of_iff _ edgeProblem?_eq_none

instance : Decidable (p.Mismatched rules e) := decidable_of_iff _ mismatched_iff

/-- What an end of an edge lacks, if anything: its node, or only the port. -/
def missing (p : Pipeline) (side : Side) (node port : String) (noNode noPort : LooseEnd) : List LooseEnd :=
  if p.Declares side node port then [] else if node ∈ p.ids then [noPort] else [noNode]

def looseEnds (p : Pipeline) (e : Edge) : List LooseEnd :=
  p.missing .output e.sourceNode e.sourcePort (.noSourceNode e.sourceNode) (.noSourcePort e.sourceNode e.sourcePort) ++
    p.missing .input e.targetNode e.targetPort (.noTargetNode e.targetNode) (.noTargetPort e.targetNode e.targetPort)

/-- The report on an edge that is not in order. -/
structure Reports (p : Pipeline) (rules : FeedRules) (e : Edge) (d : Diagnostic) : Prop where
  edge : d.edge = some e.id
  reference : d.kind = .reference ↔ ¬p.Resolves e
  typing : d.kind = .typing ↔ p.Mismatched rules e
  ends : ¬p.Resolves e → d.message =
    s!"Invalid connection '{e.id}' ({e.sourceNode}.{e.sourcePort} -> {e.targetNode}.{e.targetPort}): " ++
      "; ".intercalate ((p.looseEnds e).map LooseEnd.message)
  types : ∀ source out target into, p.Names .output e.sourceNode e.sourcePort source out →
    p.Names .input e.targetNode e.targetPort target into → d.message =
      s!"Incompatible data types: {out.dataType.tag} -> {into.dataType.tag} ({source.label} -> {target.label})"

theorem missing_of_declares {noNode noPort : LooseEnd} (h : p.Declares side node port) :
    p.missing side node port noNode noPort = [] :=
  if_pos h

theorem missing_of_port_lookup {noNode noPort l : LooseEnd}
    (h : (match p.node? node with
      | none => .error noNode
      | some n =>
        match n.port? side port with
        | none => .error noPort
        | some q => .ok (n, q) : Except LooseEnd (Node × Port)) = .error l) :
    p.missing side node port noNode noPort = [l] := by
  split at h
  · rename_i hn
    cases h
    have hids : node ∉ p.ids := by
      intro hmem
      obtain ⟨n, hmem, hid⟩ := mem_ids.1 hmem
      cases hn.symm.trans (node?_eq_some.2 ⟨hmem, hid⟩)
    have hnot : ¬p.Declares side node port := by
      rintro ⟨n, q, h⟩
      exact hids (mem_ids.2 ⟨n, h.mem_nodes, h.node_eq⟩)
    rw [missing, if_neg hnot, if_neg hids]
  · rename_i n hn
    split at h
    · rename_i hq
      cases h
      obtain ⟨hmem, hid⟩ := node?_eq_some.1 hn
      have hnot : ¬p.Declares side node port := by
        rw [← declares_iff_isSome, hn]
        simp [hq]
      rw [missing, if_neg hnot, if_pos (mem_ids.2 ⟨n, hmem, hid⟩)]
    · cases h

theorem missing_of_sourceOf {l : LooseEnd} (h : p.sourceOf e = .error l) :
    p.missing .output e.sourceNode e.sourcePort (.noSourceNode e.sourceNode)
      (.noSourcePort e.sourceNode e.sourcePort) = [l] :=
  missing_of_port_lookup h

theorem missing_of_targetOf {l : LooseEnd} (h : p.targetOf e = .error l) :
    p.missing .input e.targetNode e.targetPort (.noTargetNode e.targetNode)
      (.noTargetPort e.targetNode e.targetPort) = [l] :=
  missing_of_port_lookup h

theorem edgeProblem?_of_not_resolves (h : ¬p.Resolves e) :
    p.edgeProblem? rules e = some (.loose e (p.looseEnds e)) := by
  cases hs : p.sourceOf e with
  | error l =>
      have hl := missing_of_sourceOf hs
      cases ht : p.targetOf e with
      | error k => simp [edgeProblem?, hs, ht, looseEnds, hl, missing_of_targetOf ht]
      | ok into => simp [edgeProblem?, hs, ht, looseEnds, hl, missing_of_declares ⟨_, _, targetOf_eq_ok.1 ht⟩]
  | ok out =>
      cases ht : p.targetOf e with
      | error k =>
          simp [edgeProblem?, hs, ht, looseEnds, missing_of_declares ⟨_, _, sourceOf_eq_ok.1 hs⟩,
            missing_of_targetOf ht]
      | ok into => exact absurd ⟨⟨_, _, sourceOf_eq_ok.1 hs⟩, _, _, targetOf_eq_ok.1 ht⟩ h

theorem edgeProblem?_of_names {source target : Node} {out into : Port}
    (hs : p.Names .output e.sourceNode e.sourcePort source out)
    (ht : p.Names .input e.targetNode e.targetPort target into) :
    p.edgeProblem? rules e = if rules.allows out.dataType into.dataType then none
      else some (.incompatible e out.dataType into.dataType source.label target.label) := by
  simp only [edgeProblem?, sourceOf_eq_ok.2 hs, targetOf_eq_ok.2 ht]

theorem reports_loose (h : ¬p.Resolves e) : p.Reports rules e (Problem.loose e (p.looseEnds e)).diagnostic where
  edge := rfl
  reference := iff_of_true rfl h
  typing := iff_of_false (by simp [Problem.diagnostic, Diagnostic.reference]) fun hm => h (mismatched_iff.2 hm).1
  ends := by
    intro _
    simp only [Problem.diagnostic, Diagnostic.reference, String.append_assoc]
    rfl
  types := fun source out target into hs ht => absurd ⟨⟨source, out, hs⟩, target, into, ht⟩ h

theorem reports_incompatible {source target : Node} {out into : Port}
    (hs : p.Names .output e.sourceNode e.sourcePort source out)
    (ht : p.Names .input e.targetNode e.targetPort target into) (h : p.Mismatched rules e) :
    p.Reports rules e
      (Problem.incompatible e out.dataType into.dataType source.label target.label).diagnostic where
  edge := rfl
  reference := iff_of_false (by simp [Problem.diagnostic, Diagnostic.typing]) (not_not.2 (mismatched_iff.2 h).1)
  typing := iff_of_true rfl h
  ends := fun hnot => absurd (mismatched_iff.2 h).1 hnot
  types := by
    intro source' out' target' into' hs' ht'
    obtain ⟨rfl, rfl⟩ := hs.unique hs'
    obtain ⟨rfl, rfl⟩ := ht.unique ht'
    simp only [Problem.diagnostic, Diagnostic.typing, String.append_assoc]
    rfl

theorem edgeProblem?_eq_some {d : Problem} (h : p.edgeProblem? rules e = some d) :
    (¬p.Resolves e ∨ p.Mismatched rules e) ∧ p.Reports rules e d.diagnostic := by
  by_cases hr : p.Resolves e
  · obtain ⟨⟨source, out, hs⟩, target, into, ht⟩ := hr
    have hm : p.Mismatched rules e := by
      refine mismatched_iff.1 ⟨⟨⟨source, out, hs⟩, target, into, ht⟩, ?_⟩
      rw [← edgeProblem?_eq_none, h]
      simp
    rw [edgeProblem?_of_names hs ht] at h
    split at h
    · cases h
    · cases h
      exact ⟨.inr hm, reports_incompatible hs ht hm⟩
  · rw [edgeProblem?_of_not_resolves hr] at h
    cases h
    exact ⟨.inl hr, reports_loose hr⟩

theorem edges_reported (p : Pipeline) (rules : FeedRules) :
    List.Forall₂ (p.Reports rules) (p.edges.filter fun e => ¬p.Resolves e ∨ p.Mismatched rules e)
      ((p.edges.filterMap (p.edgeProblem? rules)).map Problem.diagnostic) := by
  rw [List.map_filterMap]
  apply forall₂_filter_filterMap
  · intro e h
    have hfits : p.Fits rules e := edgeProblem?_eq_none.1 (Option.map_eq_none_iff.1 h)
    have hm : ¬p.Mismatched rules e := fun hm => (mismatched_iff.2 hm).2 hfits
    simp [hfits.resolves, hm]
  · intro e d h
    obtain ⟨problem, hp, rfl⟩ := Option.map_eq_some_iff.1 h
    obtain ⟨hbad, hreport⟩ := edgeProblem?_eq_some hp
    exact ⟨decide_eq_true hbad, hreport⟩

theorem diagnostic_untyped (p : Pipeline) (rules : FeedRules) (e : Edge) :
    (p.edgeProblem? rules e.untyped).map Problem.diagnostic = (p.edgeProblem? rules e).map Problem.diagnostic := by
  by_cases hr : p.Resolves e
  · obtain ⟨⟨source, out, hs⟩, target, into, ht⟩ := hr
    rw [edgeProblem?_of_names hs ht, edgeProblem?_of_names (e := e.untyped) hs ht]
    split <;> rfl
  · rw [edgeProblem?_of_not_resolves hr, edgeProblem?_of_not_resolves (e := e.untyped) hr]
    rfl

theorem diagnostics_of_untyped {q : Pipeline} (hnodes : q.nodes = p.nodes)
    (hedges : q.edges.map Edge.untyped = p.edges.map Edge.untyped) :
    (q.problems rules).map Problem.diagnostic = (p.problems rules).map Problem.diagnostic := by
  have hmissing : q.missingCategories = p.missingCategories := by
    unfold missingCategories nodesOf
    rw [hnodes]
  have hnode : q.node? = p.node? := node?_congr hnodes
  have hproblem : q.edgeProblem? rules = p.edgeProblem? rules := by
    funext e
    simp only [edgeProblem?, sourceOf, targetOf, hnode]
  have huntyped : ∀ edges : List Edge, (edges.filterMap (p.edgeProblem? rules)).map Problem.diagnostic =
      (edges.map Edge.untyped).filterMap fun e => (p.edgeProblem? rules e).map Problem.diagnostic := by
    intro edges
    rw [List.map_filterMap, List.filterMap_map]
    exact List.filterMap_congr fun e _ => (diagnostic_untyped p rules e).symm
  rw [problems, problems, List.map_append, List.map_append, hmissing, hproblem, huntyped, huntyped, hedges]

theorem missingCategories_report (p : Pipeline) : p.missingCategories.map Problem.diagnostic =
    (if ∀ n ∈ p.nodes, n.category ≠ .input then [.structural "missing input node"] else []) ++
      (if ∀ n ∈ p.nodes, n.category ≠ .output then [.structural "missing output node"] else []) := by
  have hempty : ∀ c, (p.nodesOf c).isEmpty = true ↔ ∀ n ∈ p.nodes, n.category ≠ c := by
    intro c
    simp [nodesOf]
  simp only [missingCategories, hempty, List.map_append]
  split_ifs <;> rfl

/-- A check reports that there is no input node or no output node, and then each edge that leads nowhere or joins types
that do not fit, once and in the order of the edges. What an edge was drawn with plays no part. -/
theorem problems_report_each_edge (p : Pipeline) (rules : FeedRules) :
    (∃ found, (p.problems rules).map Problem.diagnostic =
        (if ∀ n ∈ p.nodes, n.category ≠ .input then [.structural "missing input node"] else []) ++
        (if ∀ n ∈ p.nodes, n.category ≠ .output then [.structural "missing output node"] else []) ++ found ∧
      List.Forall₂ (p.Reports rules) (p.edges.filter fun e => ¬p.Resolves e ∨ p.Mismatched rules e) found) ∧
    ∀ q : Pipeline, q.nodes = p.nodes → q.edges.map Edge.untyped = p.edges.map Edge.untyped →
      (q.problems rules).map Problem.diagnostic = (p.problems rules).map Problem.diagnostic := by
  refine ⟨⟨_, ?_, edges_reported p rules⟩, fun q => diagnostics_of_untyped⟩
  rw [problems, List.map_append, missingCategories_report]

/-- A scan whose parts go to a port that it may feed, to one that it may not, and from and to places that are not
there. -/
def frayed : Pipeline where
  nodes := [
    ⟨"scan", .input, "Scan", [], [], [⟨"pdf", .null, .pdf, true, .null⟩], none, .null, List.nodup_nil,
      List.nodup_singleton "pdf"⟩,
    ⟨"split", .processing, "Split", [], [⟨"text", .null, .text, true, .null⟩, ⟨"again", .null, .pdf, true, .null⟩],
      [⟨"chunks", .null, .chunks, true, .null⟩], none, .null, by decide, List.nodup_singleton "chunks"⟩]
  edges := [
    ⟨"e1", "split", "text", "scan", "pdf", .text⟩,
    ⟨"e2", "scan", "pdf", "split", "text", .pdf⟩,
    ⟨"e3", "ghost", "out", "split", "text", .text⟩,
    ⟨"e4", "split", "chunks", "split", "again", .pdf⟩]

def redrawn : Pipeline := { frayed with edges := frayed.edges.map fun e => { e with dataType := .json } }

theorem frayed_reports :
    ((frayed.edges.filter fun e => ¬frayed.Resolves e ∨ frayed.Mismatched .standard e).map Edge.id) =
      ["e1", "e3", "e4"] ∧
    (∃ d1 d3 d4, (frayed.problems .standard).map Problem.diagnostic = [.structural "missing output node", d1, d3, d4] ∧
      d1.message = "Invalid connection 'e1' (split.text -> scan.pdf): " ++
        "source node 'split' has no output port 'text'; target node 'scan' has no input port 'pdf'" ∧
      d3.kind = .reference ∧ d4.kind = .typing) ∧
    (redrawn.problems .standard).map Problem.diagnostic = (frayed.problems .standard).map Problem.diagnostic := by
  obtain ⟨⟨found, hall, hfound⟩, hdrawn⟩ := problems_report_each_edge frayed .standard
  have hbad : (frayed.edges.filter fun e => ¬frayed.Resolves e ∨ frayed.Mismatched .standard e) =
      [⟨"e1", "split", "text", "scan", "pdf", .text⟩, ⟨"e3", "ghost", "out", "split", "text", .text⟩,
        ⟨"e4", "split", "chunks", "split", "again", .pdf⟩] := by decide
  rw [hbad] at hfound
  rcases hfound with _ | ⟨h1, _ | ⟨h3, _ | ⟨h4, _ | _⟩⟩⟩
  refine ⟨by rw [hbad]; rfl, ⟨_, _, _, hall, ?_, ?_, ?_⟩, hdrawn redrawn rfl rfl⟩
  · exact (h1.ends (by decide)).trans rfl
  · exact h3.reference.2 (by decide)
  · exact h4.typing.2 (by decide)

end Pipeline

end Dataflow
