import Dataflow.Proofs.Compilation
import Dataflow.Proofs.Execution
import Dataflow.Proofs.Layout

namespace Dataflow

variable {α : Type} {p : Pipeline} {I : Interpretation α} {V : PortKey → α}

namespace Script

/-- Executed from the store `start`, the commands of nodes bound in the given order end in the store
`final`, with the values `V` in the variables. -/
structure Computes (p : Pipeline) (I : Interpretation α) (V : PortKey → α) (order : List String)
    (bound : List BoundNode) (start final : Store α) : Prop where
  executed : execute I start bound = some final
  nodes : bound.map BoundNode.node = p.nodesIn order
  ports : ∀ b ∈ bound, b.outputVars.map Prod.fst = b.node.outputs.map Port.id
  outputs : ∀ b ∈ bound, ∀ entry ∈ b.outputVars, final entry.2 = some (V ⟨b.node.id, entry.1⟩)
  results : ∀ b ∈ bound, b.node.category = .output → ∃ var, b.resultVar = some var ∧
    final var = some (V ⟨b.node.id, PortKey.resultPort⟩) ∧ ∀ entry ∈ b.outputVars, entry.2 = var
  noResult : ∀ b ∈ bound, b.node.category ≠ .output → b.resultVar = none
  returned : ∃ entries, returned? final bound = some entries ∧
    ∀ label, (entries.findRev? (·.1 == label)).map Prod.snd =
      ((p.nodesIn order).findRev? fun n => n.category == .output && n.label == label).map fun n =>
        V ⟨n.id, PortKey.resultPort⟩

theorem returned?_eq {s : Store α} {bound : List BoundNode}
    (hresults : ∀ b ∈ bound, b.node.category = .output → ∃ var, b.resultVar = some var ∧
      s var = some (V ⟨b.node.id, PortKey.resultPort⟩))
    (hnone : ∀ b ∈ bound, b.node.category ≠ .output → b.resultVar = none) :
    returned? s bound = some (((bound.map BoundNode.node).filter (·.category == .output)).map fun n =>
      (n.label, V ⟨n.id, PortKey.resultPort⟩)) := by
  induction bound with
  | nil => rfl
  | cons b bound ih =>
      obtain ⟨hresult, hresults⟩ := List.forall_mem_cons.1 hresults
      obtain ⟨hnone, hnones⟩ := List.forall_mem_cons.1 hnone
      have hrest := ih hresults hnones
      by_cases hcat : b.node.category = .output
      · obtain ⟨var, hvar, hvalue⟩ := hresult hcat
        have hhead : results (b :: bound) = (b.node.label, var) :: results bound := by
          simp [results, hvar]
        rw [returned?, hhead, List.mapM_cons, ← returned?, hrest, hvalue]
        simp [hcat]
      · have hhead : results (b :: bound) = results bound := by
          simp [results, hnone hcat]
        rw [returned?, hhead, ← returned?, hrest]
        simp [hcat]

theorem findRev?_returned (nodes : List Node) (label : String) :
    (((nodes.filter (·.category == .output)).map fun n => (n.label, V ⟨n.id, PortKey.resultPort⟩)).findRev?
        (·.1 == label)).map Prod.snd =
      (nodes.findRev? fun n => n.category == .output && n.label == label).map fun n =>
        V ⟨n.id, PortKey.resultPort⟩ := by
  rw [List.findRev?_eq_find?_reverse, List.findRev?_eq_find?_reverse, ← List.map_reverse, ← List.filter_reverse,
    List.find?_map, List.find?_filter, Option.map_map]
  simp only [Function.comp_def, Bool.decide_and, Bool.decide_eq_true]

end Script

namespace Pipeline

theorem computes_of_binds {order : List String} {bound : List BoundNode} {t v : SymbolTable} {start : Store α}
    (hedges : ∀ e ∈ p.edges, p.Resolves e) (hV : p.Solves I V p.nodes)
    (hbinds : Binding.Binds p t (p.nodesIn order) bound v) (hstart : Binding.Holds t start V) :
    ∃ final, Script.Computes p I V order bound start final := by
  have hnodes : ∀ n ∈ p.nodesIn order, n ∈ p.nodes := fun n hn => (mem_nodesIn.1 hn).1
  obtain ⟨final, hrun, hfinal⟩ := hstart.run hedges hbinds hbinds.callee? hnodes hV
  have hvalue : ∀ b ∈ bound, ∀ entry ∈ b.bindings, final entry.2 = some (V entry.1) := by
    intro b hb entry hentry
    apply (hfinal entry _).2
    rw [hbinds.symbols]
    exact List.mem_append_right _ (List.mem_flatMap.2 ⟨b, hb, hentry⟩)
  have hresults : ∀ b ∈ bound, b.node.category = .output → ∃ var, b.resultVar = some var ∧
      final var = some (V ⟨b.node.id, PortKey.resultPort⟩) ∧ ∀ entry ∈ b.outputVars, entry.2 = var := by
    intro b hb hcat
    obtain ⟨_, _, h⟩ := hbinds.exists_bound b hb
    obtain ⟨var, hvar, houtputs⟩ := h.result hcat
    refine ⟨var, hvar, hvalue b hb (_, var) ?_, ?_⟩
    · simp [BoundNode.bindings, hvar]
    · simp [houtputs]
  have hnone : ∀ b ∈ bound, b.node.category ≠ .output → b.resultVar = none := by
    intro b hb hcat
    obtain ⟨_, _, h⟩ := hbinds.exists_bound b hb
    exact h.noResult hcat
  have hreturned := Script.returned?_eq (fun b hb hcat => (hresults b hb hcat).imp fun _ h => ⟨h.1, h.2.1⟩) hnone
  rw [hbinds.map_node] at hreturned
  refine ⟨final, hrun, hbinds.map_node, ?_, ?_, hresults, hnone, _, hreturned, Script.findRev?_returned _⟩
  · intro b hb
    obtain ⟨_, _, h⟩ := hbinds.exists_bound b hb
    exact h.ports
  · intro b hb entry hentry
    apply hvalue b hb (⟨b.node.id, entry.1⟩, entry.2)
    exact List.mem_append_right _ (List.mem_map_of_mem hentry)

/-- A pipeline whose references are all good, emitted in whatever order works, becomes a script that computes its one
meaning. The script has a run function, and the lines of this between its opening and its closing are the commands that
are executed, node by node and in order, each node's after an empty line and a comment. -/
theorem emit_preserves_meaning {rules : FeedRules} {order : List String} {registry : Registry} {s : Settings}
    {timestamp : String} {e : Emission} (hrefs : ∀ d ∈ p.problems rules, d.diagnostic.kind ≠ .reference)
    (hemit : (p.emit order registry s timestamp).value = .ok e) (I : Interpretation α) :
    (∃ (pairs : List (BoundNode × Template)) (usesRuntime : Bool) (opening closing : List String),
      pairs.map Prod.fst = e.bound ∧ Script.runFunction pairs usesRuntime s <:+: e.lines ∧
      Script.runFunction pairs usesRuntime s = opening ++ (e.bound.flatMap fun b =>
        "" :: ("    # " ++ Text.oneLine s!"{b.node.label} ({b.node.id})") ::
          b.commands.map fun c => "    " ++ c.text) ++ closing) ∧
      ∃ V, p.Solves I V p.nodes ∧ (∀ W, p.Solves I W p.nodes → Agree V W p.nodes) ∧
        ∀ start, ∃ final, Script.Computes p I V order e.bound start final := by
  have hedges := resolves_of_problems hrefs
  obtain ⟨hperm, table, hbinds⟩ := emit_eq_ok hemit
  obtain ⟨pairs, he, hpairs, -⟩ := emit_pairs hemit
  obtain ⟨usesRuntime, hrun⟩ := runFunction_within p s timestamp pairs
  have hcalls := Script.runFunction_sections pairs usesRuntime s
  rw [← he] at hrun
  rw [hpairs] at hcalls
  have hids : (p.nodesIn order).map Node.id = order := map_id_nodesIn hperm.subset
  have hmem : ∀ n, n ∈ p.nodesIn order ↔ n ∈ p.nodes := fun n => mem_nodesIn_of_perm hperm
  have hrunnable : p.Runnable [] (p.nodesIn order) := by
    apply hbinds.runnable (Binding.covers_empty _)
    rw [List.nil_append, hids]
    exact hperm.nodup_iff.2 p.nodes_nodup
  have hnodes : ∀ n ∈ p.nodesIn order, n ∈ p.nodes := fun n => (hmem n).1
  obtain ⟨V, hV⟩ : ∃ V, p.Solves I V ([] ++ p.nodesIn order) :=
    hrunnable.exists_solves (V := fun key => I.result key.node fun _ => none) hedges (by simpa using hnodes) (by simp)
      (by simp [Solves])
  have hV : p.Solves I V p.nodes := fun n hn => hV n ((hmem n).2 hn)
  refine ⟨⟨pairs, usesRuntime, _, _, hpairs, hrun, hcalls⟩, V, hV, ?_, ?_⟩
  · intro W hW n hn
    exact hV.agree hedges hW hnodes hrunnable (by simp [Agree]) n ((hmem n).2 hn)
  · intro start
    exact computes_of_binds hedges hV hbinds (by simp [Binding.Holds, SymbolTable.empty])

/-- The question is 5, a merger adds one to what arrives, and an output node passes it on. -/
def counting : Interpretation Nat where
  outputs := fun id inputs _ => if id = "question" then 5 else (inputs "left").getD 0 + 1
  result := fun _ inputs => (inputs "text").getD 0

theorem answering_returns_six : ∃ e final entries,
    (answering.emit ["question", "merge", "short", "long"] .standard {} "now").value = .ok e ∧
      Script.execute counting (fun _ => none) e.bound = some final ∧
      Script.returned? final e.bound = some entries ∧
      (entries.findRev? (·.1 == "Answer")).map Prod.snd = some 6 := by
  obtain ⟨order, e, hs, he, -⟩ := WellFormed.emits {} "now" wellFormed_answering (by decide)
  cases Except.ok.inj (hs.symm.trans schedule_answering)
  have hrefs : ∀ d ∈ answering.problems .standard, d.diagnostic.kind ≠ .reference := by
    rw [show answering.problems .standard = [] from rfl]
    simp
  obtain ⟨-, V, hV, -, hrun⟩ := emit_preserves_meaning hrefs he counting
  obtain ⟨final, h⟩ := hrun fun _ => none
  obtain ⟨entries, hentries, hreturned⟩ := h.returned
  refine ⟨e, final, entries, he, h.executed, hentries, ?_⟩
  have hquestion : V ⟨"question", "text"⟩ = 5 := hV _ (.tail _ (.tail _ (.head _))) "text" (by decide)
  have hmerge : V ⟨"merge", "text"⟩ = V ⟨"question", "text"⟩ + 1 :=
    hV _ (.tail _ (.head _)) "text" (by decide)
  have hlong : V ⟨"long", PortKey.resultPort⟩ = V ⟨"merge", "text"⟩ :=
    hV _ (.tail _ (.tail _ (.tail _ (.head _)))) PortKey.resultPort (by decide)
  have hlast : ((answering.nodesIn ["question", "merge", "short", "long"]).findRev? fun n =>
      n.category == .output && n.label == "Answer").map Node.id = some "long" := by cbv
  have hvalue := congrArg (Option.map fun id => V ⟨id, PortKey.resultPort⟩) hlast
  rw [Option.map_map, Option.map_some, hlong, hmerge, hquestion] at hvalue
  exact (hreturned "Answer").trans hvalue

end Pipeline

end Dataflow
