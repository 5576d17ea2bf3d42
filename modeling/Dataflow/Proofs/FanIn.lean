import Dataflow.Proofs.CallSites
import Dataflow.Proofs.Reports

namespace Dataflow

/-- The input port that an edge leads to, after its node. -/
def Edge.target (e : Edge) : String × String := (e.targetNode, e.targetPort)

section

variable {α : Type} [BEq α] [LawfulBEq α] {a b : α} {l : List α}

theorem idxOf_lt_of_filter {q : α → Bool} (ha : q a = true) (hb : q b = true)
    (h : (l.filter q).idxOf a < (l.filter q).idxOf b) : l.idxOf a < l.idxOf b := by
  induction l with
  | nil => simp at h
  | cons c l ih =>
      by_cases hc : q c = true
      · rw [List.filter_cons_of_pos hc, List.idxOf_cons, List.idxOf_cons] at h
        rw [List.idxOf_cons, List.idxOf_cons]
        cases hca : c == a <;> cases hcb : c == b <;> simp_all
      · have hca : (c == a) = false := beq_false_of_ne fun he => hc (he ▸ ha)
        have hcb : (c == b) = false := beq_false_of_ne fun he => hc (he ▸ hb)
        rw [List.filter_cons_of_neg hc] at h
        rw [List.idxOf_cons, List.idxOf_cons, hca, hcb]
        exact Nat.succ_lt_succ (ih h)

theorem pairwise_eraseDups (l : List α) : l.eraseDups.Pairwise fun a b => l.idxOf a < l.idxOf b := by
  -- What is left after the first element is shorter, but not the rest of the list.
  induction hlength : l.length using Nat.strong_induction_on generalizing l with
  | h length ih =>
      subst hlength
      cases l with
      | nil => simp
      | cons c l =>
          have hkept : ∀ a ∈ (l.filter fun d => !d == c).eraseDups, (!a == c) = true :=
            fun a ha => (List.mem_filter.1 (List.mem_eraseDups.1 ha)).2
          have hne : ∀ a ∈ (l.filter fun d => !d == c).eraseDups, (c == a) = false := by
            intro a ha
            refine beq_false_of_ne fun he => ?_
            simpa [he] using hkept a ha
          rw [List.eraseDups_cons, List.pairwise_cons]
          constructor
          · intro a ha
            rw [List.idxOf_cons_self, List.idxOf_cons, hne a ha]
            exact Nat.succ_pos _
          · have hshort := Nat.lt_succ_of_le (List.length_filter_le (fun d => !d == c) l)
            refine (ih _ hshort _ rfl).imp_of_mem fun ha hb hlt => ?_
            rw [List.idxOf_cons, List.idxOf_cons, hne _ ha, hne _ hb]
            exact Nat.succ_lt_succ (idxOf_lt_of_filter (hkept _ ha) (hkept _ hb) hlt)

end

/-- Whether the warning is on an input port that several edges lead to. All others begin with other words. -/
def isFanInWarning (warning : String) : Bool := "Input '".toList.isPrefixOf warning.toList

namespace Advice

def isFanIn : Advice → Bool
  | .sharedInput .. => true
  | _ => false

def opening : Advice → String
  | .unconfigured _ => "Node '"
  | .manyProcessingNodes => "Pipeline has many processing nodes - consider optimizing for performance"
  | .staleType .. => "Connection '"
  | .sharedInput .. => "Input '"
  | .sharedLabel .. => "Output label '"

theorem exists_message_eq (a : Advice) : ∃ rest, a.message = a.opening ++ rest := by
  cases a with
  | manyProcessingNodes => exact ⟨"", String.append_empty.symm⟩
  | unconfigured | staleType | sharedInput | sharedLabel =>
      unfold message
      simp only [opening, Text.toString_text, String.append_assoc]
      exact ⟨_, rfl⟩

theorem isFanInWarning_message (a : Advice) : isFanInWarning a.message = a.isFanIn := by
  obtain ⟨rest, hrest⟩ := a.exists_message_eq
  rw [isFanInWarning, hrest, String.toList_append]
  cases a <;> simp only [opening, isFanIn] <;> rfl

end Advice

namespace Pipeline

variable {p : Pipeline}

theorem filter_advice (p : Pipeline) (threshold : Nat) :
    ((p.advice threshold).map Advice.message).filter isFanInWarning = p.sharedInputAdvice.map Advice.message := by
  have hunconfigured : p.unconfiguredAdvice.filter Advice.isFanIn = [] := by
    rw [unconfiguredAdvice, List.filter_eq_nil_iff]
    intro a ha
    obtain ⟨n, -, rfl⟩ := List.mem_map.1 ha
    exact Bool.false_ne_true
  have hprocessing : (p.processingAdvice threshold).filter Advice.isFanIn = [] := by
    unfold processingAdvice
    split <;> rfl
  have hstale : p.staleAdvice.filter Advice.isFanIn = [] := by
    rw [staleAdvice, List.filter_eq_nil_iff]
    intro a ha
    obtain ⟨e, -, ha⟩ := List.mem_filterMap.1 ha
    obtain ⟨n, -, ha⟩ := Option.bind_eq_some_iff.1 ha
    obtain ⟨port, -, ha⟩ := Option.bind_eq_some_iff.1 ha
    split at ha
    · cases ha
    · cases ha
      exact Bool.false_ne_true
  have hlabels : p.sharedLabelAdvice.filter Advice.isFanIn = [] := by
    rw [sharedLabelAdvice, List.filter_eq_nil_iff]
    intro a ha
    obtain ⟨label, -, ha⟩ := List.mem_filterMap.1 ha
    split at ha
    · cases ha
      exact Bool.false_ne_true
    · cases ha
  have hshared : p.sharedInputAdvice.filter Advice.isFanIn = p.sharedInputAdvice := by
    rw [sharedInputAdvice, List.filter_eq_self]
    intro a ha
    obtain ⟨port, -, ha⟩ := List.mem_filterMap.1 ha
    split at ha
    · cases ha
      rfl
    · cases ha
  have hcomp : isFanInWarning ∘ Advice.message = Advice.isFanIn := funext Advice.isFanInWarning_message
  rw [List.filter_map, hcomp, advice]
  simp only [List.filter_append, hunconfigured, hprocessing, hstale, hlabels, hshared, List.nil_append, List.append_nil]

def fanIn (p : Pipeline) (port : String × String) : Nat := (p.edges.filter (·.target = port)).length

theorem feeding_eq (p : Pipeline) (port : String × String) : p.feeding port = p.edges.filter (·.target = port) := by
  refine List.filter_congr fun e _ => ?_
  rw [Bool.eq_iff_iff]
  simp [Edge.target, Prod.ext_iff]

theorem two_le_fanIn {port : String × String} :
    2 ≤ p.fanIn port ↔ ∃ used other more, p.feeding port = used :: other :: more := by
  rw [fanIn, ← feeding_eq]
  match p.feeding port with
  | [] => simp
  | [_] => simp
  | used :: other :: more => simp

theorem feeder?_of_feeding {port : String × String} {used : Edge} {more : List Edge}
    (h : p.feeding port = used :: more) : p.feeder? port.1 port.2 = some used := by
  have hhead : (p.feeding port).head? = p.feeder? port.1 port.2 := List.head?_filter
  rw [← hhead, h, List.head?_cons]

theorem mem_fedPorts {port : String × String} : port ∈ p.fedPorts ↔ 1 ≤ p.fanIn port := by
  rw [fedPorts, List.mem_eraseDups, fanIn, Nat.succ_le_iff, List.length_pos_iff_exists_mem]
  simp only [List.mem_map, List.mem_filter, decide_eq_true_eq]
  rfl

end Pipeline

open Script

namespace Emission

/-- The call of the node in the script passes the variable for an input port. -/
def Passes (e : Emission) (port : String × String) (var : String) : Prop :=
  ∃ b ∈ e.bound, b.node.id = port.1 ∧ callLines b <:+: e.lines ∧ ∃ site, sites (callLines b) = [site] ∧
    ∃ param, (port.2, param) ∈ b.params ∧ (param, var) ∈ site.keywords

def Assigns (e : Emission) (key : PortKey) (var : String) : Prop :=
  ∃ b ∈ e.bound, b.node.id = key.node ∧ callLines b <:+: e.lines ∧ ∃ site, sites (callLines b) = [site] ∧
    (key.port, var) ∈ b.outputVars ∧ var ∈ site.targets

end Emission

theorem BoundNode.mem_params {b : BoundNode} {port : String} (h : Binding.Spelled b)
    (hport : port ∈ b.node.inputs.map Port.id) : (port, b.param port) ∈ b.params := by
  have hports : b.params.map Prod.fst = b.node.inputs.map Port.id := by rw [h.params, Binding.map_fst_paramsFor]
  rw [← hports] at hport
  obtain ⟨⟨port, name⟩, hentry, rfl⟩ := List.mem_map.1 hport
  have hlookup : b.params.lookup port = some name := lookup_of_mem (hports ▸ b.node.inputs_nodup) hentry
  rwa [param, hlookup, Option.getD_some]

theorem Binding.Bound.exists_inputVar {p : Pipeline} {t u : SymbolTable} {n : Node} {b : BoundNode} {port : String}
    {edge : Edge} (hb : Bound p t n b u) (hport : port ∈ n.inputs.map Port.id)
    (hedge : p.feeder? n.id port = some edge) : ∃ var, (port, some var) ∈ b.inputVars := by
  obtain ⟨var, hvar⟩ := Option.isSome_iff_exists.1 (hb.resolved port hport edge hedge)
  refine ⟨var, ?_⟩
  rw [hb.inputVars]
  exact List.mem_map.2 ⟨port, hport, by rw [feedVar?, hedge, Option.bind_some, hvar]⟩

namespace Pipeline

variable {p : Pipeline} {order : List String} {registry : Registry} {s : Settings} {timestamp : String} {e : Emission}

section

variable (h : (p.emit order registry s timestamp).value = .ok e)

include h

theorem emit_calls : ∀ b ∈ e.bound, callLines b <:+: e.lines ∧ sites (callLines b) = [b.callSite b.targets] := by
  intro b hb
  obtain ⟨-, table, hbinds⟩ := emit_eq_ok h
  obtain ⟨pairs, he, -⟩ := emit_pairs h
  have hcalls : callLines b <:+: e.lines := by
    rw [he] at hb ⊢
    exact callLines_within hb
  obtain ⟨_, _, hbound⟩ := hbinds.exists_bound b hb
  have hevery := emit_every (fun _ _ => isName_of_named) h b hb
  exact ⟨hcalls, (read_callLines hevery hbound).1⟩

theorem emit_passes {b : BoundNode} (hb : b ∈ e.bound) {port var : String} (hvar : (port, some var) ∈ b.inputVars) :
    e.Passes (b.node.id, port) var := by
  obtain ⟨hlines, hsite⟩ := emit_calls h b hb
  obtain ⟨-, table, hbinds⟩ := emit_eq_ok h
  obtain ⟨_, _, hbound⟩ := hbinds.exists_bound b hb
  have hport : port ∈ b.node.inputs.map Port.id := by
    have hmem : port ∈ b.inputVars.map Prod.fst := List.mem_map_of_mem hvar
    simpa [hbound.inputVars] using hmem
  refine ⟨b, hb, rfl, hlines, _, hsite, b.param port, BoundNode.mem_params (emit_spelled h b hb) hport, ?_⟩
  exact List.mem_map.2 ⟨⟨port, b.param port, var⟩, List.mem_filterMap.2 ⟨_, hvar, rfl⟩, rfl⟩

theorem emit_assigns (hclash : ∀ n ∈ p.nodes, ¬n.Clashes) {edge : Edge} (hedge : p.Resolves edge) {b : BoundNode}
    (hb : b ∈ e.bound) {var : String} (hvar : (edge.source, var) ∈ b.bindings) : e.Assigns edge.source var := by
  obtain ⟨hlines, hsite⟩ := emit_calls h b hb
  obtain ⟨-, table, hbinds⟩ := emit_eq_ok h
  obtain ⟨_, _, hbound⟩ := hbinds.exists_bound b hb
  have htarget : var ∈ b.targets := hbound.mem_targets_of_mem_bindings _ hvar
  rcases List.mem_append.1 hvar with hresult | houtput
  · -- The source is a declared port, so that a result under its name is a clash.
    obtain ⟨result, hresult, heq⟩ := List.mem_map.1 hresult
    have hkey : ⟨b.node.id, PortKey.resultPort⟩ = (⟨edge.sourceNode, edge.sourcePort⟩ : PortKey) := (Prod.mk.inj heq).1
    obtain ⟨hid, hport⟩ := PortKey.mk.inj hkey
    obtain ⟨⟨source, out, hs⟩, -⟩ := hedge
    have hnode : b.node ∈ p.nodes := (emit_nodes h).1 (List.mem_map_of_mem hb)
    have hsame : source = b.node :=
      List.inj_on_of_nodup_map p.nodes_nodup hs.mem_nodes hnode (hs.node_eq.trans hid.symm)
    subst hsame
    refine absurd ⟨?_, ?_⟩ (hclash b.node hnode)
    · by_contra hcat
      rw [hbound.noResult hcat] at hresult
      cases hresult
    · rw [hport, ← hs.port_eq]
      exact List.mem_map_of_mem hs.mem_ports
  · obtain ⟨entry, hentry, heq⟩ := List.mem_map.1 houtput
    obtain ⟨hkey, rfl⟩ := Prod.mk.inj heq
    rw [← hkey]
    exact ⟨b, hb, rfl, hlines, _, hsite, hentry, htarget⟩

end

/-- The warning says of an input port how many edges lead to it, and names one of them as used. The call of the port's
node passes for it the variable of this edge's source. -/
def TellsFanIn (p : Pipeline) (e : Emission) (port : String × String) (warning : String) : Prop :=
  ∃ n ∈ p.nodes, n.id = port.1 ∧ ∃ edge ∈ p.edges, edge.target = port ∧
    warning = s!"Input '{port.2}' of node '{n.label}' has {p.fanIn port} connections - only '{edge.id}' is used" ∧
    ∃ var, e.Assigns edge.source var ∧ e.Passes port var

theorem emit_uses_feeder (h : (p.emit order registry s timestamp).value = .ok e) (hclash : ∀ n ∈ p.nodes, ¬n.Clashes)
    (hedges : ∀ edge ∈ p.edges, p.Resolves edge) {n : Node} (hn : n ∈ p.nodes) {port : String} {edge : Edge}
    (hedge : p.feeder? n.id port = some edge) : ∃ var, e.Assigns edge.source var ∧ e.Passes (n.id, port) var := by
  obtain ⟨b, hb, rfl⟩ := List.mem_map.1 ((emit_nodes h).2 hn)
  obtain ⟨-, table, hbinds⟩ := emit_eq_ok h
  obtain ⟨_, _, hbound⟩ := hbinds.exists_bound b hb
  obtain ⟨var, hvar⟩ := hbound.exists_inputVar (declared_of_feeder hedges hn hedge) hedge
  refine ⟨var, ?_, emit_passes h hb hvar⟩
  obtain ⟨same, hsame, hsymbol⟩ := hbinds.mem_symbols_of_inputVars b hb _ hvar var rfl
  cases hedge.symm.trans hsame
  rw [hbinds.symbols] at hsymbol
  obtain ⟨c, hc, hbinding⟩ := List.mem_flatMap.1 hsymbol
  exact emit_assigns h hclash (hedges edge (feeder?_some hedge).1) hc hbinding

theorem tellsFanIn_sharedInput (h : (p.emit order registry s timestamp).value = .ok e)
    (hclash : ∀ n ∈ p.nodes, ¬n.Clashes) (hedges : ∀ edge ∈ p.edges, p.Resolves edge) {port : String × String}
    {used other : Edge} {more : List Edge} (hfeeding : p.feeding port = used :: other :: more) :
    p.TellsFanIn e port (Advice.sharedInput port.2 (((p.node? port.1).map Node.label).getD port.1)
      (used :: other :: more).length used.id).message := by
  have hfeeder := feeder?_of_feeding hfeeding
  obtain ⟨hused, hnode, hport⟩ := feeder?_some hfeeder
  obtain ⟨-, n, into, hn⟩ := hedges used hused
  have hid : n.id = port.1 := hn.node_eq.trans hnode
  have hlabel : p.node? port.1 = some n := node?_eq_some.2 ⟨hn.mem_nodes, hid⟩
  have hcount : (used :: other :: more).length = p.fanIn port := by rw [← hfeeding, feeding_eq, fanIn]
  refine ⟨n, hn.mem_nodes, hid, used, hused, Prod.ext hnode hport, ?_, ?_⟩
  · rw [hlabel, hcount]
    rfl
  · rw [← hid] at hfeeder
    obtain ⟨var, hassigns, hpasses⟩ := emit_uses_feeder h hclash hedges hn.mem_nodes hfeeder
    rw [hid] at hpasses
    exact ⟨var, hassigns, hpasses⟩

/-- The warnings on input ports that several edges lead to: one for each such port, in the order in which the edges
first lead to them. Each counts the edges, and names as used one whose source has the variable that the call of the
node passes for the port. -/
theorem fanIn_warnings_tell_calls {options : CompileOptions} {warnings : List String}
    (h : (p.compile options timestamp).value = .ok ⟨.emitted order e, warnings⟩) :
    ∃ ports : List (String × String), (∀ port, port ∈ ports ↔ 2 ≤ p.fanIn port) ∧
      (ports.Pairwise fun a b => (p.edges.map Edge.target).idxOf a < (p.edges.map Edge.target).idxOf b) ∧
      List.Forall₂ (p.TellsFanIn e) ports (warnings.filter isFanInWarning) := by
  have houtcome := compile_outcome p options timestamp
  rw [h] at houtcome
  cases houtcome with
  | emitted hw hclash hs he =>
      refine ⟨p.fedPorts.filter fun port => 2 ≤ p.fanIn port, ?_, ?_, ?_⟩
      · intro port
        rw [List.mem_filter, mem_fedPorts, decide_eq_true_iff]
        omega
      · exact (pairwise_eraseDups _).filter _
      · rw [filter_advice, sharedInputAdvice, List.map_filterMap]
        apply forall₂_filter_filterMap
        · intro port hnone
          refine decide_eq_false fun htwo => ?_
          obtain ⟨used, other, more, hfeeding⟩ := two_le_fanIn.1 htwo
          rw [hfeeding] at hnone
          cases hnone
        · intro port warning hsome
          obtain ⟨a, ha, rfl⟩ := Option.map_eq_some_iff.1 hsome
          split at ha
          · rename_i used other more hfeeding
            cases ha
            exact ⟨decide_eq_true (two_le_fanIn.2 ⟨used, other, more, hfeeding⟩),
              tellsFanIn_sharedInput he hclash (fun edge hedge => (hw.edges edge hedge).resolves) hfeeding⟩
          · cases ha

/-- Edges that lead to two input ports by turns. The two that lead to one of them have the same id. -/
def crossing : Pipeline where
  name := "crossing"
  nodes := [
    ⟨"in", .input, "In", [], [], [⟨"first", .null, .text, true, .null⟩, ⟨"second", .null, .text, true, .null⟩], none,
      .null, List.nodup_nil, by decide⟩,
    ⟨"out", .output, "Out", [], [⟨"left", .null, .text, true, .null⟩, ⟨"right", .null, .text, true, .null⟩], [], none,
      .null, by decide, List.nodup_nil⟩]
  edges := [
    ⟨"e1", "in", "second", "out", "right", .text⟩,
    ⟨"e2", "in", "first", "out", "left", .text⟩,
    ⟨"e2", "in", "second", "out", "left", .text⟩,
    ⟨"e3", "in", "first", "out", "right", .text⟩]

theorem wellFormed_crossing : crossing.WellFormed .standard .standard :=
  wellFormed_of_schedule rfl (show crossing.schedule = .ok ["in", "out"] by cbv) (by decide)

theorem crossing_warnings : ∃ order e warnings, (crossing.compile {} "now").value = .ok ⟨.emitted order e, warnings⟩ ∧
    crossing.fanIn ("out", "left") = 2 ∧ ∃ ports, ("out", "left") ∈ ports ∧ ("out", "right") ∈ ports ∧
      List.Forall₂ (crossing.TellsFanIn e) ports (warnings.filter isFanInWarning) := by
  obtain ⟨order, e, -, -, hc⟩ := WellFormed.emits {} "now" wellFormed_crossing (by decide)
  obtain ⟨ports, hports, -, htells⟩ := fanIn_warnings_tell_calls hc
  exact ⟨order, e, _, hc, by decide, ports, (hports _).2 (by decide), (hports _).2 (by decide), htells⟩

end Pipeline

end Dataflow
