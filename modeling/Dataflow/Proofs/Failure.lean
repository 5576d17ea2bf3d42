import Dataflow.Proofs.Compilation
import Dataflow.Proofs.Reports

namespace Dataflow

namespace Pipeline

variable {p : Pipeline} {order : List String} {n : Node} {q : Port}

/-- The first edge to the port leaves a node that does not come before the port's own. -/
def Late (p : Pipeline) (order : List String) (n : Node) (q : Port) : Prop :=
  ∃ e ∈ p.feeder? n.id q.id, ¬order.idxOf e.sourceNode < order.idxOf n.id

instance : Decidable (p.Late order n q) :=
  inferInstanceAs (Decidable (∃ e ∈ p.feeder? n.id q.id, ¬order.idxOf e.sourceNode < order.idxOf n.id))

def firstLate? (p : Pipeline) (order : List String) (nodes : List Node) : Option (Node × Port) :=
  nodes.findSome? fun n => (n.inputs.find? fun q => p.Late order n q).map (n, ·)

theorem firstLate?_eq_none {nodes : List Node} :
    p.firstLate? order nodes = none ↔ ∀ n ∈ nodes, ∀ q ∈ n.inputs, ¬p.Late order n q := by
  simp [firstLate?]

theorem firstLate?_cons_of_some {nodes : List Node} (h : (n.inputs.find? fun q => p.Late order n q) = some q) :
    p.firstLate? order (n :: nodes) = some (n, q) := by
  simp [firstLate?, h]

theorem firstLate?_cons_of_none {nodes : List Node} (h : (n.inputs.find? fun q => p.Late order n q) = none) :
    p.firstLate? order (n :: nodes) = p.firstLate? order nodes := by
  simp [firstLate?, h]

end Pipeline

namespace Binding

open Pipeline

variable {p : Pipeline} {t : SymbolTable} {node port : String} {e : Edge}

theorem inputVarsFor_of_unbound {before after : List String} (hbefore : Resolved p t node before)
    (he : p.feeder? node port = some e) (h : t.find? e.source = none) :
    inputVarsFor p t node (before ++ port :: after) = .error (.unresolved e.source) := by
  induction before with
  | nil =>
      have hresolve : t.resolve ⟨e.sourceNode, e.sourcePort⟩ = .error (.unresolved e.source) :=
        SymbolTable.resolve_of_not_bound h
      simp [inputVarsFor, he, hresolve]
  | cons first before ih =>
      have hrest := ih fun q hq => hbefore q (List.mem_cons_of_mem first hq)
      cases hf : p.feeder? node first with
      | none => simp [inputVarsFor, hf, hrest]
      | some f =>
          obtain ⟨var, hvar⟩ := Option.isSome_iff_exists.1 (hbefore first List.mem_cons_self f hf)
          simp [inputVarsFor, hf, hrest, SymbolTable.resolve_of_find? hvar]

theorem bind_of_unbound {n : Node} {before after : List String}
    (hports : n.inputs.map Port.id = before ++ port :: after) (hbefore : Resolved p t n.id before)
    (he : p.feeder? n.id port = some e) (h : t.find? e.source = none) :
    bind p t n = .error (.unresolved e.source) := by
  unfold bind
  cases ha : t.allocate s!"node_{n.id}" with
  | mk procedure u =>
      obtain ⟨-, rfl⟩ := SymbolTable.allocate_eq ha
      -- The name of the procedure is taken, but no port is bound with it.
      have hvars : inputVarsFor p { t with taken := procedure :: t.taken } n.id (n.inputs.map Port.id) =
          .error (.unresolved e.source) := by
        rw [hports]
        exact inputVarsFor_of_unbound hbefore he h
      simp [hvars]

section

variable {done nodes : List Node} {n : Node} (hedges : ∀ e ∈ p.edges, p.Resolves e)
  (hc : Covers t done)

include hedges hc

theorem late_iff_unbound (hmem : ∀ m ∈ done ++ n :: nodes, m ∈ p.nodes)
    (hnodup : ((done ++ n :: nodes).map Node.id).Nodup) {q : Port} :
    p.Late ((done ++ n :: nodes).map Node.id) n q ↔ ∃ e, p.feeder? n.id q.id = some e ∧ t.find? e.source = none := by
  rw [List.map_append, List.map_cons] at hnodup ⊢
  have hn : n.id ∉ done.map Node.id := notMem_of_nodup_middle hnodup
  refine exists_congr fun e => and_congr_right fun he => ?_
  have hdone : ∀ m ∈ done, m ∈ p.nodes := fun m hm => hmem m (List.mem_append_left _ hm)
  have hbound : (t.find? e.source).isSome ↔ e.sourceNode ∈ done.map Node.id :=
    (hc e.source).trans ((hedges e (feeder?_some he).1).bound_iff hdone)
  rw [idxOf_lt_idxOf_iff hn, ← hbound, Option.not_isSome_iff_eq_none]

theorem bindAll_cases (hclash : ∀ n ∈ nodes, ¬n.Clashes) (hmem : ∀ n ∈ done ++ nodes, n ∈ p.nodes)
    (hnodup : ((done ++ nodes).map Node.id).Nodup) :
    match p.firstLate? ((done ++ nodes).map Node.id) nodes with
    | none => ∃ v, (bindAll p t nodes).result = .ok v
    | some (n, q) => ∃ e, p.feeder? n.id q.id = some e ∧
        (bindAll p t nodes).result = .error (.unresolved e.source) := by
  induction nodes generalizing t done with
  | nil => exact ⟨t, rfl⟩
  | cons n nodes ih =>
      obtain ⟨hn, hnodes⟩ := List.forall_mem_cons.1 hclash
      have hlate : ∀ q, p.Late ((done ++ n :: nodes).map Node.id) n q ↔
          ∃ e, p.feeder? n.id q.id = some e ∧ t.find? e.source = none :=
        fun q => late_iff_unbound hedges hc hmem hnodup
      have hresolved : ∀ ports : List Port, (∀ q ∈ ports, ¬p.Late ((done ++ n :: nodes).map Node.id) n q) →
          Resolved p t n.id (ports.map Port.id) := by
        intro ports hports id hid e he
        obtain ⟨q, hq, rfl⟩ := List.mem_map.1 hid
        by_contra hunbound
        exact hports q hq ((hlate q).2 ⟨e, he, Option.not_isSome_iff_eq_none.1 hunbound⟩)
      cases hf : n.inputs.find? fun q => p.Late ((done ++ n :: nodes).map Node.id) n q with
      | some q =>
          obtain ⟨hq, before, after, hsplit, hbefore⟩ := List.find?_eq_some_iff_append.1 hf
          obtain ⟨e, he, hunbound⟩ := (hlate q).1 (of_decide_eq_true hq)
          have hports : n.inputs.map Port.id = before.map Port.id ++ q.id :: after.map Port.id := by
            rw [hsplit, List.map_append, List.map_cons]
          have hb := bind_of_unbound hports (hresolved before (by simpa using hbefore)) he hunbound
          rw [firstLate?_cons_of_some hf]
          exact ⟨e, he, by simp [bindAll, hb]⟩
      | none =>
          have hdistinct : ∀ m ∈ done, m.id ≠ n.id := by
            rw [List.map_append, List.map_cons] at hnodup
            intro m hm hid
            exact notMem_of_nodup_middle hnodup (hid ▸ List.mem_map_of_mem hm)
          obtain ⟨b, u, hb⟩ :=
            bind_of_not_clashes (hresolved n.inputs (by simpa using hf)) (hc.unbound hdistinct) hn
          have hresult : (bindAll p t (n :: nodes)).result = (bindAll p u nodes).result := by
            simp [bindAll, hb]
          rw [firstLate?_cons_of_none hf, hresult]
          rw [List.append_cons] at hmem hnodup ⊢
          exact ih (hc.step (bind_ok hb)) hnodes hmem hnodup

end

end Binding

namespace Pipeline

variable {τ : Type} {p : Pipeline} {order : List String} {registry : Registry τ} {s : Settings} {timestamp : String}

/-- What an emission can come to if all edges resolve and no output node clashes with its result. -/
inductive EmitOutcome (p : Pipeline) (order : List String) (registry : Registry τ) : Except EmitError Emission → Prop
  | notAnOrder (h : ¬order.Perm p.ids) : EmitOutcome p order registry (.error .notAnOrder)
  | noTemplate {n : Node} (hperm : order.Perm p.ids)
      (hn : ((p.nodesIn order).find? fun n => ¬registry.Serves n) = some n) :
      EmitOutcome p order registry (.error (.noTemplate (.noTemplate n.id n.category)))
  | unresolved {n : Node} {q : Port} {e : Edge} (hperm : order.Perm p.ids)
      (hserved : ∀ n ∈ p.nodes, registry.Serves n) (hlate : p.firstLate? order (p.nodesIn order) = some (n, q))
      (he : p.feeder? n.id q.id = some e) :
      EmitOutcome p order registry (.error (.symbol (.unresolved e.source)))
  | emitted {e : Emission} (hperm : order.Perm p.ids) (hserved : ∀ n ∈ p.nodes, registry.Serves n)
      (hlate : p.firstLate? order (p.nodesIn order) = none) : EmitOutcome p order registry (.ok e)

theorem emit_outcome [Strategy τ] (hedges : ∀ e ∈ p.edges, p.Resolves e) (hclash : ∀ n ∈ p.nodes, ¬n.Clashes) :
    EmitOutcome p order registry (p.emit order registry s timestamp).value := by
  by_cases hperm : order.Perm p.ids
  · have hmem : ∀ n, n ∈ p.nodesIn order ↔ n ∈ p.nodes := fun n => mem_nodesIn_of_perm hperm
    have hids : (p.nodesIn order).map Node.id = order := map_id_nodesIn hperm.subset
    cases ht : p.templatesFor registry order with
    | error d =>
        rw [emit_of_no_template hperm ht]
        obtain ⟨before, n, after, hsplit, hbefore, hn, rfl⟩ := templatesFor_error ht
        refine .noTemplate hperm (List.find?_eq_some_iff_append.2 ⟨by simpa using hn, before, after, hsplit, ?_⟩)
        simpa using hbefore
    | ok templates =>
        have hserved : ∀ n ∈ p.nodes, registry.Serves n := fun n hn => (templatesFor_ok ht).2 n ((hmem n).2 hn)
        have hcases := Binding.bindAll_cases hedges (Binding.covers_empty (scriptReserved s))
          (fun n hn => hclash n ((hmem n).1 hn)) (fun n hn => (hmem n).1 hn)
          (hids.symm ▸ hperm.nodup_iff.2 p.nodes_nodup)
        rw [List.nil_append, hids] at hcases
        cases hlate : p.firstLate? order (p.nodesIn order) with
        | none =>
            rw [hlate] at hcases
            obtain ⟨table, hb⟩ := hcases
            rw [emit_of_bindings hperm ht hb]
            exact .emitted hperm hserved hlate
        | some x =>
            rw [hlate] at hcases
            obtain ⟨e, he, hb⟩ := hcases
            rw [emit_of_symbol_error hperm ht hb]
            exact .unresolved hperm hserved hlate he
  · rw [emit_of_not_perm hperm]
    exact .notAnOrder hperm

namespace EmitOutcome

variable {value : Except EmitError Emission} (h : EmitOutcome p order registry value)

include h

theorem notAnOrder_iff : value = .error .notAnOrder ↔ ¬order.Perm p.ids := by
  cases h with
  | notAnOrder hperm => exact iff_of_true rfl hperm
  | noTemplate hperm _ => simp [hperm]
  | unresolved hperm _ _ _ => simp [hperm]
  | emitted hperm _ _ => simp [hperm]

theorem noTemplate_iff (hperm : order.Perm p.ids) :
    (∃ d, value = .error (.noTemplate d)) ↔ ∃ n ∈ p.nodes, ¬registry.Serves n := by
  cases h with
  | notAnOrder hnot => exact absurd hperm hnot
  | @noTemplate n _ hn =>
      have hmem := mem_nodesIn.1 (List.mem_of_find?_eq_some hn)
      exact iff_of_true ⟨_, rfl⟩ ⟨n, hmem.1, by simpa using List.find?_some hn⟩
  | unresolved _ hserved _ _ => simpa using hserved
  | emitted _ hserved _ => simpa using hserved

theorem noTemplate_first {d : Problem} (hd : value = .error (.noTemplate d)) :
    ∃ n, ((p.nodesIn order).find? fun n => ¬registry.Serves n) = some n ∧ d = .noTemplate n.id n.category := by
  cases h with
  | @noTemplate n _ hn =>
      cases hd
      exact ⟨n, hn, rfl⟩
  | _ => cases hd

theorem symbol_iff (hperm : order.Perm p.ids) (hserved : ∀ n ∈ p.nodes, registry.Serves n) :
    (∃ cause, value = .error (.symbol cause)) ↔ ∃ n ∈ p.nodes, ∃ q ∈ n.inputs, p.Late order n q := by
  have hnone : p.firstLate? order (p.nodesIn order) = none ↔ ¬∃ n ∈ p.nodes, ∃ q ∈ n.inputs, p.Late order n q := by
    simp [firstLate?_eq_none, mem_nodesIn_of_perm hperm]
  cases h with
  | notAnOrder hnot => exact absurd hperm hnot
  | @noTemplate n _ hn =>
      have hmem := mem_nodesIn.1 (List.mem_of_find?_eq_some hn)
      exact absurd (hserved n hmem.1) (by simpa using List.find?_some hn)
  | unresolved _ _ hlate _ =>
      refine iff_of_true ⟨_, rfl⟩ (not_not.1 fun hnot => ?_)
      cases hlate.symm.trans (hnone.2 hnot)
  | emitted _ _ hlate => exact iff_of_false (by simp) (hnone.1 hlate)

theorem symbol_first {cause : SymbolError} (hcause : value = .error (.symbol cause)) :
    ∃ n q e, p.firstLate? order (p.nodesIn order) = some (n, q) ∧ p.feeder? n.id q.id = some e ∧
      cause = .unresolved ⟨e.sourceNode, e.sourcePort⟩ := by
  cases h with
  | unresolved _ _ hlate he =>
      cases hcause
      exact ⟨_, _, _, hlate, he, rfl⟩
  | _ => cases hcause

theorem succeeds (hperm : order.Perm p.ids) (hserved : ∀ n ∈ p.nodes, registry.Serves n)
    (hlate : ∀ n ∈ p.nodes, ∀ q ∈ n.inputs, ¬p.Late order n q) : ∃ e, value = .ok e := by
  have hsymbol : ¬∃ cause, value = .error (.symbol cause) := by
    rw [h.symbol_iff hperm hserved]
    rintro ⟨n, hn, q, hq, hnq⟩
    exact hlate n hn q hq hnq
  have hserves : ¬∃ d, value = .error (.noTemplate d) := by
    rw [h.noTemplate_iff hperm]
    rintro ⟨n, hn, hnot⟩
    exact hnot (hserved n hn)
  cases value with
  | ok e => exact ⟨e, rfl⟩
  | error cause =>
      cases cause with
      | notAnOrder => exact absurd hperm (h.notAnOrder_iff.1 rfl)
      | noTemplate d => exact absurd ⟨d, rfl⟩ hserves
      | symbol cause => exact absurd ⟨cause, rfl⟩ hsymbol

end EmitOutcome

variable [Strategy τ]

theorem emit_bound_congr {q : Pipeline} (hnodes : q.nodes = p.nodes)
    (hsources : ∀ node port, (q.feeder? node port).map Edge.source = (p.feeder? node port).map Edge.source) :
    (q.emit order registry s timestamp).value.map Emission.bound =
      (p.emit order registry s timestamp).value.map Emission.bound := by
  have hids : q.ids = p.ids := by
    rw [ids, ids, hnodes]
  have hnode : q.node? = p.node? := node?_congr hnodes
  have htemplates : q.templatesFor registry order = p.templatesFor registry order := by
    rw [templatesFor, templatesFor, hnode]
  have hbindings : q.bindings s order = p.bindings s order := by
    rw [bindings, bindings, nodesIn, nodesIn, hnode]
    exact Binding.bindAll_congr (fun n _ => hsources n.id) _
  rw [emit_map_bound, emit_map_bound, hids, htemplates, hbindings]

theorem feeder?_of_fed {before after : List Edge} {f : Edge} (hsplit : p.edges = before ++ f :: after)
    (hfed : ∃ e ∈ before, e.targetNode = f.targetNode ∧ e.targetPort = f.targetPort) (node port : String) :
    { p with edges := before ++ after }.feeder? node port = p.feeder? node port := by
  simp only [feeder?, hsplit, List.find?_append, List.find?_cons]
  cases hf : f.targetNode == node && f.targetPort == port with
  | false => rfl
  | true =>
      -- The edge would lead to the port, but one before it does so already.
      obtain ⟨e, he, hnode, hport⟩ := hfed
      have hsome : (before.find? fun e => e.targetNode == node && e.targetPort == port).isSome := by
        rw [List.find?_isSome]
        exact ⟨e, he, by rw [hnode, hport]; exact hf⟩
      obtain ⟨g, hg⟩ := Option.isSome_iff_exists.1 hsome
      simp [hg]

theorem emit_bound_of_fed {before after : List Edge} {f : Edge} (hsplit : p.edges = before ++ f :: after)
    (hfed : ∃ e ∈ before, e.targetNode = f.targetNode ∧ e.targetPort = f.targetPort) :
    ({ p with edges := before ++ after }.emit order registry s timestamp).value.map Emission.bound =
      (p.emit order registry s timestamp).value.map Emission.bound := by
  apply emit_bound_congr
  · rfl
  · intro node port
    rw [feeder?_of_fed hsplit hfed]

/-- An emission fails with the first of three faults: the order does not list every node once, a node has no template,
or the first edge to an input port leaves a node that does not come before the port's own. It reports the first node, or
the place that feeds the first port, to which that applies. Further edges to a port that is fed play no part. -/
theorem emit_fails_exactly (hedges : ∀ e ∈ p.edges, p.Resolves e) (hclash : ∀ n ∈ p.nodes, ¬n.Clashes)
    (order : List String) (registry : Registry τ) (s : Settings) (timestamp : String) :
    ((p.emit order registry s timestamp).value = .error .notAnOrder ↔ ¬order.Perm p.ids) ∧
    (order.Perm p.ids →
      ((∃ d, (p.emit order registry s timestamp).value = .error (.noTemplate d)) ↔
        ∃ n ∈ p.nodes, ¬registry.Serves n)) ∧
    (∀ d, (p.emit order registry s timestamp).value = .error (.noTemplate d) →
      ∃ n, ((p.nodesIn order).find? fun n => ¬registry.Serves n) = some n ∧ d = .noTemplate n.id n.category) ∧
    (order.Perm p.ids → (∀ n ∈ p.nodes, registry.Serves n) →
      ((∃ cause, (p.emit order registry s timestamp).value = .error (.symbol cause)) ↔
        ∃ n ∈ p.nodes, ∃ q ∈ n.inputs, p.Late order n q)) ∧
    (∀ cause, (p.emit order registry s timestamp).value = .error (.symbol cause) →
      ∃ n q e, p.firstLate? order (p.nodesIn order) = some (n, q) ∧ p.feeder? n.id q.id = some e ∧
        cause = .unresolved ⟨e.sourceNode, e.sourcePort⟩) ∧
    (order.Perm p.ids → (∀ n ∈ p.nodes, registry.Serves n) → (∀ n ∈ p.nodes, ∀ q ∈ n.inputs, ¬p.Late order n q) →
      ∃ e, (p.emit order registry s timestamp).value = .ok e) ∧
    ∀ before f after, p.edges = before ++ f :: after →
      (∃ e ∈ before, e.targetNode = f.targetNode ∧ e.targetPort = f.targetPort) →
      ({ p with edges := before ++ after }.emit order registry s timestamp).value.map Emission.bound =
        (p.emit order registry s timestamp).value.map Emission.bound := by
  have h : EmitOutcome p order registry (p.emit order registry s timestamp).value := emit_outcome hedges hclash
  exact ⟨h.notAnOrder_iff, h.noTemplate_iff, fun d => h.noTemplate_first, h.symbol_iff, fun cause => h.symbol_first,
    h.succeeds, fun before f after => emit_bound_of_fed⟩

/-- A question and a note on it. The second edge to the last node leaves the note. -/
def noted : Pipeline where
  nodes := [
    ⟨"ask", .input, "Ask", [], [], [textPort], none, .null, List.nodup_nil, List.nodup_singleton "text"⟩,
    ⟨"note", .logic, "Note", [], [textPort], [textPort], none, .null, List.nodup_singleton "text",
      List.nodup_singleton "text"⟩,
    ⟨"say", .output, "Say", [], [textPort], [], none, .null, List.nodup_singleton "text", List.nodup_nil⟩]
  edges := [
    ⟨"e1", "ask", "text", "say", "text", .text⟩,
    ⟨"e2", "note", "text", "say", "text", .text⟩,
    ⟨"e3", "ask", "text", "note", "text", .text⟩]

theorem noted_emissions :
    (noted.emit ["ask", "ask", "say"] .standard {} "now").value = .error .notAnOrder ∧
    (noted.emit ["note", "say", "ask"] (.without .standard .logic) {} "now").value =
      .error (.noTemplate (.noTemplate "note" .logic)) ∧
    (noted.emit ["note", "say", "ask"] .standard {} "now").value = .error (.symbol (.unresolved ⟨"ask", "text"⟩)) ∧
    ∃ e, (noted.emit ["ask", "say", "note"] .standard {} "now").value = .ok e := by
  have h := @emit_fails_exactly Template noted _ (by decide) (by decide)
  refine ⟨?_, ?_, ?_, ?_⟩
  · obtain ⟨hiff, -⟩ := h ["ask", "ask", "say"] .standard {} "now"
    exact hiff.2 (by decide)
  · obtain ⟨-, hiff, hfirst, -⟩ := h ["note", "say", "ask"] (.without .standard .logic) {} "now"
    obtain ⟨d, hd⟩ := (hiff (by decide)).2 (by decide)
    obtain ⟨n, hn, rfl⟩ := hfirst d hd
    have hnote : ((noted.nodesIn ["note", "say", "ask"]).find? fun n =>
        ¬(Registry.without .standard .logic).Serves n).map (fun n => (n.id, n.category)) =
          some ("note", .logic) := by decide
    rw [hn] at hnote
    obtain ⟨hid, hcat⟩ : n.id = "note" ∧ n.category = .logic := by simpa using hnote
    rw [hd, hid, hcat]
  · obtain ⟨-, -, -, hiff, hfirst, -⟩ := h ["note", "say", "ask"] .standard {} "now"
    obtain ⟨cause, hcause⟩ := (hiff (by decide) (by decide)).2 (by decide)
    obtain ⟨n, q, e, hlate, he, rfl⟩ := hfirst cause hcause
    have hport : (noted.firstLate? ["note", "say", "ask"] (noted.nodesIn ["note", "say", "ask"])).map
        (fun x => (x.1.id, x.2.id)) = some ("note", "text") := by decide
    rw [hlate] at hport
    obtain ⟨hid, hport⟩ : n.id = "note" ∧ q.id = "text" := by simpa using hport
    rw [hid, hport] at he
    cases he
    exact hcause
  · obtain ⟨-, -, -, -, -, hok, -⟩ := h ["ask", "say", "note"] .standard {} "now"
    exact hok (by decide) (by decide) (by decide)

end Pipeline

end Dataflow
