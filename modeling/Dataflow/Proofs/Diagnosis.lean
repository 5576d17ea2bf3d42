import Dataflow.Diagnosis
import Mathlib.Data.List.Nodup

namespace Dataflow

theorem find?_id_eq_some {α : Type} {id : α → String} {l : List α} (h : (l.map id).Nodup) {key : String} {a : α} :
    l.find? (id · == key) = some a ↔ a ∈ l ∧ id a = key := by
  constructor
  · intro hf
    exact ⟨List.mem_of_find?_eq_some hf, by simpa using List.find?_some hf⟩
  · rintro ⟨ha, rfl⟩
    cases hf : l.find? (id · == id a) with
    | none => simpa using List.find?_eq_none.1 hf a ha
    | some b =>
        have hb : id b = id a := by simpa using List.find?_some hf
        rw [List.inj_on_of_nodup_map h (List.mem_of_find?_eq_some hf) ha hb]

namespace Pipeline

variable {p : Pipeline} {e : Edge} {rules : FeedRules}

theorem node?_eq_some {id : String} {n : Node} : p.node? id = some n ↔ n ∈ p.nodes ∧ n.id = id :=
  find?_id_eq_some p.nodes_nodup

theorem node?_congr {q : Pipeline} (h : q.nodes = p.nodes) : q.node? = p.node? := by
  funext id
  rw [node?, node?, h]

theorem mem_ids {id : String} : id ∈ p.ids ↔ ∃ n ∈ p.nodes, n.id = id := by
  simp [ids]

end Pipeline

theorem Node.port?_eq_some {n : Node} {side : Side} {id : String} {port : Port} :
    n.port? side id = some port ↔ port ∈ n.ports side ∧ port.id = id := by
  cases side with
  | input => exact find?_id_eq_some n.inputs_nodup
  | output => exact find?_id_eq_some n.outputs_nodup

namespace Pipeline

variable {p : Pipeline} {e : Edge} {rules : FeedRules}

/-- The ids `node` and `port` name the node `n` and its port `q` on the given side. -/
structure Names (p : Pipeline) (side : Side) (node port : String) (n : Node) (q : Port) : Prop where
  mem_nodes : n ∈ p.nodes
  node_eq : n.id = node
  mem_ports : q ∈ n.ports side
  port_eq : q.id = port

theorem port_lookup_eq_ok {side : Side} {node port : String} {noNode noPort : LooseEnd} {n : Node} {q : Port} :
    (match p.node? node with
      | none => .error noNode
      | some n =>
        match n.port? side port with
        | none => .error noPort
        | some q => .ok (n, q) : Except LooseEnd (Node × Port)) = .ok (n, q) ↔
      p.Names side node port n q := by
  constructor
  · intro h
    split at h
    · cases h
    · rename_i m hm
      split at h
      · cases h
      · rename_i r hr
        cases h
        obtain ⟨hm, hid⟩ := node?_eq_some.1 hm
        obtain ⟨hr, hport⟩ := Node.port?_eq_some.1 hr
        exact ⟨hm, hid, hr, hport⟩
  · intro h
    simp [node?_eq_some.2 ⟨h.mem_nodes, h.node_eq⟩, Node.port?_eq_some.2 ⟨h.mem_ports, h.port_eq⟩]

theorem sourceOf_eq_ok {n : Node} {q : Port} :
    p.sourceOf e = .ok (n, q) ↔ p.Names .output e.sourceNode e.sourcePort n q :=
  port_lookup_eq_ok

theorem targetOf_eq_ok {n : Node} {q : Port} :
    p.targetOf e = .ok (n, q) ↔ p.Names .input e.targetNode e.targetPort n q :=
  port_lookup_eq_ok

def Resolves (p : Pipeline) (e : Edge) : Prop :=
  (∃ source out, p.Names .output e.sourceNode e.sourcePort source out) ∧
    ∃ target into, p.Names .input e.targetNode e.targetPort target into

/-- The edge leads from an output port to an input port that it may feed. -/
def Fits (p : Pipeline) (rules : FeedRules) (e : Edge) : Prop :=
  ∃ source out target into, p.Names .output e.sourceNode e.sourcePort source out ∧
    p.Names .input e.targetNode e.targetPort target into ∧
    (out.dataType = into.dataType ∨ into.dataType ∈ rules.targets out.dataType)

theorem allows_iff {source target : DataType} :
    rules.allows source target = true ↔ source = target ∨ target ∈ rules.targets source := by
  simp [FeedRules.allows]

theorem edgeProblem?_eq_none : p.edgeProblem? rules e = none ↔ p.Fits rules e := by
  unfold edgeProblem? Fits
  constructor
  · intro h
    split at h
    · cases h
    · cases h
    · cases h
    · rename_i source out target into hsource htarget
      split at h
      · rename_i hallows
        exact ⟨source, out, target, into, sourceOf_eq_ok.1 hsource, targetOf_eq_ok.1 htarget, allows_iff.1 hallows⟩
      · cases h
  · rintro ⟨source, out, target, into, hsource, htarget, hallows⟩
    rw [sourceOf_eq_ok.2 hsource, targetOf_eq_ok.2 htarget]
    simp [allows_iff.2 hallows]

theorem resolves_of_not_reference
    (h : ∀ d, p.edgeProblem? rules e = some d → d.diagnostic.kind ≠ .reference) : p.Resolves e := by
  unfold edgeProblem? at h
  split at h
  · exact absurd rfl (h _ rfl)
  · exact absurd rfl (h _ rfl)
  · exact absurd rfl (h _ rfl)
  · rename_i source out target into hsource htarget
    exact ⟨⟨source, out, sourceOf_eq_ok.1 hsource⟩, target, into, targetOf_eq_ok.1 htarget⟩

theorem Fits.resolves (h : p.Fits rules e) : p.Resolves e := by
  obtain ⟨source, out, target, into, hsource, htarget, -⟩ := h
  exact ⟨⟨source, out, hsource⟩, target, into, htarget⟩

theorem resolves_of_problems (h : ∀ d ∈ p.problems rules, d.diagnostic.kind ≠ .reference) :
    ∀ e ∈ p.edges, p.Resolves e := by
  intro e he
  apply resolves_of_not_reference
  intro d hd
  exact h d (List.mem_append_right _ (List.mem_filterMap.2 ⟨e, he, hd⟩))

theorem missingCategories_eq_nil : p.missingCategories = [] ↔
    (∃ n ∈ p.nodes, n.category = .input) ∧ ∃ n ∈ p.nodes, n.category = .output := by
  simp [missingCategories, nodesOf]

theorem problems_eq_nil : p.problems rules = [] ↔
    (∃ n ∈ p.nodes, n.category = .input) ∧ (∃ n ∈ p.nodes, n.category = .output) ∧
      ∀ e ∈ p.edges, p.Fits rules e := by
  simp [problems, missingCategories_eq_nil, edgeProblem?_eq_none, and_assoc]

end Pipeline

end Dataflow
