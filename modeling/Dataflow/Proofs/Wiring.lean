import Dataflow.Naming.Binding
import Dataflow.Proofs.Diagnosis
import Dataflow.Proofs.Schedule

namespace Dataflow

/-- The ports of a node that have a variable: its output ports, and the result of an output node. -/
def Node.boundPorts (n : Node) : List String :=
  if n.category = .output then PortKey.resultPort :: n.outputs.map Port.id else n.outputs.map Port.id

theorem Node.mem_boundPorts_of_output {n : Node} {q : Port} (h : q ∈ n.outputs) : q.id ∈ n.boundPorts := by
  have hq : q.id ∈ n.outputs.map Port.id := List.mem_map_of_mem h
  unfold boundPorts
  split
  · exact List.mem_cons_of_mem _ hq
  · exact hq

def Edge.source (e : Edge) : PortKey := ⟨e.sourceNode, e.sourcePort⟩

namespace Pipeline

variable {p : Pipeline}

theorem feeder?_some {node port : String} {e : Edge} (h : p.feeder? node port = some e) :
    e ∈ p.edges ∧ e.targetNode = node ∧ e.targetPort = port := by
  refine ⟨List.mem_of_find?_eq_some h, ?_⟩
  simpa using List.find?_some h

/-- The input ports of the node that edges lead to are fed by bound ports of nodes in `done`. -/
def FedBy (p : Pipeline) (done : List Node) (n : Node) : Prop :=
  ∀ port ∈ n.inputs.map Port.id, ∀ e, p.feeder? n.id port = some e →
    ∃ m ∈ done, m.id = e.sourceNode ∧ e.sourcePort ∈ m.boundPorts

theorem FedBy.mono {done more : List Node} {n : Node} (h : p.FedBy done n) (hsub : done ⊆ more) :
    p.FedBy more n := by
  intro port hport e he
  obtain ⟨m, hm, hsource⟩ := h port hport e he
  exact ⟨m, hsub hm, hsource⟩

/-- After the nodes in `done`, the others can run in turn: each is new, and what feeds it has run. -/
def Runnable (p : Pipeline) : List Node → List Node → Prop
  | _, [] => True
  | done, n :: nodes => (∀ m ∈ done, m.id ≠ n.id) ∧ p.FedBy done n ∧ p.Runnable (done ++ [n]) nodes

def nodesIn (p : Pipeline) (order : List String) : List Node := order.filterMap p.node?

theorem mem_nodesIn {order : List String} {n : Node} : n ∈ p.nodesIn order ↔ n ∈ p.nodes ∧ n.id ∈ order := by
  simp only [nodesIn, List.mem_filterMap, node?_eq_some]
  constructor
  · rintro ⟨id, hid, hn, rfl⟩
    exact ⟨hn, hid⟩
  · rintro ⟨hn, hid⟩
    exact ⟨n.id, hid, hn, rfl⟩

theorem mem_nodesIn_of_perm {order : List String} {n : Node} (h : order.Perm p.ids) :
    n ∈ p.nodesIn order ↔ n ∈ p.nodes := by
  rw [mem_nodesIn, and_iff_left_iff_imp]
  intro hn
  exact h.symm.subset (mem_ids.2 ⟨n, hn, rfl⟩)

theorem map_id_nodesIn {order : List String} (h : order ⊆ p.ids) : (p.nodesIn order).map Node.id = order := by
  induction order with
  | nil => rfl
  | cons id order ih =>
      obtain ⟨n, hn, rfl⟩ := mem_ids.1 (h List.mem_cons_self)
      have hnode : p.node? n.id = some n := node?_eq_some.2 ⟨hn, rfl⟩
      have htail := ih fun id hid => h (List.mem_cons_of_mem _ hid)
      simpa [nodesIn, hnode] using htail

theorem Resolves.source_mem_ids {e : Edge} (h : p.Resolves e) : e.sourceNode ∈ p.ids := by
  obtain ⟨⟨source, out, hs⟩, -⟩ := h
  exact mem_ids.2 ⟨source, hs.mem_nodes, hs.node_eq⟩

theorem Resolves.bound_iff {e : Edge} (h : p.Resolves e) {done : List Node} (hdone : ∀ m ∈ done, m ∈ p.nodes) :
    (∃ m ∈ done, m.id = e.sourceNode ∧ e.sourcePort ∈ m.boundPorts) ↔ e.sourceNode ∈ done.map Node.id := by
  constructor
  · rintro ⟨m, hm, hid, -⟩
    exact List.mem_map.2 ⟨m, hm, hid⟩
  · intro hid
    obtain ⟨m, hm, hid⟩ := List.mem_map.1 hid
    obtain ⟨⟨source, out, hs⟩, -⟩ := h
    have hsame : source = m :=
      List.inj_on_of_nodup_map p.nodes_nodup hs.mem_nodes (hdone m hm) (hs.node_eq.trans hid.symm)
    subst hsame
    exact ⟨source, hm, hid, hs.port_eq ▸ Node.mem_boundPorts_of_output hs.mem_ports⟩

theorem runnable_of_ordered (hedges : ∀ e ∈ p.edges, p.Resolves e) {done nodes : List Node}
    (hmem : ∀ n ∈ done ++ nodes, n ∈ p.nodes) (hnodup : ((done ++ nodes).map Node.id).Nodup)
    (hord : Search.Ordered p ((done ++ nodes).map Node.id)) : p.Runnable done nodes := by
  induction nodes generalizing done with
  | nil => trivial
  | cons n nodes ih =>
      have hshift : done ++ n :: nodes = (done ++ [n]) ++ nodes := by simp
      refine ⟨?_, ?_, ih (hshift ▸ hmem) (hshift ▸ hnodup) (hshift ▸ hord)⟩
      · rw [List.map_append, List.map_cons] at hnodup
        intro m hm he
        exact notMem_of_nodup_middle hnodup (he ▸ List.mem_map_of_mem hm)
      · intro port _ e he
        obtain ⟨hedge, htarget, -⟩ := feeder?_some he
        have hresolves := hedges e hedge
        have hfeeds : p.Feeds e.sourceNode n.id :=
          ⟨hresolves.source_mem_ids, mem_ids.2 ⟨n, hmem n (by simp), rfl⟩, e, hedge, rfl, htarget⟩
        refine (hresolves.bound_iff fun m hm => hmem m (List.mem_append_left _ hm)).2 ?_
        exact hord (done.map Node.id) n.id (nodes.map Node.id) (by simp) _ (feeds_iff_mem_suppliers.1 hfeeds).2

theorem IsSchedule.runnable {order : List String} (h : p.IsSchedule order)
    (hedges : ∀ e ∈ p.edges, p.Resolves e) : p.Runnable [] (p.nodesIn order) := by
  have hids : (p.nodesIn order).map Node.id = order := map_id_nodesIn h.perm.subset
  apply runnable_of_ordered hedges
  · intro n hn
    exact (mem_nodesIn.1 hn).1
  · simpa [hids] using h.nodup
  · simpa [hids] using h.ordered

end Pipeline

end Dataflow
