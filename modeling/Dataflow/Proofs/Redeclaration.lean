import Dataflow.Proofs.Recursion
import Dataflow.Proofs.Wiring

namespace Dataflow

variable {p : Pipeline} {order : List String}

theorem Search.ordered_of_idxOf_lt (hd : order.Nodup)
    (h : ∀ n ∈ order, ∀ m ∈ p.suppliers n, order.idxOf m < order.idxOf n) : Search.Ordered p order := by
  rintro before n after rfl m hm
  exact (idxOf_lt_idxOf_iff (notMem_of_nodup_middle hd)).1 (h n (by simp) m hm)

namespace Pipeline

theorem visitAll_of_finished {path ns : List String} (hns : ∀ n ∈ ns, n ∈ p.ids)
    (h : ∀ n ∈ ns, n ∉ path ∧ n ∈ order) : p.visitAll path order ns hns = .ok order := by
  induction ns with
  | nil => exact visitAll_nil hns
  | cons n ns ih =>
      obtain ⟨⟨hpath, horder⟩, hrest⟩ := List.forall_mem_cons.1 h
      rw [visitAll_cons, visit_of_finished _ hpath horder, Steps.ok_bind]
      exact ih _ hrest

theorem visit_of_supplied {n : String} (hn : n ∈ p.ids) (hnew : n ∉ order) (h : p.suppliers n ⊆ order) :
    p.visit [] order n hn = .ok (order ++ [n]) := by
  rw [visit_of_new hn List.not_mem_nil hnew, visitAll_of_finished, Steps.ok_bind]
  intro m hm
  refine ⟨?_, h hm⟩
  intro hmn
  obtain rfl : m = n := by simpa using hmn
  exact hnew (h hm)

theorem visitAll_of_ordered {waiting : List String} (hids : ∀ n ∈ waiting, n ∈ p.ids)
    (hd : (order ++ waiting).Nodup) (h : Search.Ordered p (order ++ waiting)) :
    p.visitAll [] order waiting hids = .ok (order ++ waiting) := by
  induction waiting generalizing order with
  | nil => rw [visitAll_nil, List.append_nil]
  | cons n waiting ih =>
      have hnew : n ∉ order := notMem_of_nodup_middle hd
      have hsupplied : p.suppliers n ⊆ order := h order n waiting rfl
      rw [List.append_cons] at hd h
      rw [visitAll_cons, visit_of_supplied _ hnew hsupplied, Steps.ok_bind, ih _ hd h, ← List.append_cons]

theorem schedule_of_ordered (h : Search.Ordered p p.ids) : p.schedule = .ok p.ids := by
  rw [schedule_eq_visitAll]
  exact visitAll_of_ordered _ p.nodes_nodup h

/-- The pipeline with its nodes declared in another order. -/
def redeclare (p : Pipeline) (order : List String) (h : order.Perm p.ids) : Pipeline := { p with
  nodes := p.nodesIn order
  nodes_nodup := by
    rw [map_id_nodesIn h.subset]
    exact h.nodup_iff.2 p.nodes_nodup }

variable (h : order.Perm p.ids)

theorem ids_redeclare : (p.redeclare order h).ids = order :=
  map_id_nodesIn h.subset

theorem nodes_redeclare_perm : (p.redeclare order h).nodes.Perm p.nodes := by
  apply (List.perm_ext_iff_of_nodup _ p.nodes_nodup.of_map).2
  · exact fun n => mem_nodesIn_of_perm h
  · exact (p.redeclare order h).nodes_nodup.of_map

theorem mem_suppliers_redeclare {m n : String} : m ∈ (p.redeclare order h).suppliers n ↔ m ∈ p.suppliers n := by
  rw [mem_suppliers, mem_suppliers, ids_redeclare, h.mem_iff]
  rfl

theorem schedule_redeclare (hs : p.IsSchedule order) : (p.redeclare order hs.perm).schedule = .ok order := by
  have hordered : Search.Ordered (p.redeclare order hs.perm) (p.redeclare order hs.perm).ids := by
    rw [ids_redeclare]
    intro before n after horder m hm
    exact hs.ordered before n after horder m ((mem_suppliers_redeclare hs.perm).1 hm)
  rw [schedule_of_ordered hordered, ids_redeclare]

/-- Nodes that are declared after all that feed them are scheduled as they are declared. A pipeline that has a
schedule gets the same one when its nodes are declared in that order. -/
theorem schedule_keeps_consistent_order :
    (∀ p : Pipeline,
      (∀ e ∈ p.edges, e.sourceNode ∈ p.ids → e.targetNode ∈ p.ids →
        p.ids.idxOf e.sourceNode < p.ids.idxOf e.targetNode) →
      p.schedule = .ok p.ids) ∧
    ∀ (p : Pipeline) (order : List String), p.schedule = .ok order →
      ∃ h : order.Perm p.ids, (p.redeclare order h).nodes.Perm p.nodes ∧ (p.redeclare order h).ids = order ∧
        (p.redeclare order h).edges = p.edges ∧ (p.redeclare order h).schedule = .ok order := by
  constructor
  · intro p hedges
    refine schedule_of_ordered (Search.ordered_of_idxOf_lt p.nodes_nodup ?_)
    intro n hn m hm
    obtain ⟨hsource, e, he, rfl, rfl⟩ := mem_suppliers.1 hm
    exact hedges e he hsource hn
  · intro p order hs
    have hsched := schedule_ok hs
    exact ⟨hsched.perm, nodes_redeclare_perm _, ids_redeclare _, rfl, schedule_redeclare hsched⟩

def unbraided : Pipeline := { braided with
  nodes := braided.nodes.reverse
  nodes_nodup := by decide }

theorem braided_redeclared : unbraided.schedule = .ok ["a", "b", "c"] ∧ braided.ids = ["c", "b", "a"] ∧
    ∃ h : ["a", "b", "c"].Perm braided.ids, (braided.redeclare _ h).schedule = .ok ["a", "b", "c"] := by
  obtain ⟨hdeclared, hscheduled⟩ := schedule_keeps_consistent_order
  obtain ⟨h, -, -, -, hs⟩ := hscheduled braided _ schedule_braided
  exact ⟨hdeclared unbraided (by decide), rfl, h, hs⟩

end Pipeline

end Dataflow
