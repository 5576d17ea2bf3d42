import Dataflow.Problem
import Dataflow.Proofs.Search

namespace Dataflow

variable {p : Pipeline} {order : List String}

theorem notMem_of_nodup_middle {before after : List String} {n : String} (h : (before ++ n :: after).Nodup) :
    n ∉ before :=
  fun hn => List.disjoint_of_nodup_append h hn List.mem_cons_self

theorem idxOf_lt_idxOf_iff {before after : List String} {m n : String} (hn : n ∉ before) :
    (before ++ n :: after).idxOf m < (before ++ n :: after).idxOf n ↔ m ∈ before := by
  rw [List.idxOf_append_of_notMem hn, List.idxOf_cons_self]
  constructor
  · intro hlt
    by_contra hm
    rw [List.idxOf_append_of_notMem hm] at hlt
    omega
  · intro hm
    rw [List.idxOf_append_of_mem hm]
    exact List.idxOf_lt_length_of_mem hm

theorem Search.Ordered.idxOf_lt (h : Search.Ordered p order) (hd : order.Nodup) {m n : String}
    (hn : n ∈ order) (hm : m ∈ p.suppliers n) : order.idxOf m < order.idxOf n := by
  obtain ⟨before, after, rfl⟩ := List.append_of_mem hn
  exact (idxOf_lt_idxOf_iff (notMem_of_nodup_middle hd)).2 (h before n after rfl m hm)

namespace Pipeline

/-- An order that lists every node once, after all nodes that feed it. -/
structure IsSchedule (p : Pipeline) (order : List String) : Prop where
  perm : order.Perm p.ids
  ordered : Search.Ordered p order

theorem IsSchedule.nodup (h : p.IsSchedule order) : order.Nodup :=
  h.perm.nodup_iff.2 p.nodes_nodup

theorem IsSchedule.idxOf_lt (h : p.IsSchedule order) {m n : String} (hf : p.Feeds m n) :
    order.idxOf m < order.idxOf n := by
  obtain ⟨hn, hm⟩ := feeds_iff_mem_suppliers.1 hf
  exact h.ordered.idxOf_lt h.nodup (h.perm.mem_iff.2 hn) hm

theorem not_cyclic_of_lt {rank : String → Nat} (h : ∀ {m n}, p.Feeds m n → rank m < rank n) : ¬p.Cyclic := by
  rintro ⟨n, hn⟩
  have hlt : ∀ m, Relation.TransGen p.Feeds n m → rank n < rank m := by
    intro m hm
    induction hm with
    | single hf => exact h hf
    | tail _ hf ih => exact ih.trans (h hf)
  exact Nat.lt_irrefl _ (hlt n hn)

theorem IsSchedule.not_cyclic (h : p.IsSchedule order) : ¬p.Cyclic := not_cyclic_of_lt h.idxOf_lt

theorem schedule_ok (h : p.schedule = .ok order) : p.IsSchedule order := by
  have hrun := Search.run_reached (Search.declared_start p) .start
  rw [show (Search.start p).run p (Search.declared_start p) = .ok order from h] at hrun
  obtain ⟨s, hs, hdone, rfl⟩ := hrun
  exact ⟨hs.sound.perm hdone, hs.sound.ordered⟩

theorem exists_of_schedule_error {path : List String} (h : p.schedule = .error path) :
    ∃ s, Search.Reached p s ∧ s.step p = .cycle path := by
  have hrun := Search.run_reached (Search.declared_start p) .start
  rwa [show (Search.start p).run p (Search.declared_start p) = .error path from h] at hrun

theorem schedule_error {path : List String} (h : p.schedule = .error path) : p.Cyclic := by
  obtain ⟨s, hs, hcycle⟩ := exists_of_schedule_error h
  exact hs.sound.cyclic hcycle

theorem exists_schedule_iff (p : Pipeline) : (∃ order, p.schedule = .ok order) ↔ ¬p.Cyclic := by
  constructor
  · rintro ⟨order, h⟩
    exact (schedule_ok h).not_cyclic
  · intro hc
    cases h : p.schedule with
    | ok order => exact ⟨order, rfl⟩
    | error path => exact absurd (schedule_error h) hc

/-- A pipeline without cycles is scheduled, with every node once and after those that feed it; one
with a cycle is refused. -/
theorem schedule_iff_acyclic (p : Pipeline) :
    ((∃ order, p.schedule = .ok order) ↔ ¬∃ n, Relation.TransGen p.Feeds n n) ∧
    (∀ order, p.schedule = .ok order →
      order.Perm p.ids ∧ order.Nodup ∧
      ∀ e ∈ p.edges, e.sourceNode ∈ p.ids → e.targetNode ∈ p.ids →
        order.idxOf e.sourceNode < order.idxOf e.targetNode) ∧
    ((∃ n, Relation.TransGen p.Feeds n n) → ∃ path, p.schedule = .error path) := by
  refine ⟨exists_schedule_iff p, ?_, ?_⟩
  · intro order h
    have hs := schedule_ok h
    exact ⟨hs.perm, hs.nodup, fun e he hsource htarget =>
      hs.idxOf_lt ⟨hsource, htarget, e, he, rfl, rfl⟩⟩
  · intro hc
    cases h : p.schedule with
    | ok order => exact absurd hc (schedule_ok h).not_cyclic
    | error path => exact ⟨path, rfl⟩

/-- Three nodes declared against the order of their edges, of which two run in parallel and one dangles. -/
def braided : Pipeline where
  nodes := [
    ⟨"c", .output, "c", [], [], [], none, .null, List.nodup_nil, List.nodup_nil⟩,
    ⟨"b", .logic, "b", [], [], [], none, .null, List.nodup_nil, List.nodup_nil⟩,
    ⟨"a", .input, "a", [], [], [], none, .null, List.nodup_nil, List.nodup_nil⟩]
  edges := [
    ⟨"e1", "b", "out", "c", "in", .text⟩,
    ⟨"e2", "a", "out", "b", "left", .text⟩,
    ⟨"e3", "a", "out", "b", "right", .text⟩,
    ⟨"e4", "x", "out", "a", "in", .text⟩]

theorem schedule_braided : braided.schedule = .ok ["a", "b", "c"] := by
  cbv

theorem braided_acyclic : braided.schedule = .ok ["a", "b", "c"] ∧
    (¬∃ n, Relation.TransGen braided.Feeds n n) ∧ ["a", "b", "c"].Perm braided.ids := by
  obtain ⟨hiff, hok, -⟩ := schedule_iff_acyclic braided
  exact ⟨schedule_braided, hiff.1 ⟨_, schedule_braided⟩, (hok _ schedule_braided).1⟩

/-- A pipeline without a schedule is refused with a cycle: each node on its path is fed by the next one, the last
is the first, and no other comes twice. The report spells this path, and is about its first node. -/
theorem schedule_error_names_cycle {path : List String} (h : p.schedule = .error path) :
    ∃ first between, path = first :: between ++ [first] ∧ (first :: between).Nodup ∧ (∀ n ∈ path, n ∈ p.ids) ∧
      (∀ i (_ : i + 1 < path.length), ∃ e ∈ p.edges, e.targetNode = path[i] ∧ e.sourceNode = path[i + 1]) ∧
      (Problem.cycle path).diagnostic = {
        kind := .cycle
        message := "Pipeline contains circular dependencies: " ++ " -> ".intercalate path
        node := some first } := by
  obtain ⟨s, hs, hcycle⟩ := exists_of_schedule_error h
  obtain ⟨first, between, rfl, hnodup, hchain⟩ := hs.sound.cycle hcycle
  rw [List.isChain_iff_getElem] at hchain
  refine ⟨first, between, rfl, hnodup, ?_, ?_, rfl⟩
  · intro n hn
    obtain ⟨i, hi, rfl⟩ := List.mem_iff_getElem.1 hn
    -- The last node of the path is also its first one, and every other has a node after it.
    by_cases hlast : i + 1 < (first :: between ++ [first]).length
    · exact (hchain i hlast).2.1
    · obtain rfl : i = between.length + 1 := by simp at hi hlast; omega
      simpa using (hchain 0 (by simp)).2.1
  · intro i hi
    obtain ⟨-, -, e, he, hsource, htarget⟩ := hchain i hi
    exact ⟨e, he, htarget, hsource⟩

/-- A ring of three nodes that is entered from a fourth. -/
def knotted : Pipeline where
  nodes := [
    ⟨"d", .output, "d", [], [], [], none, .null, List.nodup_nil, List.nodup_nil⟩,
    ⟨"c", .logic, "c", [], [], [], none, .null, List.nodup_nil, List.nodup_nil⟩,
    ⟨"b", .logic, "b", [], [], [], none, .null, List.nodup_nil, List.nodup_nil⟩,
    ⟨"a", .logic, "a", [], [], [], none, .null, List.nodup_nil, List.nodup_nil⟩]
  edges := [
    ⟨"e1", "a", "out", "d", "in", .text⟩,
    ⟨"e2", "b", "out", "a", "in", .text⟩,
    ⟨"e3", "c", "out", "b", "in", .text⟩,
    ⟨"e4", "a", "out", "c", "in", .text⟩]

theorem schedule_knotted : knotted.schedule = .error ["a", "b", "c", "a"] := by
  cbv

theorem knotted_names_cycle : knotted.schedule = .error ["a", "b", "c", "a"] ∧
    (∃ e ∈ knotted.edges, e.targetNode = "b" ∧ e.sourceNode = "c") ∧
    (Problem.cycle ["a", "b", "c", "a"]).diagnostic.message =
      "Pipeline contains circular dependencies: a -> b -> c -> a" := by
  obtain ⟨first, between, -, -, -, hedges, hreport⟩ := schedule_error_names_cycle schedule_knotted
  exact ⟨schedule_knotted, hedges 1 (by decide), (congrArg Diagnostic.message hreport).trans rfl⟩

end Pipeline

end Dataflow
