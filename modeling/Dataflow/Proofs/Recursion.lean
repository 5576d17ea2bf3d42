import Dataflow.Proofs.Search
import Dataflow.Proofs.Steps

namespace Dataflow

namespace Pipeline

def offPath (p : Pipeline) (path : List String) : List String := p.ids.filter fun n => !path.contains n

theorem length_offPath_concat {p : Pipeline} {path : List String} {n : String} (hn : n ∈ p.ids) (hpath : n ∉ path) :
    (p.offPath (path ++ [n])).length < (p.offPath path).length := by
  apply Search.length_filter_lt _ hn
  · simpa using hpath
  · simp
  · intro m hm
    simp_all

mutual

/-- Visits a node from the end of `path`, the outermost node first, when those in `order` are finished. A node on the
path closes a cycle, and one that is finished stays as it is; for any other its suppliers are visited in turn, and
then it is finished. -/
def visit (p : Pipeline) (path order : List String) (n : String) (hn : n ∈ p.ids) :
    Except (List String) (List String) :=
  if hpath : n ∈ path then .error (path.dropWhile (· != n) ++ [n])
  else if n ∈ order then .ok order
  else do
    have := length_offPath_concat hn hpath
    let order ← visitAll p (path ++ [n]) order (p.suppliers n) fun _ => mem_ids_of_mem_suppliers
    return order ++ [n]
termination_by ((p.offPath path).length, 0)
decreasing_by exact Prod.Lex.left _ _ this

def visitAll (p : Pipeline) (path order : List String) (ns : List String) (hns : ∀ n ∈ ns, n ∈ p.ids) :
    Except (List String) (List String) :=
  match ns with
  | [] => .ok order
  | n :: rest => do
    let order ← visit p path order n (hns n List.mem_cons_self)
    visitAll p path order rest fun m hm => hns m (List.mem_cons_of_mem n hm)
termination_by ((p.offPath path).length, ns.length + 1)
decreasing_by
  · exact Prod.Lex.right _ (Nat.succ_pos _)
  · exact Prod.Lex.right _ (by simp)

end

variable {p : Pipeline} {path order : List String} {n : String} (hn : n ∈ p.ids)

theorem visit_of_mem_path (hpath : n ∈ path) :
    visit p path order n hn = .error (path.dropWhile (· != n) ++ [n]) := by
  rw [visit, dif_pos hpath]

theorem visit_of_finished (hpath : n ∉ path) (horder : n ∈ order) : visit p path order n hn = .ok order := by
  rw [visit, dif_neg hpath, if_pos horder]

theorem visit_of_new (hpath : n ∉ path) (horder : n ∉ order) :
    visit p path order n hn =
      visitAll p (path ++ [n]) order (p.suppliers n) (fun _ => mem_ids_of_mem_suppliers) >>=
        fun order => .ok (order ++ [n]) := by
  rw [visit, dif_neg hpath, if_neg horder]
  rfl

theorem visitAll_nil (hns : ∀ m ∈ [], m ∈ p.ids) : visitAll p path order [] hns = .ok order := by
  rw [visitAll]

theorem visitAll_cons {ns : List String} (hns : ∀ m ∈ n :: ns, m ∈ p.ids) :
    visitAll p path order (n :: ns) hns =
      visit p path order n (hns n List.mem_cons_self) >>= fun order =>
        visitAll p path order ns fun m hm => hns m (List.mem_cons_of_mem n hm) := by
  rw [visitAll]

end Pipeline

namespace Search

open Pipeline

variable {p : Pipeline} {s t : Search}

/-- What the frames of a stack still have to do, innermost first. -/
def unwind (p : Pipeline) (order : List String) :
    (frames : List Frame) → (∀ f ∈ frames, ∀ n ∈ f.pending, n ∈ p.ids) → Except (List String) (List String)
  | [], _ => .ok order
  | f :: frames, h => do
    let order ← visitAll p (f.node :: frames.map Frame.node).reverse order f.pending (h f List.mem_cons_self)
    unwind p (order ++ [f.node]) frames fun g hg => h g (List.mem_cons_of_mem f hg)

def rest (p : Pipeline) (s : Search) (h : s.Declared p) : Except (List String) (List String) := do
  let order ← unwind p s.order s.stack h.pending
  visitAll p [] order s.waiting h.waiting

theorem rest_move (h : s.Declared p) (ht : t.Declared p) (hm : Move p s t) : rest p s h = rest p t ht := by
  cases hm with
  | skip hn =>
      simp only [rest, unwind, Steps.ok_bind]
      rw [visitAll_cons, visit_of_finished _ List.not_mem_nil hn, Steps.ok_bind]
  | begin hn =>
      simp only [rest, unwind, Steps.ok_bind]
      rw [visitAll_cons, visit_of_new _ List.not_mem_nil hn]
      rfl
  | finish =>
      simp only [rest, unwind]
      rw [visitAll_nil, Steps.ok_bind]
  | pass hpath hn =>
      simp only [rest, unwind]
      rw [visitAll_cons, visit_of_finished _ (mt List.mem_reverse.1 hpath) hn]
      rfl
  | enter hpath hn =>
      simp only [rest, unwind, List.map_cons, bind_assoc]
      rw [visitAll_cons, visit_of_new _ (mt List.mem_reverse.1 hpath) hn, ← List.reverse_cons]
      simp only [bind_assoc]
      rfl

theorem run_eq_rest (h : s.Declared p) : run p s h = rest p s h := by
  fun_induction run p s h with
  | case1 s h hstep =>
      have hspec := step_spec p s
      rw [hstep] at hspec
      obtain ⟨waiting, stack, order⟩ := s
      obtain ⟨rfl, rfl⟩ := hspec
      simp only [rest, unwind]
      rw [Steps.ok_bind, visitAll_nil]
  | case2 s h path hstep =>
      have hspec := step_spec p s
      rw [hstep] at hspec
      obtain ⟨waiting, stack, order⟩ := s
      obtain ⟨n, m, pending, frames, rfl, hm, rfl⟩ := hspec
      simp only [rest, unwind]
      rw [visitAll_cons, visit_of_mem_path _ (List.mem_reverse.2 hm)]
      rfl
  | case3 s h t hstep ih =>
      have hmove := step_spec p s
      rw [hstep] at hmove
      rw [ih]
      exact (rest_move h (h.step hstep) hmove).symm

end Search

namespace Pipeline

theorem schedule_eq_visitAll (p : Pipeline) : p.schedule = p.visitAll [] [] p.ids fun _ h => h :=
  Search.run_eq_rest (Search.declared_start p)

/-- The search with its own stack finds what the recursion finds: the same order, or the same path of a cycle. The
suppliers that it goes through are the declared nodes with an edge to the node, each once and as they are declared. -/
theorem schedule_agrees_with_recursion (p : Pipeline) :
    (p.schedule = p.visitAll [] [] p.ids fun _ h => h) ∧
    ∀ n, (p.suppliers n).Sublist p.ids ∧ (p.suppliers n).Nodup ∧
      ∀ m, m ∈ p.suppliers n ↔ m ∈ p.ids ∧ ∃ e ∈ p.edges, e.sourceNode = m ∧ e.targetNode = n := by
  refine ⟨schedule_eq_visitAll p, fun n => ⟨List.filter_sublist, ?_, fun m => mem_suppliers⟩⟩
  exact p.nodes_nodup.sublist List.filter_sublist

end Pipeline

end Dataflow
