import Dataflow.Pipeline.Basic

namespace Dataflow

namespace Pipeline

/-- The declared nodes that feed a node, each once and in declaration order. -/
def suppliers (p : Pipeline) (id : String) : List String :=
  let sources := (p.edges.filter (·.targetNode == id)).map Edge.sourceNode
  p.ids.filter (sources.contains ·)

theorem mem_ids_of_mem_suppliers {p : Pipeline} {id n : String} (h : n ∈ p.suppliers id) :
    n ∈ p.ids :=
  (List.mem_filter.1 h).1

end Pipeline

/-- A node on the path of the search, and those of its suppliers that are still to be visited. -/
structure Frame where
  node : String
  pending : List String
deriving DecidableEq, Repr

/-- A state of the search: the nodes that it may still have to start from, the path from the latest
of these, innermost first, and the nodes that are finished. -/
structure Search where
  waiting : List String
  stack : List Frame
  order : List String
deriving DecidableEq, Repr

namespace Search

def start (p : Pipeline) : Search := ⟨p.ids, [], []⟩

def path (s : Search) : List String := (s.stack.map Frame.node).reverse

inductive Next where
  | state (s : Search)
  | cycle (path : List String)
  | done

/-- One step. The innermost node is finished once it has no supplier left; a supplier that is on
the path closes a cycle, one that is finished is passed over, and any other is entered. With an
empty stack the search starts again from the next node that is not finished. -/
def step (p : Pipeline) (s : Search) : Next :=
  match s.stack with
  | [] =>
    match s.waiting with
    | [] => .done
    | n :: rest =>
      if n ∈ s.order then .state ⟨rest, [], s.order⟩
      else .state ⟨rest, [⟨n, p.suppliers n⟩], s.order⟩
  | ⟨n, []⟩ :: frames => .state ⟨s.waiting, frames, s.order ++ [n]⟩
  | ⟨n, m :: pending⟩ :: frames =>
    if m ∈ s.path then .cycle (s.path.dropWhile (· != m) ++ [m])
    else if m ∈ s.order then .state ⟨s.waiting, ⟨n, pending⟩ :: frames, s.order⟩
    else .state ⟨s.waiting, ⟨m, p.suppliers m⟩ :: ⟨n, pending⟩ :: frames, s.order⟩

/-- Every node that is still to be visited is declared. -/
structure Declared (p : Pipeline) (s : Search) : Prop where
  waiting : ∀ n ∈ s.waiting, n ∈ p.ids
  pending : ∀ f ∈ s.stack, ∀ n ∈ f.pending, n ∈ p.ids

theorem declared_start (p : Pipeline) : (start p).Declared p where
  waiting := fun _ h => h
  pending := fun _ h => absurd h List.not_mem_nil

theorem Declared.step {p : Pipeline} {s t : Search} (h : s.Declared p) (ht : s.step p = .state t) :
    t.Declared p := by
  obtain ⟨waiting, stack, order⟩ := s
  obtain ⟨hw, hp⟩ := h
  unfold Search.step at ht
  dsimp only at ht hw hp
  split at ht
  · split at ht
    · cases ht
    · rename_i n rest
      have hrest : ∀ m ∈ rest, m ∈ p.ids := fun m hm => hw m (List.mem_cons_of_mem n hm)
      split at ht <;> cases ht
      · exact ⟨hrest, fun _ hf => absurd hf List.not_mem_nil⟩
      · refine ⟨hrest, fun f hf m hm => ?_⟩
        obtain rfl := List.mem_singleton.1 hf
        exact Pipeline.mem_ids_of_mem_suppliers hm
  · cases ht
    exact ⟨hw, fun f hf => hp f (List.mem_cons_of_mem _ hf)⟩
  · rename_i n m pending frames
    have hrest : ∀ f ∈ (⟨n, pending⟩ : Frame) :: frames, ∀ k ∈ f.pending, k ∈ p.ids := by
      intro f hf k hk
      rcases List.mem_cons.1 hf with rfl | hf
      · exact hp _ List.mem_cons_self k (List.mem_cons_of_mem m hk)
      · exact hp f (List.mem_cons_of_mem _ hf) k hk
    split at ht
    · cases ht
    · split at ht <;> cases ht
      · exact ⟨hw, hrest⟩
      · refine ⟨hw, fun f hf k hk => ?_⟩
        rcases List.mem_cons.1 hf with rfl | hf
        · exact Pipeline.mem_ids_of_mem_suppliers hk
        · exact hrest f hf k hk

def unvisited (p : Pipeline) (s : Search) : List String :=
  p.ids.filter fun n => !s.path.contains n && !s.order.contains n

/-- What is left to do without entering another node. -/
def work (s : Search) : Nat :=
  s.waiting.length + s.stack.length + (s.stack.flatMap Frame.pending).length

theorem length_filter_lt {l : List String} {q r : String → Bool} (hqr : ∀ x, q x = true → r x = true)
    {x : String} (hx : x ∈ l) (hr : r x = true) (hq : q x = false) :
    (l.filter q).length < (l.filter r).length := by
  have he : l.filter q = (l.filter r).filter q := by
    rw [List.filter_filter]
    refine List.filter_congr fun y _ => ?_
    cases h : q y
    · simp
    · simp [hqr y h]
  rw [he]
  exact List.length_filter_lt_length_iff_exists.2 ⟨x, List.mem_filter.2 ⟨hx, hr⟩, by simp [hq]⟩

/-- A step either enters a node that was unvisited, or visits none and leaves less to do. -/
theorem step_decreases {p : Pipeline} {s t : Search} (h : s.Declared p) (ht : s.step p = .state t) :
    Prod.Lex (· < ·) (· < ·) ((t.unvisited p).length, t.work) ((s.unvisited p).length, s.work) := by
  obtain ⟨waiting, stack, order⟩ := s
  obtain ⟨hw, hp⟩ := h
  unfold Search.step at ht
  dsimp only at ht hw hp
  split at ht
  · split at ht
    · cases ht
    · rename_i n rest
      split at ht <;> cases ht
      · exact Prod.Lex.right _ (by simp [work])
      · rename_i hn
        refine Prod.Lex.left _ _ (length_filter_lt ?_ (hw n List.mem_cons_self) ?_ ?_)
        · simp [path]
        · simp [path, hn]
        · simp [path]
  · cases ht
    rename_i n frames
    have he : (unvisited p ⟨waiting, frames, order ++ [n]⟩).length =
        (unvisited p ⟨waiting, ⟨n, []⟩ :: frames, order⟩).length := by
      unfold unvisited
      congr 1
      refine List.filter_congr fun x _ => ?_
      simp only [path, List.map_cons, List.reverse_cons, List.contains_eq_mem, List.mem_append,
        List.mem_singleton]
      by_cases hx : x = n <;> simp [hx]
    rw [he]
    exact Prod.Lex.right _ (by simp [work])
  · rename_i n m pending frames
    have he : unvisited p ⟨waiting, ⟨n, pending⟩ :: frames, order⟩ =
        unvisited p ⟨waiting, ⟨n, m :: pending⟩ :: frames, order⟩ := rfl
    split at ht
    · cases ht
    · rename_i hpath
      split at ht <;> cases ht
      · rw [he]
        exact Prod.Lex.right _ (by simp [work])
      · rename_i horder
        have hm : m ∈ p.ids := hp _ List.mem_cons_self m List.mem_cons_self
        refine Prod.Lex.left _ _ (length_filter_lt ?_ hm ?_ ?_)
        · simp +contextual [path]
        · simpa [path, horder] using hpath
        · simp [path]

/-- Runs the search to its end: the order of all nodes, or the path of a cycle. -/
def run (p : Pipeline) (s : Search) (h : s.Declared p) : Except (List String) (List String) :=
  match ht : s.step p with
  | .done => .ok s.order
  | .cycle path => .error path
  | .state t => run p t (h.step ht)
termination_by ((s.unvisited p).length, s.work)
decreasing_by exact step_decreases h ht

end Search

/-- The nodes in an order in which each comes after its suppliers, or a cycle that rules this out:
each node on its path is fed by the next one, and the last one is the first. -/
def Pipeline.schedule (p : Pipeline) : Except (List String) (List String) :=
  (Search.start p).run p (Search.declared_start p)

end Dataflow
