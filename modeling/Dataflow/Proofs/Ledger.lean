import Dataflow.Proofs.Schedule
import Mathlib.Data.Finset.Basic
import Mathlib.Data.Finset.Dedup
import Mathlib.Data.Prod.Lex
import Mathlib.Order.WellFounded

namespace Dataflow

theorem Search.Traced.frame {p : Pipeline} {order : List String} {top : Option String} {above below : List Frame}
    {f : Frame} (h : Search.Traced p order top (above ++ f :: below)) :
    ∃ taken, p.suppliers f.node = taken ++ ((above.getLast?.map Frame.node).or top).toList ++ f.pending ∧
      ∀ m ∈ taken, m ∈ order := by
  induction above generalizing top with
  | nil => exact h.1
  | cons g above ih =>
      obtain ⟨taken, hsuppliers, hfinished⟩ := ih h.2
      refine ⟨taken, ?_, hfinished⟩
      rw [hsuppliers, List.getLast?_cons]
      cases above.getLast? <;> rfl

/-- A state of the search with all its books. -/
structure Ledger where
  waiting : List String
  stack : List Frame
  /-- The nodes on the path, outermost first. -/
  visiting : List String
  entered : Finset String
  order : List String
  finished : Finset String

namespace Ledger

inductive Next where
  | state (l : Ledger)
  | cycle (path : List String)
  | done

def start (p : Pipeline) : Ledger := ⟨p.ids, [], [], ∅, [], ∅⟩

/-- One turn of a loop: of the one over the nodes if the stack is empty, else of the one over the stack. -/
def step (p : Pipeline) (l : Ledger) : Next :=
  match l.stack with
  | [] =>
    match l.waiting with
    | [] => .done
    | n :: rest =>
      if n ∈ l.finished then .state { l with waiting := rest }
      else .state { l with
        waiting := rest
        stack := [⟨n, p.suppliers n⟩]
        visiting := l.visiting ++ [n]
        entered := insert n l.entered }
  | ⟨n, []⟩ :: frames =>
    .state { l with
      stack := frames
      visiting := l.visiting.dropLast
      entered := l.entered.erase n
      order := l.order ++ [n]
      finished := insert n l.finished }
  | ⟨n, m :: pending⟩ :: frames =>
    if m ∈ l.entered then .cycle (l.visiting.drop (l.visiting.idxOf m) ++ [m])
    else if m ∈ l.finished then .state { l with stack := ⟨n, pending⟩ :: frames }
    else .state { l with
      stack := ⟨m, p.suppliers m⟩ :: ⟨n, pending⟩ :: frames
      visiting := l.visiting ++ [m]
      entered := insert m l.entered }

inductive Reached (p : Pipeline) : Ledger → Prop
  | start : Reached p (start p)
  | step {l next : Ledger} (hl : Reached p l) (hnext : l.step p = .state next) : Reached p next

/-- The search without those books that the stack and the order stand for. -/
def search (l : Ledger) : Search := ⟨l.waiting, l.stack, l.order⟩

def Next.search : Next → Search.Next
  | .state l => .state l.search
  | .cycle path => .cycle path
  | .done => .done

section

variable {n : Next}

theorem Next.search_eq_done : n.search = .done ↔ n = .done := by
  cases n <;> simp [Next.search]

theorem Next.search_eq_cycle {path : List String} : n.search = .cycle path ↔ n = .cycle path := by
  cases n <;> simp [Next.search]

theorem Next.search_eq_state {s : Search} : n.search = .state s ↔ ∃ l, n = .state l ∧ l.search = s := by
  cases n <;> simp [Next.search]

end

def unvisited (p : Pipeline) (l : Ledger) : List String := p.ids.filter fun n => n ∉ l.entered ∧ n ∉ l.finished

/-- What is left to do: first the nodes that are not visited, then the nodes to start from, the frames and the suppliers
that are pending. -/
def measure (p : Pipeline) (l : Ledger) : Nat × Nat :=
  ((l.unvisited p).length, l.waiting.length + l.stack.length + (l.stack.flatMap Frame.pending).length)

structure Balanced (l : Ledger) : Prop where
  visiting : l.visiting = (l.stack.map Frame.node).reverse
  entered : l.entered = l.visiting.toFinset
  finished : l.finished = l.order.toFinset

variable {p : Pipeline} {l next : Ledger}

theorem balanced_start (p : Pipeline) : (start p).Balanced := ⟨rfl, rfl, rfl⟩

namespace Balanced

theorem mem_entered (h : l.Balanced) {n : String} : n ∈ l.entered ↔ n ∈ l.search.path := by
  rw [h.entered, List.mem_toFinset, h.visiting]
  rfl

theorem mem_finished (h : l.Balanced) {n : String} : n ∈ l.finished ↔ n ∈ l.search.order := by
  rw [h.finished, List.mem_toFinset]
  rfl

theorem insert_toFinset (n : String) (ns : List String) : insert n ns.toFinset = (ns ++ [n]).toFinset := by
  ext m
  rw [Finset.mem_insert, List.mem_toFinset, List.mem_toFinset, List.mem_append, List.mem_singleton, or_comm]

theorem erase_toFinset {n : String} {ns : List String} (hn : n ∉ ns) : (ns ++ [n]).toFinset.erase n = ns.toFinset := by
  rw [← insert_toFinset, Finset.erase_insert]
  simpa using hn

theorem dropWhile_bne (m : String) (ns : List String) : ns.dropWhile (· != m) = ns.drop (ns.idxOf m) := by
  have hnot : (fun n : String => !(n != m)) = (· == m) := by
    funext n
    rw [bne, Bool.not_not]
  rw [List.dropWhile_eq_drop_findIdx_not, hnot, List.idxOf]

theorem search_step (h : l.Balanced) (p : Pipeline) : l.search.step p = (l.step p).search := by
  obtain ⟨waiting, stack, visiting, entered, order, finished⟩ := l
  have hfinished : ∀ n, n ∈ order ↔ n ∈ finished := fun n => h.mem_finished.symm
  have hentered : ∀ n, n ∈ Search.path ⟨waiting, stack, order⟩ ↔ n ∈ entered := fun n => h.mem_entered.symm
  have hvisiting : Search.path ⟨waiting, stack, order⟩ = visiting := h.visiting.symm
  cases stack with
  | nil =>
      cases waiting with
      | nil => rfl
      | cons n waiting =>
          simp only [step, Search.step, search, hfinished]
          split <;> rfl
  | cons f frames =>
      obtain ⟨n, _ | ⟨m, pending⟩⟩ := f
      · rfl
      · simp only [step, Search.step, search, hfinished, hentered]
        split
        · rw [hvisiting, dropWhile_bne]
          rfl
        · split <;> rfl

theorem step (h : l.Balanced) (hpath : l.search.path.Nodup) (hnext : l.step p = .state next) : next.Balanced := by
  obtain ⟨waiting, stack, visiting, entered, order, finished⟩ := l
  obtain ⟨hvisiting, hentered, hfinished⟩ := h
  dsimp only at hvisiting hentered hfinished
  subst hvisiting hentered hfinished
  cases stack with
  | nil =>
      cases waiting with
      | nil => cases hnext
      | cons n waiting =>
          simp only [Ledger.step] at hnext
          split at hnext <;> cases hnext
          · exact ⟨rfl, rfl, rfl⟩
          · exact ⟨rfl, insert_toFinset n [], rfl⟩
  | cons f frames =>
      obtain ⟨n, _ | ⟨m, pending⟩⟩ := f
      · cases hnext
        have hlast : ((n :: frames.map Frame.node).reverse).dropLast = (frames.map Frame.node).reverse := by simp
        have hn : n ∉ (frames.map Frame.node).reverse := by
          rw [List.mem_reverse]
          exact (List.nodup_cons.1 (List.nodup_reverse.1 hpath)).1
        -- The node on top is nowhere else on the path, so it leaves the set as it leaves the list.
        refine ⟨hlast, ?_, insert_toFinset n order⟩
        calc (n :: frames.map Frame.node).reverse.toFinset.erase n
            = (frames.map Frame.node).reverse.toFinset := by rw [List.reverse_cons, erase_toFinset hn]
          _ = (n :: frames.map Frame.node).reverse.dropLast.toFinset := by rw [hlast]
      · simp only [Ledger.step] at hnext
        split at hnext
        · cases hnext
        · split at hnext <;> cases hnext
          · exact ⟨rfl, rfl, rfl⟩
          · exact ⟨List.reverse_cons.symm, insert_toFinset m _, rfl⟩

theorem measure_eq (h : l.Balanced) (p : Pipeline) :
    l.measure p = ((l.search.unvisited p).length, l.search.work) := by
  have hunvisited : l.unvisited p = l.search.unvisited p := by
    refine List.filter_congr fun n _ => ?_
    simp [h.mem_entered, h.mem_finished]
  rw [measure, hunvisited]
  rfl

end Balanced

/-- The books agree, and what they stand for is a state of the search. -/
structure Kept (p : Pipeline) (l : Ledger) : Prop where
  balanced : l.Balanced
  reached : Search.Reached p l.search
  declared : l.search.Declared p

theorem Kept.search_move (h : l.Kept p) (hnext : l.step p = .state next) : l.search.step p = .state next.search := by
  rw [h.balanced.search_step, hnext]
  rfl

theorem Kept.step (h : l.Kept p) (hnext : l.step p = .state next) : next.Kept p := by
  have hsearch := h.search_move hnext
  have hmove := Search.step_spec p l.search
  rw [hsearch] at hmove
  have hpath : l.search.path.Nodup := List.nodup_reverse.2 (List.nodup_append.1 h.reached.sound.distinct).1
  exact ⟨h.balanced.step hpath hnext, h.reached.move hmove, h.declared.step hsearch⟩

theorem Reached.kept (h : Reached p l) : l.Kept p := by
  induction h with
  | start => exact ⟨balanced_start p, .start, Search.declared_start p⟩
  | step _ hnext ih => exact ih.step hnext

theorem Kept.measure_lt (h : l.Kept p) (hnext : l.step p = .state next) :
    Prod.Lex (· < ·) (· < ·) (next.measure p) (l.measure p) := by
  rw [h.balanced.measure_eq, (h.step hnext).balanced.measure_eq]
  exact Search.step_decreases h.declared (h.search_move hnext)

/-- What holds in every state that is reached. The suppliers that a frame has taken are finished, but for the last of
them if there is a frame above, whose node this is. -/
structure Sound (p : Pipeline) (l : Ledger) : Prop extends l.Balanced where
  visiting_nodup : l.visiting.Nodup
  order_nodup : l.order.Nodup
  apart : l.order.Disjoint l.visiting
  frames : ∀ above f below, l.stack = above ++ f :: below → ∃ taken,
    p.suppliers f.node = taken ++ (above.getLast?.map Frame.node).toList ++ f.pending ∧ ∀ m ∈ taken, m ∈ l.finished
  ordered : ∀ before n after, l.order = before ++ n :: after → ∀ m ∈ p.suppliers n, m ∈ before

theorem Kept.sound (h : l.Kept p) : l.Sound p := by
  have hs := h.reached.sound
  obtain ⟨hstack, horder, hapart⟩ := List.nodup_append.1 hs.distinct
  have hvisiting := h.balanced.visiting
  refine ⟨h.balanced, ?_, horder, ?_, ?_, hs.ordered⟩
  · rw [hvisiting]
    exact List.nodup_reverse.2 hstack
  · intro n hn hmem
    rw [hvisiting, List.mem_reverse] at hmem
    exact hapart n hmem n hn rfl
  · intro above f below hsplit
    have htraced : Search.Traced p l.order none (above ++ f :: below) := hsplit ▸ hs.traced
    obtain ⟨taken, hsuppliers, hfinished⟩ := htraced.frame
    rw [Option.or_none] at hsuppliers
    exact ⟨taken, hsuppliers, fun m hm => h.balanced.mem_finished.2 (hfinished m hm)⟩

theorem exists_end {s : Search} (h : s.Declared p) (hl : Reached p l) (hs : l.search = s) :
    ∃ last, Reached p last ∧
      match s.run p h with
      | .ok order => last.step p = .done ∧ last.order = order
      | .error path => last.step p = .cycle path := by
  fun_induction Search.run p s h generalizing l with
  | case1 s h hstep =>
      rw [← hs, hl.kept.balanced.search_step, Next.search_eq_done] at hstep
      exact ⟨l, hl, hstep, congrArg Search.order hs⟩
  | case2 s h path hstep =>
      rw [← hs, hl.kept.balanced.search_step, Next.search_eq_cycle] at hstep
      exact ⟨l, hl, hstep⟩
  | case3 s h t hstep ih =>
      rw [← hs, hl.kept.balanced.search_step, Next.search_eq_state] at hstep
      obtain ⟨next, hnext, hsearch⟩ := hstep
      exact ih (hl.step hnext) hsearch

end Ledger

namespace Pipeline

/-- The search keeps its books in balance: in every state that it reaches, the path and its set are those of the stack,
the finished nodes are those of the order, and both are free of repetition and apart. Every turn leaves less to do, so
that the search ends on every pipeline, with the order of its nodes or with a cycle. -/
theorem schedule_keeps_books (p : Pipeline) :
    (Ledger.start p).search = Search.start p ∧
    (∀ l, Ledger.Reached p l → l.Sound p ∧ l.search.step p = (l.step p).search ∧
      ∀ next, l.step p = .state next → Prod.Lex (· < ·) (· < ·) (next.measure p) (l.measure p)) ∧
    (¬∃ run : Nat → Ledger, run 0 = Ledger.start p ∧ ∀ i, (run i).step p = .state (run (i + 1))) ∧
    ∃ last, Ledger.Reached p last ∧
      match p.schedule with
      | .ok order => last.step p = .done ∧ last.order = order
      | .error path => last.step p = .cycle path := by
  refine ⟨rfl, ?_, ?_, Ledger.exists_end (Search.declared_start p) .start rfl⟩
  · intro l hl
    have hkept := hl.kept
    exact ⟨hkept.sound, hkept.balanced.search_step p, fun next hnext => hkept.measure_lt hnext⟩
  · rintro ⟨run, hstart, hrun⟩
    have hreached : ∀ i, Ledger.Reached p (run i) := by
      intro i
      induction i with
      | zero => exact hstart ▸ .start
      | succ i ih => exact ih.step (hrun i)
    obtain ⟨i, hi⟩ := WellFounded.not_rel_apply_succ (r := Prod.Lex (· < ·) (· < ·)) fun i => (run i).measure p
    exact hi ((hreached i).kept.measure_lt (hrun i))

theorem knotted_keeps_books : ∃ last, Ledger.Reached knotted last ∧
    last.step knotted = .cycle ["a", "b", "c", "a"] ∧ last.visiting.Nodup ∧ last.entered = last.visiting.toFinset := by
  obtain ⟨-, hbooks, -, last, hlast, hend⟩ := schedule_keeps_books knotted
  have hsound := (hbooks last hlast).1
  rw [schedule_knotted] at hend
  exact ⟨last, hlast, hend, hsound.visiting_nodup, hsound.entered⟩

end Pipeline

end Dataflow
