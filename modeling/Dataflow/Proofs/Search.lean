import Dataflow.Schedule
import Mathlib.Data.List.Chain
import Mathlib.Data.List.Nodup
import Mathlib.Logic.Relation

namespace Dataflow

namespace Pipeline

/-- Some edge leads from the declared node `a` to the declared node `b`. -/
def Feeds (p : Pipeline) (a b : String) : Prop :=
  a ∈ p.ids ∧ b ∈ p.ids ∧ ∃ e ∈ p.edges, e.sourceNode = a ∧ e.targetNode = b

/-- Some node feeds itself, directly or through others. -/
def Cyclic (p : Pipeline) : Prop := ∃ n, Relation.TransGen p.Feeds n n

theorem mem_suppliers {p : Pipeline} {m n : String} :
    m ∈ p.suppliers n ↔ m ∈ p.ids ∧ ∃ e ∈ p.edges, e.sourceNode = m ∧ e.targetNode = n := by
  simp only [suppliers, List.mem_filter, List.contains_iff_mem, List.mem_map, beq_iff_eq]
  constructor
  · rintro ⟨hm, e, ⟨he, htarget⟩, hsource⟩
    exact ⟨hm, e, he, hsource, htarget⟩
  · rintro ⟨hm, e, he, hsource, htarget⟩
    exact ⟨hm, e, ⟨he, htarget⟩, hsource⟩

theorem feeds_iff_mem_suppliers {p : Pipeline} {a b : String} :
    p.Feeds a b ↔ b ∈ p.ids ∧ a ∈ p.suppliers b := by
  rw [Feeds, mem_suppliers, and_left_comm]

end Pipeline

namespace Search

variable {p : Pipeline} {s t : Search}

inductive Move (p : Pipeline) : Search → Search → Prop
  | skip {n waiting order} (hn : n ∈ order) : Move p ⟨n :: waiting, [], order⟩ ⟨waiting, [], order⟩
  | begin {n waiting order} (hn : n ∉ order) :
      Move p ⟨n :: waiting, [], order⟩ ⟨waiting, [⟨n, p.suppliers n⟩], order⟩
  | finish {n waiting frames order} :
      Move p ⟨waiting, ⟨n, []⟩ :: frames, order⟩ ⟨waiting, frames, order ++ [n]⟩
  | pass {n m pending waiting frames order} (hpath : m ∉ n :: frames.map Frame.node) (hm : m ∈ order) :
      Move p ⟨waiting, ⟨n, m :: pending⟩ :: frames, order⟩ ⟨waiting, ⟨n, pending⟩ :: frames, order⟩
  | enter {n m pending waiting frames order} (hpath : m ∉ n :: frames.map Frame.node) (hm : m ∉ order) :
      Move p ⟨waiting, ⟨n, m :: pending⟩ :: frames, order⟩
        ⟨waiting, ⟨m, p.suppliers m⟩ :: ⟨n, pending⟩ :: frames, order⟩

theorem mem_path {n : String} : n ∈ s.path ↔ n ∈ s.stack.map Frame.node := by
  simp [path]

theorem step_spec (p : Pipeline) (s : Search) :
    match s.step p with
    | .state t => Move p s t
    | .done => s.waiting = [] ∧ s.stack = []
    | .cycle path => ∃ n m pending frames, s.stack = ⟨n, m :: pending⟩ :: frames ∧
        m ∈ n :: frames.map Frame.node ∧ path = s.path.dropWhile (· != m) ++ [m] := by
  obtain ⟨waiting, stack, order⟩ := s
  match stack, waiting with
  | [], [] => exact ⟨rfl, rfl⟩
  | [], n :: waiting =>
      by_cases hn : n ∈ order
      · simpa [step, hn] using Move.skip hn
      · simpa [step, hn] using Move.begin hn
  | ⟨n, []⟩ :: frames, waiting => exact .finish
  | ⟨n, m :: pending⟩ :: frames, waiting =>
      by_cases hpath : m ∈ (⟨waiting, ⟨n, m :: pending⟩ :: frames, order⟩ : Search).path
      · simpa [step, hpath] using mem_path.1 hpath
      · have hstack : m ∉ n :: frames.map Frame.node := by simpa [mem_path] using hpath
        by_cases hm : m ∈ order
        · simpa [step, hpath, hm] using Move.pass hstack hm
        · simpa [step, hpath, hm] using Move.enter hstack hm

inductive Reached (p : Pipeline) : Search → Prop
  | start : Reached p (start p)
  | move {u v : Search} (hu : Reached p u) (hm : Move p u v) : Reached p v

theorem run_reached (h : s.Declared p) (hs : Reached p s) :
    match run p s h with
    | .ok order => ∃ u, Reached p u ∧ u.step p = .done ∧ u.order = order
    | .error path => ∃ u, Reached p u ∧ u.step p = .cycle path := by
  fun_induction run p s h with
  | case1 s h hstep => exact ⟨s, hs, hstep, rfl⟩
  | case2 s h path hstep => exact ⟨s, hs, hstep⟩
  | case3 s h t hstep ih =>
      have hmove := step_spec p s
      rw [hstep] at hmove
      exact ih (hs.move hmove)

/-- Every frame has taken from its suppliers finished nodes only, and after them at most the node of
the frame above it. `inner` is the node above the first frame. -/
def Traced (p : Pipeline) (order : List String) : Option String → List Frame → Prop
  | _, [] => True
  | inner, f :: frames =>
      (∃ taken, p.suppliers f.node = taken ++ inner.toList ++ f.pending ∧ ∀ m ∈ taken, m ∈ order) ∧
        Traced p order (some f.node) frames

def Ordered (p : Pipeline) (order : List String) : Prop :=
  ∀ before n after, order = before ++ n :: after → ∀ m ∈ p.suppliers n, m ∈ before

structure Sound (p : Pipeline) (s : Search) : Prop where
  covered : ∀ n ∈ p.ids, n ∈ s.waiting ∨ n ∈ s.stack.map Frame.node ∨ n ∈ s.order
  waiting : ∀ n ∈ s.waiting, n ∈ p.ids
  visited : ∀ n ∈ s.stack.map Frame.node ++ s.order, n ∈ p.ids
  distinct : (s.stack.map Frame.node ++ s.order).Nodup
  traced : Traced p s.order none s.stack
  ordered : Ordered p s.order

theorem Traced.mono {order more : List String} {inner : Option String} {frames : List Frame}
    (h : Traced p order inner frames) (hsub : order ⊆ more) : Traced p more inner frames := by
  induction frames generalizing inner with
  | nil => trivial
  | cons f frames ih =>
      obtain ⟨⟨taken, hs, ht⟩, hf⟩ := h
      exact ⟨⟨taken, hs, fun m hm => hsub (ht m hm)⟩, ih hf⟩

theorem Traced.finish {order : List String} {n : String} {frames : List Frame}
    (h : Traced p order (some n) frames) : Traced p (order ++ [n]) none frames := by
  have h := h.mono (List.subset_append_left order [n])
  cases frames with
  | nil => trivial
  | cons f frames =>
      obtain ⟨⟨taken, hs, ht⟩, hf⟩ := h
      refine ⟨⟨taken ++ [n], by simpa using hs, ?_⟩, hf⟩
      intro m hm
      rcases List.mem_append.1 hm with hm | hm
      · exact ht m hm
      · exact List.mem_append_right order hm

theorem Traced.chain {order : List String} {n : String} {frames : List Frame}
    (h : Traced p order (some n) frames) (hids : ∀ m ∈ frames.map Frame.node, m ∈ p.ids) :
    (n :: frames.map Frame.node).IsChain p.Feeds := by
  induction frames generalizing n with
  | nil => exact .singleton n
  | cons f frames ih =>
      obtain ⟨⟨taken, hs, _⟩, hf⟩ := h
      have hn : n ∈ p.suppliers f.node := by simp [hs]
      have hfeeds : p.Feeds n f.node :=
        Pipeline.feeds_iff_mem_suppliers.2 ⟨hids _ List.mem_cons_self, hn⟩
      exact .cons_cons hfeeds (ih hf fun m hm => hids m (List.mem_cons_of_mem _ hm))

theorem Ordered.concat {order : List String} {n : String} (h : Ordered p order)
    (hn : p.suppliers n ⊆ order) : Ordered p (order ++ [n]) := by
  intro before k after he m hm
  rcases List.eq_nil_or_concat after with rfl | ⟨rest, last, rfl⟩
  · obtain ⟨rfl, hk⟩ := List.append_inj' he rfl
    obtain rfl : n = k := by simpa using hk
    exact hn hm
  · have he : order ++ [n] = (before ++ k :: rest) ++ [last] := by simpa using he
    exact h before k rest (List.append_inj' he rfl).1 m hm

theorem sound_start (p : Pipeline) : (start p).Sound p where
  covered := fun _ h => .inl h
  waiting := fun _ h => h
  visited := by simp [start]
  distinct := by simp [start]
  traced := trivial
  ordered := by simp [Ordered, start]

theorem Sound.move (h : s.Sound p) (hm : Move p s t) : t.Sound p := by
  obtain ⟨hcov, hwait, hvis, hdist, htr, hord⟩ := h
  cases hm with
  | skip hn =>
      refine ⟨?_, fun m hm => hwait m (List.mem_cons_of_mem _ hm), hvis, hdist, htr, hord⟩
      intro m hm
      rcases hcov m hm with hm | hm
      · rcases List.mem_cons.1 hm with rfl | hm
        · exact .inr (.inr hn)
        · exact .inl hm
      · exact .inr hm
  | @begin n waiting order hn =>
      have hdeclared : n ∈ p.ids := hwait n List.mem_cons_self
      refine ⟨?_, fun m hm => hwait m (List.mem_cons_of_mem _ hm), ?_, ?_, ?_, hord⟩
      · intro m hm
        rcases hcov m hm with hm | hm
        · rcases List.mem_cons.1 hm with rfl | hm
          · simp
          · exact .inl hm
        · simp_all
      · simpa using ⟨hdeclared, by simpa using hvis⟩
      · simpa using ⟨hn, by simpa using hdist⟩
      · exact ⟨⟨[], by simp, by simp⟩, trivial⟩
  | @finish n waiting frames order =>
      obtain ⟨⟨taken, hs, ht⟩, hf⟩ := htr
      -- No supplier is pending, so all of them are finished.
      have hn : p.suppliers n ⊆ order := by
        intro m hm
        apply ht
        simpa [hs] using hm
      have hperm : (frames.map Frame.node ++ (order ++ [n])).Perm (n :: (frames.map Frame.node ++ order)) := by
        rw [← List.append_assoc]
        exact List.perm_append_singleton n _
      refine ⟨?_, hwait, ?_, ?_, hf.finish, hord.concat hn⟩
      · intro m hm
        have := hcov m hm
        simp only [List.map_cons, List.mem_cons] at this
        simp only [List.mem_append, List.mem_singleton]
        tauto
      · intro m hm
        exact hvis m (hperm.subset hm)
      · exact hperm.nodup_iff.2 hdist
  | @pass n m pending waiting frames order _ hm =>
      obtain ⟨⟨taken, hs, ht⟩, hf⟩ := htr
      refine ⟨hcov, hwait, hvis, hdist, ⟨⟨taken ++ [m], by simpa using hs, ?_⟩, hf⟩, hord⟩
      intro k hk
      rcases List.mem_append.1 hk with hk | hk
      · exact ht k hk
      · exact List.mem_singleton.1 hk ▸ hm
  | @enter n m pending waiting frames order hpath hm =>
      obtain ⟨⟨taken, hs, ht⟩, hf⟩ := htr
      have hsupplier : m ∈ p.suppliers n := by simp [hs]
      have hdeclared : m ∈ p.ids := Pipeline.mem_ids_of_mem_suppliers hsupplier
      refine ⟨?_, hwait, ?_, ?_, ⟨⟨[], by simp, by simp⟩, ⟨taken, by simpa using hs, ht⟩, hf⟩, hord⟩
      · intro k hk
        have := hcov k hk
        simp only [List.map_cons, List.mem_cons] at this ⊢
        tauto
      · intro k hk
        rcases List.mem_cons.1 hk with rfl | hk
        · exact hdeclared
        · exact hvis k hk
      · refine List.nodup_cons.2 ⟨?_, hdist⟩
        intro hk
        rcases List.mem_append.1 hk with hk | hk
        · exact hpath hk
        · exact hm hk

theorem Reached.sound (h : Reached p s) : s.Sound p := by
  induction h with
  | start => exact sound_start p
  | move _ hm ih => exact ih.move hm

theorem Sound.chain (h : s.Sound p) : s.path.IsChain fun v w => p.Feeds w v := by
  rw [path, List.isChain_reverse]
  cases hs : s.stack with
  | nil => exact .nil
  | cons f frames =>
      have htraced := h.traced
      rw [hs] at htraced
      refine htraced.2.chain fun m hm => h.visited m (List.mem_append_left _ ?_)
      rw [hs]
      exact List.mem_cons_of_mem _ hm

/-- The path that a search closes: every node on it is fed by the next one, and only its ends are equal. -/
theorem Sound.cycle {path : List String} (h : s.Sound p) (hc : s.step p = .cycle path) :
    ∃ first between, path = first :: between ++ [first] ∧ (first :: between).Nodup ∧
      path.IsChain fun v w => p.Feeds w v := by
  have hspec := step_spec p s
  rw [hc] at hspec
  obtain ⟨n, m, pending, frames, hstack, hm, rfl⟩ := hspec
  have hpath : s.path = (frames.map Frame.node).reverse ++ [n] := by simp [Search.path, hstack]
  have hnodup : s.path.Nodup := List.nodup_reverse.2 (List.nodup_append.1 h.distinct).1
  have hmem : m ∈ s.path := mem_path.2 (by simpa [hstack] using hm)
  -- The path is cut where it first meets the supplier.
  obtain ⟨before, after, hsplit, hbefore⟩ := List.eq_append_cons_of_mem hmem
  have hcut : s.path.dropWhile (· != m) = m :: after := by
    rw [hsplit, List.dropWhile_append_of_pos, List.dropWhile_cons_of_neg (by simp)]
    intro k hk
    exact bne_iff_ne.2 (ne_of_mem_of_not_mem hk hbefore)
  have hfeeds : p.Feeds m n := by
    have htraced := h.traced
    rw [hstack] at htraced
    obtain ⟨⟨taken, hs, -⟩, -⟩ := htraced
    refine Pipeline.feeds_iff_mem_suppliers.2 ⟨?_, by simp [hs]⟩
    exact h.visited n (by simp [hstack])
  have hlast : (m :: after).getLast? = some n := by
    have hend : s.path.getLast? = some n := by simp [hpath]
    rwa [hsplit, List.getLast?_append_cons] at hend
  have hchain := h.chain
  rw [hsplit] at hchain hnodup
  rw [hcut]
  refine ⟨m, after, rfl, hnodup.of_append_right, List.isChain_append.2 ⟨hchain.right_of_append, .singleton m, ?_⟩⟩
  simp [hlast, hfeeds]

theorem Sound.cyclic {path : List String} (h : s.Sound p) (hc : s.step p = .cycle path) : p.Cyclic := by
  obtain ⟨first, between, rfl, -, hchain⟩ := h.cycle hc
  refine ⟨first, Relation.transGen_swap.1 ?_⟩
  cases between with
  | nil => exact .single (List.isChain_pair.1 hchain)
  | cons next between =>
      obtain ⟨hfirst, hrest⟩ := List.isChain_cons_cons.1 hchain
      exact .head' hfirst (List.relationReflTransGen_of_exists_isChain_cons _ hrest (by simp))

theorem Sound.perm (h : s.Sound p) (hd : s.step p = .done) : s.order.Perm p.ids := by
  have hspec := step_spec p s
  rw [hd] at hspec
  obtain ⟨hwaiting, hstack⟩ := hspec
  have hnodup : s.order.Nodup := by simpa [hstack] using h.distinct
  refine (List.perm_ext_iff_of_nodup hnodup p.nodes_nodup).2 fun n => ⟨?_, ?_⟩
  · intro hn
    exact h.visited n (List.mem_append_right _ hn)
  · intro hn
    simpa [hwaiting, hstack] using h.covered n hn

end Search

end Dataflow
