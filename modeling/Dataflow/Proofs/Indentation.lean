import Dataflow.Proofs.Pieces
import Mathlib.Data.List.Chain

namespace Dataflow

open Text

/-- The second line is one level deeper exactly if the first one opens something, and else it is no deeper. -/
def Line.Steps (l m : Line) : Prop := (m.level = l.level + 1 ↔ opens l.text = true) ∧ m.level ≤ l.level + 1

/-- Lines that start at a level and stay there or deeper, so that other lines of the level can follow. -/
structure Line.Settled (level : Int) (ls : List Line) : Prop where
  start : ∃ text rest, ls = ⟨level, text⟩ :: rest
  steps : ls.IsChain Line.Steps
  within : ∀ l ∈ ls, level ≤ l.level ∧ shows l.text = true
  closed : ∀ l ∈ ls.getLast?, opens l.text = false

namespace Line

variable {level : Int} {text : String} {ls more : List Line}

theorem settled_singleton (h : settles text = true) : Settled level [⟨level, text⟩] := by
  rw [settles, Bool.and_eq_true, Bool.not_eq_true'] at h
  exact ⟨⟨text, [], rfl⟩, List.isChain_singleton _, by simp [h.1], by simp [h.2]⟩

theorem Settled.isChain_append (h : Settled level ls) {m : Line} (hm : m.level = level)
    (hmore : (m :: more).IsChain Steps) : (ls ++ m :: more).IsChain Steps := by
  refine h.steps.append hmore ?_
  intro l hl m' hm'
  cases hm'
  have hdeep := (h.within l (List.mem_of_getLast? hl)).1
  have hclosed := h.closed l hl
  constructor
  · constructor
    · intro hdeeper
      omega
    · intro hopens
      rw [hclosed] at hopens
      cases hopens
  · omega

theorem Settled.append (h : Settled level ls) (hmore : Settled level more) : Settled level (ls ++ more) := by
  obtain ⟨text, rest, rfl⟩ := h.start
  obtain ⟨text', rest', rfl⟩ := hmore.start
  refine ⟨⟨text, rest ++ ⟨level, text'⟩ :: rest', rfl⟩, h.isChain_append rfl hmore.steps, ?_, ?_⟩
  · exact List.forall_mem_append.2 ⟨h.within, hmore.within⟩
  · rw [List.getLast?_append_of_ne_nil _ (List.cons_ne_nil _ _)]
    exact hmore.closed

theorem Settled.opened (h : Settled (level + 1) ls) (head : String) {mark : String} (hs : shows mark = true)
    (ho : opens mark = true) : Settled level (⟨level, head ++ mark⟩ :: ls) := by
  have hne : mark ≠ "" := by
    rintro rfl
    cases hs
  obtain ⟨text, rest, rfl⟩ := h.start
  have hopens : opens (head ++ mark) = true := by rw [opens_append head hne, ho]
  refine ⟨⟨_, _, rfl⟩, List.isChain_cons_cons.2 ⟨⟨by simp [hopens], Int.le_refl _⟩, h.steps⟩, ?_, ?_⟩
  · refine List.forall_mem_cons.2 ⟨⟨Int.le_refl _, by rw [shows_append, hs, Bool.or_true]⟩, ?_⟩
    intro l hl
    obtain ⟨hdeep, hshows⟩ := h.within l hl
    exact ⟨by omega, hshows⟩
  · rw [List.getLast?_cons_cons]
    exact h.closed

end Line

namespace Stmt

theorem settled_laidAll {level : Int} {body : List Stmt} (hne : body ≠ [])
    (h : ∀ s ∈ body, Line.Settled level (s.laid level)) : Line.Settled level (laidAll level body) := by
  induction body with
  | nil => exact absurd rfl hne
  | cons s rest ih =>
      obtain ⟨hs, hrest⟩ := List.forall_mem_cons.1 h
      rw [laidAll]
      by_cases hnil : rest = []
      · simpa [hnil, laidAll] using hs
      · exact hs.append (ih hnil hrest)

theorem settled_args {level : Int} {args : List String} (h : args ≠ []) :
    Line.Settled level (args.map fun arg => (⟨level, arg ++ ","⟩ : Line)) := by
  have harg : ∀ arg : String, Line.Settled level [⟨level, arg ++ ","⟩] :=
    fun arg => Line.settled_singleton (settles_append arg (by decide))
  induction args with
  | nil => exact absurd rfl h
  | cons arg args ih =>
      by_cases hnil : args = []
      · simpa [hnil] using harg arg
      · exact (harg arg).append (ih hnil)

theorem Made.settled {needs names remarks : List String} {s : Stmt} (h : s.Made needs names remarks) (level : Int) :
    Line.Settled level (s.laid level) := by
  induction h generalizing level with
  | line _ _ hend => exact Line.settled_singleton hend
  | comment _ hend => exact Line.settled_singleton hend
  | @call head args _ _ _ _ _ hne =>
      have hclose : Line.Settled level [⟨level, ")"⟩] := Line.settled_singleton (by decide)
      exact ((settled_args hne).opened head (by decide) (by decide)).append hclose
  | @block head body _ hne _ ih =>
      exact (settled_laidAll hne fun s hs => ih s hs _).opened head (by decide) (by decide)

end Stmt

namespace Template

theorem settled_stmts (t : Template) (b : BoundNode) (level : Int) :
    Line.Settled level (Stmt.laidAll level (b.opening ++ (t.body b).stmts)) := by
  apply Stmt.settled_laidAll
  · simp [BoundNode.opening]
  · intro s hs
    exact (t.made_stmts b s hs).settled _

/-- Every template writes a procedure as a block: its first line, at the level of the writer, declares it, and all
other lines are not blank and deeper. A line is one level deeper than the one before it exactly if that one opens a
block or a list of arguments, and else no deeper. The operations of the template leave the writer at its level, and
they write what its statement is printed as. -/
theorem procedure_is_block (t : Template) (b : BoundNode) (k : Nat) (lines : Array Line) :
    ∃ body, (Writer.mk k lines).performAll (t.ops b) = ⟨k, lines ++ (⟨k, b.signature⟩ :: body).toArray⟩ ∧
      (Writer.mk k lines).stmt (t.procedure b) = ⟨k, lines ++ (⟨k, b.signature⟩ :: body).toArray⟩ ∧
      (∀ l ∈ body, (k : Int) < l.level ∧ shows l.text = true) ∧
      (⟨k, b.signature⟩ :: body).IsChain Line.Steps ∧
      ∀ l ∈ ⟨k, b.signature⟩ :: body, l.render = String.ofList (List.replicate (4 * l.level).toNat ' ') ++ l.text := by
  have hfront := t.settled_stmts b (k + 1)
  have hlaid : Stmt.laidAll (k + 1) (b.opening ++ (t.body b).stmts ++ [.line s!"return {t.returned b}"]) =
      Stmt.laidAll (k + 1) (b.opening ++ (t.body b).stmts) ++ [⟨k + 1, s!"return {t.returned b}"⟩] := by
    rw [Stmt.laidAll_append]
    rfl
  have hreturn : shows s!"return {t.returned b}" = true := by
    rw [shows_append, show shows (toString "return ") = true by decide, Bool.true_or]
  have hsignature : opens b.signature = true ∧ b.signature ≠ "" := by
    rw [BoundNode.signature, opens_append _ (by decide)]
    exact ⟨by decide, by simp⟩
  have hwithin : ∀ l ∈ Stmt.laidAll (k + 1) (b.opening ++ (t.body b).stmts) ++ [⟨k + 1, s!"return {t.returned b}"⟩],
      (k : Int) < l.level ∧ shows l.text = true := by
    rw [List.forall_mem_append, List.forall_mem_singleton]
    refine ⟨?_, Int.lt_succ k, hreturn⟩
    intro l hl
    obtain ⟨hdeep, hshows⟩ := hfront.within l hl
    exact ⟨by omega, hshows⟩
  have hstmt : (Writer.mk k lines).stmt (t.procedure b) = ⟨k, lines ++ (⟨k, b.signature⟩ ::
      (Stmt.laidAll (k + 1) (b.opening ++ (t.body b).stmts) ++ [⟨k + 1, s!"return {t.returned b}"⟩])).toArray⟩ := by
    rw [Writer.stmt_eq_add _ (Int.natCast_nonneg k), laid_procedure, hlaid]
    rfl
  refine ⟨_, (Writer.perform_template _ t b).trans hstmt, hstmt, hwithin, ?_, ?_⟩
  · -- The last line may end in anything, since no line follows it.
    have hsteps := hfront.isChain_append (m := ⟨k + 1, s!"return {t.returned b}"⟩) rfl (List.isChain_singleton _)
    obtain ⟨text, rest, hstart⟩ := hfront.start
    rw [hstart] at hsteps ⊢
    exact List.isChain_cons_cons.2 ⟨⟨by simp [hsignature], Int.le_refl _⟩, hsteps⟩
  · have htext : ∀ l : Line, l.text ≠ "" →
        l.render = String.ofList (List.replicate (4 * l.level).toNat ' ') ++ l.text := by
      intro l hl
      rw [Line.render, if_neg hl]
    refine List.forall_mem_cons.2 ⟨htext _ hsignature.2, fun l hl => htext l ?_⟩
    intro hempty
    have hshows := (hwithin l hl).2
    rw [hempty] at hshows
    cases hshows

end Template

end Dataflow
