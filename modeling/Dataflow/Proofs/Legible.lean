import Dataflow.Proofs.Bodies

namespace Dataflow

open Text

/-- The line is printable, or a comment with one of the remarks. -/
def Line.Tells (remarks : List String) (l : Line) : Prop :=
  Printable l.text ∨ ∃ remark ∈ remarks, l.text = "# " ++ oneLine remark

theorem Stmt.Made.tells {needs names remarks : List String} {s : Stmt} (h : s.Made needs names remarks)
    (hnames : ∀ x ∈ names, Printable x) (level : Int) : ∀ l ∈ s.laid level, l.Tells remarks := by
  intro l hl
  rcases h.laid level l hl with ⟨_, _, hcode⟩ | ⟨text, hprintable | hremark, htext⟩
  · exact .inl (hcode.printable hnames)
  · rw [Line.Tells, htext]
    exact .inl (printable_append.2 ⟨by decide, printable_oneLine hprintable⟩)
  · exact .inr ⟨text, hremark, htext⟩

theorem Category.printable_fixedParams (c : Category) : ∀ param ∈ c.fixedParams, Printable param := by
  cases c <;> decide

theorem Category.printable_fixedArgs (c : Category) : ∀ arg ∈ c.fixedArgs, Printable arg := by
  cases c <;> decide

namespace BoundNode

variable {b : BoundNode}

theorem Every.tells_procedure (h : b.Every Printable) (t : Template) :
    ∀ l ∈ (t.procedure b).laid 0, l.Tells b.remarks := by
  have hoperands : ∀ x ∈ b.operands, Printable x := h.operands (by decide)
  have hparams : Printable (", ".intercalate
      (b.node.category.fixedParams ++ b.params.map fun entry => s!"{entry.2}: Any = None")) := by
    refine printable_intercalate (by decide) (List.forall_mem_append.2 ⟨Category.printable_fixedParams _, ?_⟩)
    intro param hparam
    obtain ⟨entry, hentry, rfl⟩ := List.mem_map.1 hparam
    exact printable_append.2 ⟨h.params entry hentry, by decide⟩
  have hsignature : Printable b.signature := by
    have hmarks : Printable "def " ∧ Printable "(" ∧ Printable ") -> Any:" := by decide
    simpa [signature, h.procedure, hmarks] using hparams
  have hreturn : Printable s!"return {t.returned b}" := by
    obtain ⟨_, _, hcode, -⟩ := t.made_return b
    exact hcode.printable hoperands
  intro l hl
  rw [Template.laid_procedure, Stmt.laidAll_eq_flatMap, List.flatMap_append] at hl
  rcases List.mem_cons.1 hl with rfl | hl
  · exact .inl hsignature
  · rcases List.mem_append.1 hl with hl | hl
    · obtain ⟨s, hs, hl⟩ := List.mem_flatMap.1 hl
      exact (t.made_stmts b s hs).tells hoperands _ l hl
    · rw [List.flatMap_singleton] at hl
      rw [List.mem_singleton.1 hl]
      exact .inl hreturn

theorem Every.printable_invocation (h : b.Every Printable) : Printable b.invocation.text := by
  have hmarks : Printable "(" ∧ Printable ")" ∧ Printable ", " ∧ Printable "=" := by decide
  obtain ⟨hopen, hclose, hcomma, hequals⟩ := hmarks
  have hargs : ∀ arg ∈ b.invocation.args, Printable s!"{arg.param}={arg.var}" := by
    intro arg harg
    obtain ⟨⟨port, var?⟩, hentry, harg⟩ := List.mem_filterMap.1 harg
    obtain ⟨var, hvar, rfl⟩ := Option.map_eq_some_iff.1 harg
    simpa [hequals, h.inputVars _ hentry var hvar] using h.param port (by decide)
  rw [Call.text]
  refine printable_append.2 ⟨printable_append.2 ⟨printable_append.2 ⟨h.procedure, hopen⟩, ?_⟩, hclose⟩
  refine printable_intercalate hcomma (List.forall_mem_append.2 ⟨Category.printable_fixedArgs _, ?_⟩)
  exact List.forall_mem_map.2 hargs

theorem Every.printable_commands (h : b.Every Printable) : ∀ command ∈ b.commands, Printable command.text := by
  have hassign : Printable " = " := by decide
  have htargets : ∀ target ∈ b.outputVars.map Prod.snd, Printable target := List.forall_mem_map.2 h.outputVars
  unfold commands
  extract_lets targets
  cases hresult : b.resultVar with
  | some result =>
      have hvar := h.resultVar result hresult
      simp only [List.forall_mem_cons, List.forall_mem_map]
      refine ⟨by simpa [Command.text, hassign, hvar] using h.printable_invocation, ?_⟩
      intro target htarget
      simpa [Command.text, hassign, hvar] using htargets target (List.mem_of_mem_filter htarget)
  | none =>
      rw [List.forall_mem_singleton]
      cases hnames : targets with
      | nil => exact h.printable_invocation
      | cons target rest =>
          have hleft : Printable (", ".intercalate (target :: rest)) :=
            printable_intercalate (by decide) (hnames ▸ htargets)
          simpa [Command.text, hassign, hleft] using h.printable_invocation

theorem Every.tells_call (h : b.Every Printable) : ∀ l ∈ Stmt.laidAll 1 b.call, l.Tells b.remarks := by
  intro l hl
  rw [Stmt.laidAll_eq_flatMap, call, List.flatMap_cons] at hl
  rcases List.mem_append.1 hl with hl | hl
  · rw [List.mem_singleton.1 hl]
    exact .inr ⟨_, List.mem_cons_of_mem _ List.mem_cons_self, rfl⟩
  · obtain ⟨s, hs, hl⟩ := List.mem_flatMap.1 hl
    obtain ⟨command, hcommand, rfl⟩ := List.mem_map.1 hs
    rw [List.mem_singleton.1 hl]
    exact .inl (h.printable_commands command hcommand)

end BoundNode

namespace Pipeline

variable {τ : Type} [Strategy τ] {p : Pipeline} {order : List String} {registry : Registry τ} {s : Settings}
  {timestamp : String} {e : Emission}

theorem emit_legible (h : (p.emit order registry s timestamp).value = .ok e) : ∀ b ∈ e.bound, b.Every Printable := by
  have hword : ∀ hint name, Naming.Named hint name → name ∉ Naming.reserved → Printable name :=
    fun hint name hnamed _ c hc => isPrintable_of_isWord (hnamed.isWord c hc)
  exact emit_every hword h

end Pipeline

end Dataflow
