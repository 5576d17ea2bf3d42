import Dataflow.Compilation
import Dataflow.Proofs.Emission

namespace Dataflow.Pipeline

variable {τ : Type} {p : Pipeline} {options : CompileOptions τ} {timestamp : String}

structure WellFormed (p : Pipeline) (rules : FeedRules) (registry : Registry τ) : Prop where
  input : ∃ n ∈ p.nodes, n.category = .input
  output : ∃ n ∈ p.nodes, n.category = .output
  edges : ∀ e ∈ p.edges, p.Fits rules e
  acyclic : ¬p.Cyclic
  served : ∀ n ∈ p.nodes, registry.Serves n

theorem wellFormed_of_schedule {rules : FeedRules} {registry : Registry τ} {order : List String}
    (hp : p.problems rules = []) (hs : p.schedule = .ok order) (hserved : ∀ n ∈ p.nodes, registry.Serves n) :
    p.WellFormed rules registry := by
  obtain ⟨hinput, houtput, hfits⟩ := problems_eq_nil.1 hp
  exact ⟨hinput, houtput, hfits, (schedule_ok hs).not_cyclic, hserved⟩

/-- The problems that a pipeline is rejected with: all that its check finds, or else a cycle, or else the
first node in the schedule that has no template. -/
inductive Rejection (p : Pipeline) (options : CompileOptions τ) : List Problem → Prop
  | problems (h : p.problems options.rules ≠ []) : Rejection p options (p.problems options.rules)
  | cycle {path : List String} (hp : p.problems options.rules = []) (hs : p.schedule = .error path) :
      Rejection p options [.cycle path]
  | noTemplate {order : List String} {before after : List Node} {n : Node} (hp : p.problems options.rules = [])
      (hs : p.schedule = .ok order) (hsplit : p.nodesIn order = before ++ n :: after)
      (hbefore : ∀ m ∈ before, options.registry.Serves m) (hn : ¬options.registry.Serves n) :
      Rejection p options [.noTemplate n.id n.category]

theorem Rejection.ne_nil {problems : List Problem} (h : p.Rejection options problems) : problems ≠ [] := by
  cases h with
  | problems h => exact h
  | cycle hp hs => simp
  | noTemplate hp hs hsplit hbefore hn => simp

theorem Rejection.not_wellFormed {problems : List Problem} (h : p.Rejection options problems) :
    ¬p.WellFormed options.rules options.registry := by
  intro hw
  cases h with
  | problems h => exact h (problems_eq_nil.2 ⟨hw.input, hw.output, hw.edges⟩)
  | cycle hp hs => exact hw.acyclic (schedule_error hs)
  | @noTemplate order before after n hp hs hsplit hbefore hn =>
      have hmem : n ∈ p.nodesIn order := by simp [hsplit]
      exact hn (hw.served n (mem_nodesIn.1 hmem).1)

variable [Strategy τ]

/-- What a compilation can come to, with the warnings that it gives. -/
inductive Outcome (p : Pipeline) (options : CompileOptions τ) (timestamp : String) (warnings : List String) :
    Except EmitError Compilation → Prop
  | rejected {problems : List Problem} (h : p.Rejection options problems) :
      Outcome p options timestamp warnings (.ok ⟨.rejected problems, warnings⟩)
  | emitted {order : List String} {e : Emission} (hw : p.WellFormed options.rules options.registry)
      (hclash : ∀ n ∈ p.nodes, ¬n.Clashes) (hs : p.schedule = .ok order)
      (he : (p.emit order options.registry options.settings timestamp).value = .ok e) :
      Outcome p options timestamp warnings (.ok ⟨.emitted order e, warnings⟩)
  | failed {n : Node} (hw : p.WellFormed options.rules options.registry) (hn : n ∈ p.nodes) (hclash : n.Clashes) :
      Outcome p options timestamp warnings (.error (.symbol (.alreadyDefined ⟨n.id, PortKey.resultPort⟩)))

theorem outcome_of_schedule (hp : p.problems options.rules = []) {order : List String} (hs : p.schedule = .ok order)
    (warnings : List String) :
    Outcome p options timestamp warnings (p.compileChecked options timestamp warnings).value := by
  have hsched := schedule_ok hs
  have hmem : ∀ n, n ∈ p.nodesIn order ↔ n ∈ p.nodes := fun n => mem_nodesIn_of_perm hsched.perm
  cases ht : p.templatesFor options.registry order with
  | error d =>
      have he : (p.emit order options.registry options.settings timestamp).value = .error (.noTemplate d) :=
        emit_of_no_template hsched.perm ht
      obtain ⟨before, n, after, hsplit, hbefore, hn, rfl⟩ := templatesFor_error ht
      simp only [compileChecked, hs, he]
      exact .rejected (.noTemplate hp hs hsplit hbefore hn)
  | ok templates =>
      have hw : p.WellFormed options.rules options.registry :=
        wellFormed_of_schedule hp hs fun n hn => (templatesFor_ok ht).2 n ((hmem n).2 hn)
      have hrun := hsched.runnable fun e he => (hw.edges e he).resolves
      rcases Binding.bindAll_of_runnable (Binding.covers_empty (scriptReserved options.settings)) hrun with
        ⟨⟨table, hb⟩, hclash⟩ | ⟨n, hn, hclash, hb⟩
      · have he : (p.emit order options.registry options.settings timestamp).value = .ok _ :=
          emit_of_bindings hsched.perm ht hb
        simp only [compileChecked, hs, he]
        exact .emitted hw (fun n hn => hclash n ((hmem n).2 hn)) hs he
      · have he : (p.emit order options.registry options.settings timestamp).value = .error _ :=
          emit_of_symbol_error hsched.perm ht hb
        simp only [compileChecked, hs, he]
        exact .failed hw ((hmem n).1 hn) hclash

theorem compile_outcome (p : Pipeline) (options : CompileOptions τ) (timestamp : String) :
    Outcome p options timestamp ((p.advice options.settings.threshold).map Advice.message)
      (p.compile options timestamp).value := by
  by_cases hp : p.problems options.rules = []
  · have hvalue : (p.compile options timestamp).value = (p.compileChecked options timestamp
        ((p.advice options.settings.threshold).map Advice.message)).value := by
      simp [compile, hp]
    rw [hvalue]
    cases hs : p.schedule with
    | error path =>
        simp only [compileChecked, hs]
        exact .rejected (.cycle hp hs)
    | ok order => exact outcome_of_schedule hp hs _
  · have hvalue : (p.compile options timestamp).value = .ok ⟨.rejected (p.problems options.rules),
        (p.advice options.settings.threshold).map Advice.message⟩ := by
      simp [compile, hp, reject]
    rw [hvalue]
    exact .rejected (.problems hp)

theorem WellFormed.emits (options : CompileOptions τ) (timestamp : String)
    (hw : p.WellFormed options.rules options.registry) (hclash : ∀ n ∈ p.nodes, ¬n.Clashes) :
    ∃ order e, p.schedule = .ok order ∧
      (p.emit order options.registry options.settings timestamp).value = .ok e ∧
      (p.compile options timestamp).value =
        .ok ⟨.emitted order e, (p.advice options.settings.threshold).map Advice.message⟩ := by
  have h := compile_outcome p options timestamp
  generalize (p.compile options timestamp).value = value at h
  cases h with
  | rejected h => exact absurd hw h.not_wellFormed
  | emitted _ _ hs he => exact ⟨_, _, hs, he, rfl⟩
  | failed _ hn h => exact absurd h (hclash _ hn)

def textPort : Port := ⟨"text", .null, .text, true, .null⟩

/-- A question that goes to two output nodes of one label. Two edges lead to one input port. -/
def answering : Pipeline where
  name := "answering"
  nodes := [
    ⟨"short", .output, "Answer", [], [textPort], [], none, .null, List.nodup_singleton "text", List.nodup_nil⟩,
    ⟨"merge", .logic, "Merge", [], [⟨"left", .null, .text, true, .null⟩, ⟨"right", .null, .text, false, .null⟩],
      [textPort], some .dataMerger, .null, by decide, List.nodup_singleton "text"⟩,
    ⟨"question", .input, "Question", [], [], [textPort], none, .null, List.nodup_nil, List.nodup_singleton "text"⟩,
    ⟨"long", .output, "Answer", [], [textPort], [], none, .null, List.nodup_singleton "text", List.nodup_nil⟩]
  edges := [
    ⟨"e1", "merge", "text", "short", "text", .text⟩,
    ⟨"e2", "question", "text", "merge", "left", .text⟩,
    ⟨"e3", "merge", "text", "long", "text", .text⟩,
    ⟨"e4", "question", "text", "long", "text", .text⟩]

theorem schedule_answering : answering.schedule = .ok ["question", "merge", "short", "long"] := by
  cbv

theorem wellFormed_answering : answering.WellFormed .standard .standard :=
  wellFormed_of_schedule rfl schedule_answering (by decide)

/-- A compilation returns, except for a well-formed pipeline with an output node that declares a port
under the name of its result. -/
theorem compile_returns_iff_not_clashes (p : Pipeline) (options : CompileOptions τ) (timestamp : String) :
    ((∃ c, (p.compile options timestamp).value = .ok c ∧ (c.state = "emitted" ∨ c.state = "rejected")) ↔
      ¬(p.WellFormed options.rules options.registry ∧ ∃ n ∈ p.nodes, n.Clashes)) ∧
    ∀ cause, (p.compile options timestamp).value = .error cause →
      ∃ n ∈ p.nodes, n.Clashes ∧ cause = .symbol (.alreadyDefined ⟨n.id, PortKey.resultPort⟩) := by
  have h := compile_outcome p options timestamp
  generalize (p.compile options timestamp).value = value at h
  cases h with
  | rejected h =>
      refine ⟨iff_of_true ⟨_, rfl, .inr rfl⟩ ?_, by simp⟩
      exact fun hw => h.not_wellFormed hw.1
  | emitted hw hclash _ _ =>
      refine ⟨iff_of_true ⟨_, rfl, .inl rfl⟩ ?_, by simp⟩
      rintro ⟨-, n, hn, h⟩
      exact hclash n hn h
  | @failed n hw hn hclash =>
      refine ⟨iff_of_false (by simp) (not_not.2 ⟨hw, n, hn, hclash⟩), ?_⟩
      intro cause hcause
      cases hcause
      exact ⟨n, hn, hclash, rfl⟩

/-- A text that goes to an output node with a port under the name of its result. -/
def clashing : Pipeline where
  name := "clashing"
  nodes := [
    ⟨"in", .input, "In", [], [], [textPort], none, .null, List.nodup_nil, List.nodup_singleton "text"⟩,
    ⟨"out", .output, "Out", [], [textPort], [⟨"__result__", .null, .text, true, .null⟩], none, .null,
      List.nodup_singleton "text", List.nodup_singleton "__result__"⟩]
  edges := [⟨"e1", "in", "text", "out", "text", .text⟩]

theorem wellFormed_clashing : clashing.WellFormed .standard .standard :=
  wellFormed_of_schedule rfl (show clashing.schedule = .ok ["in", "out"] by cbv) (by decide)

theorem compile_clashing : (clashing.compile {} "now").value =
    .error (.symbol (.alreadyDefined ⟨"out", PortKey.resultPort⟩)) := by
  have hclash : ∃ n ∈ clashing.nodes, n.Clashes := by decide
  have hid : ∀ n ∈ clashing.nodes, n.Clashes → n.id = "out" := by decide
  have h := compile_outcome clashing {} "now"
  generalize (clashing.compile {} "now").value = value at h ⊢
  cases h with
  | rejected h => exact absurd wellFormed_clashing h.not_wellFormed
  | emitted _ hnone _ _ =>
      obtain ⟨n, hn, hclash⟩ := hclash
      exact absurd hclash (hnone n hn)
  | failed _ hn hclash => rw [hid _ hn hclash]

theorem clashing_not_returned : ¬∃ c, (clashing.compile {} "now").value = .ok c ∧
    (c.state = "emitted" ∨ c.state = "rejected") := by
  obtain ⟨hiff, -⟩ := compile_returns_iff_not_clashes clashing {} "now"
  intro h
  exact hiff.1 h ⟨wellFormed_clashing, by decide⟩

end Dataflow.Pipeline
