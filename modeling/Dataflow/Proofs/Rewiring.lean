import Dataflow.Proofs.Compilation

namespace Dataflow

namespace Search

variable {p : Pipeline} {s t : Search} {path : List String} (h : s.Declared p)

theorem run_of_done (hstep : s.step p = .done) : s.run p h = .ok s.order := by
  rw [run]
  split
  · rfl
  · rename_i path hother
    cases hstep.symm.trans hother
  · rename_i t hother
    cases hstep.symm.trans hother

theorem run_of_cycle (hstep : s.step p = .cycle path) : s.run p h = .error path := by
  rw [run]
  split
  · rename_i hother
    cases hstep.symm.trans hother
  · rename_i path' hsame
    cases hstep.symm.trans hsame
    rfl
  · rename_i t hother
    cases hstep.symm.trans hother

theorem run_of_state (hstep : s.step p = .state t) : s.run p h = t.run p (h.step hstep) := by
  conv_lhs => rw [run]
  split
  · rename_i hother
    cases hstep.symm.trans hother
  · rename_i path hother
    cases hstep.symm.trans hother
  · rename_i t' hsame
    cases hstep.symm.trans hsame
    rfl

end Search

namespace Pipeline

/-- The pipelines differ in their edges at most, and there neither in their number, nor in the nodes that they
join, nor in where the first edge to an input port comes from. -/
structure SameWiring (p q : Pipeline) : Prop where
  nodes : p.nodes = q.nodes
  name : p.name = q.name
  description : p.description = q.description
  count : p.edges.length = q.edges.length
  pairs : ∀ source target, (∃ e ∈ p.edges, e.sourceNode = source ∧ e.targetNode = target) ↔
    ∃ e ∈ q.edges, e.sourceNode = source ∧ e.targetNode = target
  sources : ∀ node port, (p.feeder? node port).map Edge.source = (q.feeder? node port).map Edge.source

namespace SameWiring

variable {p q : Pipeline}

theorem ids_eq (h : p.SameWiring q) : p.ids = q.ids := by
  rw [ids, ids, h.nodes]

theorem node?_eq (h : p.SameWiring q) : p.node? = q.node? :=
  node?_congr h.nodes

theorem suppliers_eq (h : p.SameWiring q) : p.suppliers = q.suppliers := by
  funext id
  rw [suppliers, suppliers, h.ids_eq]
  apply List.filter_congr
  intro n _
  rw [Bool.eq_iff_iff]
  simpa [and_comm, and_assoc] using h.pairs n id

theorem step_eq (h : p.SameWiring q) (s : Search) : s.step p = s.step q := by
  simp only [Search.step, h.suppliers_eq]

theorem run_eq (h : p.SameWiring q) {s u : Search} (hp : s.Declared p) (hq : u.Declared q) (hsu : s = u) :
    s.run p hp = u.run q hq := by
  subst hsu
  fun_induction Search.run p s hp with
  | case1 s hp hstep => rw [Search.run_of_done hq ((h.step_eq s).symm.trans hstep)]
  | case2 s hp path hstep => rw [Search.run_of_cycle hq ((h.step_eq s).symm.trans hstep)]
  | case3 s hp t hstep ih => rw [Search.run_of_state hq ((h.step_eq s).symm.trans hstep), ih]

theorem schedule_eq (h : p.SameWiring q) : p.schedule = q.schedule := by
  have hstart : Search.start p = Search.start q := by
    rw [Search.start, Search.start, h.ids_eq]
  exact h.run_eq _ _ hstart

theorem bindAll_eq (h : p.SameWiring q) (t : SymbolTable) (nodes : List Node) :
    Binding.bindAll p t nodes = Binding.bindAll q t nodes :=
  Binding.bindAll_congr (fun n _ => h.sources n.id) t

variable {τ : Type} [Strategy τ] {registry : Registry τ} {s : Settings} {timestamp : String}

theorem emission_eq (h : p.SameWiring q) (bound : List (BoundNode × τ)) :
    p.emission s timestamp bound = q.emission s timestamp bound := by
  have hheader : Script.header p timestamp = Script.header q timestamp := by
    rw [Script.header, Script.header, h.name, h.nodes, h.count, h.description]
  rw [emission, emission, hheader]

theorem emit_eq (h : p.SameWiring q) (order : List String) :
    p.emit order registry s timestamp = q.emit order registry s timestamp := by
  have htemplates : p.templatesFor registry order = q.templatesFor registry order := by
    rw [templatesFor, templatesFor, h.node?_eq]
  simp only [emit, h.ids_eq, h.name, htemplates, h.bindAll_eq, h.emission_eq]

variable {options : CompileOptions τ} {rules : FeedRules}

theorem compileChecked_verdict_eq (h : p.SameWiring q) (warnings others : List String) :
    (p.compileChecked options timestamp warnings).value.map Compilation.verdict =
      (q.compileChecked { options with rules } timestamp others).value.map Compilation.verdict := by
  cases hs : q.schedule with
  | error path => simp only [compileChecked, h.schedule_eq, hs, reject, Except.map]
  | ok order =>
      cases he : (q.emit order options.registry options.settings timestamp).value with
      | ok e => simp only [compileChecked, h.schedule_eq, hs, h.emit_eq, he, Except.map]
      | error cause =>
          cases cause <;> simp only [compileChecked, h.schedule_eq, hs, h.emit_eq, he, reject, Except.map]

theorem compile_verdict_eq (h : p.SameWiring q) (hp : p.problems options.rules = []) (hq : q.problems rules = [])
    (timestamp : String) :
    (p.compile options timestamp).value.map Compilation.verdict =
      (q.compile { options with rules } timestamp).value.map Compilation.verdict := by
  simp only [compile, hp, hq, List.isEmpty_nil, if_true]
  exact h.compileChecked_verdict_eq _ _

end SameWiring

/-- Pipelines that are wired alike, and in which their checks find nothing, compile alike up to the warnings. -/
theorem compile_of_sameWiring {τ : Type} [Strategy τ] {p q : Pipeline} (options : CompileOptions τ) (rules : FeedRules)
    (timestamp : String)
    (h : p.SameWiring q) (hp : p.problems options.rules = []) (hq : q.problems rules = []) :
    (∃ c d, (p.compile options timestamp).value = .ok c ∧
      (q.compile { options with rules } timestamp).value = .ok d ∧
      c.state = d.state ∧ c.diagnostics = d.diagnostics ∧ c.order = d.order ∧ c.source? = d.source? ∧
      c.manifest = d.manifest) ∨
    ∃ cause, (p.compile options timestamp).value = .error cause ∧
      (q.compile { options with rules } timestamp).value = .error cause := by
  have hverdict := h.compile_verdict_eq hp hq timestamp
  generalize (p.compile options timestamp).value = left at hverdict
  generalize (q.compile { options with rules } timestamp).value = right at hverdict
  cases left with
  | error cause =>
      cases right with
      | error cause' =>
          cases hverdict
          exact .inr ⟨cause, rfl, rfl⟩
      | ok d => cases hverdict
  | ok c =>
      cases right with
      | error cause => cases hverdict
      | ok d =>
          obtain ⟨verdict, warnings⟩ := c
          obtain ⟨verdict', others⟩ := d
          cases hverdict
          exact .inl ⟨_, _, rfl, rfl, rfl, rfl, rfl, rfl, rfl⟩

def hinted : Pipeline where
  name := "hinted"
  nodes := [
    ⟨"ask", .input, "Ask", [], [], [textPort, ⟨"hint", .null, .text, true, .null⟩], none, .null, List.nodup_nil,
      by decide⟩,
    ⟨"merge", .logic, "Merge", [], [⟨"left", .null, .text, true, .null⟩], [textPort], some .dataMerger, .null,
      List.nodup_singleton "left", List.nodup_singleton "text"⟩,
    ⟨"say", .output, "Say", [], [textPort], [], none, .null, List.nodup_singleton "text", List.nodup_nil⟩]
  edges := [
    ⟨"e1", "ask", "text", "merge", "left", .text⟩,
    ⟨"e2", "ask", "hint", "merge", "left", .text⟩,
    ⟨"e3", "merge", "text", "say", "text", .text⟩]

/-- Other edges in another order: their ids and types differ, and the question is asked twice. -/
def rewired : Pipeline := { hinted with
  edges := [
    ⟨"f3", "merge", "text", "say", "text", .pdf⟩,
    ⟨"f1", "ask", "text", "merge", "left", .json⟩,
    ⟨"f2", "ask", "text", "merge", "left", .text⟩] }

theorem sameWiring_rewired : hinted.SameWiring rewired where
  nodes := rfl
  name := rfl
  description := rfl
  count := rfl
  pairs := by
    intro source target
    simp [hinted, rewired]
    tauto
  sources := by
    intro node port
    by_cases hnode : "merge" = node
    · subst hnode
      cases hport : "left" == port <;> simp [feeder?, hinted, rewired, hport, Edge.source]
    · have hmerge : ("merge" == node) = false := by simpa using hnode
      cases hsay : "say" == node && "text" == port <;>
        simp [feeder?, hinted, rewired, hmerge, hsay, Edge.source]

theorem schedule_hinted : hinted.schedule = .ok ["ask", "merge", "say"] := by
  cbv

theorem wellFormed_hinted : hinted.WellFormed .standard .standard :=
  wellFormed_of_schedule rfl schedule_hinted (by decide)

theorem wellFormed_rewired : rewired.WellFormed .standard .standard :=
  wellFormed_of_schedule rfl (sameWiring_rewired.schedule_eq.symm.trans schedule_hinted) (by decide)

theorem rewired_compiles_alike : hinted.SameWiring rewired ∧ ∃ c d, (hinted.compile {} "now").value = .ok c ∧
    (rewired.compile {} "now").value = .ok d ∧ c.state = "emitted" ∧ d.state = "emitted" ∧
    c.source? = d.source? ∧ c.warnings ≠ d.warnings := by
  obtain ⟨_, _, -, -, hc⟩ := WellFormed.emits {} "now" wellFormed_hinted (by decide)
  obtain ⟨_, _, -, -, hd⟩ := WellFormed.emits {} "now" wellFormed_rewired (by decide)
  refine ⟨sameWiring_rewired, _, _, hc, hd, rfl, rfl, ?_, ?_⟩
  · rcases compile_of_sameWiring {} .standard "now" sameWiring_rewired rfl rfl with
      ⟨c, d, hleft, hright, -, -, -, hsource, -⟩ | ⟨cause, herror, -⟩
    · cases hc.symm.trans hleft
      cases hd.symm.trans hright
      exact hsource
    · cases hc.symm.trans herror
  · -- Two edges of the second pipeline were drawn with another type.
    intro hwarnings
    have hcounts : ((hinted.advice 10).map Advice.message).length ≠
        ((rewired.advice 10).map Advice.message).length := by decide
    exact hcounts (congrArg List.length hwarnings)

end Pipeline

end Dataflow
