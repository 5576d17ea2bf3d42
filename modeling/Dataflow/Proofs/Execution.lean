import Dataflow.Proofs.Binding
import Dataflow.Proofs.Flow
import Dataflow.Script.Emission

namespace Dataflow

variable {α : Type}

abbrev Store (α : Type) : Type := String → Option α

namespace Store

def assign (s : Store α) (var : String) (a : α) : Store α := fun name => if name = var then some a else s name

/-- Assigns values to variables in parallel. There must be as many values as variables. -/
def assignAll (s : Store α) : List String → List α → Option (Store α)
  | [], [] => some s
  | var :: vars, a :: values => (s.assign var a).assignAll vars values
  | _, _ => none

theorem assignAll_map {entries : List (String × String)} (h : (entries.map Prod.snd).Nodup) (s : Store α)
    (f : String → α) :
    ∃ s', s.assignAll (entries.map Prod.snd) ((entries.map Prod.fst).map f) = some s' ∧
      (∀ name, name ∉ entries.map Prod.snd → s' name = s name) ∧
      ∀ entry ∈ entries, s' entry.2 = some (f entry.1) := by
  induction entries generalizing s with
  | nil => exact ⟨s, rfl, fun _ _ => rfl, by simp⟩
  | cons entry entries ih =>
      obtain ⟨hnot, hnodup⟩ := List.nodup_cons.1 h
      obtain ⟨s', hrun, hframe, hvalues⟩ := ih hnodup (s.assign entry.2 (f entry.1))
      refine ⟨s', hrun, ?_, ?_⟩
      · intro name hname
        rw [List.map_cons, List.mem_cons, not_or] at hname
        rw [hframe name hname.2]
        simp [assign, hname.1]
      · intro other hother
        rcases List.mem_cons.1 hother with rfl | hother
        · rw [hframe _ hnot]
          simp [assign]
        · exact hvalues other hother

end Store

def Call.passed? (s : Store α) : List Call.Argument → Option (String → Option α)
  | [] => some fun _ => none
  | arg :: args => do
    let a ← s arg.var
    let others ← passed? s args
    return fun port => if port = arg.port then some a else others port

namespace Command

def targets : Command → List String
  | .outputs targets _ => targets
  | .result target _ | .copy target _ => [target]

/-- Executes a command, if the names that it calls and reads stand for something. -/
def run (I : Interpretation α) (callee? : String → Option Node) (s : Store α) : Command → Option (Store α)
  | .outputs targets call => do
    let n ← callee? call.procedure
    let inputs ← Call.passed? s call.args
    s.assignAll targets ((n.outputs.map Port.id).map (I.outputs n.id inputs))
  | .result target call => do
    let n ← callee? call.procedure
    let inputs ← Call.passed? s call.args
    return s.assign target (I.result n.id inputs)
  | .copy target source => do
    let a ← s source
    return s.assign target a

end Command

namespace Script

/-- The node whose procedure a name calls in the run function: that of the last definition. A name that
the function sets is a variable in all of it, and calls nothing. -/
def callee? (bound : List BoundNode) (name : String) : Option Node :=
  if name ∈ (bound.flatMap BoundNode.commands).flatMap Command.targets then none
  else (bound.findRev? (·.procedure == name)).map BoundNode.node

def execute (I : Interpretation α) (s : Store α) (bound : List BoundNode) : Option (Store α) :=
  (bound.flatMap BoundNode.commands).foldlM (Command.run I (callee? bound)) s

def returned? (s : Store α) (bound : List BoundNode) : Option (List (String × α)) :=
  (results bound).mapM fun entry => (s entry.2).map (entry.1, ·)

end Script

namespace Binding

variable {p : Pipeline} {I : Interpretation α} {V : PortKey → α} {s : Store α} {t u : SymbolTable}
  {n : Node} {b : BoundNode}

/-- The variables that the table names are taken, and hold the values at their ports. -/
def Holds (t : SymbolTable) (s : Store α) (V : PortKey → α) : Prop :=
  ∀ entry ∈ t.symbols, entry.2 ∈ t.taken ∧ s entry.2 = some (V entry.1)

theorem Holds.find? (h : Holds t s V) {key : PortKey} {var : String} (hf : t.find? key = some var) :
    s var = some (V key) := by
  obtain ⟨before, after, hsymbols, -⟩ := List.lookup_eq_some_iff.1 hf
  exact (h (key, var) (by simp [hsymbols])).2

theorem Holds.passed? {ports : List String} (h : Holds t s V) (hports : Resolved p t n.id ports)
    (param : String → String) :
    Call.passed? s ((ports.map fun port => (port, feedVar? p t n.id port)).filterMap fun entry =>
        entry.2.map (⟨entry.1, param entry.1, ·⟩)) =
      some fun port => if port ∈ ports then p.arriving V n port else none := by
  induction ports with
  | nil => rfl
  | cons port ports ih =>
      have hrest := ih fun q hq => hports q (List.mem_cons_of_mem port hq)
      cases hf : p.feeder? n.id port with
      | none =>
          have hvar : feedVar? p t n.id port = none := by simp [feedVar?, hf]
          rw [List.map_cons, List.filterMap_cons_none (by simp [hvar]), hrest]
          congr 1
          funext q
          by_cases hq : q = port
          · simp [hq, Pipeline.arriving, hf]
          · simp [hq]
      | some e =>
          obtain ⟨var, hvar⟩ := Option.isSome_iff_exists.1 (hports port List.mem_cons_self e hf)
          have hfeed : feedVar? p t n.id port = some var := by simp [feedVar?, hf, hvar]
          have hread : s var = some (V ⟨e.sourceNode, e.sourcePort⟩) := h.find? hvar
          rw [List.map_cons, List.filterMap_cons_some (by simp [hfeed]; rfl), Call.passed?, hrest, hread]
          refine congrArg some ?_
          funext q
          by_cases hq : q = port
          · simp [hq, Pipeline.arriving, hf]
          · simp [hq]

section

variable (hedges : ∀ e ∈ p.edges, p.Resolves e)

include hedges

theorem Bound.passed? (hb : Bound p t n b u) (hn : n ∈ p.nodes) (h : Holds t s V) :
    Call.passed? s b.invocation.args = some (p.arriving V n) := by
  have hargs : b.invocation.args =
      ((n.inputs.map Port.id).map fun port => (port, feedVar? p t n.id port)).filterMap fun entry =>
        entry.2.map (⟨entry.1, b.param entry.1, ·⟩) := by
    rw [← hb.inputVars]
    rfl
  rw [hargs, h.passed? hb.resolved (b.param ·)]
  refine congrArg some ?_
  funext port
  -- An edge to the node leads to a declared port, so that no other port is fed.
  split
  · rfl
  · rename_i hport
    cases hf : p.feeder? n.id port with
    | none => simp [Pipeline.arriving, hf]
    | some e => exact absurd (Pipeline.declared_of_feeder hedges hn hf) hport

end

theorem Bound.commands_of_output (hb : Bound p t n b u) (hcat : n.category = .output) :
    ∃ var, b.commands = [.result var b.invocation] ∧ b.targets = [var] ∧ ∀ entry ∈ b.bindings, entry.2 = var := by
  obtain ⟨var, hvar, houtputs⟩ := hb.result hcat
  refine ⟨var, ?_, by simp [BoundNode.targets, hvar], ?_⟩
  · -- The declared outputs share the variable of the result, so nothing is copied.
    simp [BoundNode.commands, hvar, houtputs, Function.comp_def]
  · intro entry hentry
    rw [BoundNode.bindings, hvar, houtputs] at hentry
    rcases List.mem_append.1 hentry with hentry | hentry
    · simp_all
    · obtain ⟨output, houtput, rfl⟩ := List.mem_map.1 hentry
      obtain ⟨port, -, rfl⟩ := List.mem_map.1 houtput
      rfl

theorem Bound.commands_of_not_output (hb : Bound p t n b u) (hcat : n.category ≠ .output) :
    b.commands = [.outputs (b.outputVars.map Prod.snd) b.invocation] ∧ b.targets = b.outputVars.map Prod.snd ∧
      b.bindings = b.outputVars.map fun entry => (⟨n.id, entry.1⟩, entry.2) := by
  have hnone := hb.noResult hcat
  simp [BoundNode.commands, BoundNode.targets, BoundNode.bindings, hnone, hb.node]

theorem Bound.targets_commands (hb : Bound p t n b u) : b.commands.flatMap Command.targets = b.targets := by
  by_cases hcat : n.category = .output
  · obtain ⟨var, hcommands, htargets, -⟩ := hb.commands_of_output hcat
    simp [hcommands, htargets, Command.targets]
  · obtain ⟨hcommands, htargets, -⟩ := hb.commands_of_not_output hcat
    simp [hcommands, htargets, Command.targets]

theorem Bound.mem_targets_of_mem_bindings (hb : Bound p t n b u) : ∀ entry ∈ b.bindings, entry.2 ∈ b.targets := by
  intro entry hentry
  by_cases hcat : n.category = .output
  · obtain ⟨var, -, htargets, hvar⟩ := hb.commands_of_output hcat
    simp [htargets, hvar entry hentry]
  · obtain ⟨-, htargets, hbindings⟩ := hb.commands_of_not_output hcat
    rw [hbindings] at hentry
    obtain ⟨output, houtput, rfl⟩ := List.mem_map.1 hentry
    exact htargets ▸ List.mem_map_of_mem houtput

theorem Bound.mem_names_of_mem_bindings (hb : Bound p t n b u) : ∀ entry ∈ b.bindings, entry.2 ∈ b.names :=
  fun entry hentry => List.mem_cons_of_mem _ (hb.mem_targets_of_mem_bindings entry hentry)

theorem Binds.mem_symbols_of_inputVars {nodes : List Node} {bound : List BoundNode} {v : SymbolTable}
    (h : Binds p t nodes bound v) : ∀ b ∈ bound, ∀ entry ∈ b.inputVars, ∀ var ∈ entry.2,
      ∃ e, p.feeder? b.node.id entry.1 = some e ∧ (e.source, var) ∈ v.symbols := by
  induction h with
  | nil => simp
  | @cons t u v n b nodes bound hb hrest ih =>
      refine List.forall_mem_cons.2 ⟨?_, ih⟩
      intro entry hentry var hvar
      rw [hb.inputVars] at hentry
      obtain ⟨port, -, rfl⟩ := List.mem_map.1 hentry
      obtain ⟨e, he, hfind⟩ := Option.bind_eq_some_iff.1 hvar
      obtain ⟨before, after, hsymbols, -⟩ := List.lookup_eq_some_iff.1 hfind
      refine ⟨e, hb.node ▸ he, ?_⟩
      rw [hrest.symbols, hb.symbols, hsymbols]
      simp [Edge.source]

theorem Binds.inputVars {nodes : List Node} {bound : List BoundNode} {v : SymbolTable} (h : Binds p t nodes bound v) :
    ∀ b ∈ bound, ∀ entry ∈ b.inputVars, ∀ var ∈ entry.2,
      var ∈ t.symbols.map Prod.snd ∨ ∃ c ∈ bound, var ∈ c.names := by
  intro b hb entry hentry var hvar
  obtain ⟨e, -, hmem⟩ := h.mem_symbols_of_inputVars b hb entry hentry var hvar
  rw [h.symbols] at hmem
  rcases List.mem_append.1 hmem with hold | hnew
  · exact .inl (List.mem_map_of_mem hold)
  · obtain ⟨c, hc, hbinding⟩ := List.mem_flatMap.1 hnew
    obtain ⟨_, _, hbound⟩ := h.exists_bound c hc
    exact .inr ⟨c, hc, hbound.mem_names_of_mem_bindings _ hbinding⟩

theorem Binds.callee? {nodes : List Node} {bound : List BoundNode} {v : SymbolTable}
    (h : Binds p t nodes bound v) : ∀ b ∈ bound, Script.callee? bound b.procedure = some b.node := by
  intro b hb
  have hperm : (bound.map BoundNode.procedure ++ bound.flatMap BoundNode.targets).Perm
      (bound.flatMap BoundNode.names) := by
    rw [List.map_eq_flatMap]
    exact List.flatMap_append_perm bound _ _
  obtain ⟨hprocedures, -, hdisjoint⟩ := List.nodup_append.1 (hperm.nodup_iff.2 h.names.1)
  have hcommands : (bound.flatMap BoundNode.commands).flatMap Command.targets = bound.flatMap BoundNode.targets := by
    rw [List.flatMap_assoc]
    refine List.flatMap_congr ?_
    intro c hc
    obtain ⟨_, _, hbound⟩ := h.exists_bound c hc
    exact hbound.targets_commands
  have hnot : b.procedure ∉ bound.flatMap BoundNode.targets :=
    fun hmem => hdisjoint _ (List.mem_map_of_mem hb) _ hmem rfl
  have hlast : bound.reverse.find? (·.procedure == b.procedure) = some b := by
    rw [find?_id_eq_some (by simpa [List.map_reverse] using hprocedures)]
    exact ⟨List.mem_reverse.2 hb, rfl⟩
  rw [Script.callee?, hcommands, if_neg hnot, List.findRev?_eq_find?_reverse, hlast]
  rfl

theorem Bound.run {callee? : String → Option Node} (hb : Bound p t n b u) (hcallee : callee? b.procedure = some n)
    {inputs : String → Option α} (hargs : Call.passed? s b.invocation.args = some inputs) :
    ∃ s', b.commands.foldlM (Command.run I callee?) s = some s' ∧ (∀ name, name ∉ b.targets → s' name = s name) ∧
      ∀ entry ∈ b.bindings, entry.2 ∈ b.targets ∧ s' entry.2 = some (I.value n inputs entry.1.port) := by
  have hcallee : callee? b.invocation.procedure = some n := hcallee
  by_cases hcat : n.category = .output
  · obtain ⟨var, hcommands, htargets, hbindings⟩ := hb.commands_of_output hcat
    refine ⟨s.assign var (I.result n.id inputs), ?_, ?_, ?_⟩
    · simp [hcommands, Command.run, hcallee, hargs]
    · intro name hname
      have hne : name ≠ var := by simpa [htargets] using hname
      simp [Store.assign, hne]
    · intro entry hentry
      rw [hbindings entry hentry, htargets]
      simp [Store.assign, Interpretation.value, hcat]
  · obtain ⟨hcommands, htargets, hbindings⟩ := hb.commands_of_not_output hcat
    have hdistinct : (b.outputVars.map Prod.snd).Nodup := htargets ▸ (List.nodup_cons.1 hb.distinct).2
    obtain ⟨s', hrun, hframe, hvalues⟩ := Store.assignAll_map hdistinct s (I.outputs n.id inputs)
    rw [hb.ports] at hrun
    refine ⟨s', ?_, htargets ▸ hframe, ?_⟩
    · simpa [hcommands, Command.run, hcallee, hargs] using hrun
    · intro entry hentry
      rw [hbindings] at hentry
      obtain ⟨output, houtput, rfl⟩ := List.mem_map.1 hentry
      refine ⟨htargets ▸ List.mem_map_of_mem houtput, ?_⟩
      simpa [Interpretation.value, hcat] using hvalues output houtput

theorem Holds.step {callee? : String → Option Node} (hedges : ∀ e ∈ p.edges, p.Resolves e) (hb : Bound p t n b u)
    (hcallee : callee? b.procedure = some n) (hn : n ∈ p.nodes) (hV : p.Solves I V p.nodes) (h : Holds t s V) :
    ∃ s', b.commands.foldlM (Command.run I callee?) s = some s' ∧ Holds u s' V := by
  obtain ⟨s', hrun, hframe, hvalues⟩ := hb.run (I := I) hcallee (hb.passed? hedges hn h)
  refine ⟨s', hrun, ?_⟩
  intro entry hentry
  rw [hb.symbols] at hentry
  rw [hb.taken]
  rcases List.mem_append.1 hentry with hentry | hentry
  · obtain ⟨htaken, hvalue⟩ := h entry hentry
    -- A variable of the table is taken, hence it is not a new target.
    have hnot : entry.2 ∉ b.targets := fun hmem => hb.fresh _ (List.mem_cons_of_mem _ hmem) htaken
    exact ⟨by simp [htaken], by rw [hframe _ hnot, hvalue]⟩
  · obtain ⟨htarget, hvalue⟩ := hvalues entry hentry
    obtain ⟨port, hport, hkey⟩ := List.mem_map.1 (hb.keys ▸ List.mem_map_of_mem hentry)
    refine ⟨by simp [htarget], ?_⟩
    rw [hvalue, ← hkey, hV n hn port hport]

theorem Holds.run {callee? : String → Option Node} (hedges : ∀ e ∈ p.edges, p.Resolves e) {nodes : List Node}
    {bound : List BoundNode} {v : SymbolTable} (hbinds : Binds p t nodes bound v)
    (hcallee : ∀ b ∈ bound, callee? b.procedure = some b.node) (hnodes : ∀ n ∈ nodes, n ∈ p.nodes)
    (hV : p.Solves I V p.nodes) (h : Holds t s V) :
    ∃ s', (bound.flatMap BoundNode.commands).foldlM (Command.run I callee?) s = some s' ∧ Holds v s' V := by
  induction hbinds generalizing s with
  | nil t => exact ⟨s, rfl, h⟩
  | cons hb hrest ih =>
      obtain ⟨hfirst, hothers⟩ := List.forall_mem_cons.1 hcallee
      obtain ⟨hn, hnodes⟩ := List.forall_mem_cons.1 hnodes
      obtain ⟨s₁, hrun₁, h₁⟩ := h.step hedges hb (hb.node ▸ hfirst) hn hV
      obtain ⟨s₂, hrun₂, h₂⟩ := ih hothers hnodes h₁
      refine ⟨s₂, ?_, h₂⟩
      rw [List.flatMap_cons, List.foldlM_append, hrun₁]
      exact hrun₂

end Binding

end Dataflow
