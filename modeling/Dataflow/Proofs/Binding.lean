import Dataflow.Proofs.Naming
import Dataflow.Proofs.Steps
import Dataflow.Proofs.Wiring

namespace Dataflow

/-- An output node that declares a port under the name that its result is kept under. -/
def Node.Clashes (n : Node) : Prop :=
  n.category = .output ∧ PortKey.resultPort ∈ n.outputs.map Port.id

instance (n : Node) : Decidable n.Clashes := inferInstanceAs (Decidable (_ ∧ _))

namespace BoundNode

variable (b : BoundNode)

def bindings : List (PortKey × String) :=
  (b.resultVar.toList.map fun var => (⟨b.node.id, PortKey.resultPort⟩, var)) ++
    b.outputVars.map fun entry => (⟨b.node.id, entry.1⟩, entry.2)

def targets : List String := b.resultVar.elim (b.outputVars.map Prod.snd) ([·])

def names : List String := b.procedure :: b.targets

end BoundNode

namespace Binding

variable {p : Pipeline} {t u : SymbolTable} {node : String} {ports : List String}

def feedVar? (p : Pipeline) (t : SymbolTable) (node port : String) : Option String :=
  (p.feeder? node port).bind fun e => t.find? ⟨e.sourceNode, e.sourcePort⟩

/-- Every edge that feeds one of the ports leaves a bound port. -/
def Resolved (p : Pipeline) (t : SymbolTable) (node : String) (ports : List String) : Prop :=
  ∀ port ∈ ports, ∀ e, p.feeder? node port = some e → (t.find? ⟨e.sourceNode, e.sourcePort⟩).isSome

theorem inputVarsFor_of_resolved (h : Resolved p t node ports) :
    inputVarsFor p t node ports = .ok (ports.map fun port => (port, feedVar? p t node port)) := by
  induction ports with
  | nil => rfl
  | cons port rest ih =>
      have hrest := ih fun q hq => h q (List.mem_cons_of_mem port hq)
      cases hf : p.feeder? node port with
      | none => simp [inputVarsFor, feedVar?, hf, hrest]
      | some e =>
          obtain ⟨var, hvar⟩ := Option.isSome_iff_exists.1 (h port List.mem_cons_self e hf)
          simp [inputVarsFor, feedVar?, hf, hrest, hvar, SymbolTable.resolve_of_find? hvar]

theorem resolved_of_inputVarsFor {vars : List (String × Option String)}
    (h : inputVarsFor p t node ports = .ok vars) : Resolved p t node ports := by
  induction ports generalizing vars with
  | nil => simp [Resolved]
  | cons port rest ih =>
      obtain ⟨var, hvar, h⟩ := Steps.bind_eq_ok.1 h
      obtain ⟨others, hothers, -⟩ := Steps.bind_eq_ok.1 h
      intro q hq e he
      rcases List.mem_cons.1 hq with rfl | hq
      · cases hf : t.find? ⟨e.sourceNode, e.sourcePort⟩ with
        | some name => rfl
        | none => simp [he, SymbolTable.resolve_of_not_bound hf] at hvar
      · exact ih hothers q hq e he

theorem outputVarsFor_fresh {vars : List (String × String)}
    (h : outputVarsFor t node none ports = .ok (vars, u)) :
    vars.map Prod.fst = ports ∧ (vars.map Prod.snd).Nodup ∧ (∀ var ∈ vars.map Prod.snd, var ∉ t.taken) ∧
      u.symbols = t.symbols ++ vars.map (fun entry => (⟨node, entry.1⟩, entry.2)) ∧
      u.taken = (vars.map Prod.snd).reverse ++ t.taken := by
  induction ports generalizing t vars with
  | nil =>
      cases h
      simp
  | cons port rest ih =>
      obtain ⟨⟨var, v⟩, hdef, h⟩ := Steps.bind_eq_ok.1 h
      obtain ⟨⟨others, w⟩, hothers, h⟩ := Steps.bind_eq_ok.1 h
      cases h
      obtain ⟨-, hsymbols, hfresh, htaken⟩ := SymbolTable.define_eq_ok hdef
      obtain ⟨hports, hnodup, hnew, hs, ht⟩ := ih hothers
      rw [htaken] at hnew ht
      refine ⟨by simp [hports], ?_, ?_, by simp [hs, hsymbols], by simp [ht]⟩
      · refine List.nodup_cons.2 ⟨?_, hnodup⟩
        intro hmem
        exact hnew var hmem List.mem_cons_self
      · intro name hname
        rcases List.mem_cons.1 hname with rfl | hname
        · exact hfresh
        · exact fun hmem => hnew name hname (List.mem_cons_of_mem var hmem)

theorem outputVarsFor_shared {result : String} {vars : List (String × String)}
    (h : outputVarsFor t node (some result) ports = .ok (vars, u)) :
    vars = ports.map (·, result) ∧ u.taken = t.taken ∧
      u.symbols = t.symbols ++ vars.map (fun entry => (⟨node, entry.1⟩, entry.2)) := by
  induction ports generalizing t vars with
  | nil =>
      cases h
      simp
  | cons port rest ih =>
      obtain ⟨⟨var, v⟩, hdef, h⟩ := Steps.bind_eq_ok.1 h
      obtain ⟨⟨others, w⟩, hothers, h⟩ := Steps.bind_eq_ok.1 h
      cases h
      obtain ⟨-, hsymbols, rfl, htaken⟩ := SymbolTable.define_eq_ok hdef
      obtain ⟨hports, ht, hs⟩ := ih hothers
      exact ⟨by simp [hports], ht.trans htaken, by simp [hs, hsymbols]⟩

/-- `b` is the node `n` bound in the table `t`, and `u` is the table after it. -/
structure Bound (p : Pipeline) (t : SymbolTable) (n : Node) (b : BoundNode) (u : SymbolTable) : Prop where
  node : b.node = n
  resolved : Resolved p t n.id (n.inputs.map Port.id)
  inputVars : b.inputVars = (n.inputs.map Port.id).map fun port => (port, feedVar? p t n.id port)
  ports : b.outputVars.map Prod.fst = n.outputs.map Port.id
  result : n.category = .output →
    ∃ var, b.resultVar = some var ∧ b.outputVars = (n.outputs.map Port.id).map (·, var)
  noResult : n.category ≠ .output → b.resultVar = none
  symbols : u.symbols = t.symbols ++ b.bindings
  taken : u.taken = b.targets.reverse ++ b.procedure :: t.taken
  distinct : b.names.Nodup
  fresh : ∀ name ∈ b.names, name ∉ t.taken

theorem bind_ok {n : Node} {b : BoundNode} (h : bind p t n = .ok (b, u)) : Bound p t n b u := by
  unfold bind at h
  cases ha : t.allocate s!"node_{n.id}" with
  | mk procedure v =>
      obtain ⟨hproc, rfl⟩ := SymbolTable.allocate_eq ha
      rw [ha] at h
      obtain ⟨inputVars, hin, h⟩ := Steps.bind_eq_ok.1 h
      have hresolved := resolved_of_inputVarsFor hin
      rw [inputVarsFor_of_resolved hresolved] at hin
      cases hin
      split at h
      · rename_i hcat
        obtain ⟨⟨result, v⟩, hdef, h⟩ := Steps.bind_eq_ok.1 h
        obtain ⟨⟨outputVars, w⟩, hout, h⟩ := Steps.bind_eq_ok.1 h
        cases h
        obtain ⟨-, hsymbols, hfresh, htaken⟩ := SymbolTable.define_eq_ok hdef
        obtain ⟨rfl, ht, hs⟩ := outputVarsFor_shared hout
        rw [List.mem_cons, not_or] at hfresh
        refine ⟨rfl, hresolved, rfl, ?_, fun _ => ⟨result, rfl, rfl⟩, fun hne => absurd hcat hne, ?_, ?_, ?_, ?_⟩
        · simp
        · simp [hs, hsymbols, BoundNode.bindings]
        · simp [ht, htaken, BoundNode.targets]
        · simpa [BoundNode.names, BoundNode.targets] using Ne.symm hfresh.1
        · simpa [BoundNode.names, BoundNode.targets] using ⟨hproc, hfresh.2⟩
      · rename_i hcat
        obtain ⟨⟨outputVars, w⟩, hout, h⟩ := Steps.bind_eq_ok.1 h
        cases h
        obtain ⟨hports, hnodup, hnew, hs, ht⟩ := outputVarsFor_fresh hout
        refine ⟨rfl, hresolved, rfl, hports, fun hc => absurd hc hcat, fun _ => rfl, ?_, ht, ?_, ?_⟩
        · simpa [BoundNode.bindings] using hs
        · refine List.nodup_cons.2 ⟨?_, hnodup⟩
          intro hmem
          exact hnew _ hmem List.mem_cons_self
        · intro name hname
          rcases List.mem_cons.1 hname with rfl | hname
          · exact hproc
          · exact fun hmem => hnew name hname (List.mem_cons_of_mem _ hmem)

/-- Nodes bound one after the other, from the table `t` to the table `v`. -/
inductive Binds (p : Pipeline) : SymbolTable → List Node → List BoundNode → SymbolTable → Prop
  | nil (t : SymbolTable) : Binds p t [] [] t
  | cons {t u v : SymbolTable} {n : Node} {b : BoundNode} {nodes : List Node} {bound : List BoundNode}
      (hb : Bound p t n b u) (hrest : Binds p u nodes bound v) : Binds p t (n :: nodes) (b :: bound) v

section

variable {nodes : List Node} {bound : List BoundNode} {v : SymbolTable}

theorem bindAll_ok (h : (bindAll p t nodes).result = .ok v) :
    Binds p t nodes (bindAll p t nodes).bound v := by
  induction nodes generalizing t with
  | nil =>
      cases h
      exact .nil _
  | cons n nodes ih =>
      unfold bindAll at h ⊢
      cases hb : bind p t n with
      | error e =>
          rw [hb] at h
          cases h
      | ok r =>
          rw [hb] at h
          exact .cons (bind_ok hb) (ih h)

theorem Binds.map_node (h : Binds p t nodes bound v) : bound.map BoundNode.node = nodes := by
  induction h with
  | nil t => rfl
  | cons hb _ ih => rw [List.map_cons, hb.node, ih]

theorem Binds.symbols (h : Binds p t nodes bound v) :
    v.symbols = t.symbols ++ bound.flatMap BoundNode.bindings := by
  induction h with
  | nil t => simp
  | cons hb _ ih => rw [ih, hb.symbols, List.flatMap_cons, List.append_assoc]

theorem Binds.exists_bound (h : Binds p t nodes bound v) : ∀ b ∈ bound, ∃ t u, Bound p t b.node b u := by
  induction h with
  | nil t => simp
  | cons hb _ ih => exact List.forall_mem_cons.2 ⟨⟨_, _, hb.node ▸ hb⟩, ih⟩

theorem Binds.names (h : Binds p t nodes bound v) :
    (bound.flatMap BoundNode.names).Nodup ∧ ∀ name ∈ bound.flatMap BoundNode.names, name ∉ t.taken := by
  induction h with
  | nil t => simp
  | @cons t u v n b nodes bound hb _ ih =>
      obtain ⟨hnodup, hfresh⟩ := ih
      have hnot : ∀ name ∈ bound.flatMap BoundNode.names, name ∉ b.names ∧ name ∉ t.taken := by
        intro name hname
        have htaken : name ∉ b.targets ∧ name ≠ b.procedure ∧ name ∉ t.taken := by
          simpa [hb.taken] using hfresh name hname
        exact ⟨by simp [BoundNode.names, htaken], htaken.2.2⟩
      rw [List.flatMap_cons]
      constructor
      · refine List.nodup_append.2 ⟨hb.distinct, hnodup, ?_⟩
        rintro name hname _ hother rfl
        exact (hnot name hother).1 hname
      · intro name hname
        rcases List.mem_append.1 hname with hname | hname
        · exact hb.fresh name hname
        · exact (hnot name hname).2

end

section

variable {q : Pipeline}

theorem inputVarsFor_congr
    (h : ∀ port, (p.feeder? node port).map Edge.source = (q.feeder? node port).map Edge.source) (t : SymbolTable)
    (ports : List String) : inputVarsFor p t node ports = inputVarsFor q t node ports := by
  have hfeeder : ∀ (r : Pipeline) port, ((r.feeder? node port).mapM fun e => t.resolve ⟨e.sourceNode, e.sourcePort⟩) =
      ((r.feeder? node port).map Edge.source).mapM t.resolve := by
    intro r port
    cases r.feeder? node port <;> rfl
  induction ports with
  | nil => rfl
  | cons port rest ih => rw [inputVarsFor, inputVarsFor, hfeeder, hfeeder, h, ih]

theorem bind_congr {n : Node}
    (h : ∀ port, (p.feeder? n.id port).map Edge.source = (q.feeder? n.id port).map Edge.source) (t : SymbolTable) :
    bind p t n = bind q t n := by
  simp only [bind, inputVarsFor_congr h]

theorem bindAll_congr {nodes : List Node} (h : ∀ n ∈ nodes, ∀ port,
    (p.feeder? n.id port).map Edge.source = (q.feeder? n.id port).map Edge.source) (t : SymbolTable) :
    bindAll p t nodes = bindAll q t nodes := by
  induction nodes generalizing t with
  | nil => rfl
  | cons n nodes ih =>
      obtain ⟨hn, hnodes⟩ := List.forall_mem_cons.1 h
      simp only [bindAll, bind_congr hn, ih hnodes]

end

/-- The table binds exactly the ports of the given nodes. -/
def Covers (t : SymbolTable) (done : List Node) : Prop :=
  ∀ key, (t.find? key).isSome ↔ ∃ n ∈ done, n.id = key.node ∧ key.port ∈ n.boundPorts

theorem covers_empty (reserved : List String) : Covers (.empty reserved) [] := by
  simp [Covers, SymbolTable.empty, SymbolTable.find?]

theorem Bound.keys {n : Node} {b : BoundNode} (h : Bound p t n b u) :
    b.bindings.map Prod.fst = n.boundPorts.map (⟨n.id, ·⟩) := by
  have hports : (b.outputVars.map fun entry => (⟨n.id, entry.1⟩ : PortKey)) =
      (n.outputs.map Port.id).map (⟨n.id, ·⟩) := by
    rw [← h.ports, List.map_map]
    rfl
  by_cases hcat : n.category = .output
  · obtain ⟨var, hvar, -⟩ := h.result hcat
    simpa [BoundNode.bindings, Node.boundPorts, hcat, hvar, h.node, Function.comp_def] using hports
  · simpa [BoundNode.bindings, Node.boundPorts, hcat, h.noResult hcat, h.node, Function.comp_def] using hports

theorem Covers.step {done : List Node} {n : Node} {b : BoundNode} (hc : Covers t done)
    (hb : Bound p t n b u) : Covers u (done ++ [n]) := by
  intro key
  -- The new keys are the bound ports of `n`, whatever variables they got.
  have hnew : (b.bindings.lookup key).isSome ↔ n.id = key.node ∧ key.port ∈ n.boundPorts := by
    have hkey : (b.bindings.lookup key).isSome ↔ key ∈ b.bindings.map Prod.fst := by
      simp only [List.lookup_isSome_iff, beq_iff_eq, List.mem_map]
      exact exists_congr fun _ => and_congr_right fun _ => eq_comm
    rw [hkey, hb.keys, List.mem_map]
    constructor
    · rintro ⟨port, hport, rfl⟩
      exact ⟨rfl, hport⟩
    · rintro ⟨hid, hport⟩
      exact ⟨key.port, hport, by rw [hid]⟩
  have hfind : (u.find? key).isSome ↔ (t.find? key).isSome ∨ (b.bindings.lookup key).isSome := by
    simp [SymbolTable.find?, hb.symbols, List.lookup_append]
  rw [hfind, hc key, hnew]
  constructor
  · rintro (⟨m, hm, hkey⟩ | hkey)
    · exact ⟨m, List.mem_append_left _ hm, hkey⟩
    · exact ⟨n, by simp, hkey⟩
  · rintro ⟨m, hm, hkey⟩
    rcases List.mem_append.1 hm with hm | hm
    · exact .inl ⟨m, hm, hkey⟩
    · exact .inr (List.mem_singleton.1 hm ▸ hkey)

theorem Covers.unbound {done : List Node} {n : Node} (hc : Covers t done) (hn : ∀ m ∈ done, m.id ≠ n.id)
    (port : String) : t.find? ⟨n.id, port⟩ = none := by
  rw [← Option.not_isSome_iff_eq_none, hc]
  rintro ⟨m, hm, hid, -⟩
  exact hn m hm hid

theorem Covers.resolved_iff {done : List Node} {n : Node} (hc : Covers t done) :
    Resolved p t n.id (n.inputs.map Port.id) ↔ p.FedBy done n :=
  forall₂_congr fun _ _ => forall₂_congr fun _ _ => hc _

theorem Binds.runnable {done nodes : List Node} {bound : List BoundNode} {v : SymbolTable}
    (h : Binds p t nodes bound v) (hc : Covers t done) (hnodup : ((done ++ nodes).map Node.id).Nodup) :
    p.Runnable done nodes := by
  induction h generalizing done with
  | nil t => trivial
  | @cons t u v n b nodes bound hb _ ih =>
      have hshift : done ++ n :: nodes = (done ++ [n]) ++ nodes := by simp
      refine ⟨?_, hc.resolved_iff.1 hb.resolved, ih (hc.step hb) (hshift ▸ hnodup)⟩
      rw [List.map_append, List.map_cons] at hnodup
      intro m hm he
      exact notMem_of_nodup_middle hnodup (he ▸ List.mem_map_of_mem hm)

theorem outputVarsFor_of_unbound (given : Option String) (hnodup : ports.Nodup)
    (h : ∀ port ∈ ports, t.find? ⟨node, port⟩ = none) :
    ∃ vars u, outputVarsFor t node given ports = .ok (vars, u) := by
  induction ports generalizing t with
  | nil => exact ⟨[], t, rfl⟩
  | cons port rest ih =>
      obtain ⟨hport, hrest⟩ := List.nodup_cons.1 hnodup
      obtain ⟨name, v, hdef, -, hother⟩ := SymbolTable.define_of_unbound given (h port List.mem_cons_self)
      have hv : ∀ q ∈ rest, v.find? ⟨node, q⟩ = none := by
        intro q hq
        have hne : q ≠ port := fun he => hport (he ▸ hq)
        rw [hother _ (by simpa using hne)]
        exact h q (List.mem_cons_of_mem _ hq)
      obtain ⟨vars, w, hvars⟩ := ih hrest hv
      exact ⟨(port, name) :: vars, w, by simp [outputVarsFor, hdef, hvars]⟩

theorem outputVarsFor_of_bound (given : Option String) (hnodup : ports.Nodup) {q : String} (hq : q ∈ ports)
    (h : ∀ port ∈ ports, (t.find? ⟨node, port⟩).isSome ↔ port = q) :
    outputVarsFor t node given ports = .error (.alreadyDefined ⟨node, q⟩) := by
  induction ports generalizing t with
  | nil => cases hq
  | cons port rest ih =>
      obtain ⟨hport, hrest⟩ := List.nodup_cons.1 hnodup
      by_cases he : port = q
      · subst he
        have hbound : (t.find? ⟨node, port⟩).isSome := (h port List.mem_cons_self).2 rfl
        simp [outputVarsFor, SymbolTable.define_of_bound given hbound]
      · have hfree : t.find? ⟨node, port⟩ = none := by
          rw [← Option.not_isSome_iff_eq_none, h port List.mem_cons_self]
          exact he
        obtain ⟨name, v, hdef, -, hother⟩ := SymbolTable.define_of_unbound given hfree
        have hv : ∀ r ∈ rest, (v.find? ⟨node, r⟩).isSome ↔ r = q := by
          intro r hr
          have hne : r ≠ port := fun he => hport (he ▸ hr)
          rw [hother _ (by simpa using hne)]
          exact h r (List.mem_cons_of_mem _ hr)
        have hrec := ih hrest ((List.mem_cons.1 hq).resolve_left (Ne.symm he)) hv
        simp [outputVarsFor, hdef, hrec]

section

variable {n : Node} (hresolved : Resolved p t n.id (n.inputs.map Port.id))
  (hnew : ∀ port, t.find? ⟨n.id, port⟩ = none)

include hresolved hnew

theorem after_allocate {name hint : String} (ha : t.allocate hint = (name, u)) :
    Resolved p u n.id (n.inputs.map Port.id) ∧ ∀ port, u.find? ⟨n.id, port⟩ = none := by
  obtain ⟨-, rfl⟩ := SymbolTable.allocate_eq ha
  exact ⟨hresolved, hnew⟩

theorem bind_of_not_clashes (hn : ¬n.Clashes) : ∃ b u, bind p t n = .ok (b, u) := by
  unfold bind
  cases ha : t.allocate s!"node_{n.id}" with
  | mk procedure v =>
      obtain ⟨hresolved, hnew⟩ := after_allocate hresolved hnew ha
      by_cases hcat : n.category = .output
      · obtain ⟨result, w, hdef, -, hother⟩ := SymbolTable.define_of_unbound none (hnew PortKey.resultPort)
        have hw : ∀ port ∈ n.outputs.map Port.id, w.find? ⟨n.id, port⟩ = none := by
          intro port hport
          have hne : port ≠ PortKey.resultPort := fun he => hn ⟨hcat, he ▸ hport⟩
          rw [hother _ (by simpa using hne)]
          exact hnew port
        obtain ⟨vars, x, hvars⟩ := outputVarsFor_of_unbound (some result) n.outputs_nodup hw
        simp [inputVarsFor_of_resolved hresolved, hcat, hdef, hvars]
      · obtain ⟨vars, w, hvars⟩ := outputVarsFor_of_unbound none n.outputs_nodup fun port _ => hnew port
        simp [inputVarsFor_of_resolved hresolved, hcat, hvars]

theorem bind_of_clashes (hn : n.Clashes) : bind p t n = .error (.alreadyDefined ⟨n.id, PortKey.resultPort⟩) := by
  unfold bind
  cases ha : t.allocate s!"node_{n.id}" with
  | mk procedure v =>
      obtain ⟨hresolved, hnew⟩ := after_allocate hresolved hnew ha
      obtain ⟨result, w, hdef, hself, hother⟩ := SymbolTable.define_of_unbound none (hnew PortKey.resultPort)
      have hw : ∀ port ∈ n.outputs.map Port.id,
          (w.find? ⟨n.id, port⟩).isSome ↔ port = PortKey.resultPort := by
        intro port _
        by_cases he : port = PortKey.resultPort
        · simp [he, hself]
        · rw [hother _ (by simpa using he), hnew port]
          simp [he]
      have hout := outputVarsFor_of_bound (some result) n.outputs_nodup hn.2 hw
      simp [inputVarsFor_of_resolved hresolved, hn.1, hdef, hout]

end

/-- Nodes that can run in turn are bound in turn, unless one of them is an output node that clashes
with its own result. -/
theorem bindAll_of_runnable {done nodes : List Node} (hc : Covers t done) (h : p.Runnable done nodes) :
    (∃ v, (bindAll p t nodes).result = .ok v) ∧ (∀ n ∈ nodes, ¬n.Clashes) ∨
      ∃ n ∈ nodes, n.Clashes ∧
        (bindAll p t nodes).result = .error (.alreadyDefined ⟨n.id, PortKey.resultPort⟩) := by
  induction nodes generalizing t done with
  | nil => exact .inl ⟨⟨t, rfl⟩, by simp⟩
  | cons n nodes ih =>
      obtain ⟨hdistinct, hfed, hrest⟩ := h
      have hresolved := (hc.resolved_iff (p := p)).2 hfed
      have hnew := hc.unbound hdistinct
      by_cases hn : n.Clashes
      · exact .inr ⟨n, List.mem_cons_self, hn, by simp [bindAll, bind_of_clashes hresolved hnew hn]⟩
      · obtain ⟨b, u, hb⟩ := bind_of_not_clashes hresolved hnew hn
        have hresult : (bindAll p t (n :: nodes)).result = (bindAll p u nodes).result := by
          simp [bindAll, hb]
        rw [hresult]
        rcases ih (hc.step (bind_ok hb)) hrest with ⟨hok, hall⟩ | ⟨m, hm, hclash, herror⟩
        · refine .inl ⟨hok, ?_⟩
          intro m hm
          rcases List.mem_cons.1 hm with rfl | hm
          · exact hn
          · exact hall m hm
        · exact .inr ⟨m, List.mem_cons_of_mem _ hm, hclash, herror⟩

end Binding

end Dataflow
