import Dataflow.Proofs.Wiring

namespace Dataflow

/-- What nodes compute, by their ids, from the values of their input ports: a value for each output
port, or the single result of an output node. A port that nothing feeds has no value. -/
structure Interpretation (α : Type) where
  outputs : String → (String → Option α) → String → α
  result : String → (String → Option α) → α

variable {α : Type}

/-- The value at a port of a node. All ports of an output node hold its result. -/
def Interpretation.value (I : Interpretation α) (n : Node) (inputs : String → Option α) (port : String) : α :=
  if n.category = .output then I.result n.id inputs else I.outputs n.id inputs port

namespace Pipeline

def arriving (p : Pipeline) (V : PortKey → α) (n : Node) (port : String) : Option α :=
  (p.feeder? n.id port).map fun e => V ⟨e.sourceNode, e.sourcePort⟩

/-- The values `V` satisfy the equations of the given nodes. -/
def Solves (p : Pipeline) (I : Interpretation α) (V : PortKey → α) (nodes : List Node) : Prop :=
  ∀ n ∈ nodes, ∀ port ∈ n.boundPorts, V ⟨n.id, port⟩ = I.value n (p.arriving V n) port

def Agree (V W : PortKey → α) (nodes : List Node) : Prop :=
  ∀ n ∈ nodes, ∀ port ∈ n.boundPorts, V ⟨n.id, port⟩ = W ⟨n.id, port⟩

variable {p : Pipeline} {I : Interpretation α} {V W : PortKey → α} {done nodes : List Node} {n : Node}

section

variable (hedges : ∀ e ∈ p.edges, p.Resolves e)

include hedges

theorem declared_of_feeder {port : String} {e : Edge} (hn : n ∈ p.nodes) (h : p.feeder? n.id port = some e) :
    port ∈ n.inputs.map Port.id := by
  obtain ⟨hedge, htarget, hport⟩ := feeder?_some h
  obtain ⟨-, m, into, hm⟩ := hedges e hedge
  have hsame : m = n :=
    List.inj_on_of_nodup_map p.nodes_nodup hm.mem_nodes hn (hm.node_eq.trans htarget)
  rw [← hport, ← hm.port_eq, ← hsame]
  exact List.mem_map_of_mem hm.mem_ports

theorem arriving_congr (hn : n ∈ p.nodes) (hfed : p.FedBy done n) (h : Agree V W done) :
    p.arriving V n = p.arriving W n := by
  funext port
  cases hf : p.feeder? n.id port with
  | none => simp [arriving, hf]
  | some e =>
      obtain ⟨m, hm, hid, hport⟩ := hfed port (declared_of_feeder hedges hn hf) e hf
      have hsource := h m hm e.sourcePort hport
      rw [hid] at hsource
      simp [arriving, hf, hsource]

theorem Solves.agree (hV : p.Solves I V p.nodes) (hW : p.Solves I W p.nodes) (hmem : ∀ n ∈ nodes, n ∈ p.nodes)
    (hrun : p.Runnable done nodes) (hdone : Agree V W done) : Agree V W (done ++ nodes) := by
  induction nodes generalizing done with
  | nil => simpa using hdone
  | cons n nodes ih =>
      obtain ⟨-, hfed, hrest⟩ := hrun
      have hn : n ∈ p.nodes := hmem n List.mem_cons_self
      have hstep : Agree V W (done ++ [n]) := by
        intro m hm port hport
        rcases List.mem_append.1 hm with hm | hm
        · exact hdone m hm port hport
        · rw [List.mem_singleton.1 hm] at hport ⊢
          rw [hV n hn port hport, hW n hn port hport, arriving_congr hedges hn hfed hdone]
      have hall := ih (fun m hm => hmem m (List.mem_cons_of_mem n hm)) hrest hstep
      rwa [List.append_assoc, List.singleton_append] at hall

end

def advance (p : Pipeline) (I : Interpretation α) (V : PortKey → α) (n : Node) (key : PortKey) : α :=
  if key.node = n.id then I.value n (p.arriving V n) key.port else V key

theorem agree_advance (hnew : ∀ m ∈ done, m.id ≠ n.id) : Agree (p.advance I V n) V done := by
  intro m hm port _
  simp [advance, hnew m hm]

theorem Solves.advance (hedges : ∀ e ∈ p.edges, p.Resolves e) (hmem : ∀ m ∈ done ++ [n], m ∈ p.nodes)
    (hfed : ∀ m ∈ done ++ [n], p.FedBy done m) (hnew : ∀ m ∈ done, m.id ≠ n.id) (h : p.Solves I V done) :
    p.Solves I (p.advance I V n) (done ++ [n]) := by
  intro m hm port hport
  have harriving : p.arriving (p.advance I V n) m = p.arriving V m :=
    arriving_congr hedges (hmem m hm) (hfed m hm) (agree_advance hnew)
  rw [harriving]
  rcases List.mem_append.1 hm with hm | hm
  · rw [agree_advance hnew m hm port hport]
    exact h m hm port hport
  · rw [List.mem_singleton.1 hm]
    simp [Pipeline.advance]

theorem Runnable.exists_solves (hedges : ∀ e ∈ p.edges, p.Resolves e) (hmem : ∀ m ∈ done ++ nodes, m ∈ p.nodes)
    (hfed : ∀ m ∈ done, p.FedBy done m) (hrun : p.Runnable done nodes) (h : p.Solves I V done) :
    ∃ W, p.Solves I W (done ++ nodes) := by
  induction nodes generalizing done V with
  | nil => exact ⟨V, by simpa using h⟩
  | cons n nodes ih =>
      obtain ⟨hnew, hn, hrest⟩ := hrun
      have hshift : done ++ n :: nodes = (done ++ [n]) ++ nodes := by simp
      have hsub : done ⊆ done ++ [n] := List.subset_append_left done [n]
      -- Neither the nodes before nor `n` itself read what `n` is about to set.
      have hfed' : ∀ m ∈ done ++ [n], p.FedBy done m := by
        intro m hm
        rcases List.mem_append.1 hm with hm | hm
        · exact hfed m hm
        · exact List.mem_singleton.1 hm ▸ hn
      rw [hshift] at hmem ⊢
      have hstep : p.Solves I (p.advance I V n) (done ++ [n]) :=
        h.advance hedges (fun m hm => hmem m (List.mem_append_left nodes hm)) hfed' hnew
      exact ih hmem (fun m hm => (hfed' m hm).mono hsub) hrest hstep

end Pipeline

end Dataflow
