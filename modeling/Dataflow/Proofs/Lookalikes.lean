import Dataflow.Proofs.Spelling

namespace Dataflow

namespace Text

/-- The letters and numbers of the text are in ASCII. -/
def AsciiLetters (s : String) : Prop := ∀ c ∈ letters s, c.toNat < 128

instance (s : String) : Decidable (AsciiLetters s) := List.decidableBAll (Char.toNat · < 128) (letters s)

end Text

/-- A normal form of names. It leaves names in ASCII as they are, and spells ligatures out. -/
structure NormalForm where
  of : String → String
  ascii : ∀ name, Text.Ascii name → of name = name
  ligature : of "ﬁ" = "fi"

namespace NormalForm

variable (N : NormalForm)

theorem of_named {hint name : String} (h : Naming.Named hint name) (hhint : Text.AsciiLetters hint) :
    N.of name = name :=
  N.ascii name (h.ascii hhint)

/-- Two names with the texts that they are made from. The names differ, and so do their normal forms if the letters of
the texts are in ASCII. -/
def Apart (x y : String × String) : Prop :=
  x.2 ≠ y.2 ∧ (Text.AsciiLetters x.1 → Text.AsciiLetters y.1 → N.of x.2 ≠ N.of y.2)

/-- A name with the text that it is made from. It is not reserved, nor is its normal form if the letters of the text are
in ASCII. -/
def Clear (reserved : List String) (x : String × String) : Prop :=
  x.2 ∉ reserved ∧ (Text.AsciiLetters x.1 → N.of x.2 ∉ reserved)

variable {N} {entries : List (String × String)}

theorem pairwise_apart (hnamed : ∀ entry ∈ entries, Naming.Named entry.1 entry.2) (h : (entries.map Prod.snd).Nodup) :
    entries.Pairwise N.Apart := by
  rw [List.Nodup, List.pairwise_map] at h
  refine h.imp_of_mem ?_
  intro x y hx hy hne
  refine ⟨hne, fun hx' hy' => ?_⟩
  rwa [N.of_named (hnamed x hx) hx', N.of_named (hnamed y hy) hy']

theorem forall_clear {reserved : List String} (hnamed : ∀ entry ∈ entries, Naming.Named entry.1 entry.2)
    (h : ∀ name ∈ entries.map Prod.snd, name ∉ reserved) : ∀ entry ∈ entries, N.Clear reserved entry := by
  intro entry hentry
  have hnot := h entry.2 (List.mem_map_of_mem hentry)
  refine ⟨hnot, fun hascii => ?_⟩
  rwa [N.of_named (hnamed entry hentry) hascii]

end NormalForm

theorem Binding.paramsFor_fresh (taken ports : List String) :
    ((paramsFor taken ports).map Prod.snd).Nodup ∧
      ∀ name ∈ (paramsFor taken ports).map Prod.snd, name ∉ taken ∧ name ∉ Naming.reserved := by
  induction ports generalizing taken with
  | nil => simp [paramsFor]
  | cons port rest ih =>
      obtain ⟨hnodup, hfresh⟩ := ih (Naming.parameter taken port :: taken)
      have hnot : Naming.parameter taken port ∉ taken ++ Naming.reserved := Naming.fresh_not_mem _ _
      rw [List.mem_append, not_or] at hnot
      constructor
      · refine List.nodup_cons.2 ⟨?_, hnodup⟩
        intro hmem
        exact (hfresh _ hmem).1 List.mem_cons_self
      · refine List.forall_mem_cons.2 ⟨hnot, ?_⟩
        intro name hname
        exact ⟨fun hmem => (hfresh name hname).1 (List.mem_cons_of_mem _ hmem), (hfresh name hname).2⟩

/-- All names that the node has in the script are of a kind. -/
structure BoundNode.Every (P : String → Prop) (b : BoundNode) : Prop where
  procedure : P b.procedure
  params : ∀ entry ∈ b.params, P entry.2
  inputVars : ∀ entry ∈ b.inputVars, ∀ var ∈ entry.2, P var
  outputVars : ∀ entry ∈ b.outputVars, P entry.2
  resultVar : ∀ var ∈ b.resultVar, P var

section

variable {P : String → Prop} {b : BoundNode}

theorem BoundNode.Every.targets (h : b.Every P) : ∀ target ∈ b.targets, P target := by
  rw [BoundNode.targets]
  cases hresult : b.resultVar with
  | none => exact List.forall_mem_map.2 h.outputVars
  | some var => exact List.forall_mem_singleton.2 (h.resultVar var hresult)

theorem BoundNode.firstParam_of_params (h : ∀ entry ∈ b.params, P entry.2) (hnone : P "None") : P b.firstParam := by
  rw [BoundNode.firstParam]
  cases hparams : b.params.head? with
  | none => exact hnone
  | some entry => exact h entry (List.mem_of_head? hparams)

theorem BoundNode.param_of_params (h : ∀ entry ∈ b.params, P entry.2) (port : String) {default : String}
    (hdefault : P default) : P (b.param port default) := by
  rw [BoundNode.param]
  cases hparam : b.params.lookup port with
  | none => exact hdefault
  | some name =>
      obtain ⟨before, after, hparams, -⟩ := List.lookup_eq_some_iff.1 hparam
      exact h (port, name) (by simp [hparams])

theorem BoundNode.Every.param (h : b.Every P) (port : String) {default : String} (hdefault : P default) :
    P (b.param port default) :=
  param_of_params h.params port hdefault

end

namespace Pipeline

variable {τ : Type} [Strategy τ] {p : Pipeline} {order : List String} {registry : Registry τ} {s : Settings}
  {timestamp : String} {e : Emission}

theorem emit_every {P : String → Prop}
    (hP : ∀ hint name, Naming.Named hint name → name ∉ Naming.reserved → P name)
    (h : (p.emit order registry s timestamp).value = .ok e) : ∀ b ∈ e.bound, b.Every P := by
  have hspelled := emit_spelled h
  obtain ⟨-, table, hbinds⟩ := emit_eq_ok h
  obtain ⟨-, hfresh⟩ := hbinds.names
  have hnames : ∀ b ∈ e.bound, ∀ name ∈ b.names, P name := by
    intro b hb name hname
    have hclear : name ∉ Naming.reserved := by
      intro hmem
      exact hfresh name (List.mem_flatMap.2 ⟨b, hb, hname⟩)
        (List.mem_append_left _ (List.mem_append_left _ hmem))
    rw [← b.map_snd_spelled] at hname
    obtain ⟨entry, hentry, rfl⟩ := List.mem_map.1 hname
    exact hP entry.1 entry.2 ((hspelled b hb).names entry hentry) hclear
  intro b hb
  obtain ⟨_, _, hbound⟩ := hbinds.exists_bound b hb
  refine ⟨hnames b hb _ List.mem_cons_self, ?_, ?_, ?_, ?_⟩
  · intro entry hentry
    refine hP entry.1 entry.2 ((hspelled b hb).named entry (List.mem_append_right _ hentry)) ?_
    rw [(hspelled b hb).params] at hentry
    exact ((Binding.paramsFor_fresh [] _).2 entry.2 (List.mem_map_of_mem hentry)).2
  · -- A variable that feeds the node is one that a node before it bound.
    intro entry hentry var hvar
    rcases hbinds.inputVars b hb entry hentry var hvar with hmem | ⟨d, hd, hname⟩
    · simp [SymbolTable.empty] at hmem
    · exact hnames d hd var hname
  · intro entry hentry
    refine hnames b hb _ (hbound.mem_names_of_mem_bindings (⟨b.node.id, entry.1⟩, entry.2) ?_)
    exact List.mem_append_right _ (List.mem_map_of_mem hentry)
  · intro var hvar
    refine hnames b hb _ (hbound.mem_names_of_mem_bindings (⟨b.node.id, PortKey.resultPort⟩, var) ?_)
    exact List.mem_append_left _ (by simpa using hvar)

/-- The names of procedures and variables are distinct and not reserved, and so are the parameters of each procedure.
This holds also of their normal forms, as far as they are made from letters of ASCII. -/
theorem emit_names_apart (N : NormalForm) (h : (p.emit order registry s timestamp).value = .ok e) :
    (e.bound.flatMap BoundNode.spelled).map Prod.snd =
      e.bound.flatMap (fun b => b.procedure :: b.commands.flatMap Command.targets) ∧
    (e.bound.flatMap BoundNode.spelled).Pairwise N.Apart ∧
    (∀ entry ∈ e.bound.flatMap BoundNode.spelled, N.Clear (scriptReserved s) entry) ∧
    ∀ b ∈ e.bound, b.params.map Prod.fst = b.node.inputs.map Port.id ∧
      b.params.Pairwise N.Apart ∧ ∀ entry ∈ b.params, N.Clear Naming.reserved entry := by
  have hspelled := emit_spelled h
  obtain ⟨-, table, hbinds⟩ := emit_eq_ok h
  obtain ⟨hdistinct, hfresh⟩ := hbinds.names
  have hnames : (e.bound.flatMap BoundNode.spelled).map Prod.snd = e.bound.flatMap BoundNode.names := by
    rw [List.map_flatMap]
    exact congrArg (List.flatMap · e.bound) (funext BoundNode.map_snd_spelled)
  have hnamed : ∀ entry ∈ e.bound.flatMap BoundNode.spelled, Naming.Named entry.1 entry.2 := by
    intro entry hentry
    obtain ⟨b, hb, hentry⟩ := List.mem_flatMap.1 hentry
    exact (hspelled b hb).names entry hentry
  refine ⟨?_, NormalForm.pairwise_apart hnamed (hnames ▸ hdistinct), NormalForm.forall_clear hnamed ?_, ?_⟩
  · rw [hnames]
    refine List.flatMap_congr fun b hb => ?_
    obtain ⟨_, _, hbound⟩ := hbinds.exists_bound b hb
    rw [hbound.targets_commands, BoundNode.names]
  · intro name hname hmem
    rw [hnames] at hname
    exact hfresh name hname (List.mem_append_left _ hmem)
  · intro b hb
    have hparams := (hspelled b hb).params
    have hparam : ∀ entry ∈ b.params, Naming.Named entry.1 entry.2 := by
      rw [hparams]
      exact Binding.named_paramsFor _ _
    obtain ⟨hnodup, hnot⟩ := Binding.paramsFor_fresh [] (b.node.inputs.map Port.id)
    rw [← hparams] at hnodup hnot
    refine ⟨?_, NormalForm.pairwise_apart hparam hnodup, NormalForm.forall_clear hparam fun name hname => ?_⟩
    · rw [hparams, Binding.map_fst_paramsFor]
    · exact (hnot name hname).2

/-- Two texts that go to an output node, whose ports are called by a ligature and by its letters. -/
def ligated : Pipeline where
  name := "ligated"
  nodes := [
    ⟨"in", .input, "In", [], [], [textPort], none, .null, List.nodup_nil, List.nodup_singleton "text"⟩,
    ⟨"out", .output, "Out", [], [⟨"ﬁ", .null, .text, true, .null⟩, ⟨"fi", .null, .text, true, .null⟩], [], none, .null,
      by decide, List.nodup_nil⟩]
  edges := [⟨"e1", "in", "text", "out", "ﬁ", .text⟩, ⟨"e2", "in", "text", "out", "fi", .text⟩]

def expanded : NormalForm where
  of name := if name = "ﬁ" then "fi" else name
  ascii := by
    intro name hname
    have hne : name ≠ "ﬁ" := by
      rintro rfl
      exact absurd hname (by decide)
    rw [if_neg hne]
  ligature := by decide

theorem emit_ligated : ∃ e, (ligated.emit ["in", "out"] .standard {} "now").value = .ok e ∧
    "def node_out(ﬁ: Any = None, fi: Any = None) -> Any:" ∈ e.lines ∧
    e.bound.map (fun b => (b.spelled, b.params)) =
      [([("node_in", "node_in"), ("in_text", "in_text")], []),
        ([("node_out", "node_out"), ("out_result", "out_result")], [("ﬁ", "ﬁ"), ("fi", "fi")])] :=
  Steps.exists_ok_of_any (by decide +kernel)

theorem ligated_names_apart : ∃ e, (ligated.emit ["in", "out"] .standard {} "now").value = .ok e ∧
    ((e.bound.flatMap BoundNode.spelled).map fun entry => expanded.of entry.2).Nodup := by
  obtain ⟨e, he, -, hnames⟩ := emit_ligated
  obtain ⟨-, hapart, -⟩ := emit_names_apart expanded he
  have hspelled : e.bound.flatMap BoundNode.spelled = [("node_in", "node_in"), ("in_text", "in_text"),
      ("node_out", "node_out"), ("out_result", "out_result")] := by
    simpa [List.flatMap_map] using congrArg (List.flatMap Prod.fst) hnames
  have hascii : ∀ entry ∈ e.bound.flatMap BoundNode.spelled, Text.AsciiLetters entry.1 := by
    rw [hspelled]
    decide
  refine ⟨e, he, List.pairwise_map.2 (hapart.imp_of_mem ?_)⟩
  intro x y hx hy hxy
  exact hxy.2 (hascii x hx) (hascii y hy)

/-- In the script of `ligated`, two parameters of a procedure have the same normal form. -/
theorem ligated_parameters : ∃ e, (ligated.emit ["in", "out"] .standard {} "now").value = .ok e ∧
    "def node_out(ﬁ: Any = None, fi: Any = None) -> Any:" ∈ e.lines ∧
    ∀ N : NormalForm, ∃ b ∈ e.bound, ¬(b.params.map fun entry => N.of entry.2).Nodup := by
  obtain ⟨e, he, hline, hnames⟩ := emit_ligated
  refine ⟨e, he, hline, fun N => ?_⟩
  obtain ⟨b, hb, hparams⟩ : ∃ b ∈ e.bound, b.params = [("ﬁ", "ﬁ"), ("fi", "fi")] := by
    have hmem : [("ﬁ", "ﬁ"), ("fi", "fi")] ∈ (e.bound.map (fun b => (b.spelled, b.params))).map Prod.snd := by
      rw [hnames]
      decide
    simpa using hmem
  have hletters : N.of "fi" = "fi" := N.ascii "fi" (by decide)
  refine ⟨b, hb, ?_⟩
  simp [hparams, N.ligature, hletters]

end Pipeline

end Dataflow
