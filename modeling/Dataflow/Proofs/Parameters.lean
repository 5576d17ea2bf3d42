import Dataflow.Proofs.CallSites
import Dataflow.Proofs.Histories

namespace Dataflow

namespace Stmt

open Script

mutual

def texts : Stmt → List String
  | .line text => [text]
  | .comment _ => []
  | .call head args => head :: args
  | .block head body => head :: textsAll body

def textsAll : List Stmt → List String
  | [] => []
  | s :: rest => s.texts ++ textsAll rest

end

mutual

def targets : Stmt → List String
  | .line text => assigned (tokens text)
  | .comment _ => []
  | .call head _ => assigned (tokens head)
  | .block _ body => targetsAll body

def targetsAll : List Stmt → List String
  | [] => []
  | s :: rest => s.targets ++ targetsAll rest

end

def reads (s : Stmt) : List String := s.texts.flatMap fun text => Script.reads (tokens text)

/-- The names that a statement sets, by an assignment or a loop. -/
def sets (s : Stmt) : List String := s.targets ++ s.texts.flatMap fun text => loops (tokens text)

/-- The code of the statement is neat, and it assigns to no other names than its own. -/
structure Clear (names : List String) (s : Stmt) : Prop where
  texts : ∀ text ∈ s.texts, Neat names (tokens text)
  targets : ∀ x ∈ s.targets, x ∈ "config" :: ownNames

section

variable {names : List String}

theorem textsAll_eq_flatMap (body : List Stmt) : textsAll body = body.flatMap texts := by
  induction body with
  | nil => rfl
  | cons s rest ih => rw [textsAll, ih, List.flatMap_cons]

theorem targetsAll_eq_flatMap (body : List Stmt) : targetsAll body = body.flatMap targets := by
  induction body with
  | nil => rfl
  | cons s rest ih => rw [targetsAll, ih, List.flatMap_cons]

theorem Made.clear {needs remarks : List String} {s : Stmt} (h : s.Made needs names remarks)
    (hnames : ∀ x ∈ names, IsName x) : s.Clear names := by
  have hneat : ∀ text, Code needs names text → Neat names (tokens text) := by
    rintro text ⟨_, _, htext⟩
    rw [(htext.lexes hnames).1.tokens]
    exact htext.neat hnames
  have hsets : ∀ {tight text ts}, Script.Made needs names tight text ts → SetsOwn ts → SetsOwn (tokens text) := by
    intro tight text ts htext hsets
    rwa [(htext.lexes hnames).1.tokens]
  induction h with
  | line h hown => exact ⟨List.forall_mem_singleton.2 (hneat _ h.is_code), hsets h hown⟩
  | comment => exact ⟨by simp [texts], by simp [targets]⟩
  | call hhead hown hargs =>
      refine ⟨List.forall_mem_cons.2 ⟨hneat _ hhead.is_code, ?_⟩, hsets hhead hown⟩
      exact fun arg harg => hneat arg (hargs arg harg)
  | block hhead _ _ ih =>
      constructor
      · rw [texts, textsAll_eq_flatMap, List.forall_mem_cons, List.forall_mem_flatMap]
        exact ⟨hneat _ hhead, fun s hs => (ih s hs).texts⟩
      · rw [targets, targetsAll_eq_flatMap, List.forall_mem_flatMap]
        exact fun s hs => (ih s hs).targets

theorem Clear.of_mem_reads {s : Stmt} (h : s.Clear names) {x : String} (hx : x ∈ s.reads) :
    x ∈ names ∨ x ∈ Naming.reserved ∨ x ∈ Naming.keywords ∨ x.toList.head? = some '_' := by
  obtain ⟨text, htext, hx⟩ := List.mem_flatMap.1 hx
  rcases (h.texts text htext).reads x hx with hname | hown | hword
  · exact .inl hname
  · exact .inr (.inr (.inr (ownNames_marked x hown)))
  · exact .inr ((vocabulary_taken x hword).elim (fun hkeyword => .inr (.inl hkeyword)) .inl)

theorem Clear.of_mem_sets {s : Stmt} (h : s.Clear names) {x : String} (hx : x ∈ s.sets) :
    x = "config" ∨ x.toList.head? = some '_' := by
  rcases List.mem_append.1 hx with hx | hx
  · exact (List.mem_cons.1 (h.targets x hx)).imp_right (ownNames_marked x)
  · obtain ⟨text, htext, hx⟩ := List.mem_flatMap.1 hx
    exact .inr (ownNames_marked x ((h.texts text htext).loops x hx))

end

end Stmt

theorem Template.clear_procedure (t : Template) {b : BoundNode} (hnames : ∀ x ∈ b.operands, Script.IsName x)
    {head : String} {stmts : List Stmt} (hblock : t.procedure b = .block head stmts) :
    ∀ s ∈ stmts, s.Clear b.operands := by
  have hreturn : (Stmt.line s!"return {t.returned b}").Clear b.operands := by
    obtain ⟨_, _, hlast, hwhole⟩ := t.made_return b
    have htokens := (hlast.lexes hnames).1.tokens
    refine ⟨List.forall_mem_singleton.2 ?_, ?_⟩
    · rw [htokens]
      exact hlast.neat hnames
    · rw [Stmt.targets, htokens]
      exact Script.setsOwn_of_whole hwhole
  have hstmts : stmts = b.opening ++ (t.body b).stmts ++ [.line s!"return {t.returned b}"] := by
    cases hblock
    rfl
  rw [hstmts, List.forall_mem_append, List.forall_mem_singleton]
  exact ⟨fun s hs => (t.made_stmts b s hs).clear hnames, hreturn⟩

theorem Naming.Named.head?_ne_mark {hint name : String} (h : Named hint name) : name.toList.head? ≠ some '_' := by
  obtain ⟨more, -, rfl, -⟩ := h.eq_append
  rw [String.toList_append, String.toList_ofList, List.head?_append_of_ne_nil _ (startWithLetter_ne_nil _)]
  cases hstem : stem hint with
  | nil => decide
  | cons c rest =>
      have hletter : Text.isAlphanumeric c = true := isAlphanumeric_head?_stem (by rw [hstem]; rfl)
      rw [startWithLetter]
      split
      · simp
      · rintro ⟨⟩
        exact absurd hletter (by decide)

namespace Binding

open Script

theorem paramsFor_clear (ports : List String) : ∀ name ∈ (paramsFor [] ports).map Prod.snd,
    name ∉ Naming.reserved ∧ name ∉ Naming.keywords ∧ name.toList.head? ≠ some '_' := by
  refine List.forall_mem_map.2 fun entry hentry => ?_
  have hnamed := named_paramsFor [] ports entry hentry
  exact ⟨((paramsFor_fresh [] ports).2 entry.2 (List.mem_map_of_mem hentry)).2, hnamed.not_keyword,
    hnamed.head?_ne_mark⟩

/-- The parameters of a node's procedure have distinct names of their own. Its statements set no parameter, and read
nothing but the parameters, variables of their own, and names that no parameter can have. -/
theorem parameters_keep_apart (n : Node) :
    let params := paramsFor [] (n.inputs.map Port.id)
    let names := params.map Prod.snd
    params.map Prod.fst = n.inputs.map Port.id ∧ (n.category.fixedArgs ++ names).Nodup ∧
    ["inputs", "rag", "config", "json", "NODE_CONFIGS"] ++ Naming.builtins ⊆ Naming.reserved ∧
    (∀ name ∈ names, name ∉ Naming.reserved ∧ name ∉ Naming.keywords ∧ name.toList.head? ≠ some '_') ∧
    (∀ p t b u, bind p t n = .ok (b, u) → b.params = params ∧
      ∀ (template : Template) (head : String) (stmts : List Stmt), template.procedure b = .block head stmts →
        (∀ x ∈ stmts.flatMap Stmt.sets, (x = "config" ∨ x.toList.head? = some '_') ∧ x ∉ names) ∧
        ∀ x ∈ stmts.flatMap Stmt.reads,
          x ∈ names ∨ x ∈ Naming.reserved ∨ x ∈ Naming.keywords ∨ x.toList.head? = some '_') ∧
    ∀ taken port, Naming.FirstFree (taken ++ Naming.reserved) port (Naming.parameter taken port) := by
  intro params names
  have hclear := paramsFor_clear (n.inputs.map Port.id)
  refine ⟨map_fst_paramsFor _ _, ?_, ?_, hclear, ?_, fun taken port => Naming.firstFree_fresh _ _⟩
  · have hfixed : n.category.fixedArgs.Nodup ∧ ∀ x ∈ n.category.fixedArgs, x ∈ Naming.reserved := by
      cases n.category <;> decide
    have hnodup : names.Nodup := (paramsFor_fresh [] _).1
    exact List.nodup_append'.2 ⟨hfixed.1, hnodup, fun x hx hname => (hclear x hname).1 (hfixed.2 x hx)⟩
  · have hscript : ["inputs", "rag", "config", "json", "NODE_CONFIGS"] ⊆ Naming.scriptNames := by decide
    exact List.append_subset.2 ⟨fun x hx => List.mem_append_left _ (hscript hx), List.subset_append_right _ _⟩
  · intro p t b u hb
    have hparams : b.params = params := by rw [(bind_spelled hb).params, (bind_ok hb).node]
    refine ⟨hparams, fun template head stmts hblock => ?_⟩
    have hoperands : b.operands = "None" :: names := by rw [BoundNode.operands, hparams]
    have hnames : ∀ x ∈ b.operands, IsName x := by
      rw [hoperands, List.forall_mem_cons, List.forall_mem_map]
      refine ⟨isName_none, fun entry hentry => ?_⟩
      exact isName_of_named (named_paramsFor [] _ entry hentry) (hclear _ (List.mem_map_of_mem hentry)).1
    have hstmts := template.clear_procedure hnames hblock
    constructor
    · intro x hx
      obtain ⟨s, hs, hx⟩ := List.mem_flatMap.1 hx
      have hset := (hstmts s hs).of_mem_sets hx
      refine ⟨hset, fun hname => ?_⟩
      rcases hset with rfl | hmark
      · exact (hclear _ hname).1 (by decide)
      · exact (hclear x hname).2.2 hmark
    · intro x hx
      obtain ⟨s, hs, hx⟩ := List.mem_flatMap.1 hx
      refine ((hstmts s hs).of_mem_reads hx).elim (fun hx => ?_) .inr
      rw [hoperands] at hx
      rcases List.mem_cons.1 hx with rfl | hname
      · exact .inr (.inr (.inl (by decide)))
      · exact .inl hname

/-- A node whose ports are called like variables, words and other ports of its procedure. -/
def crowded : Node :=
  ⟨"merge", .logic, "Merge", [],
    ["_v", "config", "Text", "text"].map fun port => ⟨port, .null, .text, true, .null⟩, [],
    some .dataMerger, .null, by decide, List.nodup_nil⟩

theorem bind_crowded : ∃ bound, bind { nodes := [crowded] } (.empty Naming.scriptNames) crowded = .ok bound ∧
    bound.1.params.map Prod.snd = ["v", "config_2", "text", "text_2"] ∧
    (Template.dataMerger.procedure bound.1).sets = ["config", "_parts", "_merged", "_merged", "_v"] :=
  Steps.exists_ok_of_any (by decide +kernel)

theorem crowded_parameters_apart :
    ∃ bound, bind { nodes := [crowded] } (.empty Naming.scriptNames) crowded = .ok bound ∧
      bound.1.params.map Prod.snd = ["v", "config_2", "text", "text_2"] ∧
      (Template.dataMerger.procedure bound.1).sets = ["config", "_parts", "_merged", "_merged", "_v"] ∧
      ∃ head stmts, Template.dataMerger.procedure bound.1 = .block head stmts ∧
        ∀ x ∈ stmts.flatMap Stmt.sets, x ∉ bound.1.params.map Prod.snd := by
  obtain ⟨bound, hbind, hnames, hsets⟩ := bind_crowded
  obtain ⟨-, -, -, -, hbound, -⟩ := parameters_keep_apart crowded
  obtain ⟨hparams, hprocedure⟩ := hbound _ _ bound.1 bound.2 hbind
  refine ⟨bound, hbind, hnames, hsets, _, _, rfl, fun x hx => ?_⟩
  rw [hparams]
  exact ((hprocedure .dataMerger _ _ rfl).1 x hx).2

end Binding

end Dataflow
