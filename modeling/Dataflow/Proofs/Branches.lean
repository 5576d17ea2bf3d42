import Dataflow.Proofs.CallSites

namespace Dataflow

namespace Script

/-- What the names in a procedure stand for when it returns, the missing value, and which values count as true. -/
structure Scope (V : Type) where
  lookup : String → V
  missing : V
  truth : V → Bool

namespace Scope

variable {V : Type} (s : Scope V)

def get (name : String) : V := if name = "None" then s.missing else s.lookup name

def evaluate : List Token → Option V
  | [.name x] => some (s.get x)
  | [.name x, .name "if", .name test, .name "else", .name y] =>
    some (if s.truth (s.get test) then s.get x else s.get y)
  | _ => none

def returns (line : String) : Option (List V) := (readReturn (tokens line)).bind (·.mapM s.evaluate)

/-- Of the values that the line returns for the ports, the port gets this one. -/
def Gets (line : String) (ports : List Port) (port : Port) (v : V) : Prop :=
  ∃ values, ∃ i : Nat, s.returns line = some values ∧ ports[i]? = some port ∧ values[i]? = some v

def value : V := s.get "_value"

def matched : Bool := s.truth (s.get "_matched")

/-- What a port of a branch gets that is taken if the condition comes out as `wanted`. -/
def side (wanted : Bool) : V := if s.matched = wanted then s.value else s.missing

variable {s}

theorem side_eq_value {wanted : Bool} (h : s.value ≠ s.missing) : s.side wanted = s.value ↔ s.matched = wanted := by
  simp [side, h.symm]

end Scope

def passing : Scope Bool := ⟨fun _ => true, false, id⟩

theorem side_passing (wanted : Bool) : passing.side wanted = wanted := by
  cases wanted <;> rfl

end Script

namespace Template

open Script

theorem returns_conditionalBranch (b : BoundNode) {V : Type} (s : Scope V) :
    s.returns (Line.render ⟨1, s!"return {conditionalBranch.returned b}"⟩) = some (
      if b.node.outputs = [] then [s.missing] else b.node.outputs.map fun port => s.side (port.id != "false")) := by
  have hnone : s.evaluate (tokens "None") = some s.missing := rfl
  have hexpr : ∀ port : Port, s.evaluate (tokens (if port.id = "false" then "None if _matched else _value"
      else "_value if _matched else None")) = some (s.side (port.id != "false")) := by
    intro port
    have hfalse : s.evaluate (tokens "None if _matched else _value") =
        some (if s.matched then s.missing else s.value) := rfl
    have htrue : s.evaluate (tokens "_value if _matched else None") =
        some (if s.matched then s.value else s.missing) := rfl
    by_cases hport : port.id = "false"
    · rw [if_pos hport, hfalse, Scope.side, hport]
      cases s.matched <;> rfl
    · rw [if_neg hport, htrue, Scope.side, bne_iff_ne.2 hport]
  have hread : readReturn (tokens s!"return {conditionalBranch.returned b}") =
      some ((conditionalBranch.expressions b).map tokens) :=
        read_returned (List.forall_mem_singleton.2 isName_none) List.mem_cons_self (phrase_conditionalBranchBody b)
  rw [Scope.returns, tokens_render, hread, Option.bind_some, expressions]
  by_cases hports : b.node.outputs = []
  · rw [if_pos ⟨rfl, hports⟩, if_pos hports]
    simp [hnone]
  · rw [if_neg fun h => hports h.2, if_neg hports, List.map_map, body, conditionalBranchBody, List.map_map]
    exact mapM_map_some fun port _ => hexpr port

theorem gets_conditionalBranch (b : BoundNode) {V : Type} (s : Scope V) {port : Port} {v : V} :
    s.Gets (Line.render ⟨1, s!"return {conditionalBranch.returned b}"⟩) b.node.outputs port v ↔
      port ∈ b.node.outputs ∧ v = s.side (port.id != "false") := by
  have hreturns := returns_conditionalBranch b s
  constructor
  · rintro ⟨values, i, hvalues, hport, hv⟩
    have hmem := List.mem_of_getElem? hport
    rw [hreturns, Option.some.injEq, if_neg (List.ne_nil_of_mem hmem)] at hvalues
    rw [← hvalues, List.getElem?_map, hport] at hv
    exact ⟨hmem, (Option.some.inj hv).symm⟩
  · rintro ⟨hmem, rfl⟩
    obtain ⟨i, hport⟩ := List.getElem?_of_mem hmem
    rw [if_neg (List.ne_nil_of_mem hmem)] at hreturns
    exact ⟨_, i, hreturns, hport, by rw [List.getElem?_map, hport, Option.map_some]⟩

theorem lookup_conditionalBranch {n : Node} (hcategory : n.category = .logic)
    (hkind : n.kind = some .conditionalBranch) : Registry.standard.lookup n = .ok conditionalBranch := by
  rw [Registry.lookup, hcategory, hkind]
  rfl

/-- In the procedure of a conditional branch, the port `false` gets the value if the condition failed, and any other
port gets it if the condition held. That `true` gets it if the condition held and any other port if it failed is so
exactly if all ports are named `true` or `false`. The value can go to `true` and to another port at once exactly if
there is a port `true` and one of a third name. -/
theorem branch_sides_iff_true_or_false (b : BoundNode) :
    (b.node.category = .logic → b.node.kind = some .conditionalBranch →
      Registry.standard.lookup b.node = .ok conditionalBranch) ∧ ∃ body last,
    procedureLines (b, conditionalBranch) = b.signature :: body ++ [last, "", ""] ∧
    (∀ (V : Type) (s : Scope V), ∀ port ∈ b.node.outputs, ∀ v,
      s.Gets last b.node.outputs port v ↔ v = s.side (port.id != "false")) ∧
    ((∀ (V : Type) (s : Scope V), ∀ port ∈ b.node.outputs,
        s.Gets last b.node.outputs port (s.side (port.id == "true"))) ↔
      ∀ port ∈ b.node.outputs, port.id = "true" ∨ port.id = "false") ∧
    ((∃ (V : Type) (s : Scope V) (port other : Port), s.value ≠ s.missing ∧ port.id = "true" ∧ other.id ≠ "true" ∧
        s.Gets last b.node.outputs port s.value ∧ s.Gets last b.node.outputs other s.value) ↔
      (∃ port ∈ b.node.outputs, port.id = "true") ∧
        ∃ other ∈ b.node.outputs, other.id ≠ "true" ∧ other.id ≠ "false") := by
  refine ⟨lookup_conditionalBranch, _, _, procedureLines_eq conditionalBranch b, ?_, ?_, ?_⟩
  · intro V s port hport v
    rw [gets_conditionalBranch, and_iff_right hport]
  · constructor
    · intro h port hport
      have hsame := ((gets_conditionalBranch b passing).1 (h Bool passing port hport)).2
      rw [side_passing, side_passing] at hsame
      by_cases htrue : port.id = "true"
      · exact .inl htrue
      · rw [beq_false_of_ne htrue] at hsame
        exact .inr (bne_eq_false_iff_eq.1 hsame.symm)
    · intro h V s port hport
      rw [gets_conditionalBranch]
      refine ⟨hport, ?_⟩
      rcases h port hport with hname | hname <;> rw [hname] <;> rfl
  · constructor
    · rintro ⟨V, s, port, other, hvalue, htrue, hother, hport, hgets⟩
      rw [gets_conditionalBranch] at hport hgets
      have hmatched := (Scope.side_eq_value hvalue).1 hport.2.symm
      have hagain := (Scope.side_eq_value hvalue).1 hgets.2.symm
      rw [hmatched, htrue] at hagain
      exact ⟨⟨port, hport.1, htrue⟩, other, hgets.1, hother, bne_iff_ne.1 hagain.symm⟩
    · rintro ⟨⟨port, hport, htrue⟩, other, hmem, hother, hfalse⟩
      refine ⟨Bool, passing, port, other, Bool.noConfusion, htrue, hother, ?_, ?_⟩
      · rw [gets_conditionalBranch, side_passing, htrue]
        exact ⟨hport, rfl⟩
      · rw [gets_conditionalBranch, side_passing, bne_iff_ne.2 hfalse]
        exact ⟨hmem, rfl⟩

/-- A test of a text, with a port for what passes and one of a third name. -/
def forking : BoundNode where
  node := ⟨"test", .logic, "Test", [], [Pipeline.textPort],
    [⟨"true", .null, .text, true, .null⟩, ⟨"other", .null, .text, true, .null⟩], some .conditionalBranch, .null,
    List.nodup_singleton "text", by decide⟩
  procedure := "node_test"
  params := [("text", "text")]

theorem forking_delivers_twice : Registry.standard.lookup forking.node = .ok conditionalBranch ∧ ∃ body last,
    procedureLines (forking, conditionalBranch) = forking.signature :: body ++ [last, "", ""] ∧
      passing.returns last = some [passing.value, passing.value] ∧ passing.value ≠ passing.missing :=
  ⟨rfl, _, _, procedureLines_eq conditionalBranch forking, returns_conditionalBranch forking passing, Bool.noConfusion⟩

end Template

end Dataflow
