import Dataflow.Proofs.Naming

namespace Dataflow

namespace Naming

/-- The name is the hint as an identifier, or else has the least suffix that makes it free. -/
def FirstFree (taken : List String) (hint name : String) : Prop :=
  name ∉ taken ∧
    (safeIdentifier hint ∉ taken ∧ name = safeIdentifier hint ∨
      safeIdentifier hint ∈ taken ∧ ∃ n, 2 ≤ n ∧ n ≤ taken.length + 1 ∧ name = s!"{safeIdentifier hint}_{n}" ∧
        ∀ m, 2 ≤ m → m < n → s!"{safeIdentifier hint}_{m}" ∈ taken)

theorem firstFree_fresh (taken : List String) (hint : String) :
    FirstFree taken hint (fresh taken (safeIdentifier hint)) := by
  obtain ⟨k, hfresh, hfree, hleast⟩ := fresh_eq_candidate taken (safeIdentifier hint)
  rw [hfresh]
  refine ⟨hfree, ?_⟩
  cases k with
  | zero => exact .inl ⟨hfree, rfl⟩
  | succ k =>
      -- The search has a bound, and a candidate below it that is free cannot come before the one found.
      obtain ⟨j, hj, hfree'⟩ := exists_candidate_not_mem taken (safeIdentifier hint)
      have hk : k + 1 ≤ j := Nat.not_lt.1 fun hlt => hfree' (hleast j hlt)
      refine .inr ⟨hleast 0 (Nat.succ_pos k), k + 2, by omega, by omega, rfl, ?_⟩
      intro m hm hlt
      obtain ⟨m, rfl⟩ := Nat.exists_eq_add_of_le' hm
      exact hleast (m + 1) (by omega)

end Naming

namespace SymbolTable

inductive Action where
  | allocate (hint : String)
  | define (key : PortKey) (given : Option String)
  | resolve (key : PortKey)

def Action.hint? : Action → Option String
  | .allocate hint => some hint
  | .define key none => some key.hint
  | .define _ (some _) => none
  | .resolve _ => none

/-- The answer to an action, and the table that it leaves. -/
def perform (t : SymbolTable) : Action → Except SymbolError String × SymbolTable
  | .allocate hint => (.ok (t.allocate hint).1, (t.allocate hint).2)
  | .define key given => t.attempt key given
  | .resolve key => (t.resolve key, t)

def after (t : SymbolTable) (actions : List Action) : SymbolTable := actions.foldl (fun u a => (u.perform a).2) t

/-- The names that the action takes: none, or the one that it returns. -/
def taking (t : SymbolTable) (a : Action) : List String :=
  if a.hint?.isSome then (t.perform a).1.toOption.toList else []

def allocated (t : SymbolTable) : List Action → List String
  | [] => []
  | a :: actions => t.taking a ++ (t.perform a).2.allocated actions

variable {t u : SymbolTable} {a : Action} {result : Except SymbolError String} {key : PortKey} {name : String}

inductive Step (t : SymbolTable) : Action → Except SymbolError String → SymbolTable → Prop
  | allocate {hint name : String} (h : Naming.FirstFree t.taken hint name) :
      Step t (.allocate hint) (.ok name) { t with taken := name :: t.taken }
  | name {key : PortKey} {name : String} (hnew : t.find? key = none) (h : Naming.FirstFree t.taken key.hint name) :
      Step t (.define key none) (.ok name) (bind { t with taken := name :: t.taken } key name)
  | given {key : PortKey} {name : String} (hnew : t.find? key = none) :
      Step t (.define key (some name)) (.ok name) (t.bind key name)
  | keep {key : PortKey} {given : Option String} (hold : (t.find? key).isSome) :
      Step t (.define key given) (.error (.alreadyDefined key)) t
  | resolve {key : PortKey} : Step t (.resolve key) (t.resolve key) t

theorem perform_step (t : SymbolTable) (a : Action) : Step t a (t.perform a).1 (t.perform a).2 := by
  cases a with
  | allocate hint => exact .allocate (Naming.firstFree_fresh _ _)
  | resolve key => exact .resolve
  | define key given =>
      cases hfind : t.find? key with
      | some name =>
          rw [perform, attempt_of_bound given (by simp [hfind])]
          exact .keep (by simp [hfind])
      | none =>
          cases given with
          | some name =>
              rw [perform, attempt_some hfind]
              exact .given hfind
          | none =>
              rw [perform, attempt_none hfind]
              exact .name hfind (Naming.firstFree_fresh _ _)

theorem taken_perform (t : SymbolTable) (a : Action) :
    (t.perform a).2.taken = t.taking a ++ t.taken ∧ (t.taking a).Nodup ∧ ∀ name ∈ t.taking a, name ∉ t.taken := by
  have hstep := t.perform_step a
  rw [taking]
  generalize (t.perform a).1 = result at hstep ⊢
  generalize (t.perform a).2 = u at hstep ⊢
  cases hstep with
  | allocate h => exact ⟨rfl, List.nodup_singleton _, List.forall_mem_singleton.2 h.1⟩
  | name hnew h => exact ⟨rfl, List.nodup_singleton _, List.forall_mem_singleton.2 h.1⟩
  | given hnew => exact ⟨rfl, List.nodup_nil, by simp [Action.hint?]⟩
  | keep hold => split <;> exact ⟨rfl, List.nodup_nil, fun _ h => absurd h List.not_mem_nil⟩
  | resolve => exact ⟨rfl, List.nodup_nil, by simp [Action.hint?]⟩

theorem find?_perform (h : t.find? key = some name) (a : Action) : (t.perform a).2.find? key = some name := by
  have hstep := t.perform_step a
  generalize (t.perform a).1 = result at hstep
  generalize (t.perform a).2 = u at hstep ⊢
  have hother : ∀ {other : PortKey}, t.find? other = none → key ≠ other := by
    rintro _ hnone rfl
    cases h.symm.trans hnone
  cases hstep with
  | allocate => exact h
  | name hnew => rw [find?_bind_of_ne (hother hnew)]; exact h
  | given hnew => rw [find?_bind_of_ne (hother hnew)]; exact h
  | keep => exact h
  | resolve => exact h

theorem isSome_find?_perform (t : SymbolTable) (a : Action) (key : PortKey) :
    ((t.perform a).2.find? key).isSome ↔ (t.find? key).isSome ∨ ∃ given, a = .define key given := by
  have hstep := t.perform_step a
  generalize (t.perform a).1 = result at hstep
  generalize (t.perform a).2 = u at hstep ⊢
  cases hstep with
  | allocate => simp [find?]
  | @name other name hnew =>
      by_cases hkey : key = other
      · subst hkey
        have hfree : find? { t with taken := name :: t.taken } key = none := hnew
        simp [find?_bind_self hfree]
      · rw [find?_bind_of_ne hkey]
        simp [find?, Ne.symm hkey]
  | @given other name hnew =>
      by_cases hkey : key = other
      · subst hkey
        simp [find?_bind_self hnew]
      · rw [find?_bind_of_ne hkey]
        simp [Ne.symm hkey]
  | @keep other given hold =>
      by_cases hkey : key = other
      · subst hkey
        simp [hold]
      · simp [Ne.symm hkey]
  | resolve => simp

theorem perform_allocate (t : SymbolTable) (hint : String) :
    ∃ name, (t.perform (.allocate hint)).1 = .ok name ∧ Naming.FirstFree t.taken hint name := by
  have hstep := t.perform_step (.allocate hint)
  generalize (t.perform (.allocate hint)).1 = result at hstep ⊢
  cases hstep with
  | allocate h => exact ⟨_, rfl, h⟩

theorem perform_define_new (h : t.find? key = none) :
    (∀ name, (t.perform (.define key (some name))).1 = .ok name) ∧
      ∃ name, (t.perform (.define key none)).1 = .ok name ∧ Naming.FirstFree t.taken key.hint name := by
  constructor
  · intro name
    rw [perform, attempt_some h]
  · rw [perform, attempt_none h]
    exact ⟨_, rfl, Naming.firstFree_fresh _ _⟩

theorem perform_define_old (h : (t.find? key).isSome) (given : Option String) :
    t.perform (.define key given) = (.error (.alreadyDefined key), t) := by
  exact attempt_of_bound given h

theorem find?_of_perform_define {given : Option String} (h : (t.perform (.define key given)).1 = .ok name) :
    (t.perform (.define key given)).2.find? key = some name := by
  have hstep := t.perform_step (.define key given)
  rw [h] at hstep
  generalize (t.perform (.define key given)).2 = u at hstep ⊢
  cases hstep with
  | name hnew => exact find?_bind_self hnew
  | given hnew => exact find?_bind_self hnew

theorem after_append (t : SymbolTable) (before later : List Action) :
    t.after (before ++ later) = (t.after before).after later :=
  List.foldl_append

theorem taken_after (t : SymbolTable) (actions : List Action) :
    (∀ name, name ∈ (t.after actions).taken ↔ name ∈ t.taken ∨ name ∈ t.allocated actions) ∧
      (t.allocated actions).Nodup ∧ ∀ name ∈ t.allocated actions, name ∉ t.taken := by
  induction actions generalizing t with
  | nil => exact ⟨by simp [after, allocated], List.nodup_nil, by simp [allocated]⟩
  | cons a actions ih =>
      obtain ⟨htaken, hone, hnew⟩ := t.taken_perform a
      obtain ⟨hmem, hnodup, hlater⟩ := ih (t.perform a).2
      rw [htaken] at hmem hlater
      simp only [List.mem_append] at hmem hlater
      refine ⟨fun name => ?_, ?_, ?_⟩
      · rw [allocated, List.mem_append]
        refine (hmem name).trans ?_
        tauto
      · exact hone.append hnodup fun name htaking hname => hlater name hname (.inl htaking)
      · rw [allocated, List.forall_mem_append]
        exact ⟨hnew, fun name hname htaken => hlater name hname (.inr htaken)⟩

theorem find?_after (h : t.find? key = some name) (actions : List Action) :
    (t.after actions).find? key = some name := by
  induction actions generalizing t with
  | nil => exact h
  | cons a actions ih => exact ih (find?_perform h a)

theorem isSome_find?_after (t : SymbolTable) (actions : List Action) (key : PortKey) :
    ((t.after actions).find? key).isSome ↔ (t.find? key).isSome ∨ ∃ given, .define key given ∈ actions := by
  induction actions generalizing t with
  | nil => simp [after]
  | cons a actions ih =>
      refine (ih (t.perform a).2).trans ?_
      rw [isSome_find?_perform, or_assoc]
      simp only [List.mem_cons, exists_or, eq_comm]

/-- A table is written once. After any actions on a new one, a name is taken if it is reserved or built in, or if an
action has taken it; an action takes the first name that is free, so that no two take the same. A port that was bound
is found under the name of the time from then on, and binding it again fails and changes nothing; one that was not is
not found, and can be bound. -/
theorem history_is_write_once (reserved : List String) (actions : List Action) :
    let t := (empty reserved).after actions
    let names := (empty reserved).allocated actions
    (∀ name, name ∈ t.taken ↔ name ∈ reserved ∨ name ∈ Naming.builtins ∨ name ∈ names) ∧
    (∀ hint, ∃ name, (t.perform (.allocate hint)).1 = .ok name ∧ Naming.FirstFree t.taken hint name) ∧
    names.Nodup ∧ (∀ name ∈ names, name ∉ reserved ∧ name ∉ Naming.builtins) ∧
    (∀ key, (∀ given, .define key given ∉ actions) → t.resolve key = .error (.unresolved key) ∧
      (∀ name, (t.perform (.define key (some name))).1 = .ok name) ∧
      ∃ name, (t.perform (.define key none)).1 = .ok name ∧ Naming.FirstFree t.taken key.hint name) ∧
    (∀ before key given later name, actions = before ++ .define key given :: later →
      (((empty reserved).after before).perform (.define key given)).1 = .ok name → t.resolve key = .ok name) ∧
    ∀ key given, .define key given ∈ actions →
      ∀ again, t.perform (.define key again) = (.error (.alreadyDefined key), t) := by
  extract_lets t names
  obtain ⟨htaken, hnodup, hnew⟩ := (empty reserved).taken_after actions
  have hreserved : ∀ name, name ∈ (empty reserved).taken ↔ name ∈ reserved ∨ name ∈ Naming.builtins :=
    fun name => List.mem_append
  have hbound : ∀ key, (t.find? key).isSome ↔ ∃ given, .define key given ∈ actions :=
    fun key => ((empty reserved).isSome_find?_after actions key).trans (or_iff_right Bool.false_ne_true)
  refine ⟨?_, t.perform_allocate, hnodup, ?_, ?_, ?_, ?_⟩
  · intro name
    rw [← or_assoc, ← hreserved]
    exact htaken name
  · intro name hname
    rw [← not_or, ← hreserved]
    exact hnew name hname
  · intro key hnever
    have hnone : t.find? key = none :=
      Option.not_isSome_iff_eq_none.1 fun hsome => ((hbound key).1 hsome).elim hnever
    exact ⟨resolve_of_not_bound hnone, perform_define_new hnone⟩
  · rintro before key given later name rfl hdefined
    have htable : t = (((empty reserved).after before).perform (.define key given)).2.after later :=
      (empty reserved).after_append before _
    rw [htable]
    exact resolve_of_find? (find?_after (find?_of_perform_define hdefined) later)
  · intro key given hmem again
    exact perform_define_old ((hbound key).2 ⟨given, hmem⟩) again

/-- A port is bound to a name that is taken later, and then asked to be bound anew. -/
def rebinding : List Action :=
  [.define ⟨"ask", "text"⟩ (some "kept"), .allocate "kept", .allocate "kept", .define ⟨"ask", "text"⟩ none]

theorem rebinding_keeps : let t := (empty ["config"]).after rebinding
    ((empty ["config"]).allocated rebinding).Nodup ∧ t.resolve ⟨"ask", "text"⟩ = .ok "kept" ∧
      t.perform (.define ⟨"ask", "text"⟩ none) = (.error (.alreadyDefined ⟨"ask", "text"⟩), t) ∧
      t.resolve ⟨"ask", "file"⟩ = .error (.unresolved ⟨"ask", "file"⟩) := by
  obtain ⟨-, -, hnodup, -, hnever, hkept, hagain⟩ := history_is_write_once ["config"] rebinding
  have hfirst : ((empty ["config"]).perform (.define ⟨"ask", "text"⟩ (some "kept"))).1 = .ok "kept" := rfl
  exact ⟨hnodup, hkept [] _ _ _ _ rfl hfirst, hagain _ (some "kept") (by simp [rebinding]) none,
    (hnever ⟨"ask", "file"⟩ (by simp [rebinding])).1⟩

end SymbolTable

end Dataflow
