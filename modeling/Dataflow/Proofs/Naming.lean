import Dataflow.Naming.SymbolTable
import Mathlib.Data.List.Nodup
import Mathlib.Data.List.Perm.Subperm
import Mathlib.Data.Nat.Find

namespace Dataflow

namespace Naming

theorem toList_candidate_succ (base : String) (n : Nat) :
    (candidate base (n + 1)).toList = base.toList ++ '_' :: Nat.toDigits 10 (n + 2) := by
  change (base ++ "_" ++ toString (n + 2)).toList = _
  simp

theorem candidate_injective (base : String) : Function.Injective (candidate base) := by
  intro m n h
  have h := congrArg String.toList h
  cases m with
  | zero =>
      cases n with
      | zero => rfl
      | succ n =>
          have := congrArg List.length (h.trans (toList_candidate_succ base n))
          simp [candidate] at this
  | succ m =>
      cases n with
      | zero =>
          have := congrArg List.length ((toList_candidate_succ base m).symm.trans h)
          simp [candidate] at this
      | succ n =>
          rw [toList_candidate_succ, toList_candidate_succ] at h
          have hd : Nat.toDigits 10 (m + 2) = Nat.toDigits 10 (n + 2) := by simpa using h
          have := congrArg (Nat.ofDigitChars 10 · 0) hd
          simpa [Nat.ofDigitChars_ten_toDigits] using this

theorem exists_candidate_not_mem (taken : List String) (base : String) :
    ∃ k ≤ taken.length, candidate base k ∉ taken := by
  by_contra hall
  -- All candidates would be taken, but they are distinct and too many for the list.
  have hsub : (List.range (taken.length + 1)).map (candidate base) ⊆ taken := by
    intro name hname
    obtain ⟨k, hk, rfl⟩ := List.mem_map.1 hname
    by_contra hnot
    exact hall ⟨k, Nat.lt_succ_iff.1 (List.mem_range.1 hk), hnot⟩
  have hnodup : ((List.range (taken.length + 1)).map (candidate base)).Nodup :=
    List.Nodup.map (candidate_injective base) List.nodup_range
  have hlen := (hnodup.subperm hsub).length_le
  simp only [List.length_map, List.length_range] at hlen
  omega

theorem fresh_eq_candidate (taken : List String) (base : String) :
    ∃ k, fresh taken base = candidate base k ∧ candidate base k ∉ taken ∧
      ∀ j < k, candidate base j ∈ taken := by
  have hex := exists_candidate_not_mem taken base
  obtain ⟨hk, hnot⟩ := Nat.find_spec hex
  have hmin : ∀ j < Nat.find hex, candidate base j ∈ taken := by
    intro j hj
    by_contra hmem
    exact Nat.find_min hex hj ⟨Nat.le_trans (Nat.le_of_lt hj) hk, hmem⟩
  have hfind : (List.range (taken.length + 1)).find? ((!taken.contains ·) ∘ candidate base) =
      some (Nat.find hex) := by
    rw [List.find?_range_eq_some]
    refine ⟨by simpa using hnot, by simpa [Nat.lt_succ_iff] using hk, ?_⟩
    intro j hj
    simpa using hmin j hj
  refine ⟨Nat.find hex, ?_, hnot, hmin⟩
  rw [fresh, List.find?_map, hfind]
  rfl

theorem fresh_not_mem (taken : List String) (base : String) : fresh taken base ∉ taken := by
  obtain ⟨k, hk, hnot, -⟩ := fresh_eq_candidate taken base
  rwa [hk]

end Naming

namespace SymbolTable

variable {t : SymbolTable} {key : PortKey} {name : String}

theorem allocate_not_mem (t : SymbolTable) (hint : String) : (t.allocate hint).1 ∉ t.taken :=
  Naming.fresh_not_mem _ _

theorem allocate_eq {hint : String} {u : SymbolTable} (h : t.allocate hint = (name, u)) :
    name ∉ t.taken ∧ u = { t with taken := name :: t.taken } := by
  have hname : (t.allocate hint).1 = name := congrArg Prod.fst h
  have htable : (t.allocate hint).2 = u := congrArg Prod.snd h
  subst hname htable
  exact ⟨allocate_not_mem t hint, rfl⟩

def bind (t : SymbolTable) (key : PortKey) (name : String) : SymbolTable :=
  { t with symbols := t.symbols ++ [(key, name)] }

theorem attempt_of_bound (name : Option String) (h : (t.find? key).isSome) :
    t.attempt key name = (.error (.alreadyDefined key), t) := by
  simp [attempt, h]

theorem attempt_some (h : t.find? key = none) : t.attempt key (some name) = (.ok name, t.bind key name) := by
  simp [attempt, h, bind]

theorem attempt_none (h : t.find? key = none) :
    t.attempt key none =
      (.ok (t.allocate key.hint).1, (t.allocate key.hint).2.bind key (t.allocate key.hint).1) := by
  simp [attempt, h, bind]

theorem define_of_bound (name : Option String) (h : (t.find? key).isSome) :
    t.define key name = .error (.alreadyDefined key) := by
  rw [define, attempt_of_bound name h]
  rfl

theorem define_some (h : t.find? key = none) : t.define key (some name) = .ok (name, t.bind key name) := by
  rw [define, attempt_some h]
  rfl

theorem define_none (h : t.find? key = none) :
    t.define key none =
      .ok ((t.allocate key.hint).1, (t.allocate key.hint).2.bind key (t.allocate key.hint).1) := by
  rw [define, attempt_none h]
  rfl

theorem define_eq_ok {given : Option String} {u : SymbolTable} (h : t.define key given = .ok (name, u)) :
    t.find? key = none ∧ u.symbols = t.symbols ++ [(key, name)] ∧
      match given with
      | some var => name = var ∧ u.taken = t.taken
      | none => name ∉ t.taken ∧ u.taken = name :: t.taken := by
  cases hf : t.find? key with
  | some var =>
      rw [define_of_bound given (by simp [hf])] at h
      cases h
  | none =>
      cases given with
      | some var =>
          rw [define_some hf] at h
          cases h
          exact ⟨rfl, rfl, rfl, rfl⟩
      | none =>
          rw [define_none hf] at h
          cases h
          exact ⟨rfl, rfl, allocate_not_mem t key.hint, rfl⟩

theorem find?_bind_self (h : t.find? key = none) : (t.bind key name).find? key = some name := by
  simp only [find?] at h
  simp [bind, find?, List.lookup_append, h]

theorem find?_bind_of_ne {other : PortKey} (h : other ≠ key) :
    (t.bind key name).find? other = t.find? other := by
  have hne : (other == key) = false := by simpa using h
  simp [bind, find?, List.lookup_append, List.lookup_cons, hne]

theorem define_of_unbound (given : Option String) (h : t.find? key = none) :
    ∃ name u, t.define key given = .ok (name, u) ∧ u.find? key = some name ∧
      ∀ other, other ≠ key → u.find? other = t.find? other := by
  cases given with
  | some var =>
      exact ⟨var, t.bind key var, define_some h, find?_bind_self h, fun _ hne => find?_bind_of_ne hne⟩
  | none =>
      have ha : (t.allocate key.hint).2.find? key = none := h
      exact ⟨_, _, define_none h, find?_bind_self ha, fun _ hne => find?_bind_of_ne hne⟩

theorem resolve_of_find? (h : t.find? key = some name) : t.resolve key = .ok name := by
  simp [resolve, h]

theorem resolve_of_not_bound (h : t.find? key = none) : t.resolve key = .error (.unresolved key) := by
  simp [resolve, h]

end SymbolTable

end Dataflow
