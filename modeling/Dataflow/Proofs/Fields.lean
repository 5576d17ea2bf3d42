import Dataflow.Json.Basic
import Mathlib.Data.List.Nodup

namespace Dataflow

theorem lookup_of_mem {α : Type} {entries : List (String × α)} {key : String} {a : α}
    (hkeys : (entries.map Prod.fst).Nodup) (h : (key, a) ∈ entries) : entries.lookup key = some a := by
  induction entries with
  | nil => cases h
  | cons entry entries ih =>
      obtain ⟨name, b⟩ := entry
      rw [List.map_cons, List.nodup_cons] at hkeys
      rcases List.mem_cons.1 h with heq | hmem
      · cases heq
        exact List.lookup_cons_self
      · have hne : key ≠ name := by
          rintro rfl
          exact hkeys.1 (List.mem_map.2 ⟨_, hmem, rfl⟩)
        rw [List.lookup_cons, beq_eq_false_iff_ne.2 hne, ih hkeys.2 hmem]

theorem map_lookup {α : Type} {entries : List (String × α)} (hkeys : (entries.map Prod.fst).Nodup) (default : α) :
    (entries.map Prod.fst).map (fun key => (entries.lookup key).getD default) = entries.map Prod.snd := by
  rw [List.map_map]
  refine List.map_congr_left fun entry hentry => ?_
  rw [Function.comp_apply, lookup_of_mem hkeys hentry, Option.getD_some]

namespace Json

@[simp] theorem isNull_str (s : String) : (Json.str s).isNull = false := by simp [isNull]

@[simp] theorem isNull_arr (items : List Json) : (Json.arr items).isNull = false := by simp [isNull]

@[simp] theorem isNull_obj (fields : Fields) : (Json.obj fields).isNull = false := by simp [isNull]

theorem isNull_eq_false_of_truthy {v : Json} (h : v.truthy = true) : v.isNull = false := by
  cases v with
  | null => cases h
  | _ => rfl

namespace Fields

variable {fields more : Fields} {key k : String} {v : Json}

@[simp] theorem get?_nil : get? [] key = none := rfl

@[simp] theorem get?_cons : get? ((k, v) :: fields) key = if key = k then some v else fields.get? key := by
  by_cases h : key = k
  · simp [get?, h]
  · simp [get?, List.lookup_cons, h, beq_eq_false_iff_ne.2 h]

@[simp] theorem get?_append : get? (fields ++ more) key = (fields.get? key).or (more.get? key) :=
  List.lookup_append

theorem getD_eq {default : Json} : fields.getD key default = (fields.get? key).getD default := rfl

theorem present?_eq : fields.present? key = (fields.get? key).filter (!·.isNull) := rfl

@[simp] theorem firstPresent?_nil : fields.firstPresent? [] = none := rfl

@[simp] theorem firstPresent?_cons {keys : List String} :
    fields.firstPresent? (key :: keys) = ((fields.get? key).filter (!·.isNull)).or (fields.firstPresent? keys) := by
  rw [firstPresent?, List.findSome?_cons, present?_eq]
  cases (fields.get? key).filter (!·.isNull) <;> rfl

theorem firstPresent?_of_forall {keys : List String} (h : ∀ k ∈ keys, fields.get? k = none) :
    fields.firstPresent? keys = none := by
  induction keys with
  | nil => rfl
  | cons k keys ih =>
      obtain ⟨hk, hkeys⟩ := List.forall_mem_cons.1 h
      rw [firstPresent?_cons, hk, ih hkeys]
      rfl

theorem firstPresent?_of_only {keys : List String} (hkey : key ∈ keys)
    (h : ∀ k ∈ keys, k ≠ key → fields.get? k = none) :
    fields.firstPresent? keys = (fields.get? key).filter (!·.isNull) := by
  induction keys with
  | nil => cases hkey
  | cons k keys ih =>
      obtain ⟨hk, hkeys⟩ := List.forall_mem_cons.1 h
      rw [firstPresent?_cons]
      by_cases hmem : key ∈ keys
      · rw [ih hmem hkeys]
        by_cases hsame : k = key
        · rw [hsame, Option.or_self]
        · rw [hk hsame, Option.filter_none, Option.none_or]
      · have hsame : key = k := by simpa [hmem] using hkey
        have hnone : ∀ other ∈ keys, fields.get? other = none := by
          intro other hother
          apply hkeys other hother
          rintro rfl
          exact hmem hother
        rw [firstPresent?_of_forall hnone, Option.or_none, hsame]

theorem get?_eq_none : fields.get? key = none ↔ key ∉ fields.map Prod.fst := by
  induction fields with
  | nil => simp
  | cons f fields ih =>
      obtain ⟨name, v⟩ := f
      by_cases h : key = name <;> simp [h, ih]

theorem mem_of_get? (h : fields.get? key = some v) : (key, v) ∈ fields := by
  induction fields with
  | nil => cases h
  | cons f fields ih =>
      obtain ⟨name, w⟩ := f
      by_cases hname : key = name
      · simp_all
      · simp only [get?_cons, hname, if_false] at h
        exact List.mem_cons_of_mem _ (ih h)

theorem get?_filter (h : key ≠ k) : get? (fields.filter (·.1 != k)) key = fields.get? key := by
  induction fields with
  | nil => rfl
  | cons f fields ih =>
      obtain ⟨name, v⟩ := f
      by_cases hname : name = k
      · subst hname
        simp [h, ih]
      · simp [hname, ih]

theorem get?_of_mem (hkeys : (fields.map Prod.fst).Nodup) (h : (key, v) ∈ fields) : fields.get? key = some v :=
  lookup_of_mem hkeys h

theorem set_of_notMem (h : key ∉ fields.map Prod.fst) : set key v fields = fields ++ [(key, v)] := by
  induction fields with
  | nil => rfl
  | cons entry fields ih =>
      rw [List.map_cons, List.mem_cons, not_or] at h
      rw [set, if_neg (Ne.symm h.1), ih h.2, List.cons_append]

theorem mem_map_fst_set : k ∈ (set key v fields).map Prod.fst ↔ k = key ∨ k ∈ fields.map Prod.fst := by
  induction fields with
  | nil => simp [set]
  | cons entry fields ih =>
      rw [set]
      split_ifs with hname
      · simp [← hname]
      · rw [List.map_cons, List.mem_cons, ih, List.map_cons, List.mem_cons, or_left_comm]

theorem get?_set : get? (set k v fields) key = if key = k then some v else fields.get? key := by
  induction fields with
  | nil => simp [set]
  | cons f fields ih =>
      obtain ⟨name, w⟩ := f
      by_cases hname : name = k
      · subst hname
        by_cases hkey : key = name <;> simp [set, hkey]
      · by_cases hkey : key = name
        · subst hkey
          simp [set, hname]
        · simp [set, hname, hkey, ih]

theorem merge_nil (fields : Fields) : fields.merge [] = fields := rfl

theorem get?_merge (h : (more.map Prod.fst).Nodup) :
    (fields.merge more).get? key = (more.get? key).or (fields.get? key) := by
  induction more generalizing fields with
  | nil => rfl
  | cons f more ih =>
      obtain ⟨name, w⟩ := f
      obtain ⟨hname, hnodup⟩ := List.nodup_cons.1 h
      have hstep : fields.merge ((name, w) :: more) = (fields.set name w).merge more := rfl
      rw [hstep, ih hnodup, get?_set]
      by_cases hkey : key = name
      · subst hkey
        simp [get?_eq_none.2 hname]
      · simp [hkey]

end Fields

end Json

end Dataflow
