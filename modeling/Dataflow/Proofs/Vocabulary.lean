import Dataflow.Proofs.Diagnosis

namespace Dataflow

namespace DataType

def Spelled (t : DataType) (v : Json) : Prop := ∃ name, v = .str name ∧ Text.lower name = t.tag

theorem ofName?_eq_some {name : String} {t : DataType} : ofName? name = some t ↔ Text.lower name = t.tag := by
  have hall : t ∈ all := by cases t <;> decide
  rw [ofName?, find?_id_eq_some (by decide), and_iff_right hall, eq_comm]

theorem read_eq_ok {v : Json} {t : DataType} : read v = .ok t ↔ t.Spelled v := by
  cases v with
  | str name =>
      simp only [Spelled, Json.str.injEq, exists_eq_left', ← ofName?_eq_some, read]
      cases ofName? name <;> simp
  | _ => simp [read, Spelled]

theorem spelled_tag (t : DataType) : t.Spelled (.str t.tag) := by
  refine ⟨t.tag, rfl, ?_⟩
  cases t <;> rfl

end DataType

namespace Category

def Spelled (c : Category) (v : Json) : Prop := ∃ name, v = .str name ∧ Text.lower name ∈ c.names

theorem eq_of_mem_names {c d : Category} {name : String} (hc : name ∈ c.names) (hd : name ∈ d.names) : c = d := by
  have hdisjoint : ∀ d ∈ all, ∀ name ∈ c.names, name ∈ d.names → c = d := by cases c <;> decide
  exact hdisjoint d (by cases d <;> decide) name hc hd

theorem mem_names_of_ofName? {name : String} {c : Category} (h : ofName? name = some c) :
    Text.lower name ∈ c.names := by
  rw [ofName?] at h
  simpa using List.find?_some h

theorem ofName?_eq_some {name : String} {c : Category} : ofName? name = some c ↔ Text.lower name ∈ c.names := by
  constructor
  · exact mem_names_of_ofName?
  · intro h
    cases hf : ofName? name with
    | none =>
        have hall : c ∈ all := by cases c <;> decide
        exact absurd (List.contains_iff_mem.2 h) (List.find?_eq_none.1 hf c hall)
    | some d => rw [eq_of_mem_names (mem_names_of_ofName? hf) h]

theorem read_eq_ok {v : Json} {c : Category} : read v = .ok c ↔ c.Spelled v := by
  cases v with
  | str name =>
      simp only [Spelled, Json.str.injEq, exists_eq_left', ← ofName?_eq_some, read]
      cases ofName? name <;> simp
  | _ => simp [read, Spelled]

theorem spelled_tag (c : Category) : c.Spelled (.str c.tag) := by
  refine ⟨c.tag, rfl, ?_⟩
  cases c <;> decide

end Category

namespace Kind

def Spelled (k : Kind) (v : Json) : Prop := ∃ name, v = .str name ∧ hyphenated (Text.lower name) = k.tag

theorem ofName?_eq_some {name : String} {k : Kind} :
    ofName? name = some k ↔ hyphenated (Text.lower name) = k.tag := by
  have hall : k ∈ all := by cases k <;> decide
  rw [ofName?, find?_id_eq_some (by decide), and_iff_right hall, eq_comm]

theorem read_eq_ok {v : Json} {kind : Option Kind} :
    read v = .ok kind ↔ (v = .null ∧ kind = none) ∨ ∃ k, kind = some k ∧ k.Spelled v := by
  cases v with
  | null => simp [read, Spelled, eq_comm]
  | str name =>
      simp only [Spelled, Json.str.injEq, exists_eq_left', ← ofName?_eq_some, read]
      cases ofName? name <;> simp [eq_comm]
  | _ => simp [read, Spelled]

theorem exists_read_eq_ok {v : Json} : (∃ kind, read v = .ok kind) ↔ v = .null ∨ ∃ k : Kind, k.Spelled v := by
  simp only [read_eq_ok]
  constructor
  · rintro ⟨kind, ⟨hv, -⟩ | ⟨k, -, hk⟩⟩
    · exact .inl hv
    · exact .inr ⟨k, hk⟩
  · rintro (hv | ⟨k, hk⟩)
    · exact ⟨none, .inl ⟨hv, rfl⟩⟩
    · exact ⟨some k, .inr ⟨k, rfl, hk⟩⟩

theorem hyphenated_tag (k : Kind) : hyphenated k.tag = k.tag := by
  rw [← String.toList_inj, hyphenated, String.toList_map]
  cases k <;> rfl

theorem spelled_tag (k : Kind) : k.Spelled (.str k.tag) := by
  have hlower : Text.lower k.tag = k.tag := by cases k <;> rfl
  exact ⟨k.tag, rfl, by rw [hlower, hyphenated_tag]⟩

end Kind

end Dataflow
