import Dataflow.Proofs.Binding
import Dataflow.Script.Emission

namespace Dataflow

namespace Registry

variable {τ : Type} {registry : Registry τ} {n : Node}

/-- There is a template for the node's category and kind, or for its whole category. -/
def Serves (registry : Registry τ) (n : Node) : Prop :=
  ∃ t, ((n.category, n.kind), t) ∈ registry.entries ∨ ((n.category, none), t) ∈ registry.entries

theorem template?_isSome : (registry.template? n.category n.kind).isSome ↔ registry.Serves n := by
  simp only [template?, Serves, Option.isSome_or, Bool.or_eq_true, List.lookup_isSome_iff, beq_iff_eq]
  constructor
  · rintro (⟨⟨key, t⟩, hmem, rfl⟩ | ⟨⟨key, t⟩, hmem, rfl⟩)
    · exact ⟨t, .inl hmem⟩
    · exact ⟨t, .inr hmem⟩
  · rintro ⟨t, hmem | hmem⟩
    · exact .inl ⟨_, hmem, rfl⟩
    · exact .inr ⟨_, hmem, rfl⟩

theorem mem_of_lookup_eq_ok {t : τ} (h : registry.lookup n = .ok t) :
    ∃ kind, ((n.category, kind), t) ∈ registry.entries := by
  rw [lookup] at h
  cases htemplate : registry.template? n.category n.kind with
  | none =>
      rw [htemplate] at h
      cases h
  | some u =>
      rw [htemplate] at h
      cases h
      rw [template?, Option.or_eq_some_iff] at htemplate
      rcases htemplate with hown | ⟨-, hshared⟩
      · obtain ⟨before, after, hentries, -⟩ := List.lookup_eq_some_iff.1 hown
        exact ⟨n.kind, by simp [hentries]⟩
      · obtain ⟨before, after, hentries, -⟩ := List.lookup_eq_some_iff.1 hshared
        exact ⟨none, by simp [hentries]⟩

instance (n : Node) : Decidable (registry.Serves n) := decidable_of_iff _ template?_isSome

theorem lookup_of_serves (h : registry.Serves n) : ∃ t, registry.lookup n = .ok t := by
  obtain ⟨t, ht⟩ := Option.isSome_iff_exists.1 (template?_isSome.2 h)
  exact ⟨t, by simp [lookup, ht]⟩

theorem lookup_of_not_serves (h : ¬registry.Serves n) :
    registry.lookup n = .error (.noTemplate n.id n.category) := by
  rw [← template?_isSome, Option.not_isSome_iff_eq_none] at h
  simp [lookup, h]

theorem lookup_eq_ok {t : τ} (h : registry.lookup n = .ok t) : registry.Serves n := by
  by_contra hn
  rw [lookup_of_not_serves hn] at h
  cases h

theorem lookup_eq_error {d : Problem} (h : registry.lookup n = .error d) :
    ¬registry.Serves n ∧ d = .noTemplate n.id n.category := by
  by_cases hn : registry.Serves n
  · obtain ⟨t, ht⟩ := lookup_of_serves hn
    rw [ht] at h
    cases h
  · rw [lookup_of_not_serves hn] at h
    cases h
    exact ⟨hn, rfl⟩

end Registry

namespace Pipeline

variable {τ : Type} {p : Pipeline} {registry : Registry τ} {s : Settings} {timestamp : String} {order : List String}

theorem templatesFor_ok {templates : List (Node × τ)} (h : p.templatesFor registry order = .ok templates) :
    templates.map Prod.fst = p.nodesIn order ∧ ∀ n ∈ p.nodesIn order, registry.Serves n := by
  rw [templatesFor, ← nodesIn, Steps.mapM_eq_ok] at h
  generalize p.nodesIn order = nodes at h ⊢
  induction h with
  | nil => simp
  | cons hn _ ih =>
      obtain ⟨t, ht, hpair⟩ := Steps.bind_eq_ok.1 hn
      cases hpair
      exact ⟨by simp [ih.1], List.forall_mem_cons.2 ⟨Registry.lookup_eq_ok ht, ih.2⟩⟩

theorem lookup_of_mem_templates {templates : List (Node × τ)}
    (h : p.templatesFor registry order = .ok templates) :
    ∀ pair ∈ templates, registry.lookup pair.1 = .ok pair.2 := by
  intro pair hpair
  obtain ⟨n, -, hn⟩ := (Steps.mem_of_mapM_eq_ok h).1 hpair
  obtain ⟨t, ht, heq⟩ := Steps.bind_eq_ok.1 hn
  cases heq
  exact ht

theorem templatesFor_error {d : Problem} (h : p.templatesFor registry order = .error d) :
    ∃ before n after, p.nodesIn order = before ++ n :: after ∧ (∀ m ∈ before, registry.Serves m) ∧
      ¬registry.Serves n ∧ d = .noTemplate n.id n.category := by
  obtain ⟨before, n, after, hsplit, hbefore, hn⟩ := Steps.mapM_eq_error h
  refine ⟨before, n, after, hsplit, ?_, ?_⟩
  · intro m hm
    obtain ⟨pair, hpair⟩ := hbefore m hm
    obtain ⟨t, ht, -⟩ := Steps.bind_eq_ok.1 hpair
    exact Registry.lookup_eq_ok ht
  · cases hl : registry.lookup n with
    | ok t =>
        rw [hl] at hn
        cases hn
    | error e =>
        rw [hl] at hn
        cases hn
        exact Registry.lookup_eq_error hl

def bindings (p : Pipeline) (s : Settings) (order : List String) : Binding.Outcome :=
  Binding.bindAll p (.empty (scriptReserved s)) (p.nodesIn order)

variable [Strategy τ]

theorem emit_of_not_perm (h : ¬order.Perm p.ids) : (p.emit order registry s timestamp).value = .error .notAnOrder := by
  have hcheck : order.isPerm p.ids = false := by
    rw [← Bool.not_eq_true, List.isPerm_iff]
    exact h
  simp [emit, hcheck]

section

variable (hperm : order.Perm p.ids)

include hperm

theorem emit_of_no_template {d : Problem} (h : p.templatesFor registry order = .error d) :
    (p.emit order registry s timestamp).value = .error (.noTemplate d) := by
  simp [emit, List.isPerm_iff.2 hperm, h]

variable {templates : List (Node × τ)} (ht : p.templatesFor registry order = .ok templates)

include ht

theorem emit_of_symbol_error {e : SymbolError} (h : (p.bindings s order).result = .error e) :
    (p.emit order registry s timestamp).value = .error (.symbol e) := by
  rw [bindings, ← (templatesFor_ok ht).1] at h
  simp [emit, List.isPerm_iff.2 hperm, ht, h]

theorem emit_of_bindings {table : SymbolTable} (h : (p.bindings s order).result = .ok table) :
    (p.emit order registry s timestamp).value =
      .ok (p.emission s timestamp ((p.bindings s order).bound.zip (templates.map Prod.snd))) := by
  rw [bindings, ← (templatesFor_ok ht).1] at h ⊢
  simp [emit, List.isPerm_iff.2 hperm, ht, h]

end

theorem emit_eq_emission {e : Emission} (h : (p.emit order registry s timestamp).value = .ok e) :
    order.Perm p.ids ∧ ∃ templates table, p.templatesFor registry order = .ok templates ∧
      (p.bindings s order).result = .ok table ∧
      e = p.emission s timestamp ((p.bindings s order).bound.zip (templates.map Prod.snd)) ∧
      e.bound = (p.bindings s order).bound := by
  by_cases hperm : order.Perm p.ids
  · cases ht : p.templatesFor registry order with
    | error d =>
        rw [emit_of_no_template hperm ht] at h
        cases h
    | ok templates =>
        cases hb : (p.bindings s order).result with
        | error cause =>
            rw [emit_of_symbol_error hperm ht hb] at h
            cases h
        | ok table =>
            rw [emit_of_bindings hperm ht hb] at h
            cases h
            -- There is a template for each bound node, so that pairing them drops none.
            have hlength : (p.bindings s order).bound.length = (templates.map Prod.snd).length := by
              have hnodes := congrArg List.length (Binding.bindAll_ok hb).map_node
              have htemplates := congrArg List.length (templatesFor_ok ht).1
              simp only [List.length_map] at hnodes htemplates ⊢
              exact hnodes.trans htemplates.symm
            refine ⟨hperm, templates, table, rfl, rfl, rfl, ?_⟩
            rw [emission, List.map_fst_zip (Nat.le_of_eq hlength)]
  · rw [emit_of_not_perm hperm] at h
    cases h

theorem emit_pairs {e : Emission} (h : (p.emit order registry s timestamp).value = .ok e) :
    ∃ pairs, e = p.emission s timestamp pairs ∧ pairs.map Prod.fst = e.bound ∧
      ∀ pair ∈ pairs, registry.lookup pair.1.node = .ok pair.2 := by
  obtain ⟨-, templates, table, ht, hb, he, hbound⟩ := emit_eq_emission h
  refine ⟨_, he, by rw [he]; rfl, ?_⟩
  intro pair hpair
  have hnodes : (p.bindings s order).bound.map BoundNode.node = templates.map Prod.fst :=
    (Binding.bindAll_ok hb).map_node.trans (templatesFor_ok ht).1.symm
  have hmem : (pair.1.node, pair.2) ∈ ((p.bindings s order).bound.map BoundNode.node).zip (templates.map Prod.snd) := by
    rw [List.zip_map_left]
    exact List.mem_map_of_mem hpair
  rw [hnodes, ← List.unzip_fst, ← List.unzip_snd, List.zip_unzip] at hmem
  exact lookup_of_mem_templates ht _ hmem

theorem emit_map_bound : (p.emit order registry s timestamp).value.map Emission.bound =
    if order.isPerm p.ids then
      match p.templatesFor registry order, (p.bindings s order).result with
      | .error d, _ => .error (.noTemplate d)
      | .ok _, .error e => .error (.symbol e)
      | .ok _, .ok _ => .ok (p.bindings s order).bound
    else .error .notAnOrder := by
  split
  · rename_i hperm
    have hperm := List.isPerm_iff.1 hperm
    cases ht : p.templatesFor registry order with
    | error d =>
        rw [emit_of_no_template hperm ht]
        rfl
    | ok templates =>
        cases hb : (p.bindings s order).result with
        | error e =>
            rw [emit_of_symbol_error hperm ht hb]
            rfl
        | ok table =>
            have hemit : (p.emit order registry s timestamp).value = .ok _ := emit_of_bindings hperm ht hb
            obtain ⟨-, -, -, -, -, -, hbound⟩ := emit_eq_emission hemit
            rw [hemit]
            exact congrArg Except.ok hbound
  · rename_i hperm
    rw [emit_of_not_perm (mt List.isPerm_iff.2 hperm)]
    rfl

theorem emit_eq_ok {e : Emission} (h : (p.emit order registry s timestamp).value = .ok e) :
    order.Perm p.ids ∧ ∃ table, Binding.Binds p (.empty (scriptReserved s)) (p.nodesIn order) e.bound table := by
  obtain ⟨hperm, templates, table, -, hb, rfl, hbound⟩ := emit_eq_emission h
  refine ⟨hperm, table, ?_⟩
  rw [hbound]
  exact Binding.bindAll_ok hb

theorem emit_nodes {e : Emission} (h : (p.emit order registry s timestamp).value = .ok e) {n : Node} :
    n ∈ e.bound.map BoundNode.node ↔ n ∈ p.nodes := by
  obtain ⟨hperm, table, hbinds⟩ := emit_eq_ok h
  rw [hbinds.map_node, mem_nodesIn_of_perm hperm]

end Pipeline

end Dataflow
