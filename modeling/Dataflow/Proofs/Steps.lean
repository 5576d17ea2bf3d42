import Mathlib.Data.List.Forall2

namespace Dataflow.Steps

variable {ε α β : Type}

@[simp] theorem ok_bind (a : α) (f : α → Except ε β) : (Except.ok a >>= f) = f a := rfl

@[simp] theorem error_bind (e : ε) (f : α → Except ε β) : ((.error e : Except ε α) >>= f) = .error e := rfl

theorem bind_eq_ok {x : Except ε α} {f : α → Except ε β} {b : β} :
    (x >>= f) = .ok b ↔ ∃ a, x = .ok a ∧ f a = .ok b := by
  cases x <;> simp

@[simp] theorem pure_eq_ok {a b : α} : (pure a : Except ε α) = .ok b ↔ a = b :=
  ⟨fun h => Except.ok.inj h, fun h => h ▸ rfl⟩

theorem mapError_eq_ok {δ : Type} {x : Except ε α} {f : ε → δ} {a : α} : x.mapError f = .ok a ↔ x = .ok a := by
  cases x <;> simp [Except.mapError]

theorem mapError_bind_congr {δ : Type} {x y : Except ε α} {f g : α → Except ε β} {k : ε → δ}
    (hxy : x.mapError k = y.mapError k) (hfg : ∀ a, (f a).mapError k = (g a).mapError k) :
    (x >>= f).mapError k = (y >>= g).mapError k := by
  cases x <;> cases y <;> simp_all [Except.mapError]

theorem bind_congr_ok {x : Except ε α} {f g : α → Except ε β} (h : ∀ a, x = .ok a → f a = g a) :
    (x >>= f) = (x >>= g) := by
  cases x with
  | error => rfl
  | ok a => exact h a rfl

/-- What evaluation shows of a result holds of the value in it. -/
theorem exists_ok_of_any {x : Except ε α} {P : α → Prop} [DecidablePred P] (h : x.toOption.any (decide <| P ·) = true) :
    ∃ a, x = .ok a ∧ P a := by
  cases x with
  | error e => cases h
  | ok a => exact ⟨a, rfl, of_decide_eq_true h⟩

theorem mapM_eq_ok {f : α → Except ε β} {l : List α} {bs : List β} :
    l.mapM f = .ok bs ↔ List.Forall₂ (fun a b => f a = .ok b) l bs := by
  induction l generalizing bs with
  | nil =>
      rw [List.mapM_nil, List.forall₂_nil_left_iff]
      exact ⟨fun h => (Except.ok.inj h).symm, fun h => h ▸ rfl⟩
  | cons a l ih =>
      rw [List.mapM_cons, List.forall₂_cons_left_iff]
      constructor
      · intro h
        obtain ⟨b, hb, h⟩ := bind_eq_ok.1 h
        obtain ⟨cs, hcs, h⟩ := bind_eq_ok.1 h
        exact ⟨b, cs, hb, ih.1 hcs, (Except.ok.inj h).symm⟩
      · rintro ⟨b, cs, hb, hcs, rfl⟩
        rw [hb, ih.2 hcs]
        rfl

theorem mem_of_mapM_eq_ok {f : α → Except ε β} {l : List α} {bs : List β} (h : l.mapM f = .ok bs) {b : β} :
    b ∈ bs ↔ ∃ a ∈ l, f a = .ok b := by
  rw [mapM_eq_ok] at h
  induction h with
  | nil => simp
  | cons hab _ ih => rw [List.mem_cons, List.exists_mem_cons_iff, ih, hab, Except.ok.injEq, eq_comm]

theorem exists_mapM_eq_ok {f : α → Except ε β} {l : List α} (h : ∀ a ∈ l, ∃ b, f a = .ok b) :
    ∃ bs, l.mapM f = .ok bs := by
  induction l with
  | nil => exact ⟨[], rfl⟩
  | cons a l ih =>
      obtain ⟨b, hb⟩ := h a List.mem_cons_self
      obtain ⟨bs, hbs⟩ := ih fun x hx => h x (List.mem_cons_of_mem a hx)
      exact ⟨b :: bs, by simp [List.mapM_cons, hb, hbs]⟩

theorem mapM_eq_error {f : α → Except ε β} {l : List α} {e : ε} (h : l.mapM f = .error e) :
    ∃ before a after, l = before ++ a :: after ∧ (∀ x ∈ before, ∃ b, f x = .ok b) ∧ f a = .error e := by
  induction l with
  | nil => cases h
  | cons a l ih =>
      rw [List.mapM_cons] at h
      cases ha : f a with
      | error d =>
          rw [ha] at h
          cases h
          exact ⟨[], a, l, rfl, by simp, ha⟩
      | ok b =>
          rw [ha, ok_bind] at h
          cases hl : l.mapM f with
          | ok bs =>
              rw [hl] at h
              cases h
          | error d =>
              rw [hl] at h
              cases h
              obtain ⟨before, c, after, rfl, hbefore, hc⟩ := ih hl
              refine ⟨a :: before, c, after, rfl, ?_, hc⟩
              intro x hx
              rcases List.mem_cons.1 hx with rfl | hx
              · exact ⟨b, ha⟩
              · exact hbefore x hx

end Dataflow.Steps
