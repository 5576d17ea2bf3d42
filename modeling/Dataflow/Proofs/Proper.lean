import Dataflow.Json.Parser
import Dataflow.Proofs.Fields
import Dataflow.Proofs.Rounding
import Dataflow.Proofs.Steps

namespace Dataflow

namespace Binary64

/-- A number in its canonical form, unless it is not finite. -/
def Proper : Binary64 → Prop
  | .finite _ m e => Canonical m e
  | _ => True

theorem proper_zero (negative : Bool) : (zero negative).Proper :=
  ⟨by norm_num, le_refl _, by decide, .inr rfl⟩

theorem divRound_bounds {num den : Nat} {x : ℚ} {low high : Nat} (hden : 0 < den) (hx : (num : ℚ) = x * den)
    (hlow : low ≤ x) (hhigh : x ≤ high) : low ≤ divRound num den ∧ divRound num den ≤ high := by
  have hden' : (0 : ℚ) < den := by exact_mod_cast hden
  have hlow' : low * den ≤ num := by exact_mod_cast (show (low * den : ℚ) ≤ num by nlinarith)
  have hhigh' : num ≤ high * den := by exact_mod_cast (show (num : ℚ) ≤ high * den by nlinarith)
  have hfloor : low ≤ num / den := (Nat.le_div_iff_mul_le hden).2 hlow'
  have hceil : num / den ≤ high := Nat.div_le_of_le_mul (by rwa [Nat.mul_comm] at hhigh')
  -- The quotient is rounded up only if there is a remainder.
  have hup : num % den ≠ 0 → num / den + 1 ≤ high := by
    intro hrest
    by_contra hlt
    have heq : num / den = high := by omega
    have hsplit := Nat.div_add_mod num den
    rw [heq, Nat.mul_comm] at hsplit
    omega
  unfold divRound
  dsimp only
  split_ifs with h₁ h₂ h₃
  · exact ⟨hfloor, hceil⟩
  · exact ⟨by omega, hup (by omega)⟩
  · exact ⟨hfloor, hceil⟩
  · exact ⟨by omega, hup (by omega)⟩

theorem unit_bounds {num den : Nat} (hnum : 0 < num) (hden : 0 < den) :
    (num / den / 2 ^ unitExponent num den : ℚ) < 2 ^ 53 ∧
      ((2 : ℚ) ^ 52 ≤ num / den / 2 ^ unitExponent num den ∨ unitExponent num den = leastExponent) := by
  have hx : (0 : ℚ) < num / den := by positivity
  have hunit : (0 : ℚ) < 2 ^ unitExponent num den := by positivity
  have hexp := unitExponent_eq hnum hden
  constructor
  · have hlt : (num / den : ℚ) < (2 : Nat) ^ (unitExponent num den + 53) := by
      rw [Int.lt_zpow_iff_log_lt (by decide) hx]
      omega
    rw [div_lt_iff₀ hunit]
    rwa [Nat.cast_ofNat, add_comm, zpow_add₀ (by norm_num)] at hlt
  · rcases le_or_gt (Int.log 2 (num / den : ℚ) - 52) leastExponent with hle | hlt
    · exact .inr (by omega)
    · have hle : ((2 : Nat) : ℚ) ^ (unitExponent num den + 52) ≤ num / den := by
        rw [Int.zpow_le_iff_le_log (by decide) hx]
        omega
      refine .inl ?_
      rw [le_div_iff₀ hunit]
      rwa [Nat.cast_ofNat, add_comm, zpow_add₀ (by norm_num)] at hle

theorem proper_ofRatio (negative : Bool) {num den : Nat} (hden : 0 < den) : (ofRatio negative num den).Proper := by
  rcases Nat.eq_zero_or_pos num with rfl | hnum
  · exact proper_zero negative
  · obtain ⟨hhigh, hlow⟩ := unit_bounds hnum hden
    have hleast : leastExponent ≤ unitExponent num den := by
      rw [unitExponent_eq hnum hden]
      exact le_max_right _ _
    have hden' : 0 < den * powNonneg 2 (unitExponent num den) := Nat.mul_pos hden (powNonneg_pos (by decide) _)
    have hbounds : ∀ {low : Nat}, (low : ℚ) ≤ num / den / 2 ^ unitExponent num den →
        low ≤ divRound (num * powNonneg 2 (-unitExponent num den)) (den * powNonneg 2 (unitExponent num den)) ∧
        divRound (num * powNonneg 2 (-unitExponent num den)) (den * powNonneg 2 (unitExponent num den)) ≤ 2 ^ 53 :=
      fun h => divRound_bounds hden' (cast_scaled hden _) h (by exact_mod_cast hhigh.le)
    unfold ofRatio
    rw [if_neg hnum.ne']
    extract_lets u q
    have hq : q ≤ 2 ^ 53 := (@hbounds 0 (by positivity)).2
    have hfull : 2 ^ 52 ≤ q ∨ u = leastExponent := hlow.imp (fun h => (hbounds (by exact_mod_cast h)).1) id
    by_cases hcarry : q = powNonneg 2 53
    · rw [if_pos hcarry, powNonneg_52]
      change Proper (if greatestExponent < u + 1 then _ else _)
      split_ifs with hgreatest
      · trivial
      · exact ⟨by norm_num, hleast.trans (by omega), not_lt.1 hgreatest, .inl (le_refl _)⟩
    · rw [if_neg hcarry]
      rw [powNonneg_53] at hcarry
      change Proper (if greatestExponent < u then _ else _)
      split_ifs with hgreatest
      · trivial
      · exact ⟨lt_of_le_of_ne hq hcarry, hleast, not_lt.1 hgreatest, hfull⟩

theorem proper_ofDecimal (negative : Bool) (digits : Nat) (exponent : Int) :
    (ofDecimal negative digits exponent).Proper := by
  unfold ofDecimal
  extract_lets magnitude
  split_ifs
  · exact proper_zero negative
  · trivial
  · exact proper_ofRatio negative (powNonneg_pos (by decide) _)

end Binary64

namespace Json

/-- Every number is in its canonical form, and no object has a key twice. -/
inductive Proper : Json → Prop where
  | null : Proper .null
  | bool (b : Bool) : Proper (.bool b)
  | int (n : Int) : Proper (.int n)
  | float {x : Binary64} (h : x.Proper) : Proper (.float x)
  | str (s : String) : Proper (.str s)
  | arr {items : List Json} (h : ∀ v ∈ items, Proper v) : Proper (.arr items)
  | obj {fields : Fields} (hkeys : (fields.map Prod.fst).Nodup) (h : ∀ entry ∈ fields, Proper entry.2) :
      Proper (.obj fields)

def Token.Proper : Token → Prop
  | .scalar v => v.Proper
  | _ => True

theorem proper_numeral (n : Numeral) : n.token.Proper := by
  unfold Numeral.token
  split
  · split
    · exact .int _
    · trivial
  · exact .float (Binary64.proper_ofDecimal _ _ _)

theorem proper_readText {s : StringScan} {pos : Nat} {c : Char} {t : Token} (h : s.readText pos c = .inr t) :
    t.Proper := by
  unfold StringScan.readText at h
  split_ifs at h <;> cases h <;> trivial

theorem proper_read {s : StringScan} {pos : Nat} {c : Char} {t : Token} (h : s.read pos c = .inr t) : t.Proper := by
  unfold StringScan.read at h
  split at h
  · exact proper_readText h
  · split_ifs at h
    split at h <;> cases h
    trivial
  · split_ifs at h
    · exact proper_readText h
    · split at h <;> cases h
      trivial

theorem proper_scanString (start pos : Nat) (s : StringScan) (cs : List Char) :
    (scanString start s pos cs).token.Proper := by
  induction cs generalizing s pos with
  | nil => trivial
  | cons c cs ih =>
      rw [scanString]
      split
      · exact ih _ _
      · trivial
      · rename_i h
        exact proper_read h

theorem proper_punctuation {c : Char} {t : Token} (h : punctuation? c = some t) : t.Proper := by
  unfold punctuation? at h
  split at h <;> cases h <;> trivial

theorem proper_scanWord {cs rest : List Char} {n : Nat} {v : Json} (h : scanWord? cs = some (n, v, rest)) :
    v.Proper := by
  obtain ⟨w, hw, heq⟩ := Option.map_eq_some_iff.1 h
  have hwords : ∀ w ∈ words, w.2.Proper := by
    simp only [words, List.forall_mem_cons]
    exact ⟨.null, .bool _, .bool _, .float trivial, .float trivial, .float trivial, by simp⟩
  cases heq
  exact hwords w (List.mem_of_find?_eq_some hw)

theorem proper_scanToken (pos : Nat) (c : Char) (cs : List Char) : (scanToken pos c cs).token.Proper := by
  unfold scanToken
  split
  · rename_i h
    exact proper_punctuation h
  · split
    · exact proper_scanString _ _ _ _
    · split
      · rename_i h
        exact proper_scanWord h
      · split
        · split
          · trivial
          · exact proper_numeral _
        · trivial

theorem proper_scan (pos : Nat) (cs : List Char) : ∀ l ∈ scan pos cs, l.token.Proper := by
  fun_induction scan pos cs with
  | case1 => simp
  | case2 _ _ _ _ ih => exact ih
  | case3 _ _ _ _ ih => exact List.forall_mem_cons.2 ⟨proper_scanToken _ _ _, ih⟩

theorem proper_obj_set {fields : Fields} {key : String} {v : Json} (h : (Json.obj fields).Proper) (hv : v.Proper) :
    (Json.obj (fields.set key v)).Proper := by
  cases h with
  | obj hkeys hfields =>
      induction fields with
      | nil => exact .obj (by simp [Fields.set]) (by simpa [Fields.set] using hv)
      | cons entry fields ih =>
          rw [List.map_cons, List.nodup_cons] at hkeys
          obtain ⟨hentry, hrest⟩ := List.forall_mem_cons.1 hfields
          rw [Fields.set]
          split_ifs with hname
          · exact .obj (by simpa using hkeys) (List.forall_mem_cons.2 ⟨hv, hrest⟩)
          · cases ih hkeys.2 hrest with
            | obj hkeys' hrest' =>
                refine .obj ?_ (List.forall_mem_cons.2 ⟨hentry, hrest'⟩)
                rw [List.map_cons, List.nodup_cons, Fields.mem_map_fst_set]
                exact ⟨not_or.2 ⟨hname, hkeys.1⟩, hkeys'⟩

def Frame.Proper : Frame → Prop
  | .array items => ∀ v ∈ items, v.Proper
  | .object fields _ => (Json.obj fields).Proper

namespace Progress

def Proper : Progress → Prop
  | .going frames _ => ∀ frame ∈ frames, frame.Proper
  | .done v => v.Proper

theorem proper_deliver {v : Json} {frames : List Frame} (hv : v.Proper) (h : ∀ frame ∈ frames, frame.Proper) :
    (deliver v frames).Proper := by
  match frames with
  | [] => exact hv
  | .array items :: frames =>
      obtain ⟨hitems, hframes⟩ := List.forall_mem_cons.1 h
      exact List.forall_mem_cons.2 ⟨List.forall_mem_cons.2 ⟨hv, hitems⟩, hframes⟩
  | .object fields key :: frames =>
      obtain ⟨hfields, hframes⟩ := List.forall_mem_cons.1 h
      exact List.forall_mem_cons.2 ⟨proper_obj_set hfields hv, hframes⟩

theorem proper_stepValue {frames : List Frame} {l : Lexeme} {q : Progress} (hframes : ∀ frame ∈ frames, frame.Proper)
    (hl : l.token.Proper) (h : stepValue frames l = .ok q) : q.Proper := by
  unfold stepValue at h
  split at h <;> cases h
  · exact List.forall_mem_cons.2 ⟨by simp [Frame.Proper], hframes⟩
  · exact List.forall_mem_cons.2 ⟨.obj (by simp) (by simp), hframes⟩
  · exact proper_deliver (.str _) hframes
  · rename_i htoken
    rw [htoken] at hl
    exact proper_deliver hl hframes

theorem proper_stepName {frames : List Frame} {l : Lexeme} {q : Progress} (hframes : ∀ frame ∈ frames, frame.Proper)
    (h : stepName frames l = .ok q) : q.Proper := by
  unfold stepName at h
  split at h <;> cases h
  obtain ⟨hfields, houter⟩ := List.forall_mem_cons.1 hframes
  exact List.forall_mem_cons.2 ⟨hfields, houter⟩

theorem proper_stepComma {frames : List Frame} {l : Lexeme} {q : Progress} (hframes : ∀ frame ∈ frames, frame.Proper)
    (h : stepComma frames l = .ok q) : q.Proper := by
  unfold stepComma at h
  split at h <;> cases h
  · exact hframes
  · exact hframes
  · obtain ⟨hitems, houter⟩ := List.forall_mem_cons.1 hframes
    exact proper_deliver (.arr fun v hv => hitems v (List.mem_reverse.1 hv)) houter
  · obtain ⟨hfields, houter⟩ := List.forall_mem_cons.1 hframes
    exact proper_deliver hfields houter

theorem proper_step {p q : Progress} {l : Lexeme} (hp : p.Proper) (hl : l.token.Proper) (h : p.step l = .ok q) :
    q.Proper := by
  unfold step at h
  split at h
  · cases h
  · exact proper_stepValue hp hl h
  · split at h
    · cases h
      exact proper_deliver (.arr (by simp)) (List.forall_mem_cons.1 hp).2
    · exact proper_stepValue hp hl h
  · exact proper_stepName hp h
  · split at h
    · cases h
      exact proper_deliver (.obj (by simp) (by simp)) (List.forall_mem_cons.1 hp).2
    · exact proper_stepName hp h
  · unfold stepColon at h
    split at h <;> cases h
    exact hp
  · exact proper_stepComma hp h

theorem proper_foldlM {ls : List Lexeme} {p q : Progress} (hp : p.Proper) (hls : ∀ l ∈ ls, l.token.Proper)
    (h : ls.foldlM step p = .ok q) : q.Proper := by
  induction ls generalizing p with
  | nil =>
      cases h
      exact hp
  | cons l ls ih =>
      obtain ⟨hl, hls⟩ := List.forall_mem_cons.1 hls
      rw [List.foldlM_cons] at h
      obtain ⟨r, hr, hrest⟩ := Steps.bind_eq_ok.1 h
      exact ih (proper_step hp hl hr) hls hrest

end Progress

theorem proper_parse {text : String} {v : Json} (h : parse text = .ok v) : v.Proper := by
  unfold parse read at h
  split at h
  · cases h
  · cases hread : (scan 0 text.toList).foldlM Progress.step Progress.start with
    | error f =>
        rw [hread] at h
        cases h
    | ok p =>
        have hp : p.Proper := Progress.proper_foldlM (by simp [Progress.start, Progress.Proper]) (proper_scan _ _) hread
        rw [hread] at h
        cases p with
        | done w =>
            cases h
            exact hp
        | going frames due => cases due <;> cases h

end Json

end Dataflow
