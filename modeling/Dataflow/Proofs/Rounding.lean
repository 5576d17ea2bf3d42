import Dataflow.Decimal.Shortest
import Mathlib.Algebra.Order.Field.Power
import Mathlib.Data.Int.Log
import Mathlib.Data.Nat.Cast.Order.Field
import Mathlib.Data.Rat.Floor
import Mathlib.Tactic.FieldSimp
import Mathlib.Tactic.Linarith
import Mathlib.Tactic.NormNum
import Mathlib.Tactic.Ring

namespace Dataflow

namespace Binary64

/-- The form in which each binary64 number has one mantissa and one exponent. -/
structure Canonical (m : Nat) (e : Int) : Prop where
  bound : m < 2 ^ 53
  least : leastExponent ≤ e
  greatest : e ≤ greatestExponent
  full : 2 ^ 52 ≤ m ∨ e = leastExponent

/-- How far below `m` the numbers reach that round to it, in quarters of the unit. -/
def below (m : Nat) (e : Int) : Nat := if m = powNonneg 2 52 ∧ leastExponent < e then 1 else 2

/-- The number `x` rounds to `m * 2 ^ e`, as measured in quarters of the unit. The ends count if `m` is even. -/
structure Rounds (x : ℚ) (m : Nat) (e : Int) : Prop where
  low : (4 * m - below m e) * 2 ^ (e - 2) ≤ x
  high : x ≤ (4 * m + 2) * 2 ^ (e - 2)
  inner : m % 2 = 0 ∨ (4 * m - below m e) * 2 ^ (e - 2) < x ∧ x < (4 * m + 2) * 2 ^ (e - 2)

theorem powNonneg_pos {b : Nat} (hb : 0 < b) (e : Int) : 0 < powNonneg b e := Nat.pow_pos hb

theorem powNonneg_natCast (b n : Nat) : powNonneg b n = b ^ n := by simp [powNonneg]

theorem powNonneg_le {b n : Nat} {e : Int} (hb : 0 < b) (h : e ≤ n) : powNonneg b e ≤ b ^ n :=
  Nat.pow_le_pow_right hb (Int.toNat_le.2 h)

theorem powNonneg_52 : powNonneg 2 52 = 2 ^ 52 := powNonneg_natCast 2 52

theorem powNonneg_53 : powNonneg 2 53 = 2 ^ 53 := powNonneg_natCast 2 53

theorem powNonneg_eq_mul {b : Nat} (hb : 0 < b) (e : Int) :
    (powNonneg b e : ℚ) = b ^ e * powNonneg b (-e) := by
  have hb' : (b : ℚ) ≠ 0 := by exact_mod_cast hb.ne'
  rcases Int.eq_nat_or_neg e with ⟨n, rfl | rfl⟩
  · simp [powNonneg]
  · simp [powNonneg, hb']

theorem divRound_eq {num den q : Nat} {x : ℚ} (hden : 0 < den) (hx : (num : ℚ) = x * den) (hlow : q - 1 / 2 ≤ x)
    (hhigh : x ≤ q + 1 / 2) (hinner : q % 2 = 0 ∨ q - 1 / 2 < x ∧ x < q + 1 / 2) : divRound num den = q := by
  have hden' : (0 : ℚ) < den := by exact_mod_cast hden
  -- The same bounds in natural numbers, with both sides times the double of the denominator.
  have hlow' : 2 * q * den ≤ 2 * num + den := by
    exact_mod_cast (show (2 * q * den : ℚ) ≤ 2 * num + den by nlinarith)
  have hhigh' : 2 * num ≤ 2 * q * den + den := by
    exact_mod_cast (show (2 * num : ℚ) ≤ 2 * q * den + den by nlinarith)
  have hinner' : q % 2 = 0 ∨ 2 * q * den < 2 * num + den ∧ 2 * num < 2 * q * den + den := by
    refine hinner.imp id fun h => ⟨?_, ?_⟩
    · exact_mod_cast (show (2 * q * den : ℚ) < 2 * num + den by nlinarith)
    · exact_mod_cast (show (2 * num : ℚ) < 2 * q * den + den by nlinarith)
  have hsplit : num = den * (num / den) + num % den := (Nat.div_add_mod num den).symm
  have hmod : num % den < den := Nat.mod_lt _ hden
  unfold divRound
  generalize num / den = a at hsplit
  generalize num % den = r at hsplit hmod
  have hfloor : a ≤ q := by
    by_contra hlt
    have : (q + 1) * den ≤ a * den := Nat.mul_le_mul_right den (by omega)
    nlinarith
  have hceil : q ≤ a + 1 := by
    by_contra hlt
    have : (a + 2) * den ≤ q * den := Nat.mul_le_mul_right den (by omega)
    nlinarith
  obtain rfl | rfl : q = a ∨ q = a + 1 := by omega
  · have hr : 2 * r ≤ den := by nlinarith
    have hr' : q % 2 = 0 ∨ 2 * r < den := hinner'.imp id fun h => by nlinarith
    dsimp only
    split_ifs <;> omega
  · have hr : den ≤ 2 * r := by nlinarith
    have hr' : (a + 1) % 2 = 0 ∨ den < 2 * r := hinner'.imp id fun h => by nlinarith
    dsimp only
    split_ifs <;> omega

section

variable {num den m : Nat} {e : Int}

theorem scaled_quotient (hden : 0 < den) (e : Int) :
    (num * powNonneg 2 (-e) : ℚ) = num / den / 2 ^ e * (den * powNonneg 2 e) := by
  have hden' : (den : ℚ) ≠ 0 := by exact_mod_cast hden.ne'
  rw [powNonneg_eq_mul (b := 2) (by decide) e]
  field_simp
  push_cast
  rfl

theorem log2_bounds {n : Nat} (hn : 0 < n) : (2 : ℚ) ^ (n.log2 : Int) ≤ n ∧ (n : ℚ) < 2 ^ ((n.log2 : Int) + 1) := by
  constructor
  · exact_mod_cast Nat.log2_self_le hn.ne'
  · exact_mod_cast Nat.lt_log2_self (n := n)

theorem log_eq {x : ℚ} (hx : 0 < x) (hlow : (2 : ℚ) ^ e ≤ x) (hhigh : x < 2 ^ (e + 1)) : Int.log 2 x = e := by
  have hle := (Int.zpow_le_iff_le_log (b := 2) (by decide) hx).1 (by exact_mod_cast hlow)
  have hlt := (Int.lt_zpow_iff_log_lt (b := 2) (by decide) hx).1 (by exact_mod_cast hhigh)
  omega

theorem unitExponent_eq (hnum : 0 < num) (hden : 0 < den) :
    unitExponent num den = max (Int.log 2 (num / den : ℚ) - 52) leastExponent := by
  have hx : (0 : ℚ) < num / den := by positivity
  obtain ⟨hn, hn'⟩ := log2_bounds hnum
  obtain ⟨hd, hd'⟩ := log2_bounds hden
  have hlow : (2 : ℚ) ^ ((num.log2 : Int) - den.log2 - 1) ≤ num / den := by
    rw [show (num.log2 : Int) - den.log2 - 1 = num.log2 - (den.log2 + 1) by ring, zpow_sub₀ (by norm_num)]
    gcongr
  have hhigh : (num / den : ℚ) < 2 ^ ((num.log2 : Int) - den.log2 + 1) := by
    rw [show (num.log2 : Int) - den.log2 + 1 = num.log2 + 1 - den.log2 by ring, zpow_sub₀ (by norm_num)]
    gcongr
  unfold unitExponent
  dsimp only
  generalize (num.log2 : Int) - den.log2 = k at hlow hhigh
  have htest : num * powNonneg 2 (-(k - 52)) < den * powNonneg 2 (k - 52) * powNonneg 2 52 ↔
      (num / den : ℚ) < 2 ^ k := by
    have hunit : (0 : ℚ) < den * powNonneg 2 (k - 52) := by
      exact_mod_cast Nat.mul_pos hden (powNonneg_pos (by decide) _)
    have hpow : (powNonneg 2 52 : ℚ) = 2 ^ (52 : Int) := by
      rw [powNonneg_52]
      norm_num
    rw [← Nat.cast_lt (α := ℚ)]
    push_cast
    rw [scaled_quotient hden, hpow, mul_comm (_ * _) ((2 : ℚ) ^ (52 : Int)), mul_lt_mul_iff_left₀ hunit,
      div_lt_iff₀ (by positivity), ← zpow_add₀ (by norm_num)]
    simp
  have hlog : (if num * powNonneg 2 (-(k - 52)) < den * powNonneg 2 (k - 52) * powNonneg 2 52 then k - 52 - 1
      else k - 52) = Int.log 2 (num / den : ℚ) - 52 := by
    split_ifs with h
    · rw [log_eq (e := k - 1) hx hlow (by simpa using htest.1 h)]
      ring
    · rw [log_eq (e := k) hx (not_lt.1 fun hlt => h (htest.2 hlt)) hhigh]
  rw [hlog]
  split_ifs <;> omega

theorem Rounds.scaled {x : ℚ} (h : Rounds x m e) : m - below m e / 4 ≤ x / 2 ^ e ∧ x / 2 ^ e ≤ m + 1 / 2 ∧
    (m % 2 = 0 ∨ m - below m e / 4 < x / 2 ^ e ∧ x / 2 ^ e < m + 1 / 2) := by
  obtain ⟨hlow, hhigh, hinner⟩ := h
  have hunit : (0 : ℚ) < 2 ^ e := by positivity
  have hquarter : (2 : ℚ) ^ (e - 2) = 2 ^ e / 4 := by
    rw [zpow_sub₀ (by norm_num)]
    norm_num
  rw [hquarter] at hlow hhigh hinner
  refine ⟨?_, ?_, hinner.imp id fun h => ⟨?_, ?_⟩⟩
  · rw [le_div_iff₀ hunit]
    linarith
  · rw [div_le_iff₀ hunit]
    linarith
  · rw [lt_div_iff₀ hunit]
    linarith
  · rw [div_lt_iff₀ hunit]
    linarith

theorem below_le (m : Nat) (e : Int) : (below m e : ℚ) ≤ 2 := by
  unfold below
  split_ifs <;> norm_num

theorem unitExponent_of_bounds (hnum : 0 < num) (hden : 0 < den) (hleast : leastExponent ≤ e)
    (hhigh : (num / den / 2 ^ e : ℚ) < 2 ^ 53) (hlow : (2 : ℚ) ^ 52 ≤ num / den / 2 ^ e ∨ e = leastExponent) :
    unitExponent num den = e := by
  have hx : (0 : ℚ) < num / den := by positivity
  have hunit : (0 : ℚ) < 2 ^ e := by positivity
  have hlt : Int.log 2 (num / den : ℚ) < e + 53 := by
    rw [← Int.lt_zpow_iff_log_lt (by decide) hx, Nat.cast_ofNat, zpow_add₀ (by norm_num), mul_comm]
    exact (div_lt_iff₀ hunit).1 hhigh
  rw [unitExponent_eq hnum hden]
  rcases hlow with hlow | rfl
  · have hle : e + 52 ≤ Int.log 2 (num / den : ℚ) := by
      rw [← Int.zpow_le_iff_le_log (by decide) hx, Nat.cast_ofNat, zpow_add₀ (by norm_num), mul_comm]
      exact (le_div_iff₀ hunit).1 hlow
    omega
  · omega

theorem cast_scaled (hden : 0 < den) (k : Int) :
    ((num * powNonneg 2 (-k) : Nat) : ℚ) = num / den / 2 ^ k * (den * powNonneg 2 k : Nat) := by
  push_cast
  exact scaled_quotient hden k

section

variable {negative : Bool} (hnum : 0 < num) (hexp : unitExponent num den = e)
include hnum hexp

theorem ofRatio_eq (hround : divRound (num * powNonneg 2 (-e)) (den * powNonneg 2 e) = m) (hcarry : m ≠ 2 ^ 53)
    (hgreatest : e ≤ greatestExponent) : ofRatio negative num den = .finite negative m e := by
  unfold ofRatio
  rw [if_neg hnum.ne', hexp]
  extract_lets u q
  have hq : q = m := hround
  rw [hq, if_neg (powNonneg_53 ▸ hcarry)]
  exact if_neg (not_lt.2 hgreatest)

theorem ofRatio_carry (hround : divRound (num * powNonneg 2 (-e)) (den * powNonneg 2 e) = 2 ^ 53)
    (hgreatest : e + 1 ≤ greatestExponent) : ofRatio negative num den = .finite negative (2 ^ 52) (e + 1) := by
  unfold ofRatio
  rw [if_neg hnum.ne', hexp]
  extract_lets u q
  rw [if_pos (hround.trans powNonneg_53.symm), powNonneg_52]
  exact if_neg (not_lt.2 hgreatest)

end

theorem ofRatio_of_rounds {negative : Bool} (hden : 0 < den) (hm : 0 < m) (hc : Canonical m e)
    (h : Rounds (num / den) m e) : ofRatio negative num den = .finite negative m e := by
  obtain ⟨hlow, hhigh, hinner⟩ := h.scaled
  have hbelow := below_le m e
  have hm' : (1 : ℚ) ≤ m := by exact_mod_cast hm
  have hbound : (m + 1 : ℚ) ≤ 2 ^ 53 := by exact_mod_cast hc.bound
  have hnum : 0 < num := by
    rcases Nat.eq_zero_or_pos num with rfl | hpos
    · simp only [Nat.cast_zero, zero_div] at hlow
      linarith
    · exact hpos
  have hden' : ∀ k, 0 < den * powNonneg 2 k := fun k => Nat.mul_pos hden (powNonneg_pos (by decide) k)
  by_cases hfull : (2 : ℚ) ^ 52 ≤ num / den / 2 ^ e ∨ e = leastExponent
  · have hexp : unitExponent num den = e := unitExponent_of_bounds hnum hden hc.least (by linarith) hfull
    refine ofRatio_eq hnum hexp ?_ hc.bound.ne hc.greatest
    exact divRound_eq (hden' e) (cast_scaled hden e) (by linarith) hhigh (hinner.imp id fun h => ⟨by linarith, h.2⟩)
  · -- Only below a power of two has the number a smaller unit, in which it is rounded up to the next power.
    rw [not_or, not_le] at hfull
    obtain ⟨hlt, hne⟩ := hfull
    have hleast : leastExponent < e := lt_of_le_of_ne hc.least (Ne.symm hne)
    obtain rfl : m = 2 ^ 52 := by
      have hle : m < 2 ^ 52 + 1 := by exact_mod_cast (show (m : ℚ) < 2 ^ 52 + 1 by linarith)
      have := hc.full.resolve_right hne
      omega
    have hbelow' : below (2 ^ 52) e = 1 := if_pos ⟨powNonneg_52.symm, hleast⟩
    have hhalf : (num / den / 2 ^ (e - 1) : ℚ) = 2 * (num / den / 2 ^ e) := by
      rw [zpow_sub_one₀ (by norm_num)]
      field_simp
    rw [hbelow'] at hlow
    push_cast at hlow
    have hexp : unitExponent num den = e - 1 := by
      refine unitExponent_of_bounds hnum hden (by omega) ?_ (.inl ?_)
      · rw [hhalf]
        linarith
      · rw [hhalf]
        linarith
    have hround : divRound (num * powNonneg 2 (-(e - 1))) (den * powNonneg 2 (e - 1)) = 2 ^ 53 := by
      refine divRound_eq (hden' _) (cast_scaled hden _) ?_ ?_ (.inl (by norm_num))
      · rw [hhalf]
        push_cast
        linarith
      · rw [hhalf]
        push_cast
        linarith
    have hnext : e - 1 + 1 = e := sub_add_cancel e 1
    rw [ofRatio_carry hnum hexp hround (hnext.symm ▸ hc.greatest), hnext]

end

theorem toDigits_bounds {n : Nat} (hn : 0 < n) :
    (10 : ℚ) ^ ((Nat.toDigits 10 n).length - 1 : Int) ≤ n ∧ (n : ℚ) < 10 ^ ((Nat.toDigits 10 n).length : Int) := by
  have hpos : 0 < (Nat.toDigits 10 n).length := Nat.length_toDigits_pos
  constructor
  · obtain ⟨k, hk⟩ : ∃ k, (Nat.toDigits 10 n).length = k + 1 := ⟨_, (Nat.succ_pred_eq_of_pos hpos).symm⟩
    rw [hk]
    rcases Nat.eq_zero_or_pos k with rfl | hkpos
    · have hone : (1 : ℚ) ≤ n := by exact_mod_cast hn
      simpa using hone
    · have hlt : ¬n < 10 ^ k := fun h => by
        have := (Nat.length_toDigits_le_iff (b := 10) (by decide) hkpos).2 h
        omega
      have hle : (10 : ℚ) ^ k ≤ n := by exact_mod_cast not_lt.1 hlt
      simpa using hle
  · exact_mod_cast (Nat.length_toDigits_le_iff (b := 10) (by decide) hpos).1 (le_refl _)

theorem two_pow_1024_lt : (2 : Nat) ^ 1024 < 10 ^ 310 := by decide +kernel

theorem two_pow_1075_lt : (2 : Nat) ^ 1075 < 10 ^ 330 := by decide +kernel

theorem Rounds.range {x : ℚ} {m : Nat} {e : Int} (hm : 0 < m) (hc : Canonical m e) (h : Rounds x m e) :
    (10 : ℚ) ^ (-330 : Int) ≤ x ∧ x < 10 ^ (310 : Int) := by
  have hbelow := below_le m e
  have hm' : (1 : ℚ) ≤ m := by exact_mod_cast hm
  have hbound : (m + 1 : ℚ) ≤ 2 ^ 53 := by exact_mod_cast hc.bound
  have hleast : -1076 ≤ e - 2 := by
    have := hc.least
    unfold leastExponent at this
    omega
  have hgreatest : e - 2 ≤ 969 := by
    have := hc.greatest
    unfold greatestExponent at this
    omega
  constructor
  · calc (10 : ℚ) ^ (-330 : Int) ≤ 2 ^ (-1075 : Int) := by
          rw [zpow_neg, zpow_neg]
          gcongr
          exact_mod_cast two_pow_1075_lt.le
      _ = 2 * 2 ^ (-1076 : Int) := by rw [← zpow_one_add₀ (by norm_num)]; norm_num
      _ ≤ (4 * m - below m e) * 2 ^ (e - 2) := by
        gcongr
        · linarith
        · linarith
        · norm_num
      _ ≤ x := h.low
  · calc x ≤ (4 * m + 2) * 2 ^ (e - 2) := h.high
      _ ≤ 2 ^ (55 : Int) * 2 ^ (969 : Int) := by
        gcongr
        · norm_num at hbound ⊢
          linarith
        · norm_num
      _ = 2 ^ (1024 : Int) := (zpow_add₀ (by norm_num) _ _).symm
      _ < 10 ^ (310 : Int) := by exact_mod_cast two_pow_1024_lt

theorem ofDecimal_of_rounds {negative : Bool} {digits m : Nat} {exponent e : Int} (hm : 0 < m) (hc : Canonical m e)
    (h : Rounds (digits * 10 ^ exponent) m e) : ofDecimal negative digits exponent = .finite negative m e := by
  obtain ⟨hlow, hhigh⟩ := h.range hm hc
  have hpower : (0 : ℚ) < 10 ^ exponent := by positivity
  have hdigits : 0 < digits := by
    rcases Nat.eq_zero_or_pos digits with rfl | hpos
    · rw [Nat.cast_zero, zero_mul] at hlow
      exact absurd hlow (not_le.2 (by positivity))
    · exact hpos
  obtain ⟨hfirst, hlast⟩ := toDigits_bounds hdigits
  have hsmall : -330 < (Nat.toDigits 10 digits).length + exponent := by
    have : (10 : ℚ) ^ (-330 : Int) < 10 ^ ((Nat.toDigits 10 digits).length + exponent) := by
      calc (10 : ℚ) ^ (-330 : Int) ≤ digits * 10 ^ exponent := hlow
        _ < 10 ^ ((Nat.toDigits 10 digits).length : Int) * 10 ^ exponent := by gcongr
        _ = 10 ^ ((Nat.toDigits 10 digits).length + exponent) := (zpow_add₀ (by norm_num) _ _).symm
    exact (zpow_lt_zpow_iff_right₀ (by norm_num)).1 this
  have hlarge : (Nat.toDigits 10 digits).length - 1 + exponent < 310 := by
    have : (10 : ℚ) ^ ((Nat.toDigits 10 digits).length - 1 + exponent) < 10 ^ (310 : Int) := by
      calc (10 : ℚ) ^ ((Nat.toDigits 10 digits).length - 1 + exponent)
          = 10 ^ ((Nat.toDigits 10 digits).length - 1 : Int) * 10 ^ exponent := zpow_add₀ (by norm_num) _ _
        _ ≤ digits * 10 ^ exponent := by gcongr
        _ < 10 ^ (310 : Int) := hhigh
    exact (zpow_lt_zpow_iff_right₀ (by norm_num)).1 this
  rw [ofDecimal, if_neg (by omega), if_neg (by omega)]
  refine ofRatio_of_rounds (powNonneg_pos (by decide) _) hm hc ?_
  have hratio : ((digits * powNonneg 10 exponent : Nat) / (powNonneg 10 (-exponent) : Nat) : ℚ) =
      digits * 10 ^ exponent := by
    have hne : (powNonneg 10 (-exponent) : ℚ) ≠ 0 := by exact_mod_cast (powNonneg_pos (by decide) _).ne'
    push_cast
    rw [powNonneg_eq_mul (by decide) exponent]
    field_simp
    norm_num
  rwa [hratio]

end Binary64

namespace Decimal

open Binary64

/-- The distance between the points `10 ^ k` apart, where `quarter` is that of quarters of the unit `2 ^ e`. -/
def grid (e k : Int) : Nat := powNonneg 10 k * powNonneg 2 (2 - e)

def quarter (e k : Int) : Nat := powNonneg 10 (-k) * powNonneg 2 (e - 2)

section

variable {m t a : Nat} {e k : Int}

theorem grid_pos (e k : Int) : 0 < grid e k :=
  Nat.mul_pos (powNonneg_pos (by decide) _) (powNonneg_pos (by decide) _)

theorem quarter_pos (e k : Int) : 0 < quarter e k :=
  Nat.mul_pos (powNonneg_pos (by decide) _) (powNonneg_pos (by decide) _)

theorem cast_grid (e k : Int) : (grid e k : ℚ) = 10 ^ k / 2 ^ (e - 2) * quarter e k := by
  have hinv : (2 : ℚ) ^ (2 - e) = (2 ^ (e - 2))⁻¹ := by rw [← zpow_neg, neg_sub]
  unfold grid quarter
  push_cast
  rw [powNonneg_eq_mul (b := 10) (by decide) k, powNonneg_eq_mul (b := 2) (by decide) (2 - e), neg_sub]
  push_cast
  rw [hinv]
  ring

theorem grid_le_iff : t * grid e k ≤ a * quarter e k ↔ (t * 10 ^ k : ℚ) ≤ a * 2 ^ (e - 2) := by
  have hquarter : (0 : ℚ) < quarter e k := by exact_mod_cast quarter_pos e k
  have hunit : (0 : ℚ) < 2 ^ (e - 2) := by positivity
  rw [← Nat.cast_le (α := ℚ), Nat.cast_mul, Nat.cast_mul, cast_grid, ← mul_assoc, mul_le_mul_iff_left₀ hquarter,
    ← mul_div_assoc, div_le_iff₀ hunit]

theorem le_grid_iff : a * quarter e k ≤ t * grid e k ↔ a * 2 ^ (e - 2) ≤ (t * 10 ^ k : ℚ) := by
  have hquarter : (0 : ℚ) < quarter e k := by exact_mod_cast quarter_pos e k
  have hunit : (0 : ℚ) < 2 ^ (e - 2) := by positivity
  rw [← Nat.cast_le (α := ℚ), Nat.cast_mul, Nat.cast_mul, cast_grid, ← mul_assoc, mul_le_mul_iff_left₀ hquarter,
    ← mul_div_assoc, le_div_iff₀ hunit]

theorem below_lt (hm : 0 < m) : below m e < 4 * m := by
  unfold below
  split_ifs <;> omega

theorem below_pos (m : Nat) (e : Int) : 0 < below m e := by
  unfold below
  split_ifs <;> omega

theorem rounds_of_grid (hm : 0 < m) (hlow : (4 * m - below m e) * quarter e k ≤ t * grid e k)
    (hhigh : t * grid e k ≤ (4 * m + 2) * quarter e k)
    (hinner : m % 2 = 0 ∨
      (4 * m - below m e) * quarter e k < t * grid e k ∧ t * grid e k < (4 * m + 2) * quarter e k) :
    Rounds (t * 10 ^ k) m e := by
  have hcast : ((4 * m - below m e : Nat) : ℚ) = 4 * m - below m e := by
    rw [Nat.cast_sub (below_lt hm).le]
    push_cast
    rfl
  rw [le_grid_iff, hcast] at hlow
  rw [grid_le_iff] at hhigh
  rw [← not_le, ← not_le, grid_le_iff, le_grid_iff, not_le, not_le, hcast] at hinner
  push_cast at hhigh hinner
  exact ⟨hlow, hhigh, hinner⟩

theorem rounds_of_onGrid? (hm : 0 < m) {d : Decimal} (h : onGrid? m e k (below m e) = some d) :
    Rounds (d.digits * 10 ^ d.exponent) m e := by
  unfold onGrid? at h
  extract_lets grid quarter value low high n even lowHit highHit toLow toHigh at h
  have hquarter : 0 < quarter := quarter_pos e k
  have hfloor : n * grid ≤ value := Nat.div_mul_le_self value grid
  have hceil : value < (n + 1) * grid := Nat.lt_mul_of_div_lt (Nat.lt_succ_self n) (grid_pos e k)
  have hbelow : low < value := Nat.mul_lt_mul_of_pos_right (by have := below_pos m e; omega) hquarter
  have habove : value < high := Nat.mul_lt_mul_of_pos_right (by omega) hquarter
  -- An end counts only for an even mantissa.
  have hend : ∀ {a b : Nat}, (if even then a ≤ b else a < b) → a ≤ b ∧ (m % 2 = 0 ∨ a < b) := by
    intro a b hab
    split_ifs at hab with heven
    · exact ⟨hab, .inl heven⟩
    · exact ⟨hab.le, .inr hab⟩
  split_ifs at h with hl hh
  · cases h
    obtain ⟨hle, hlt⟩ := hend hl.1
    exact rounds_of_grid hm hle (hfloor.trans habove.le) (hlt.imp id fun hlt => ⟨hlt, hfloor.trans_lt habove⟩)
  · cases h
    obtain ⟨hle, hlt⟩ := hend hh
    exact rounds_of_grid hm (hbelow.trans hceil).le hle (hlt.imp id fun hlt => ⟨hbelow.trans hceil, hlt⟩)

theorem onGrid?_isSome (hm : 0 < m) (hk : (10 : ℚ) ^ k < (below m e + 2) * 2 ^ (e - 2)) :
    (onGrid? m e k (below m e)).isSome := by
  have hfine : grid e k < (below m e + 2) * quarter e k := by
    rw [← not_le, ← one_mul (grid e k), le_grid_iff, not_le]
    push_cast
    rwa [one_mul]
  unfold onGrid?
  extract_lets grid quarter value low high n even lowHit highHit toLow toHigh
  have hend : ∀ {a b : Nat}, ¬(if even then a ≤ b else a < b) → b ≤ a := by
    intro a b hab
    split_ifs at hab with heven
    · exact (not_le.1 hab).le
    · exact not_lt.1 hab
  split_ifs with hl hh
  · rfl
  · rfl
  · have hlow : n * grid ≤ low := hend fun hlow => hl ⟨hlow, .inl hh⟩
    have hhigh : high ≤ (n + 1) * grid := hend hh
    have hwidth : high = low + (below m e + 2) * quarter := by
      have := below_lt (e := e) hm
      rw [← Nat.add_mul]
      exact congrArg (· * quarter) (by omega)
    have hstep : (n + 1) * grid = n * grid + grid := Nat.succ_mul n grid
    have hfine' : grid < (below m e + 2) * quarter := hfine
    omega

theorem leadingExponent_le {num den : Nat} (hden : 0 < den) (h : den ≤ num * 10 ^ 400) :
    (10 : ℚ) ^ leadingExponent num den ≤ num / den := by
  have hden' : (0 : ℚ) < den := by exact_mod_cast hden
  have hpow : powNonneg 10 400 = 10 ^ 400 := powNonneg_natCast 10 400
  have hpos : 0 < num * 10 ^ 400 / den := Nat.div_pos h hden
  have hfirst := (toDigits_bounds hpos).1
  have hfloor : ((num * 10 ^ 400 / den : Nat) : ℚ) ≤ num * 10 ^ 400 / den :=
    Nat.cast_div_le.trans_eq (by rw [Nat.cast_mul, Nat.cast_pow, Nat.cast_ofNat])
  rw [leadingExponent, hpow]
  calc (10 : ℚ) ^ (((Nat.toDigits 10 (num * 10 ^ 400 / den)).length : Int) - 401)
      = 10 ^ (((Nat.toDigits 10 (num * 10 ^ 400 / den)).length : Int) - 1) / 10 ^ (400 : Int) := by
        rw [← zpow_sub₀ (by norm_num)]
        congr 1
        ring
    _ ≤ num * 10 ^ 400 / den / 10 ^ (400 : Int) := by
        gcongr
        exact hfirst.trans hfloor
    _ = num / den := by
        rw [zpow_ofNat]
        field_simp

theorem leadingExponent_value_le (hm : 0 < m) (hc : Canonical m e) :
    (10 : ℚ) ^ leadingExponent (m * powNonneg 2 e) (powNonneg 2 (-e)) ≤ m * 2 ^ e := by
  have hden : 0 < powNonneg 2 (-e) := powNonneg_pos (by decide) _
  have hden' : (powNonneg 2 (-e) : ℚ) ≠ 0 := by exact_mod_cast hden.ne'
  have hbound : powNonneg 2 (-e) ≤ m * powNonneg 2 e * 10 ^ 400 := by
    have hexp : -e ≤ (1075 : Nat) := by
      have := hc.least
      unfold leastExponent at this
      omega
    calc powNonneg 2 (-e) ≤ 2 ^ 1075 := powNonneg_le (by decide) hexp
      _ ≤ 10 ^ 330 := two_pow_1075_lt.le
      _ ≤ 10 ^ 400 := pow_le_pow_right₀ (by decide) (by decide)
      _ ≤ m * powNonneg 2 e * 10 ^ 400 := Nat.le_mul_of_pos_left _ (Nat.mul_pos hm (powNonneg_pos (by decide) _))
  have hratio : ((m * powNonneg 2 e : Nat) : ℚ) / powNonneg 2 (-e) = m * 2 ^ e := by
    push_cast
    rw [powNonneg_eq_mul (by decide) e]
    field_simp
    push_cast
    rfl
  rw [← hratio]
  exact leadingExponent_le hden hbound

/-- At sixteen digits after the first one, the grid is finer than the interval of rounding. -/
theorem seventeen_digits (hc : Canonical m e) :
    (m * 2 ^ e / 10 ^ (16 : Int) : ℚ) < (below m e + 2) * 2 ^ (e - 2) := by
  have hunit : (0 : ℚ) < 2 ^ e := by positivity
  have hbound : (m + 1 : ℚ) ≤ 2 ^ 53 := by exact_mod_cast hc.bound
  have hwide : (m / 10 ^ (16 : Int) : ℚ) < (below m e + 2) / 4 := by
    unfold below
    split_ifs with h
    · rw [h.1, powNonneg_52]
      norm_num
    · rw [div_lt_iff₀ (by norm_num), Nat.cast_ofNat, show ((2 + 2) / 4 * 10 ^ (16 : Int) : ℚ) = 10 ^ 16 by norm_num]
      linarith
  calc (m * 2 ^ e / 10 ^ (16 : Int) : ℚ) = m / 10 ^ (16 : Int) * 2 ^ e := by ring
    _ < (below m e + 2) / 4 * 2 ^ e := by gcongr
    _ = (below m e + 2) * 2 ^ (e - 2) := by
        rw [zpow_sub₀ (by norm_num)]
        norm_num
        ring

theorem rounds_shortest (hm : 0 < m) (hc : Canonical m e) :
    Rounds ((shortest m e).digits * 10 ^ (shortest m e).exponent) m e := by
  unfold shortest
  extract_lets b lead
  have hlead : (10 : ℚ) ^ lead ≤ m * 2 ^ e := leadingExponent_value_le hm hc
  have hfine : (10 : ℚ) ^ (lead - 16) < (below m e + 2) * 2 ^ (e - 2) := by
    rw [zpow_sub₀ (by norm_num)]
    exact (div_le_div_of_nonneg_right hlead (by norm_num)).trans_lt (seventeen_digits hc)
  have hsome : ((List.range 17).findSome? fun n : Nat => onGrid? m e (lead - n) b).isSome := by
    rw [List.findSome?_isSome_iff]
    exact ⟨16, by decide, onGrid?_isSome hm hfine⟩
  obtain ⟨d, hd⟩ := Option.isSome_iff_exists.1 hsome
  obtain ⟨n, _, hn⟩ := List.exists_of_findSome?_eq_some hd
  rw [hd]
  exact rounds_of_onGrid? hm hn

end

end Decimal

end Dataflow
