import Dataflow.Text.Alphanumeric
import Dataflow.Text.Blank
import Dataflow.Text.Digit
import Dataflow.Text.Identifier
import Dataflow.Text.Lowercase
import Dataflow.Text.Unprintable
import Mathlib.Data.List.Forall2

namespace Dataflow.Text

namespace CharSet

variable {lo n : Nat} {rs ss : List (Nat × Nat)}

def skip (lo : Nat) (ranges : List (Nat × Nat)) : List (Nat × Nat) :=
  ranges.dropWhile fun r => r.1 ≤ lo && r.2 < lo

theorem covers_skip (h : lo ≤ n) : covers (skip lo rs) n = covers rs n := by
  induction rs with
  | nil => rfl
  | cons r rs ih =>
      rw [skip, List.dropWhile_cons]
      split
      · rename_i hr
        simp only [Bool.and_eq_true, decide_eq_true_eq] at hr
        rw [← skip, ih, covers, if_neg (by omega), if_neg (by omega)]
      · rfl

/-- Whether each of the first ranges lies inside one of the second ones. Both are in increasing order. -/
def inside : List (Nat × Nat) → List (Nat × Nat) → Bool
  | [], _ => true
  | (lo, hi) :: rest, ranges =>
    match skip lo ranges with
    | [] => false
    | r :: more => r.1 ≤ lo && hi ≤ r.2 && inside rest (r :: more)

def apart : List (Nat × Nat) → List (Nat × Nat) → Bool
  | [], _ => true
  | (lo, hi) :: rest, ranges =>
    match skip lo ranges with
    | [] => true
    | r :: more => hi < r.1 && apart rest (r :: more)

theorem covers_cons {hi : Nat} (h : covers ((lo, hi) :: rs) n = true) :
    lo ≤ n ∧ (n ≤ hi ∨ hi < n ∧ covers rs n = true) := by
  rw [covers] at h
  split at h
  · cases h
  · split at h
    · omega
    · exact ⟨by omega, .inr ⟨by omega, h⟩⟩

theorem covers_of_inside (h : inside rs ss = true) (hn : covers rs n = true) : covers ss n = true := by
  induction rs generalizing ss with
  | nil => cases hn
  | cons range rs ih =>
      obtain ⟨lo, hi⟩ := range
      obtain ⟨hlo, hn⟩ := covers_cons hn
      rw [← covers_skip hlo]
      cases hs : skip lo ss with
      | nil => simp [inside, hs] at h
      | cons r more =>
          simp only [inside, hs, Bool.and_eq_true, decide_eq_true_eq] at h
          obtain ⟨⟨hfirst, hlast⟩, hrest⟩ := h
          rcases hn with hhi | ⟨-, hn⟩
          · rw [covers, if_neg (by omega), if_pos (by omega)]
          · exact ih hrest hn

theorem not_covers_of_apart (h : apart rs ss = true) (hn : covers rs n = true) : covers ss n = false := by
  induction rs generalizing ss with
  | nil => cases hn
  | cons range rs ih =>
      obtain ⟨lo, hi⟩ := range
      obtain ⟨hlo, hn⟩ := covers_cons hn
      rw [← covers_skip hlo]
      cases hs : skip lo ss with
      | nil => rfl
      | cons r more =>
          simp only [apart, hs, Bool.and_eq_true, decide_eq_true_eq] at h
          obtain ⟨hfirst, hrest⟩ := h
          rcases hn with hhi | ⟨-, hn⟩
          · rw [covers, if_pos (by omega)]
          · exact ih hrest hn

theorem covers_filter_or (p : Nat × Nat → Bool) (h : covers rs n = true) :
    covers (rs.filter p) n = true ∨ ∃ r ∈ rs, p r = false ∧ covers [r] n = true := by
  induction rs with
  | nil => cases h
  | cons range rs ih =>
      obtain ⟨lo, hi⟩ := range
      obtain ⟨hlo, h⟩ := covers_cons h
      have hself : n ≤ hi → covers [(lo, hi)] n = true := by
        intro hhi
        rw [covers, if_neg (by omega), if_pos hhi]
      cases hp : p (lo, hi) with
      | false =>
          rw [List.filter_cons_of_neg (by simp [hp])]
          rcases h with hhi | ⟨-, h⟩
          · exact .inr ⟨(lo, hi), List.mem_cons_self, hp, hself hhi⟩
          · exact (ih h).imp_right fun ⟨r, hr, hdrop⟩ => ⟨r, List.mem_cons_of_mem _ hr, hdrop⟩
      | true =>
          rw [List.filter_cons_of_pos hp, covers, if_neg (by omega)]
          rcases h with hhi | ⟨hhi, h⟩
          · exact .inl (by rw [if_pos hhi])
          · rw [if_neg (by omega)]
            exact (ih h).imp_right fun ⟨r, hr, hdrop⟩ => ⟨r, List.mem_cons_of_mem _ hr, hdrop⟩

end CharSet

theorem tables_related :
    CharSet.apart alphanumeric.ranges unprintable.ranges = true ∧
    CharSet.apart identifierPart.ranges unprintable.ranges = true ∧
    CharSet.inside identifierStart.ranges identifierPart.ranges = true ∧
    CharSet.apart identifierStart.ranges digits.ranges = true ∧
    CharSet.apart blanks.ranges alphanumeric.ranges = true := by
  decide +kernel

section

variable {c : Char}

theorem isPrintable_of_isAlphanumeric (h : isAlphanumeric c = true) : isPrintable c = true := by
  obtain ⟨hapart, -⟩ := tables_related
  rw [isPrintable, CharSet.contains, CharSet.not_covers_of_apart hapart h]
  rfl

theorem isPrintable_of_identifierPart (h : identifierPart.contains c = true) : isPrintable c = true := by
  obtain ⟨-, hapart, -⟩ := tables_related
  rw [isPrintable, CharSet.contains, CharSet.not_covers_of_apart hapart h]
  rfl

theorem identifierPart_of_identifierStart (h : identifierStart.contains c = true) :
    identifierPart.contains c = true := by
  obtain ⟨-, -, hinside, -⟩ := tables_related
  exact CharSet.covers_of_inside hinside h

theorem not_isDigit_of_identifierStart (h : identifierStart.contains c = true) : isDigit c = false := by
  obtain ⟨-, -, -, hapart, -⟩ := tables_related
  exact CharSet.not_covers_of_apart hapart h

theorem not_isAlphanumeric_of_isBlank (h : isBlank c = true) : isAlphanumeric c = false := by
  obtain ⟨-, -, -, -, hapart⟩ := tables_related
  exact CharSet.not_covers_of_apart hapart h

end

def isLetter (c : Char) : Bool := identifierStart.contains c && isAlphanumeric c

/-- Letters in circles and squares. They have case, but count as symbols. -/
def enclosed : CharSet where
  ranges := [(0x24b6, 0x24e9), (0x1f130, 0x1f149), (0x1f150, 0x1f169), (0x1f170, 0x1f189)]

theorem not_isAlphanumeric_of_enclosed {c : Char} (h : enclosed.contains c = true) : isAlphanumeric c = false := by
  have hapart : CharSet.apart enclosed.ranges alphanumeric.ranges = true := by decide +kernel
  exact CharSet.not_covers_of_apart hapart h

theorem isLetter_of_cased {c : Char} (h : cased.contains c = true) (hc : enclosed.contains c = false) :
    isLetter c = true := by
  let letters : List (Nat × Nat) := cased.ranges.filter fun r => !enclosed.ranges.contains r
  have hstart : CharSet.inside letters identifierStart.ranges = true := by decide +kernel
  have halnum : CharSet.inside letters alphanumeric.ranges = true := by decide +kernel
  have hself : ∀ r ∈ enclosed.ranges, CharSet.inside [r] enclosed.ranges = true := by decide
  rcases CharSet.covers_filter_or (fun r => !enclosed.ranges.contains r) h with h | ⟨r, -, hr, h⟩
  · rw [isLetter, Bool.and_eq_true]
    exact ⟨CharSet.covers_of_inside hstart h, CharSet.covers_of_inside halnum h⟩
  · have hmem : r ∈ enclosed.ranges := by simpa using hr
    cases hc.symm.trans (CharSet.covers_of_inside (hself r hmem) h)

theorem shiftedCode_cases (shifts : List (Nat × Nat × Nat × Int)) (n : Nat) :
    shiftedCode shifts n = n ∨ ∃ lo hi step shift, (lo, hi, step, shift) ∈ shifts ∧
      (∃ k < (hi - lo) / step + 1, n = lo + step * k) ∧ shiftedCode shifts n = (n + shift).toNat := by
  induction shifts with
  | nil => exact .inl rfl
  | cons entry shifts ih =>
      obtain ⟨lo, hi, step, shift⟩ := entry
      rw [shiftedCode]
      split
      · exact .inl rfl
      · rename_i hlo
        split
        · rename_i hhi
          have hmul : step * ((n - lo) / step) = n - lo := Nat.mul_div_cancel' (Nat.dvd_of_mod_eq_zero hhi.2)
          have hle : (n - lo) / step ≤ (hi - lo) / step := Nat.div_le_div_right (by omega)
          exact .inr ⟨lo, hi, step, shift, List.mem_cons_self, ⟨(n - lo) / step, by omega, by omega⟩, rfl⟩
        · refine ih.imp_right ?_
          rintro ⟨lo, hi, step, shift, hmem, h⟩
          exact ⟨lo, hi, step, shift, List.mem_cons_of_mem _ hmem, h⟩

def progression (start step count : Nat) : List (Nat × Nat) :=
  (List.range count).map fun k => (start + step * k, start + step * k)

theorem covers_progression {start step count k : Nat} (hstep : 0 < step) (hk : k < count) :
    CharSet.covers (progression start step count) (start + step * k) = true := by
  have hrange : ∀ first, first ≤ k → k < first + count →
      CharSet.covers ((List.range' first count).map fun k => (start + step * k, start + step * k))
        (start + step * k) = true := by
    clear hk
    induction count with
    | zero =>
        intro first hle hlt
        omega
    | succ count ih =>
        intro first hle hlt
        rw [List.range'_succ, List.map_cons, CharSet.covers]
        have hmono : step * first ≤ step * k := Nat.mul_le_mul_left step hle
        rw [if_neg (by omega)]
        rcases Nat.eq_or_lt_of_le hle with rfl | hlt'
        · rw [if_pos (Nat.le_refl _)]
        · have : step * (first + 1) ≤ step * k := Nat.mul_le_mul_left step hlt'
          rw [if_neg (by grind)]
          exact ih (first + 1) hlt' (by omega)
  rw [progression, List.range_eq_range']
  exact hrange 0 (Nat.zero_le k) (by omega)

def keepsClass : Nat × Nat × Nat × Int → Bool
  | (lo, hi, step, shift) =>
    let before := progression lo step ((hi - lo) / step + 1)
    let after := progression (lo + shift).toNat step ((hi - lo) / step + 1)
    0 < step && 0 ≤ lo + shift && CharSet.inside before cased.ranges && CharSet.inside after cased.ranges &&
      (CharSet.apart before enclosed.ranges && CharSet.apart after enclosed.ranges ||
        CharSet.inside before enclosed.ranges && CharSet.inside after enclosed.ranges)

theorem toNat_ofNat_of_cased {n : Nat} (h : CharSet.covers cased.ranges n = true) : (Char.ofNat n).toNat = n := by
  have hinside : CharSet.inside cased.ranges [(0x0, 0xd7ff), (0xe000, 0x10ffff)] = true := by decide +kernel
  have hn := CharSet.covers_of_inside hinside h
  have hvalid : n.isValidChar := by
    simp only [CharSet.covers] at hn
    grind
  rw [Char.ofNat, dif_pos hvalid]
  rfl

theorem lowerChar_cases (c : Char) :
    lowerChar c = c ∨ isLetter c = true ∧ isLetter (lowerChar c) = true ∨
      isAlphanumeric c = false ∧ isAlphanumeric (lowerChar c) = false := by
  rcases shiftedCode_cases lowercaseShifts c.toNat with h | ⟨lo, hi, step, shift, hentry, ⟨k, hk, hcode⟩, h⟩
  · exact .inl (by rw [lowerChar, h, Char.ofNat_toNat])
  · have hall : lowercaseShifts.all keepsClass = true := by decide +kernel
    -- The entry that shifts the character leads from letters to letters, or from enclosed ones to enclosed ones.
    have hkeeps := List.all_eq_true.1 hall _ hentry
    simp only [keepsClass, Bool.and_eq_true, Bool.or_eq_true, decide_eq_true_eq] at hkeeps
    obtain ⟨⟨⟨⟨hstep, hshift⟩, hbefore⟩, hafter⟩, hclass⟩ := hkeeps
    have hc : CharSet.covers (progression lo step ((hi - lo) / step + 1)) c.toNat = true := by
      rw [hcode]
      exact covers_progression hstep hk
    have hd : CharSet.covers (progression (lo + shift).toNat step ((hi - lo) / step + 1))
        (lowerChar c).toNat = true := by
      have himage : (c.toNat + shift).toNat = (lo + shift).toNat + step * k := by omega
      have hcased := CharSet.covers_of_inside hafter (covers_progression hstep hk)
      rw [lowerChar, h, himage, toNat_ofNat_of_cased hcased]
      exact covers_progression hstep hk
    rcases hclass with ⟨hb, ha⟩ | ⟨hb, ha⟩
    · exact .inr (.inl ⟨isLetter_of_cased (CharSet.covers_of_inside hbefore hc) (CharSet.not_covers_of_apart hb hc),
        isLetter_of_cased (CharSet.covers_of_inside hafter hd) (CharSet.not_covers_of_apart ha hd)⟩)
    · exact .inr (.inr ⟨not_isAlphanumeric_of_enclosed (CharSet.covers_of_inside hb hc),
        not_isAlphanumeric_of_enclosed (CharSet.covers_of_inside ha hd)⟩)

theorem lowerChar_ascii {c : Char} (h : c.toNat < 128) : (lowerChar c).toNat < 128 := by
  have hall : ∀ n < 128, (lowerChar (Char.ofNat n)).toNat < 128 := by decide +kernel
  simpa [Char.ofNat_toNat] using hall c.toNat h

/-- Identifiers make the same of both characters, and if the first one is in ASCII, so is the second. -/
structure SameClass (c d : Char) : Prop where
  part : identifierPart.contains c = identifierPart.contains d
  start : identifierStart.contains c = identifierStart.contains d
  digit : isDigit c = isDigit d
  ascii : c.toNat < 128 → d.toNat < 128

theorem sameClass_of_isLetter {c d : Char} (hc : isLetter c = true) (hd : isLetter d = true)
    (hascii : c.toNat < 128 → d.toNat < 128) : SameClass c d := by
  rw [isLetter, Bool.and_eq_true] at hc hd
  exact {
    part := by rw [identifierPart_of_identifierStart hc.1, identifierPart_of_identifierStart hd.1]
    start := by rw [hc.1, hd.1]
    digit := by rw [not_isDigit_of_identifierStart hc.1, not_isDigit_of_identifierStart hd.1]
    ascii := hascii }

theorem forall₂_of_isLetter {c d : Char} (hc : isLetter c = true) (hd : isLetter d = true)
    (hascii : c.toNat < 128 → d.toNat < 128) :
    List.Forall₂ SameClass ([c].filter isAlphanumeric) ([d].filter isAlphanumeric) := by
  have hsame := sameClass_of_isLetter hc hd hascii
  rw [isLetter, Bool.and_eq_true] at hc hd
  rw [List.filter_cons_of_pos hc.2, List.filter_cons_of_pos hd.2]
  exact .cons hsame .nil

theorem lowerChar_class (c : Char) :
    List.Forall₂ SameClass ([c].filter isAlphanumeric) ([lowerChar c].filter isAlphanumeric) := by
  rcases lowerChar_cases c with h | ⟨hc, hd⟩ | ⟨hc, hd⟩
  · rw [h]
    exact List.forall₂_same.2 fun _ _ => ⟨rfl, rfl, rfl, id⟩
  · exact forall₂_of_isLetter hc hd lowerChar_ascii
  · rw [List.filter_cons_of_neg (by simp [hc]), List.filter_cons_of_neg (by simp [hd])]
    exact .nil

theorem lowerFrom_class (inWord : Bool) (cs : List Char) :
    List.Forall₂ SameClass (cs.filter isAlphanumeric) ((lowerFrom inWord cs).filter isAlphanumeric) := by
  induction cs generalizing inWord with
  | nil => exact .nil
  | cons c rest ih =>
      rw [lowerFrom, ← List.singleton_append, List.filter_append, List.filter_append]
      refine List.rel_append ?_ (ih _)
      split
      · rename_i hsigma
        subst hsigma
        split
        · exact forall₂_of_isLetter (by decide) (by decide) (by decide)
        · exact forall₂_of_isLetter (by decide) (by decide) (by decide)
      · split
        · rename_i hdotted
          subst hdotted
          -- The dot becomes a character of its own, which is no letter.
          rw [show ['i', '\u0307'].filter isAlphanumeric = ['i'].filter isAlphanumeric by decide]
          exact forall₂_of_isLetter (by decide) (by decide) (by decide)
        · exact lowerChar_class c

end Dataflow.Text
