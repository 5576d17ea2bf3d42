import Dataflow.Proofs.Rounding
import Dataflow.Proofs.Tokens
import Mathlib.Data.List.DropRight

namespace Dataflow

namespace Json

variable {ds fs rest : List Char}

theorem decimalNat_eq (ds : List Char) : decimalNat ds = Nat.ofDigitChars 10 ds 0 := by
  rw [decimalNat, Text.ofDigits, List.foldl_map, Nat.ofDigitChars_eq_foldl]
  rfl

theorem decimalNat_append (ds fs : List Char) :
    decimalNat (ds ++ fs) = decimalNat ds * 10 ^ fs.length + decimalNat fs := by
  simp only [decimalNat_eq]
  rw [Nat.ofDigitChars_append, Nat.ofDigitChars_eq_ofDigitChars_zero, Nat.mul_comm]

theorem decimalNat_zeros (n : Nat) : decimalNat (DecimalLayout.zeros n) = 0 := by
  rw [decimalNat_eq, DecimalLayout.zeros, Nat.ofDigitChars_replicate_zero, Nat.mul_zero]

theorem decimalNat_toDigits (n : Nat) : decimalNat (Nat.toDigits 10 n) = n := by
  rw [decimalNat_eq, Nat.ofDigitChars_ten_toDigits]

theorem isDecimal_of_mem_toDigits {n : Nat} {c : Char} (h : c ∈ Nat.toDigits 10 n) : isDecimal c = true :=
  Nat.isDigit_of_mem_toDigits (by decide) (by decide) h

theorem isDecimal_of_mem_zeros {n : Nat} {c : Char} (h : c ∈ DecimalLayout.zeros n) : isDecimal c = true := by
  rw [List.eq_of_mem_replicate h]
  rfl

theorem head_toDigits {n : Nat} (hn : 0 < n) : (Nat.toDigits 10 n).head? ≠ some '0' := by
  induction n using Nat.strong_induction_on with
  | h n ih =>
      by_cases hlt : n < 10
      · have hdigit : ∀ n < 10, 0 < n → Nat.digitChar n ≠ '0' := by decide
        rw [Nat.toDigits_of_lt_base hlt]
        simpa using hdigit n hlt hn
      · have hne : Nat.toDigits 10 (n / 10) ≠ [] := Nat.toDigits_ne_nil
        rw [Nat.toDigits_of_base_le (by decide) (by omega), List.head?_append_of_ne_nil _ hne]
        exact ih (n / 10) (by omega) (by omega)

theorem takeWhile_isDecimal (hds : ∀ c ∈ ds, isDecimal c = true) (hrest : ∀ c ∈ rest.head?, isDecimal c = false) :
    (ds ++ rest).takeWhile isDecimal = ds ∧ (ds ++ rest).dropWhile isDecimal = rest := by
  rw [List.takeWhile_append_of_pos hds, List.dropWhile_append_of_pos hds]
  cases rest with
  | nil => simp
  | cons c rest => simp [hrest c rfl]

theorem scanWhole_append (hne : ds ≠ []) (hds : ∀ c ∈ ds, isDecimal c = true)
    (hhead : ds = ['0'] ∨ ds.head? ≠ some '0') (hrest : ∀ c ∈ rest.head?, isDecimal c = false) :
    scanWhole (ds ++ rest) = (ds, rest) := by
  rcases hhead with rfl | hhead
  · rfl
  · obtain ⟨c, cs, rfl⟩ := List.exists_cons_of_ne_nil hne
    have hzero : c ≠ '0' := fun h => hhead (by rw [h]; rfl)
    obtain ⟨htake, hdrop⟩ := takeWhile_isDecimal hds hrest
    rw [List.cons_append] at htake hdrop ⊢
    rw [scanWhole, htake, hdrop]
    intro tail heq
    exact hzero (List.cons.inj heq).1

theorem scanFraction_point (hne : fs ≠ []) (hfs : ∀ c ∈ fs, isDecimal c = true)
    (hrest : ∀ c ∈ rest.head?, isDecimal c = false) : scanFraction ('.' :: (fs ++ rest)) = (fs, rest) := by
  obtain ⟨htake, hdrop⟩ := takeWhile_isDecimal hfs hrest
  rw [scanFraction, htake, hdrop]
  cases fs with
  | nil => exact absurd rfl hne
  | cons c cs => rfl

theorem scanExponent_eq {sign : Char} (hsign : sign = '+' ∨ sign = '-') (hne : ds ≠ [])
    (hds : ∀ c ∈ ds, isDecimal c = true) :
    scanExponent ('e' :: sign :: ds) = (some (if sign = '-' then -(decimalNat ds : Int) else decimalNat ds), []) := by
  have hall := @takeWhile_isDecimal ds [] hds (by simp)
  rw [List.append_nil] at hall
  obtain ⟨c, cs, rfl⟩ := List.exists_cons_of_ne_nil hne
  rcases hsign with rfl | rfl <;> simp [scanExponent, Text.splitSign, hall]

theorem scanUnsigned?_eq {cs whole fraction rest₁ rest₂ rest₃ : List Char} {exponent : Option Int} {negative : Bool}
    (hne : whole ≠ []) (hwhole : scanWhole cs = (whole, rest₁)) (hfraction : scanFraction rest₁ = (fraction, rest₂))
    (hexponent : scanExponent rest₂ = (exponent, rest₃)) :
    scanUnsigned? negative cs = some (⟨negative, whole, fraction, exponent⟩, rest₃) := by
  simp [scanUnsigned?, hwhole, hfraction, hexponent, hne]

def amount (whole fraction : List Char) (exponent : Option Int) : ℚ :=
  decimalNat (whole ++ fraction) * 10 ^ (exponent.getD 0 - fraction.length)

/-- The text is a numeral of the number, and not an integer's. -/
def Spells (cs : List Char) (x : ℚ) : Prop :=
  ∃ whole fraction exponent,
    (∀ negative, scanUnsigned? negative cs = some (⟨negative, whole, fraction, exponent⟩, [])) ∧
    (fraction ≠ [] ∨ exponent ≠ none) ∧ amount whole fraction exponent = x

theorem spells_point (hne : ds ≠ []) (hds : ∀ c ∈ ds, isDecimal c = true)
    (hhead : ds = ['0'] ∨ ds.head? ≠ some '0') (hne' : fs ≠ []) (hfs : ∀ c ∈ fs, isDecimal c = true) :
    Spells (ds ++ '.' :: fs) (amount ds fs none) := by
  refine ⟨ds, fs, none, ?_, .inl hne', rfl⟩
  intro negative
  have hfraction := @scanFraction_point fs [] hne' hfs (by simp)
  rw [List.append_nil] at hfraction
  exact scanUnsigned?_eq hne (scanWhole_append hne hds hhead (by simp [isDecimal])) hfraction rfl

theorem isDecimal_append (hds : ∀ c ∈ ds, isDecimal c = true) (hfs : ∀ c ∈ fs, isDecimal c = true) :
    ∀ c ∈ ds ++ fs, isDecimal c = true := by
  simpa [or_imp, forall_and] using ⟨hds, hfs⟩

section

variable (hne : ds ≠ []) (hds : ∀ c ∈ ds, isDecimal c = true) (hhead : ds.head? ≠ some '0')
include hne hds hhead

theorem spells_positional (e : Int) :
    Spells (DecimalLayout.positional ds e) (decimalNat ds * 10 ^ (e + 1 - ds.length)) := by
  unfold DecimalLayout.positional
  split_ifs with hneg
  · have hamount : decimalNat ds * 10 ^ (e + 1 - ds.length) =
        amount ['0'] (DecimalLayout.zeros (-e - 1).toNat ++ ds) none := by
      have hexp : (0 - (DecimalLayout.zeros (-e - 1).toNat ++ ds).length : Int) = e + 1 - ds.length := by
        simp [DecimalLayout.zeros]
        omega
      rw [amount, Option.getD_none, hexp, decimalNat_append, decimalNat_append, decimalNat_zeros]
      simp [decimalNat, digitValue, Text.ofDigits]
    rw [hamount]
    exact spells_point (by simp) (by simp [isDecimal]) (.inl rfl) (by simp [hne])
      (isDecimal_append (fun _ => isDecimal_of_mem_zeros) hds)
  · extract_lets whole
    have hwhole : (whole : Int) = e + 1 := by omega
    split_ifs with hlen
    · have hamount : decimalNat ds * 10 ^ (e + 1 - ds.length) =
          amount (ds ++ DecimalLayout.zeros (whole - ds.length)) ['0'] none := by
        have hexp : e + 1 - ds.length = ((whole - ds.length : Nat) : Int) := by omega
        have hzero : decimalNat ['0'] = 0 := rfl
        rw [amount, hexp, decimalNat_append, decimalNat_append, decimalNat_zeros, hzero, zpow_natCast]
        simp [DecimalLayout.zeros]
      rw [hamount]
      exact spells_point (by simp [hne]) (isDecimal_append hds fun _ => isDecimal_of_mem_zeros)
        (.inr (by rwa [List.head?_append_of_ne_nil _ hne])) (by simp) (by simp [isDecimal])
    · have hamount : decimalNat ds * 10 ^ (e + 1 - ds.length) = amount (ds.take whole) (ds.drop whole) none := by
        have hexp : (0 - (ds.drop whole).length : Int) = e + 1 - ds.length := by
          rw [List.length_drop]
          omega
        rw [amount, Option.getD_none, hexp, List.take_append_drop]
      have hhead' : (ds.take whole).head? ≠ some '0' := by
        rwa [List.head?_take, if_neg (by omega)]
      rw [hamount]
      exact spells_point (by simp [hne]) (fun c hc => hds c (List.mem_of_mem_take hc)) (.inr hhead')
        (by simp; omega) fun c hc => hds c (List.mem_of_mem_drop hc)

theorem spells_exponential (width : Nat) (e : Int) :
    Spells (DecimalLayout.exponential width ds e) (decimalNat ds * 10 ^ (e + 1 - ds.length)) := by
  unfold DecimalLayout.exponential
  extract_lets mantissa power
  have hdigits : ∀ c ∈ DecimalLayout.zeros (width - power.length) ++ power, isDecimal c = true :=
    isDecimal_append (fun _ => isDecimal_of_mem_zeros) fun _ => isDecimal_of_mem_toDigits
  have hvalue : decimalNat (DecimalLayout.zeros (width - power.length) ++ power) = e.natAbs := by
    rw [decimalNat_append, decimalNat_zeros, decimalNat_toDigits, Nat.zero_mul, Nat.zero_add]
  have hexponent : scanExponent ('e' :: (if e < 0 then '-' else '+') ::
      (DecimalLayout.zeros (width - power.length) ++ power)) = (some e, []) := by
    have hpower : DecimalLayout.zeros (width - power.length) ++ power ≠ [] :=
      List.append_ne_nil_of_right_ne_nil _ Nat.toDigits_ne_nil
    rcases lt_or_ge e 0 with hneg | hpos
    · rw [if_pos hneg, scanExponent_eq (.inr rfl) hpower hdigits, hvalue, if_pos rfl,
        show -(e.natAbs : Int) = e by omega]
    · rw [if_neg (not_lt.2 hpos), scanExponent_eq (.inl rfl) hpower hdigits, hvalue, if_neg (by decide),
        show (e.natAbs : Int) = e by omega]
  rw [List.append_assoc, List.cons_append, List.cons_append]
  by_cases hlen : ds.length ≤ 1
  · have hone : ds.length = 1 := le_antisymm hlen (List.length_pos_iff.2 hne)
    have hmantissa : mantissa = ds := if_pos hlen
    rw [hmantissa]
    refine ⟨ds, [], some e, ?_, .inr (by simp), ?_⟩
    · intro negative
      exact scanUnsigned?_eq hne (scanWhole_append hne hds (.inr hhead) (by simp [isDecimal])) rfl hexponent
    · simp [amount, hone]
  · have hmantissa : mantissa = ds.take 1 ++ '.' :: ds.drop 1 := if_neg hlen
    have hfirst : (ds.take 1).head? ≠ some '0' := by rwa [List.head?_take, if_neg (by decide)]
    have hrest : ds.drop 1 ≠ [] := by rwa [ne_eq, List.drop_eq_nil_iff]
    rw [hmantissa, List.append_assoc, List.cons_append]
    refine ⟨ds.take 1, ds.drop 1, some e, ?_, .inr (by simp), ?_⟩
    · intro negative
      exact scanUnsigned?_eq (by simp [hne])
        (scanWhole_append (by simp [hne]) (fun c hc => hds c (List.mem_of_mem_take hc)) (.inr hfirst)
          (by simp [isDecimal]))
        (scanFraction_point hrest (fun c hc => hds c (List.mem_of_mem_drop hc)) (by simp [isDecimal])) hexponent
    · have hexp : (e - (ds.drop 1).length : Int) = e + 1 - ds.length := by
        rw [List.length_drop]
        omega
      rw [amount, Option.getD_some, hexp, List.take_append_drop]

end

theorem scientific_eq (d : Decimal) : ∃ (ds : List Char) (n : Nat),
    Nat.toDigits 10 d.digits = ds ++ DecimalLayout.zeros n ∧ d.scientific = (ds, d.exponent + n + ds.length - 1) := by
  have hsplit := List.rdropWhile_append_rtakeWhile (p := (· == '0')) (l := Nat.toDigits 10 d.digits)
  have hzeros : (Nat.toDigits 10 d.digits).rtakeWhile (· == '0') =
      DecimalLayout.zeros ((Nat.toDigits 10 d.digits).rtakeWhile (· == '0')).length := by
    refine List.eq_replicate_of_mem fun c hc => ?_
    simpa using List.mem_rtakeWhile_imp hc
  rw [hzeros] at hsplit
  refine ⟨_, _, hsplit.symm, ?_⟩
  have hlength := congrArg List.length hsplit
  rw [List.length_append, DecimalLayout.zeros, List.length_replicate] at hlength
  rw [Decimal.scientific, ← hlength]
  refine Prod.ext rfl ?_
  push_cast
  ring

theorem scientific_spec {d : Decimal} (hpos : 0 < d.digits) : ∃ (ds : List Char) (e : Int),
    d.scientific = (ds, e) ∧ ds ≠ [] ∧ (∀ c ∈ ds, isDecimal c = true) ∧ ds.head? ≠ some '0' ∧
      (decimalNat ds * 10 ^ (e + 1 - ds.length) : ℚ) = d.digits * 10 ^ d.exponent := by
  obtain ⟨ds, n, hdigits, hscientific⟩ := scientific_eq d
  have hne : ds ≠ [] := by
    rintro rfl
    have hhead := head_toDigits hpos
    rw [hdigits, List.nil_append] at hhead
    cases n with
    | zero => exact Nat.toDigits_ne_nil hdigits
    | succ n => exact hhead rfl
  refine ⟨ds, _, hscientific, hne, ?_, ?_, ?_⟩
  · intro c hc
    refine isDecimal_of_mem_toDigits (n := d.digits) ?_
    rw [hdigits]
    exact List.mem_append_left _ hc
  · rw [← List.head?_append_of_ne_nil _ hne, ← hdigits]
    exact head_toDigits hpos
  · have hvalue : d.digits = decimalNat ds * 10 ^ n := by
      rw [← decimalNat_toDigits d.digits, hdigits, decimalNat_append, decimalNat_zeros, Nat.add_zero,
        DecimalLayout.zeros, List.length_replicate]
    have hexp : d.exponent + n + ds.length - 1 + 1 - ds.length = n + d.exponent := by ring
    rw [hvalue, hexp, zpow_add₀ (by norm_num), zpow_natCast]
    push_cast
    ring

theorem spells_text (layout : DecimalLayout) {m : Nat} {e : Int} (hm : 0 < m) (hc : Binary64.Canonical m e) :
    ∃ x, Spells (layout.text m e) x ∧ Binary64.Rounds x m e := by
  have hrounds := Decimal.rounds_shortest hm hc
  have hpos : 0 < (Decimal.shortest m e).digits := by
    rcases Nat.eq_zero_or_pos (Decimal.shortest m e).digits with hzero | hpos
    · have hlow := (hrounds.range hm hc).1
      rw [hzero, Nat.cast_zero, zero_mul] at hlow
      exact absurd hlow (not_le.2 (by positivity))
    · exact hpos
  obtain ⟨ds, k, hscientific, hne, hds, hhead, hvalue⟩ := scientific_spec hpos
  refine ⟨_, ?_, hvalue ▸ hrounds⟩
  rw [DecimalLayout.text, if_neg hm.ne', hscientific]
  dsimp only
  split_ifs
  · exact spells_positional hne hds hhead _
  · exact spells_exponential hne hds hhead _ _

theorem scanWhole_spec (cs : List Char) :
    cs = (scanWhole cs).1 ++ (scanWhole cs).2 ∧ ∀ c ∈ (scanWhole cs).1, isDecimal c = true := by
  unfold scanWhole
  split
  · exact ⟨rfl, by simp [isDecimal]⟩
  · exact ⟨List.takeWhile_append_dropWhile.symm, fun c => List.mem_takeWhile_imp⟩

theorem scanFraction_spec (cs : List Char) :
    ∃ front, cs = front ++ (scanFraction cs).2 ∧ ∀ c ∈ front, isDecimal c = true ∨ c = '.' := by
  unfold scanFraction
  split
  · split
    · exact ⟨[], rfl, by simp⟩
    · rename_i rest _ _
      refine ⟨'.' :: rest.takeWhile isDecimal, by simp, ?_⟩
      simpa using fun c hc => .inl (List.mem_takeWhile_imp hc)
  · exact ⟨[], rfl, by simp⟩

theorem splitSign_spec (cs : List Char) :
    ∃ sign, cs = sign ++ (Text.splitSign cs).2 ∧ (sign = [] ∨ sign = ['+'] ∨ sign = ['-']) := by
  unfold Text.splitSign
  split
  · exact ⟨['-'], rfl, by simp⟩
  · exact ⟨['+'], rfl, by simp⟩
  · exact ⟨[], rfl, by simp⟩

def IsExponent (cs : List Char) : Prop := ∃ e sign ds, cs = e :: (sign ++ ds) ∧ (e = 'e' ∨ e = 'E') ∧
  (sign = [] ∨ sign = ['+'] ∨ sign = ['-']) ∧ ∀ c ∈ ds, isDecimal c = true

theorem scanExponent_spec (cs : List Char) :
    ∃ front, cs = front ++ (scanExponent cs).2 ∧ (front = [] ∨ IsExponent front) := by
  unfold scanExponent
  split
  · rename_i e rest
    split
    · rename_i he
      dsimp only
      split
      · exact ⟨[], rfl, .inl rfl⟩
      · obtain ⟨sign, hsign, hcases⟩ := splitSign_spec rest
        refine ⟨e :: (sign ++ (Text.splitSign rest).2.takeWhile isDecimal), ?_,
          .inr ⟨e, sign, _, rfl, he, hcases, fun c => List.mem_takeWhile_imp⟩⟩
        rw [List.cons_append, List.append_assoc, List.takeWhile_append_dropWhile, ← hsign]
    · exact ⟨[], rfl, .inl rfl⟩
  · exact ⟨[], rfl, .inl rfl⟩

theorem scanUnsigned?_spec {negative : Bool} {cs : List Char} {n : Numeral}
    (h : scanUnsigned? negative cs = some (n, [])) : ∃ c front back, cs = c :: (front ++ back) ∧
      isDecimal c = true ∧ (∀ d ∈ front, isDecimal d = true ∨ d = '.') ∧ (back = [] ∨ IsExponent back) := by
  unfold scanUnsigned? at h
  extract_lets whole fraction exponent at h
  split at h
  · cases h
  · rename_i hne
    have hrest : exponent.2 = [] := (Prod.mk.inj (Option.some.inj h)).2
    obtain ⟨hwhole, hdigits⟩ := scanWhole_spec cs
    obtain ⟨front, hfront, hpoints⟩ := scanFraction_spec whole.2
    obtain ⟨back, hback, hcases⟩ := scanExponent_spec fraction.2
    obtain ⟨c, ws, hws⟩ := List.exists_cons_of_ne_nil (show whole.1 ≠ [] by simpa using hne)
    have hparts : ∀ d ∈ c :: ws, isDecimal d = true := hws ▸ hdigits
    obtain ⟨hc, hmore⟩ := List.forall_mem_cons.1 hparts
    refine ⟨c, ws ++ front, back, ?_, hc, ?_, hcases⟩
    · calc cs = whole.1 ++ whole.2 := hwhole
        _ = c :: ws ++ (front ++ (back ++ exponent.2)) := by rw [hws, hfront, hback]
        _ = c :: (ws ++ front ++ back) := by simp [hrest]
    · exact List.forall_mem_append.2 ⟨fun d hd => .inl (hmore d hd), hpoints⟩

end Json

namespace Script

open Mode

variable {w cs : List Char} {c : Char}

theorem run_word_cons (h : continues w c = true) (cs : List Char) : run (.word w) (c :: cs) = run (.word (c :: w)) cs :=
  run_of_step _ (by simp [step, h]) cs

theorem isNameChar_of_isDecimal (h : Json.isDecimal c = true) : isNameChar c = true := by
  have hdigit : c.isDigit = true := h
  simp [isNameChar, Char.isAlphanum, hdigit]

theorem any_getLast?_cons (hw : w.getLast?.any Char.isDigit = true) (c : Char) :
    (c :: w).getLast?.any Char.isDigit = true := by
  cases w with
  | nil => cases hw
  | cons d w => rwa [List.getLast?_cons_cons]

section

variable (hw : w.getLast?.any Char.isDigit = true)
include hw

theorem run_digits (h : ∀ c ∈ cs, Json.isDecimal c = true ∨ c = '.') :
    run (.word w) cs = ([], .word (cs.reverse ++ w)) := by
  induction cs generalizing w with
  | nil => rfl
  | cons c cs ih =>
      obtain ⟨hc, hcs⟩ := List.forall_mem_cons.1 h
      have hcontinues : continues w c = true := by
        rcases hc with hc | rfl
        · simp [continues, isNameChar_of_isDecimal hc]
        · simp [continues, hw]
      rw [run_word_cons hcontinues, ih (any_getLast?_cons hw c) hcs]
      simp

theorem run_exponent (h : Json.IsExponent cs) : run (.word w) cs = ([], .word (cs.reverse ++ w)) := by
  obtain ⟨e, sign, ds, rfl, he, hsign, hds⟩ := h
  have hletter : continues w e = true := by
    rcases he with rfl | rfl <;> rfl
  have hmark : ∀ c, c = '+' ∨ c = '-' → continues (e :: w) c = true := by
    intro c hc
    have hbeq : (e == 'e' || e == 'E') = true := by simpa using he
    rcases hc with rfl | rfl <;> simp [continues, any_getLast?_cons hw e, hbeq]
  have hds' : ∀ c ∈ ds, Json.isDecimal c = true ∨ c = '.' := fun c hc => .inl (hds c hc)
  rw [run_word_cons hletter]
  rcases hsign with rfl | rfl | rfl
  · rw [List.nil_append, run_digits (any_getLast?_cons hw e) hds']
    simp
  · rw [List.singleton_append, run_word_cons (hmark _ (.inl rfl)),
      run_digits (any_getLast?_cons (any_getLast?_cons hw e) _) hds']
    simp
  · rw [List.singleton_append, run_word_cons (hmark _ (.inr rfl)),
      run_digits (any_getLast?_cons (any_getLast?_cons hw e) _) hds']
    simp

end

theorem lexes_numeral {negative : Bool} {n : Json.Numeral} (h : Json.scanUnsigned? negative cs = some (n, [])) :
    Lexes (String.ofList cs) [.number (String.ofList cs)] := by
  obtain ⟨c, front, back, hcs, hc, hfront, hback⟩ := Json.scanUnsigned?_spec h
  -- A word that starts with a digit is a number, and goes on with points and the sign of an exponent.
  have hfirst : [c].getLast?.any Char.isDigit = true := hc
  have hword : (front.reverse ++ [c]).getLast?.any Char.isDigit = true := by
    rw [List.getLast?_append_of_ne_nil _ (by simp)]
    exact hfirst
  have htail : run (.word (front.reverse ++ [c])) back = ([], .word (back.reverse ++ (front.reverse ++ [c]))) := by
    rcases hback with rfl | hback
    · rfl
    · exact run_exponent hword hback
  have hrun : run .code cs = ([], .word cs.reverse) := by
    rw [hcs, run_of_step (.word [c]) (by simp [step, start, isNameChar_of_isDecimal hc]), run_append,
      run_digits hfirst hfront, htail]
    simp
  have htoken : wordToken cs.reverse = .number (String.ofList cs) := by
    rw [wordToken, List.getLast?_reverse, hcs, List.head?_cons, ← hcs, List.reverse_reverse]
    exact if_pos hc
  intro rest hdelimited
  rw [String.toList_ofList, lex_append, hrun, lex_word _ hdelimited, htoken]
  rfl

def signed (negative : Bool) (s : String) : List Token := (if negative then [.mark '-'] else []) ++ [.number s]

theorem lexes_signed {negative : Bool} {n : Json.Numeral} (h : Json.scanUnsigned? negative cs = some (n, [])) :
    Lexes (String.ofList ((if negative then ['-'] else []) ++ cs)) (signed negative (String.ofList cs)) := by
  cases negative with
  | false => exact lexes_numeral h
  | true =>
      have hsign : Closed (String.ofList ['-']) [.mark '-'] := closed_of_run rfl
      rw [if_pos rfl, String.ofList_append]
      exact hsign.lexes_append (lexes_numeral h)

end Script

/-- The number that a numeral stands for: an integer of any size if it has neither fraction nor exponent, and else what
it rounds to. -/
def Json.Numeral.value (n : Json.Numeral) : Json :=
  match n.fraction, n.exponent with
  | [], none => .int (if n.negative then -(decimalNat n.whole : Int) else decimalNat n.whole)
  | fraction, exponent =>
    .float (Binary64.ofDecimal n.negative (decimalNat (n.whole ++ fraction)) (exponent.getD 0 - fraction.length))

namespace Script

def number? (negative : Bool) (s : String) : Option Json :=
  match Json.scanUnsigned? negative s.toList with
  | some (n, []) => some n.value
  | _ => none

theorem scanUnsigned?_toDigits (negative : Bool) (n : Nat) :
    Json.scanUnsigned? negative (Nat.toDigits 10 n) = some (⟨negative, Nat.toDigits 10 n, [], none⟩, []) := by
  have hhead : Nat.toDigits 10 n = ['0'] ∨ (Nat.toDigits 10 n).head? ≠ some '0' := by
    rcases Nat.eq_zero_or_pos n with rfl | hn
    · exact .inl rfl
    · exact .inr (Json.head_toDigits hn)
  have hwhole :=
    @Json.scanWhole_append _ [] Nat.toDigits_ne_nil (fun _ => Json.isDecimal_of_mem_toDigits) hhead (by simp)
  rw [List.append_nil] at hwhole
  exact Json.scanUnsigned?_eq Nat.toDigits_ne_nil hwhole rfl rfl

theorem number?_toDigits (negative : Bool) (n : Nat) :
    number? negative (String.ofList (Nat.toDigits 10 n)) = some (.int (if negative then -n else n)) := by
  rw [number?, String.toList_ofList, scanUnsigned?_toDigits]
  simp [Json.Numeral.value, Json.decimalNat_toDigits]

theorem scanUnsigned?_text {m : Nat} {e : Int} (hc : Binary64.Canonical m e) (negative : Bool) :
    ∃ n, Json.scanUnsigned? negative (DecimalLayout.plain.text m e) = some (n, []) ∧
      n.value = .float (.finite negative m e) := by
  rcases Nat.eq_zero_or_pos m with rfl | hm
  · have hleast : e = Binary64.leastExponent := hc.full.resolve_left (by norm_num)
    refine ⟨⟨negative, ['0'], ['0'], none⟩, rfl, ?_⟩
    rw [hleast]
    rfl
  · obtain ⟨x, ⟨whole, fraction, exponent, hscan, hfraction, hamount⟩, hrounds⟩ := Json.spells_text .plain hm hc
    refine ⟨_, hscan negative, ?_⟩
    have hvalue : Json.Numeral.value ⟨negative, whole, fraction, exponent⟩ =
        .float (Binary64.ofDecimal negative (Json.decimalNat (whole ++ fraction))
          (exponent.getD 0 - fraction.length)) := by
      cases fraction with
      | cons c cs => rfl
      | nil =>
          obtain ⟨k, rfl⟩ := Option.ne_none_iff_exists'.1 (hfraction.resolve_left (by simp))
          rfl
    rw [hvalue, Binary64.ofDecimal_of_rounds hm hc]
    rw [← Json.amount, hamount]
    exact hrounds

theorem lexes_int (n : Int) :
    ∃ negative s, Lexes (toString n) (signed negative s) ∧ number? negative s = some (.int n) := by
  cases n with
  | ofNat k =>
      have hlexes := lexes_signed (scanUnsigned?_toDigits false k)
      refine ⟨false, _, ?_, number?_toDigits false k⟩
      rwa [if_neg (by decide), List.nil_append] at hlexes
  | negSucc k =>
      have hlexes := lexes_signed (scanUnsigned?_toDigits true (k + 1))
      refine ⟨true, _, ?_, number?_toDigits true (k + 1)⟩
      rwa [if_pos rfl, String.ofList_append] at hlexes

theorem lexes_float {m : Nat} {e : Int} (hc : Binary64.Canonical m e) (negative : Bool) :
    ∃ s, Lexes (Binary64.finite negative m e).toText (signed negative s) ∧
      number? negative s = some (.float (.finite negative m e)) := by
  obtain ⟨n, hscan, hvalue⟩ := scanUnsigned?_text hc negative
  refine ⟨_, lexes_signed hscan, ?_⟩
  rw [number?, String.toList_ofList, hscan, ← hvalue]

end Script

end Dataflow
