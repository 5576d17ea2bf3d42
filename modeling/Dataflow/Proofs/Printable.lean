import Dataflow.Proofs.Layout
import Dataflow.Proofs.Spelling
import Dataflow.Proofs.Splitting

namespace Dataflow

namespace Text

def Printable (s : String) : Prop := ∀ c ∈ s.toList, isPrintable c = true

instance (s : String) : Decidable (Printable s) := List.decidableBAll (isPrintable · = true) s.toList

@[simp] theorem printable_append {s t : String} : Printable (s ++ t) ↔ Printable s ∧ Printable t := by
  simp [Printable, or_imp, forall_and]

@[simp] theorem printable_ofList {cs : List Char} : Printable (String.ofList cs) ↔ ∀ c ∈ cs, isPrintable c = true := by
  simp [Printable]

theorem printable_of_all {cs : List Char} (h : cs.all isPrintable = true) : Printable (String.ofList cs) :=
  printable_ofList.2 (List.all_eq_true.1 h)

theorem toString_text (s : String) : toString s = s := rfl

@[simp] theorem printable_toString {s : String} : Printable (toString s) ↔ Printable s := Iff.rfl

theorem printable_intercalate {sep : String} {parts : List String} (hsep : Printable sep)
    (h : ∀ part ∈ parts, Printable part) : Printable (sep.intercalate parts) := by
  intro c hc
  rw [String.toList_intercalate] at hc
  rcases mem_intercalate hc with hc | ⟨part, hpart, hc⟩
  · exact hsep c hc
  · obtain ⟨s, hs, rfl⟩ := List.mem_map.1 hpart
    exact h s hs c hc

section

variable {c : Char}

theorem isPrintable_of_isWord (h : isWord c = true) : isPrintable c = true := by
  rw [isWord, Bool.or_eq_true, beq_iff_eq] at h
  rcases h with h | rfl
  · exact isPrintable_of_isAlphanumeric h
  · decide

theorem isPrintable_of_mem_toDigits {n : Nat} (h : c ∈ Nat.toDigits 10 n) : isPrintable c = true :=
  isPrintable_of_isWord (isWord_of_isDigit (Nat.isDigit_of_mem_toDigits (by decide) (by decide) h)).1

theorem isPrintable_of_mem_hexDigits {width n : Nat} (h : c ∈ hexDigits width n) : isPrintable c = true := by
  have hdigit : ∀ k < 16, isPrintable (Nat.digitChar k) = true := by decide
  obtain ⟨i, -, rfl⟩ := List.mem_map.1 h
  exact hdigit _ (Nat.mod_lt _ (by decide))

end

theorem printable_quoted (s : String) : Printable (quoted s) := by
  have hletters : ['\\', 'n', 'r', 't', 'x', 'u', 'U'].all isPrintable = true := by decide
  have hmark : isPrintable (quoteMark s.toList) = true := by
    rw [quoteMark]
    split <;> decide
  simp only [List.all_cons, Bool.and_eq_true] at hletters
  obtain ⟨hslash, hn, hr, ht, hx, hu, hU, -⟩ := hletters
  have hescaped : ∀ d, ∀ c ∈ escaped (quoteMark s.toList) d, isPrintable c = true := by
    intro d
    have hhex : ∀ width, ∀ c ∈ hexDigits width d.toNat, isPrintable c = true :=
      fun _ _ => isPrintable_of_mem_hexDigits
    unfold escaped
    -- An escape is a backslash with letters and digits after it.
    split_ifs with hd _ _ _ hd
    · rcases hd with rfl | rfl
      · simp [hslash, hmark]
      · simp [hslash]
    · simp [hslash, hn]
    · simp [hslash, hr]
    · simp [hslash, ht]
    · simp [hd]
    · simpa [hslash, hx] using hhex 2
    · simpa [hslash, hu] using hhex 4
    · simpa [hslash, hU] using hhex 8
  rw [quoted, printable_ofList, quotedChars, List.cons_append, List.forall_mem_cons, List.forall_mem_append]
  refine ⟨hmark, ?_, by simpa using hmark⟩
  intro c hc
  obtain ⟨d, -, hc⟩ := List.mem_flatMap.1 hc
  exact hescaped d c hc

theorem flatten_runs (p : Char → Bool) (cs : List Char) : (runs p cs).flatten = cs.filter p := by
  induction cs with
  | nil => rfl
  | cons c rest ih =>
      unfold runs
      rw [List.filter_cons]
      split
      · split
        · -- The character goes on with the first run of the rest, or is a run of its own.
          rename_i d tail run more hruns
          rw [← ih, hruns]
          split <;> simp
        · simp [ih]
      · exact ih

theorem runs_concat {p : Char → Bool} {c : Char} (h : p c = true) (cs : List Char) :
    ∃ front run, runs p (cs ++ [c]) = front ++ [run ++ [c]] := by
  induction cs with
  | nil => exact ⟨[], [], by simp [runs, h]⟩
  | cons d cs ih =>
      obtain ⟨front, run, hruns⟩ := ih
      obtain ⟨e, rest, hrest⟩ := List.exists_cons_of_ne_nil (show cs ++ [c] ≠ [] by simp)
      rw [hrest] at hruns
      rw [List.cons_append, hrest]
      unfold runs
      split
      · -- The character starts the first run, which may be the last one, or is a run before it.
        cases front with
        | nil =>
            simp only [hruns, List.nil_append]
            split
            · exact ⟨[], d :: run, rfl⟩
            · exact ⟨[[d]], run, rfl⟩
        | cons first front =>
            simp only [hruns, List.cons_append]
            split
            · exact ⟨(d :: first) :: front, run, rfl⟩
            · exact ⟨[d] :: first :: front, run, rfl⟩
      · exact ⟨front, run, hruns⟩

theorem intercalate_concat (sep : List Char) (front : List (List Char)) (part : List Char) :
    ∃ before, sep.intercalate (front ++ [part]) = before ++ part := by
  induction front with
  | nil => exact ⟨[], by simp⟩
  | cons first front ih =>
      obtain ⟨before, hbefore⟩ := ih
      refine ⟨first ++ sep ++ before, ?_⟩
      rw [List.cons_append, List.intercalate_cons_of_ne_nil (by simp), hbefore]
      simp

theorem oneLine_append (s : String) {mark : String} {c : Char} (hmark : mark.toList = [c]) (h : isBlank c = false) :
    ∃ before, oneLine (s ++ mark) = before ++ mark := by
  obtain ⟨front, run, hruns⟩ := runs_concat (p := fun c => !isBlank c) (c := c) (by simp [h]) s.toList
  obtain ⟨before, hbefore⟩ := intercalate_concat [' '] front (run ++ [c])
  refine ⟨String.ofList (before ++ run), String.toList_inj.1 ?_⟩
  rw [oneLine, String.toList_append, hmark, hruns, String.toList_intercalate, List.map_map]
  simpa [Function.comp_def, hmark] using hbefore

theorem mem_oneLine {s : String} {c : Char} (h : c ∈ (oneLine s).toList) :
    c = ' ' ∨ c ∈ s.toList ∧ isBlank c = false := by
  rw [oneLine, String.toList_intercalate] at h
  rcases mem_intercalate h with h | ⟨part, hpart, h⟩
  · exact .inl (by simpa using h)
  · have hmem : c ∈ (runs (fun c => !isBlank c) s.toList).flatten :=
      List.mem_flatten_of_mem (by simpa using hpart) h
    rw [flatten_runs] at hmem
    exact .inr (by simpa using hmem)

theorem printable_oneLine {s : String} (h : Printable s) : Printable (oneLine s) := by
  intro c hc
  rcases mem_oneLine hc with rfl | ⟨hc, -⟩
  · decide
  · exact h c hc

theorem unbroken_of_printable {s : String} (h : Printable s) : Unbroken s := by
  have hbreaks : lineBreaks.all (unprintable.contains ·) = true := by decide +kernel
  refine unbroken_iff.2 fun c hc hmem => ?_
  have hprintable := h c hc
  rw [isPrintable, List.all_eq_true.1 hbreaks c hmem] at hprintable
  cases hprintable

theorem unbroken_oneLine (s : String) : Unbroken (oneLine s) := by
  have hbreaks : lineBreaks.all isBlank = true := by decide
  refine unbroken_iff.2 fun c hc hmem => ?_
  rcases mem_oneLine hc with rfl | ⟨-, hc⟩
  · exact absurd hmem (by decide)
  · rw [List.all_eq_true.1 hbreaks c hmem] at hc
    cases hc

theorem printable_of_isIdentifier {s : String} (h : isIdentifier s = true) : Printable s := by
  intro c hc
  unfold isIdentifier at h
  split at h
  · cases h
  · rename_i first rest hs
    rw [Bool.and_eq_true, List.all_eq_true] at h
    rw [hs] at hc
    rcases List.mem_cons.1 hc with rfl | hc
    · exact isPrintable_of_identifierPart (identifierPart_of_identifierStart h.1)
    · exact isPrintable_of_identifierPart (h.2 c hc)

theorem printable_of_isDottedIdentifier {s : String} (h : isDottedIdentifier s = true) : Printable s := by
  intro c hc
  rw [isDottedIdentifier, List.all_eq_true] at h
  rcases mem_splitAt '.' hc with rfl | ⟨part, hpart, hc⟩
  · decide
  · exact printable_of_isIdentifier (h part hpart) c (by simpa using hc)

end Text

open Text

namespace DecimalLayout

theorem isPrintable_of_mem_zeros {n : Nat} : ∀ c ∈ zeros n, isPrintable c = true := by
  intro c hc
  rw [List.eq_of_mem_replicate hc]
  decide

section

variable {digits : List Char} (h : ∀ c ∈ digits, isPrintable c = true) (exponent : Int)

include h

theorem isPrintable_of_mem_positional : ∀ c ∈ positional digits exponent, isPrintable c = true := by
  have hzero : isPrintable '0' = true := by decide
  have hpoint : isPrintable '.' = true := by decide
  unfold positional
  split
  · simpa [hzero, hpoint, or_imp, forall_and] using ⟨isPrintable_of_mem_zeros, h⟩
  · extract_lets whole
    split
    · simpa [hzero, hpoint, or_imp, forall_and] using ⟨h, isPrintable_of_mem_zeros⟩
    · rw [List.forall_mem_append, List.forall_mem_cons]
      exact ⟨fun c hc => h c (List.mem_of_mem_take hc), hpoint, fun c hc => h c (List.mem_of_mem_drop hc)⟩

theorem isPrintable_of_mem_exponential (width : Nat) :
    ∀ c ∈ exponential width digits exponent, isPrintable c = true := by
  have hmarks : ['e', '-', '+', '.'].all isPrintable = true := by decide
  simp only [List.all_cons, Bool.and_eq_true] at hmarks
  obtain ⟨he, hminus, hplus, hpoint, -⟩ := hmarks
  unfold exponential
  extract_lets mantissa power
  have hmantissa : ∀ c ∈ mantissa, isPrintable c = true := by
    unfold mantissa
    split
    · exact h
    · rw [List.forall_mem_append, List.forall_mem_cons]
      exact ⟨fun c hc => h c (List.mem_of_mem_take hc), hpoint, fun c hc => h c (List.mem_of_mem_drop hc)⟩
  have hsign : isPrintable (if exponent < 0 then '-' else '+') = true := by
    split
    · exact hminus
    · exact hplus
  simp only [List.forall_mem_append, List.forall_mem_cons]
  exact ⟨⟨hmantissa, he, hsign, isPrintable_of_mem_zeros⟩, fun _ => isPrintable_of_mem_toDigits⟩

end

theorem isPrintable_of_mem_text (layout : DecimalLayout) (m : Nat) (e : Int) :
    ∀ c ∈ layout.text m e, isPrintable c = true := by
  have hdigits : ∀ c ∈ (Decimal.shortest m e).scientific.1, isPrintable c = true := by
    intro c hc
    have hmem := (List.dropWhile_suffix _).subset (List.mem_reverse.1 hc)
    exact isPrintable_of_mem_toDigits (List.mem_reverse.1 hmem)
  unfold text
  split
  · exact List.all_eq_true.1 (by decide)
  · simp only
    split
    · exact isPrintable_of_mem_positional hdigits _
    · exact isPrintable_of_mem_exponential hdigits _ _

end DecimalLayout

theorem Binary64.printable_toText (x : Binary64) : Printable x.toText := by
  cases x with
  | finite negative m e =>
      rw [toText, printable_ofList, List.forall_mem_append]
      refine ⟨?_, DecimalLayout.isPrintable_of_mem_text _ m e⟩
      cases negative <;> exact List.all_eq_true.1 (by decide)
  | infinite negative => cases negative <;> decide
  | nan => decide

theorem printable_toString_nat (n : Nat) : Printable (toString n) := by
  intro c hc
  exact isPrintable_of_mem_toDigits (by simpa using hc)

theorem printable_toString_int (n : Int) : Printable (toString n) := by
  cases n with
  | ofNat m => exact printable_toString_nat m
  | negSucc m => exact printable_append.2 ⟨by decide, printable_toString_nat (m + 1)⟩

namespace Json

theorem NonFinite.printable_text (style : NonFinite) (x : Binary64) : Printable (style.text x) := by
  cases style with
  | bare => exact x.printable_toText
  | quoted =>
      rw [text]
      split
      · exact x.printable_toText
      · exact printable_quoted _

mutual

theorem printable_literalWith (style : NonFinite) (v : Json) : Printable (v.literalWith style) := by
  cases v with
  | null => exact (by decide : Printable "None")
  | bool b =>
      rw [literalWith]
      split <;> decide
  | int n => exact printable_toString_int n
  | float x => exact style.printable_text x
  | str s => exact printable_quoted s
  | arr items =>
      have hitems : Printable (", ".intercalate (literalItems style items)) :=
        printable_intercalate (by decide) (printable_literalItems style items)
      simpa [literalWith, hitems] using ⟨by decide, by decide⟩
  | obj fields =>
      have hfields : Printable (", ".intercalate (literalFields style fields)) :=
        printable_intercalate (by decide) (printable_literalFields style fields)
      simpa [literalWith, hfields] using ⟨by decide, by decide⟩

theorem printable_literalItems (style : NonFinite) (items : List Json) :
    ∀ part ∈ literalItems style items, Printable part := by
  cases items with
  | nil => simp [literalItems]
  | cons v rest =>
      exact List.forall_mem_cons.2 ⟨printable_literalWith style v, printable_literalItems style rest⟩

theorem printable_literalFields (style : NonFinite) (fields : List (String × Json)) :
    ∀ part ∈ literalFields style fields, Printable part := by
  cases fields with
  | nil => simp [literalFields]
  | cons field rest =>
      refine List.forall_mem_cons.2 ⟨?_, printable_literalFields style rest⟩
      simpa [printable_quoted, printable_literalWith style field.2] using by decide

end

end Json

end Dataflow
