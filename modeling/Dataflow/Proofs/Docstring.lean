import Dataflow.Calendar
import Dataflow.Proofs.Lines
import Dataflow.Proofs.Tokens

namespace Dataflow.Script

open Mode Text

def docQuotes : Quotes := ⟨'\x22', true⟩

def keptQuotes : List Char → Nat
  | '\x22' :: '\x22' :: '\x22' :: _ => 0
  | '\x22' :: '\x22' :: _ => 2
  | '\x22' :: _ => 1
  | _ => 0

theorem keptQuotes_le (cs : List Char) : keptQuotes cs ≤ 2 := by
  unfold keptQuotes
  split <;> omega

theorem keptQuotes_cons {cs : List Char} (h : ∀ rest, cs ≠ '\x22' :: '\x22' :: rest) :
    keptQuotes ('\x22' :: cs) = keptQuotes cs + 1 := by
  cases cs with
  | nil => rfl
  | cons c cs =>
      by_cases hc : c = '\x22'
      · subst hc
        cases cs with
        | nil => rfl
        | cons d rest =>
            have hd : d ≠ '\x22' := by
              rintro rfl
              exact h rest rfl
            simp [keptQuotes, hd]
      · simp [keptQuotes, hc]

/-- Escaped text leads through the string, whose marks so far and the quotes at the start of the text are not enough to
end it. -/
theorem run_docEscape (cs v rest : List Char) (marks : Nat) (h : marks + keptQuotes cs ≤ 2) :
    run (.inside docQuotes v marks) (docEscape cs ++ '\n' :: rest) =
      run (.inside docQuotes ('\n' :: (cs.reverse ++ v)) 0) rest := by
  have hkept : ∀ cs, 0 + keptQuotes cs ≤ 2 := fun cs => by simpa using keptQuotes_le cs
  fun_induction docEscape cs generalizing v marks with
  | case1 cs ih =>
      have hquotes : "\\\"\\\"\\\"".toList = ['\\', '\x22', '\\', '\x22', '\\', '\x22'] := by decide
      rw [hquotes]
      simp only [List.cons_append, List.nil_append, run_backslash]
      rw [run_escape rfl, run_backslash, run_escape rfl, run_backslash, run_escape rfl, ih _ 0 (hkept cs)]
      simp
  | case2 cs ih =>
      rw [List.cons_append, List.cons_append, run_backslash, run_escape rfl, ih _ 0 (hkept cs)]
      simp
  | case3 c cs hquotes hslash ih =>
      by_cases hc : c = '\x22'
      · -- A quote that is kept is followed by one more at most, so it is not the third in a row.
        subst hc
        have hcons : keptQuotes ('\x22' :: cs) = keptQuotes cs + 1 :=
          keptQuotes_cons fun rest hrest => hquotes rest rfl hrest
        rw [hcons] at h
        rw [List.cons_append, run_of_step (.inside docQuotes ('\x22' :: v) (marks + 1)), ih _ _ (by omega)]
        · simp
        · simp [step, readText, docQuotes, show marks ≠ 2 by omega]
      · rw [List.cons_append, run_inside hslash hc (fun _ => rfl), ih _ 0 (hkept cs)]
        simp
  | case4 => exact run_inside (by decide) (by decide) (fun _ => rfl) rest

def written (lines : List String) : List Char := lines.flatMap fun line => line.toList ++ ['\n']

/-- The line leads through the string, where it shows as `value`. -/
def Passes (line value : String) : Prop := ∀ v rest,
  run (.inside docQuotes v 0) (line.toList ++ '\n' :: rest) =
    run (.inside docQuotes ('\n' :: (value.toList.reverse ++ v)) 0) rest

def bare (s : String) : Bool := s.toList.all fun c => c != '\\' && c != '\x22'

theorem run_bare {s : String} (h : bare s = true) (v rest : List Char) :
    run (.inside docQuotes v 0) (s.toList ++ rest) = run (.inside docQuotes (s.toList.reverse ++ v) 0) rest := by
  rw [bare, List.all_eq_true] at h
  generalize s.toList = cs at h
  induction cs generalizing v with
  | nil => rfl
  | cons c cs ih =>
      obtain ⟨hc, hcs⟩ := List.forall_mem_cons.1 h
      simp only [Bool.and_eq_true, bne_iff_ne] at hc
      rw [List.cons_append, run_inside hc.1 hc.2 (fun _ => rfl), ih (c :: v) hcs]
      simp

theorem passes_docText (t : String) : Passes (docText t) (oneLine t) := by
  intro v rest
  rw [docText, String.toList_ofList]
  exact run_docEscape _ v rest 0 (by simpa using keptQuotes_le _)

theorem Passes.bare_append {s line value : String} (hs : bare s = true) (h : Passes line value) :
    Passes (s ++ line) (s ++ value) := by
  intro v rest
  rw [String.toList_append, List.append_assoc, run_bare hs, h]
  simp

theorem passes_bare {s : String} (h : bare s = true) : Passes s s := by
  have hempty : Passes "" "" := fun v rest => run_inside (by decide) (by decide) (fun _ => rfl) rest
  simpa using hempty.bare_append h

theorem run_written {lines values : List String} (h : List.Forall₂ Passes lines values) (v rest : List Char) :
    run (.inside docQuotes v 0) (written lines ++ rest) =
      run (.inside docQuotes ((written values).reverse ++ v) 0) rest := by
  induction h generalizing v with
  | nil => rfl
  | @cons line value lines values hline _ ih =>
      have hcons : ∀ (line : String) lines, written (line :: lines) = line.toList ++ '\n' :: written lines := by
        simp [written]
      rw [hcons, hcons, List.append_assoc, List.cons_append, hline, ih]
      simp

def headerLines (form : String → String) (p : Pipeline) (timestamp : String) : List String := [
  s!"Compiled pipeline: {form p.name}",
  s!"Nodes: {p.nodes.length}",
  s!"Edges: {p.edges.length}",
  timestampMark ++ timestamp] ++
  (if p.description.truthy then ["", form p.description.display] else []) ++ [
  "",
  "This file was produced by pipegraph.compiler.",
  "Do not edit by hand - re-run compile_pipeline() to regenerate."]

theorem header_eq (p : Pipeline) (timestamp : String) :
    header p timestamp = "#!/usr/bin/env python3" :: "\"\"\"" :: (headerLines docText p timestamp ++ ["\"\"\""]) := by
  simp [header, headerLines]

section

variable {q : Char → Bool} (hdigit : ∀ c, c.isDigit = true → q c = true)

include hdigit

theorem all_toString (n : Nat) : (toString n).toList.all q = true := by
  refine List.all_eq_true.2 fun c hc => hdigit c ?_
  have hdigits : c ∈ Nat.toDigits 10 n := by simpa using hc
  exact Nat.isDigit_of_mem_toDigits (by decide) (by decide) hdigits

theorem all_padded (width n : Nat) : (Moment.padded width n).toList.all q = true := by
  have hzeros : (List.replicate (width - (toString n).length) '0').all q = true := by
    refine List.all_eq_true.2 fun c hc => hdigit c ?_
    rw [List.eq_of_mem_replicate hc]
    rfl
  rw [Moment.padded, String.toList_append, List.all_append, String.toList_ofList, hzeros, all_toString hdigit n,
    Bool.and_self]

theorem all_moment (hmarks : ['-', ':', 'T', '.', '+'].all q = true) (m : Moment) : m.text.toList.all q = true := by
  have hpadded := all_padded hdigit
  simp only [List.all_cons, Bool.and_eq_true] at hmarks
  obtain ⟨hminus, hcolon, hT, hpoint, hplus, -⟩ := hmarks
  have hoffset : ∀ seconds, (Moment.offsetText seconds).toList.all q = true := by
    intro seconds
    unfold Moment.offsetText
    extract_lets n sign rest
    have hsign : sign.toList.all q = true := by
      unfold sign
      split
      · simp [hminus]
      · simp [hplus]
    have hrest : rest.toList.all q = true := by
      unfold rest
      split
      · rfl
      · simp [hpadded, hcolon]
    simp [hsign, hpadded, hrest, hcolon]
  have hfraction : (if m.micro = 0 then "" else "." ++ Moment.padded 6 m.micro).toList.all q = true := by
    split
    · rfl
    · simp [hpadded, hpoint]
  have hsuffix : ((m.offset.map Moment.offsetText).getD "").toList.all q = true := by
    cases m.offset with
    | none => rfl
    | some seconds => exact hoffset seconds
  simp only [Moment.text, toString_text, String.toList_append, List.all_append, hpadded, hfraction, hsuffix,
    Bool.and_true]
  simp [hminus, hcolon, hT]

end

theorem bare_of_isDigit (c : Char) (h : c.isDigit = true) : (c != '\\' && c != '\x22') = true := by
  simp only [Bool.and_eq_true, bne_iff_ne]
  constructor
  · rintro rfl
    cases h
  · rintro rfl
    cases h

theorem bare_toString (n : Nat) : bare (toString n) = true :=
  all_toString bare_of_isDigit n

theorem bare_moment (m : Moment) : bare m.text = true :=
  all_moment bare_of_isDigit (by decide) m

theorem passes_headerLines (p : Pipeline) {timestamp : String} (h : bare timestamp = true) :
    List.Forall₂ Passes (headerLines docText p timestamp) (headerLines oneLine p timestamp) := by
  have hcount : ∀ (label : String) (n : Nat), bare label = true → Passes (label ++ toString n) (label ++ toString n) :=
    fun label n hlabel => (passes_bare (bare_toString n)).bare_append hlabel
  refine List.rel_append (List.rel_append ?_ ?_) ?_
  · refine .cons ((passes_docText _).bare_append (by decide)) (.cons (hcount _ _ (by decide)) ?_)
    exact .cons (hcount _ _ (by decide)) (.cons ((passes_bare h).bare_append (by decide)) .nil)
  · split
    · exact .cons (passes_bare (by decide)) (.cons (passes_docText _) .nil)
    · exact .nil
  · exact .cons (passes_bare (by decide)) (.cons (passes_bare (by decide)) (.cons (passes_bare (by decide)) .nil))

/-- Free text leads through the opening string of a script and shows there on one line. So this string starts on the
second line of the header and goes on to its last line. -/
theorem docstring_spans_header :
    (∀ text v, run (.inside docQuotes v 0) ((docText text).toList ++ ['\n']) =
      ([], .inside docQuotes ('\n' :: ((oneLine text).toList.reverse ++ v)) 0)) ∧
    ∀ (p : Pipeline) (m : Moment), ∃ body,
      header p m.text = "#!/usr/bin/env python3" :: "\"\"\"" :: (body ++ ["\"\"\""]) ∧
      run .code (written ["#!/usr/bin/env python3"]) = ([], .code) ∧
      (∀ front, front <+: body → ∃ v,
        run .code (written ("#!/usr/bin/env python3" :: "\"\"\"" :: front)) = ([], .inside docQuotes v 0)) ∧
      run .code (written (header p m.text)) =
        ([.text (String.ofList ('\n' :: written (headerLines oneLine p m.text)))], .code) := by
  have hcomment : run .code (written ["#!/usr/bin/env python3"]) = ([], .code) := by decide
  have hopen : run .code (written ["#!/usr/bin/env python3", "\"\"\""]) = ([], .inside docQuotes ['\n'] 0) := by decide
  have hclose : ∀ v, run (.inside docQuotes v 0) (written ["\"\"\""]) = ([.text (String.ofList v.reverse)], .code) := by
    intro v
    simp [written, run, step, readText, docQuotes, start, isNameChar, isQuote, isGap]
  refine ⟨fun text v => passes_docText text v [], fun p m => ?_⟩
  have hpasses := passes_headerLines p (bare_moment m)
  refine ⟨headerLines docText p m.text, header_eq p m.text, hcomment, ?_, ?_⟩
  · intro front hfront
    have hpart := List.forall₂_take front.length hpasses
    rw [← List.prefix_iff_eq_take.1 hfront] at hpart
    have hsplit : written ("#!/usr/bin/env python3" :: "\"\"\"" :: front) =
        written ["#!/usr/bin/env python3", "\"\"\""] ++ (written front ++ []) := by
      simp [written]
    refine ⟨(written ((headerLines oneLine p m.text).take front.length)).reverse ++ ['\n'], ?_⟩
    rw [hsplit, run_append, hopen, run_written hpart]
    rfl
  · have hsplit : written (header p m.text) = written ["#!/usr/bin/env python3", "\"\"\""] ++
        (written (headerLines docText p m.text) ++ written ["\"\"\""]) := by
      simp [header_eq, written]
    rw [hsplit, run_append, hopen, run_written hpasses, hclose]
    simp

end Dataflow.Script
