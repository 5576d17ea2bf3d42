import Dataflow.Json.Token
import Dataflow.Proofs.Splitting
import Dataflow.Text.Quoted
import Mathlib.Tactic.Ring

namespace Dataflow.Script

/-- A token of a script. Of a string it holds the value. -/
inductive Token where
  | name (s : String)
  | number (s : String)
  | text (s : String)
  | mark (c : Char)
  /-- Something that no script has. -/
  | fault
deriving DecidableEq, Repr

structure Quotes where
  mark : Char
  triple : Bool
deriving DecidableEq, Repr

/-- Where the machine stands. Characters that it has taken in are held backwards. -/
inductive Mode where
  | code
  | word (chars : List Char)
  | comment
  /-- After one mark of a string. -/
  | opened (mark : Char)
  /-- After two marks, which are an empty string unless a third one follows. -/
  | doubled (mark : Char)
  /-- In a string, after so many of its marks in a row. -/
  | inside (q : Quotes) (chars : List Char) (marks : Nat)
  | escape (q : Quotes) (chars : List Char)
  /-- In a character's code, with so many digits to come. -/
  | digits (q : Quotes) (chars : List Char) (left n : Nat)
  | fault
deriving DecidableEq, Repr

def isNameChar (c : Char) : Bool := c.isAlphanum || c == '_' || 128 ≤ c.toNat

def isQuote (c : Char) : Bool := c == '\x27' || c == '\x22'

def isGap (c : Char) : Bool := c == ' ' || c == '\t' || c == '\n'

/-- Whether the character goes on with the word, which holds a point and the sign of an exponent if it is a number. -/
def continues (word : List Char) (c : Char) : Bool :=
  isNameChar c || word.getLast?.any Char.isDigit &&
    (c == '.' || (c == '+' || c == '-') && word.head?.any fun e => e == 'e' || e == 'E')

def wordToken (word : List Char) : Token :=
  if word.getLast?.any Char.isDigit then .number (String.ofList word.reverse) else .name (String.ofList word.reverse)

def escape? : Char → Option Char
  | '\\' => some '\\'
  | '\x27' => some '\x27'
  | '\x22' => some '\x22'
  | 'a' => some '\x07'
  | 'b' => some '\x08'
  | 'f' => some '\x0c'
  | 'n' => some '\n'
  | 'r' => some '\r'
  | 't' => some '\t'
  | 'v' => some '\x0b'
  | _ => none

def codeLength? : Char → Option Nat
  | 'x' => some 2
  | 'u' => some 4
  | 'U' => some 8
  | _ => none

namespace Mode

def start (c : Char) : List Token × Mode :=
  if isNameChar c then ([], .word [c])
  else if isQuote c then ([], .opened c)
  else if c = '#' then ([], .comment)
  else if isGap c then ([], .code)
  else ([.mark c], .code)

def readText (q : Quotes) (chars : List Char) (marks : Nat) (c : Char) : List Token × Mode :=
  if c = '\\' then ([], .escape q chars)
  else if c = q.mark then
    if !q.triple then ([.text (String.ofList chars.reverse)], .code)
    else if marks = 2 then ([.text (String.ofList (chars.drop 2).reverse)], .code)
    else ([], .inside q (c :: chars) (marks + 1))
  else if c = '\n' ∧ !q.triple then ([.fault], .fault)
  else ([], .inside q (c :: chars) 0)

def readEscape (q : Quotes) (chars : List Char) (c : Char) : List Token × Mode :=
  match escape? c, codeLength? c with
  | some d, _ => ([], .inside q (d :: chars) 0)
  | none, some n => ([], .digits q chars n 0)
  | none, none => ([.fault], .fault)

def readDigit (q : Quotes) (chars : List Char) (left n : Nat) (c : Char) : List Token × Mode :=
  match Json.hexValue? c with
  | none => ([.fault], .fault)
  | some d =>
    if 1 < left then ([], .digits q chars (left - 1) (16 * n + d))
    else if (16 * n + d).isValidChar then ([], .inside q (Char.ofNat (16 * n + d) :: chars) 0)
    else ([.fault], .fault)

/-- What a character does: the tokens that it completes, and the next mode. -/
def step : Mode → Char → List Token × Mode
  | .code, c => start c
  | .word w, c =>
    if continues w c then ([], .word (c :: w))
    else if isQuote c then ([.fault], .fault)
    else (wordToken w :: (start c).1, (start c).2)
  | .comment, c => ([], if c = '\n' then .code else .comment)
  | .opened mark, c => if c = mark then ([], .doubled mark) else readText ⟨mark, false⟩ [] 0 c
  | .doubled mark, c =>
    if c = mark then ([], .inside ⟨mark, true⟩ [] 0) else (.text "" :: (start c).1, (start c).2)
  | .inside q chars marks, c => readText q chars marks c
  | .escape q chars, c => readEscape q chars c
  | .digits q chars left n, c => readDigit q chars left n c
  | .fault, _ => ([], .fault)

def run : Mode → List Char → List Token × Mode
  | m, [] => ([], m)
  | m, c :: cs => ((step m c).1 ++ (run (step m c).2 cs).1, (run (step m c).2 cs).2)

def rest : Mode → List Token
  | .code => []
  | .word w => [wordToken w]
  | .comment => []
  | .doubled _ => [.text ""]
  | .fault => []
  | _ => [.fault]

def lex (m : Mode) (cs : List Char) : List Token := (run m cs).1 ++ (run m cs).2.rest

end Mode

def tokens (s : String) : List Token := Mode.code.lex s.toList

open Mode

@[simp] theorem rest_code : Mode.code.rest = [] := rfl

theorem rest_word (w : List Char) : (Mode.word w).rest = [wordToken w] := rfl

theorem run_append (m : Mode) (cs ds : List Char) :
    run m (cs ++ ds) = ((run m cs).1 ++ (run (run m cs).2 ds).1, (run (run m cs).2 ds).2) := by
  induction cs generalizing m with
  | nil => simp [run]
  | cons c cs ih => simp [run, ih]

theorem lex_append (m : Mode) (cs ds : List Char) : lex m (cs ++ ds) = (run m cs).1 ++ lex (run m cs).2 ds := by
  simp [lex, run_append]

theorem lex_cons (m : Mode) (c : Char) (cs : List Char) : lex m (c :: cs) = (step m c).1 ++ lex (step m c).2 cs := by
  simp [lex, run]

def delimiters : List Char := [' ', '\n', ',', ':', '=', '(', ')', '[', ']', '\x7b', '\x7d']

def Delimited (cs : List Char) : Prop := ∀ c ∈ cs.head?, c ∈ delimiters

theorem delimited_nil : Delimited [] := by simp [Delimited]

theorem delimited_cons {c : Char} (h : c ∈ delimiters) (cs : List Char) : Delimited (c :: cs) := by
  simpa [Delimited] using h

theorem lex_pending {m : Mode} {t : Token} (hrest : m.rest = [t])
    (hstep : ∀ c ∈ delimiters, step m c = (t :: (start c).1, (start c).2)) {cs : List Char} (h : Delimited cs) :
    lex m cs = t :: lex .code cs := by
  cases cs with
  | nil => simp [lex, run, hrest]
  | cons c cs =>
      rw [lex_cons, lex_cons, hstep c (h c rfl)]
      rfl

theorem lex_word (w : List Char) {cs : List Char} (h : Delimited cs) :
    lex (.word w) cs = wordToken w :: lex .code cs := by
  have hends : delimiters.all (fun c => !(isNameChar c || isQuote c || c == '.' || c == '+' || c == '-')) = true := rfl
  refine lex_pending rfl ?_ h
  intro c hc
  have hend := List.all_eq_true.1 hends c hc
  simp only [Bool.not_eq_true', Bool.or_eq_false_iff, beq_eq_false_iff_ne] at hend
  simp [step, continues, hend]

theorem lex_doubled {mark : Char} (hmark : isQuote mark = true) {cs : List Char} (h : Delimited cs) :
    lex (.doubled mark) cs = .text "" :: lex .code cs := by
  have hends : delimiters.any isQuote = false := rfl
  refine lex_pending rfl ?_ h
  intro c hc
  have hne : c ≠ mark := by
    rintro rfl
    exact List.any_eq_false.1 hends c hc hmark
  simp [step, hne]

/-- The text consists of these tokens, whatever comes after it. -/
def Closed (s : String) (ts : List Token) : Prop := ∀ rest, lex .code (s.toList ++ rest) = ts ++ lex .code rest

/-- The text consists of these tokens if its last one ends there. -/
def Lexes (s : String) (ts : List Token) : Prop :=
  ∀ rest, Delimited rest → lex .code (s.toList ++ rest) = ts ++ lex .code rest

section

variable {s t : String} {ts us : List Token}

theorem closed_of_run {cs : List Char} (h : run .code cs = (ts, .code)) : Closed (String.ofList cs) ts := by
  intro rest
  rw [String.toList_ofList, lex_append, h]

theorem Closed.lexes (h : Closed s ts) : Lexes s ts := fun rest _ => h rest

theorem Lexes.tokens (h : Lexes s ts) : tokens s = ts := by
  simpa [Script.tokens, lex, run] using h [] delimited_nil

theorem Closed.append (hs : Closed s ts) (ht : Closed t us) : Closed (s ++ t) (ts ++ us) := by
  intro rest
  rw [String.toList_append, List.append_assoc, hs, ht, List.append_assoc]

theorem Closed.lexes_append (hs : Closed s ts) (ht : Lexes t us) : Lexes (s ++ t) (ts ++ us) := by
  intro rest hrest
  rw [String.toList_append, List.append_assoc, hs, ht rest hrest, List.append_assoc]

theorem Delimited.append {cs : List Char} (hend : ∃ c ∈ delimiters, cs.head? = some c) (rest : List Char) :
    Delimited (cs ++ rest) := by
  obtain ⟨c, hc, hhead⟩ := hend
  obtain ⟨ds, rfl⟩ := List.head?_eq_some_iff.1 hhead
  exact delimited_cons hc _

theorem Lexes.append (hs : Lexes s ts) (ht : Lexes t us) (hend : ∃ c ∈ delimiters, t.toList.head? = some c) :
    Lexes (s ++ t) (ts ++ us) := by
  intro rest hrest
  rw [String.toList_append, List.append_assoc, hs _ (Delimited.append hend rest), ht rest hrest, List.append_assoc]

theorem Lexes.closed_append (hs : Lexes s ts) (ht : Closed t us) (hend : ∃ c ∈ delimiters, t.toList.head? = some c) :
    Closed (s ++ t) (ts ++ us) := by
  intro rest
  rw [String.toList_append, List.append_assoc, hs _ (Delimited.append hend rest), ht, List.append_assoc]

end

def Mode.pauses : Mode → Bool
  | .code | .word _ => true
  | _ => false

theorem lexes_of_run {cs : List Char} (h : (run .code cs).2.pauses = true) :
    Lexes (String.ofList cs) (lex .code cs) := by
  intro rest hrest
  have hlex : lex .code cs = (run .code cs).1 ++ (run .code cs).2.rest := rfl
  rw [String.toList_ofList, lex_append, hlex]
  cases hmode : (run .code cs).2 with
  | code => rw [rest_code, List.append_nil]
  | word w => rw [lex_word w hrest, rest_word, List.append_assoc, List.singleton_append]
  | comment | opened | doubled | inside | escape | digits | fault => simp [hmode, Mode.pauses] at h

theorem lexes_word {s : String} (hne : s ≠ "") (h : ∀ c ∈ s.toList, isNameChar c = true) :
    Lexes s [wordToken s.toList.reverse] := by
  intro rest hrest
  have hrun : ∀ (w cs : List Char), (∀ c ∈ cs, isNameChar c = true) →
      run (.word w) cs = ([], .word (cs.reverse ++ w)) := by
    intro w cs hcs
    induction cs generalizing w with
    | nil => rfl
    | cons c cs ih =>
        obtain ⟨hc, hcs⟩ := List.forall_mem_cons.1 hcs
        simp [run, step, continues, hc, ih _ hcs]
  obtain ⟨c, cs, hcs⟩ := List.exists_cons_of_ne_nil (show s.toList ≠ [] by simpa using hne)
  rw [hcs] at h ⊢
  obtain ⟨hc, hrest'⟩ := List.forall_mem_cons.1 h
  have hstart : run .code (c :: cs) = ([], .word (cs.reverse ++ [c])) := by
    simp [run, step, start, hc, hrun [c] cs hrest']
  rw [lex_append, hstart, lex_word _ hrest]
  simp

theorem lexes_name {s : String} (hne : s ≠ "") (h : ∀ c ∈ s.toList, isNameChar c = true)
    (hfirst : s.toList.head?.any Char.isDigit = false) : Lexes s [.name s] := by
  have hword := lexes_word hne h
  rwa [wordToken, List.getLast?_reverse, if_neg (by rw [hfirst]; decide), List.reverse_reverse,
    String.ofList_toList] at hword

open Text

theorem run_of_step {m : Mode} {c : Char} (next : Mode) (h : step m c = ([], next)) (cs : List Char) :
    run m (c :: cs) = run next cs := by
  simp [run, h]

section

variable {q : Quotes} {v : List Char} {marks : Nat} {c : Char}

theorem run_backslash (cs : List Char) : run (.inside q v marks) ('\\' :: cs) = run (.escape q v) cs :=
  run_of_step _ (by simp [step, readText]) cs

theorem run_escape {d : Char} (h : escape? c = some d) (cs : List Char) :
    run (.escape q v) (c :: cs) = run (.inside q (d :: v) 0) cs :=
  run_of_step _ (by simp [step, readEscape, h]) cs

theorem run_escape_code {n : Nat} (h : escape? c = none) (hn : codeLength? c = some n) (cs : List Char) :
    run (.escape q v) (c :: cs) = run (.digits q v n 0) cs :=
  run_of_step _ (by simp [step, readEscape, h, hn]) cs

theorem run_inside (hslash : c ≠ '\\') (hmark : c ≠ q.mark) (hline : c = '\n' → q.triple = true) (cs : List Char) :
    run (.inside q v marks) (c :: cs) = run (.inside q (c :: v) 0) cs := by
  refine run_of_step _ ?_ cs
  rw [step, readText, if_neg hslash, if_neg hmark, if_neg]
  rintro ⟨hc, htriple⟩
  rw [hline hc] at htriple
  cases htriple

end

theorem hexDigits_succ (width n : Nat) :
    hexDigits (width + 1) n = Nat.digitChar (n / 16 ^ width % 16) :: hexDigits width n := by
  simp [hexDigits, List.range_succ]

theorem hexValue?_digitChar {k : Nat} (h : k < 16) : Json.hexValue? (Nat.digitChar k) = some k := by
  have hall : ∀ k < 16, Json.hexValue? (Nat.digitChar k) = some k := by decide
  exact hall k h

theorem run_hexDigits {q : Quotes} (v : List Char) {width : Nat} (hwidth : 0 < width) (n acc : Nat)
    (hvalid : (acc * 16 ^ width + n % 16 ^ width).isValidChar) :
    run (.digits q v width acc) (hexDigits width n) =
      ([], .inside q (Char.ofNat (acc * 16 ^ width + n % 16 ^ width) :: v) 0) := by
  induction width generalizing acc with
  | zero => omega
  | succ width ih =>
      have hdigit : n / 16 ^ width % 16 < 16 := Nat.mod_lt _ (by decide)
      have hsplit : acc * 16 ^ (width + 1) + n % 16 ^ (width + 1) =
          (16 * acc + n / 16 ^ width % 16) * 16 ^ width + n % 16 ^ width := by
        rw [Nat.pow_succ, Nat.mod_mul]
        ring
      rw [hsplit] at hvalid ⊢
      rw [hexDigits_succ]
      by_cases hlast : width = 0
      · subst hlast
        simp only [Nat.pow_zero, Nat.mul_one, Nat.mod_one, Nat.add_zero] at hvalid ⊢
        refine run_of_step _ ?_ []
        rw [step, readDigit, hexValue?_digitChar (Nat.mod_lt _ (by decide))]
        simp only
        rw [if_neg (by decide), if_pos hvalid]
      · rw [run_of_step (.digits q v width (16 * acc + n / 16 ^ width % 16)), ih (by omega) _ hvalid]
        rw [step, readDigit, hexValue?_digitChar hdigit]
        simp [show 0 < width by omega]

theorem run_code {q : Quotes} {v : List Char} {c : Char} {width : Nat} (hwidth : 0 < width)
    (h : c.toNat < 16 ^ width) :
    run (.digits q v width 0) (hexDigits width c.toNat) = ([], .inside q (c :: v) 0) := by
  have hcode : 0 * 16 ^ width + c.toNat % 16 ^ width = c.toNat := by
    rw [Nat.mod_eq_of_lt h, Nat.zero_mul, Nat.zero_add]
  rw [run_hexDigits v hwidth, hcode, Char.ofNat_toNat]
  rw [hcode]
  exact c.valid

theorem run_escaped {mark : Char} (hmark : isQuote mark = true) (v : List Char) (marks : Nat) (c : Char) :
    run (.inside ⟨mark, false⟩ v marks) (escaped mark c) = ([], .inside ⟨mark, false⟩ (c :: v) 0) := by
  have hescape : escape? mark = some mark := by
    rw [isQuote, Bool.or_eq_true, beq_iff_eq, beq_iff_eq] at hmark
    rcases hmark with rfl | rfl <;> rfl
  have hcode : ∀ {letter : Char} {width : Nat}, escape? letter = none → codeLength? letter = some width → 0 < width →
      c.toNat < 16 ^ width → run (.inside ⟨mark, false⟩ v marks) ('\\' :: letter :: hexDigits width c.toNat) =
        ([], .inside ⟨mark, false⟩ (c :: v) 0) := by
    intro letter width hletter hwidth hpos hc
    rw [run_backslash, run_escape_code hletter hwidth, run_code hpos hc]
  unfold escaped
  split_ifs with h₁ h₂ h₃ h₄ h₅ h₆ h₇
  · rcases h₁ with rfl | rfl
    · rw [run_backslash, run_escape hescape, run]
    · rw [run_backslash, run_escape rfl, run]
  · rw [h₂, run_backslash, run_escape rfl, run]
  · rw [h₃, run_backslash, run_escape rfl, run]
  · rw [h₄, run_backslash, run_escape rfl, run]
  · rw [not_or] at h₁
    rw [run_inside h₁.2 h₁.1 (fun h => absurd h h₂), run]
  · exact hcode rfl rfl (by decide) h₆
  · exact hcode rfl rfl (by decide) h₇
  · exact hcode rfl rfl (by decide) (Nat.lt_of_lt_of_le (UInt32.toNat_lt c.val) (by decide))

theorem run_flatMap_escaped {mark : Char} (hmark : isQuote mark = true) (v cs : List Char) (marks : Nat) :
    ∃ n, run (.inside ⟨mark, false⟩ v marks) (cs.flatMap (escaped mark)) =
      ([], .inside ⟨mark, false⟩ (cs.reverse ++ v) n) := by
  induction cs generalizing v marks with
  | nil => exact ⟨marks, rfl⟩
  | cons c cs ih =>
      obtain ⟨n, hn⟩ := ih (c :: v) 0
      refine ⟨n, ?_⟩
      rw [List.flatMap_cons, run_append, run_escaped hmark, hn]
      simp

theorem escaped_eq_cons {mark : Char} (hmark : mark ≠ '\\') (c : Char) :
    ∃ d ds, escaped mark c = d :: ds ∧ d ≠ mark := by
  have hslash : ∀ ds, ∃ d es, '\\' :: ds = d :: es ∧ d ≠ mark := fun ds => ⟨'\\', ds, rfl, hmark.symm⟩
  unfold escaped
  split_ifs with h₁
  · exact hslash _
  · exact hslash _
  · exact hslash _
  · exact hslash _
  · exact ⟨c, [], rfl, fun h => h₁ (.inl h)⟩
  · exact hslash _
  · exact hslash _
  · exact hslash _

theorem isQuote_quoteMark (cs : List Char) : isQuote (quoteMark cs) = true := by
  rw [quoteMark]
  split <;> rfl

theorem lexes_quoted (s : String) : Lexes (quoted s) [.text s] := by
  intro rest hrest
  have hmark := isQuote_quoteMark s.toList
  have hname : isNameChar (quoteMark s.toList) = false := by
    rw [quoteMark]
    split <;> rfl
  rw [quoted, String.toList_ofList, quotedChars]
  generalize quoteMark s.toList = mark at hmark hname
  have hopen : ∀ cs, run .code (mark :: cs) = run (.opened mark) cs :=
    run_of_step _ (by simp [step, start, hmark, hname])
  cases hs : s.toList with
  | nil =>
      have hempty : s = "" := by simpa using hs
      rw [lex_append, List.flatMap_nil, List.cons_append, hopen, List.nil_append,
        run_of_step (.doubled mark) (by simp [step]), hempty]
      exact lex_doubled hmark hrest
  | cons c cs =>
      have hslash : mark ≠ '\\' := by
        rintro rfl
        cases hmark
      have hclose : ∀ v n, run (.inside ⟨mark, false⟩ v n) [mark] = ([.text (String.ofList v.reverse)], .code) := by
        simp [run, step, readText, hslash]
      -- What stands first in the string is not the mark, which would be escaped.
      have hfirst : run (.opened mark) ((c :: cs).flatMap (escaped mark)) =
          run (.inside ⟨mark, false⟩ [] 0) ((c :: cs).flatMap (escaped mark)) := by
        obtain ⟨d, ds, hd, hne⟩ := escaped_eq_cons hslash c
        rw [List.flatMap_cons, hd, List.cons_append, run, run, step, if_neg hne, step]
      obtain ⟨n, hn⟩ := run_flatMap_escaped hmark [] (c :: cs) 0
      rw [lex_append, List.cons_append, hopen, run_append, hfirst, hn, hclose, List.append_nil, List.reverse_reverse,
        ← hs, String.ofList_toList, List.nil_append]

end Dataflow.Script
