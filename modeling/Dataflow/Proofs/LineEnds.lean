import Dataflow.Files.Document
import Dataflow.Proofs.Steps
import Mathlib.Data.List.Find
import Mathlib.Data.Option.Basic

namespace Dataflow

namespace Text

/-- The second text is the first one with a newline for every line end. -/
inductive Unified : List Char → List Char → Prop
  | nil : Unified [] []
  | pair {cs ds : List Char} (h : Unified cs ds) : Unified ('\r' :: '\n' :: cs) ('\n' :: ds)
  | lone {cs ds : List Char} (h : Unified cs ds) : Unified ('\r' :: cs) ('\n' :: ds)
  | char {c : Char} {cs ds : List Char} (hc : c ≠ '\r') (h : Unified cs ds) : Unified (c :: cs) (c :: ds)

theorem exists_unified (done cs : List Char) :
    ∃ ds, unifyLineEnds done cs = done.reverse ++ ds ∧ Unified cs ds := by
  fun_induction unifyLineEnds done cs with
  | case1 done cs ih =>
      obtain ⟨ds, he, h⟩ := ih
      exact ⟨'\n' :: ds, by simpa using he, .pair h⟩
  | case2 done cs _ ih =>
      obtain ⟨ds, he, h⟩ := ih
      exact ⟨'\n' :: ds, by simpa using he, .lone h⟩
  | case3 done c cs _ hc ih =>
      obtain ⟨ds, he, h⟩ := ih
      exact ⟨c :: ds, by simpa using he, .char hc h⟩
  | case4 done => exact ⟨[], by simp, .nil⟩

theorem unified_unifyLineEnds (cs : List Char) : Unified cs (unifyLineEnds [] cs) := by
  obtain ⟨ds, he, h⟩ := exists_unified [] cs
  rwa [he]

variable {cs ds : List Char}

theorem Unified.takeWhile {q : Char → Bool} (hr : q '\r' = false) (hn : q '\n' = false) (h : Unified cs ds) :
    cs.takeWhile q = ds.takeWhile q := by
  induction h with
  | nil => rfl
  | pair | lone => simp [hr, hn]
  | @char c cs ds _ _ ih => cases hq : q c <;> simp [hq, ih]

theorem Unified.dropWhile {q : Char → Bool} (hr : q '\r' = false) (hn : q '\n' = false) (h : Unified cs ds) :
    Unified (cs.dropWhile q) (ds.dropWhile q) := by
  induction h with
  | nil => exact .nil
  | pair h => simpa [hr, hn] using Unified.pair h
  | lone h => simpa [hr, hn] using Unified.lone h
  | @char c cs ds hc h ih =>
      cases hq : q c
      · simpa [hq] using Unified.char hc h
      · simpa [hq] using ih

theorem Unified.splitSign (h : Unified cs ds) :
    (Text.splitSign cs).1 = (Text.splitSign ds).1 ∧ Unified (Text.splitSign cs).2 (Text.splitSign ds).2 := by
  cases h with
  | nil => exact ⟨rfl, .nil⟩
  | pair h => exact ⟨rfl, .pair h⟩
  | lone h => exact ⟨rfl, .lone h⟩
  | @char c cs ds hc h =>
      unfold Text.splitSign
      split <;> simp_all [Unified.char]

theorem Unified.isPrefixOf {word : List Char} (hr : '\r' ∉ word) (hn : '\n' ∉ word) (h : Unified cs ds) :
    word.isPrefixOf cs = word.isPrefixOf ds := by
  induction h generalizing word with
  | nil => rfl
  | pair | lone =>
      cases word with
      | nil => rfl
      | cons w word =>
          have hwr : (w == '\r') = false := beq_false_of_ne (List.ne_of_not_mem_cons hr).symm
          have hwn : (w == '\n') = false := beq_false_of_ne (List.ne_of_not_mem_cons hn).symm
          rw [List.isPrefixOf_cons_cons, List.isPrefixOf_cons_cons, hwr, hwn, Bool.false_and, Bool.false_and]
  | char _ _ ih =>
      cases word with
      | nil => rfl
      | cons w word =>
          rw [List.isPrefixOf_cons_cons, List.isPrefixOf_cons_cons, ih (List.not_mem_of_not_mem_cons hr)
            (List.not_mem_of_not_mem_cons hn)]

theorem Unified.drop {word : List Char} (hr : '\r' ∉ word) (h : Unified cs ds) (hword : word.isPrefixOf cs = true) :
    Unified (cs.drop word.length) (ds.drop word.length) := by
  induction h generalizing word with
  | nil => simpa using Unified.nil
  | pair h | lone h =>
      cases word with
      | nil => constructor; exact h
      | cons w word =>
          simp only [List.isPrefixOf_cons_cons, Bool.and_eq_true, beq_iff_eq] at hword
          exact absurd hword.1.symm (List.ne_of_not_mem_cons hr)
  | char hc h ih =>
      cases word with
      | nil => exact .char hc h
      | cons w word =>
          rw [List.isPrefixOf_cons_cons, Bool.and_eq_true] at hword
          exact ih (List.not_mem_of_not_mem_cons hr) hword.2

end Text

namespace Json

open Text (Unified)

variable {cs ds : List Char}

theorem scanExponent_unified (h : Unified cs ds) :
    (scanExponent cs).1 = (scanExponent ds).1 ∧ Unified (scanExponent cs).2 (scanExponent ds).2 := by
  cases h with
  | nil => exact ⟨rfl, .nil⟩
  | pair h => exact ⟨rfl, .pair h⟩
  | lone h => exact ⟨rfl, .lone h⟩
  | @char c cs ds hc h =>
      by_cases he : c = 'e' ∨ c = 'E'
      · obtain ⟨hsign, htail⟩ := h.splitSign
        have htake := htail.takeWhile (q := isDecimal) rfl rfl
        have hdrop := htail.dropWhile (q := isDecimal) rfl rfl
        simp only [scanExponent, if_pos he, hsign, htake]
        split
        · exact ⟨rfl, .char hc h⟩
        · exact ⟨rfl, hdrop⟩
      · simpa [scanExponent, he] using Unified.char hc h

theorem scanFraction_unified (h : Unified cs ds) :
    (scanFraction cs).1 = (scanFraction ds).1 ∧ Unified (scanFraction cs).2 (scanFraction ds).2 := by
  cases h with
  | nil => exact ⟨rfl, .nil⟩
  | pair h => exact ⟨rfl, .pair h⟩
  | lone h => exact ⟨rfl, .lone h⟩
  | @char c cs ds hc h =>
      by_cases hpoint : c = '.'
      · subst hpoint
        have htake := h.takeWhile (q := isDecimal) rfl rfl
        have hdrop := h.dropWhile (q := isDecimal) rfl rfl
        simp only [scanFraction, htake]
        split
        · exact ⟨rfl, .char hc h⟩
        · exact ⟨rfl, hdrop⟩
      · simpa [scanFraction, hpoint] using Unified.char hc h

theorem scanWhole_unified (h : Unified cs ds) :
    (scanWhole cs).1 = (scanWhole ds).1 ∧ Unified (scanWhole cs).2 (scanWhole ds).2 := by
  cases h with
  | nil => exact ⟨rfl, .nil⟩
  | pair h => exact ⟨rfl, .pair h⟩
  | lone h => exact ⟨rfl, .lone h⟩
  | @char c cs ds hc h =>
      by_cases hzero : c = '0'
      · subst hzero
        exact ⟨rfl, h⟩
      · have htake := (Unified.char hc h).takeWhile (q := isDecimal) rfl rfl
        have hdrop := (Unified.char hc h).dropWhile (q := isDecimal) rfl rfl
        simpa [scanWhole, hzero] using ⟨htake, hdrop⟩

def SameNumeral (x y : Numeral × List Char) : Prop := x.1 = y.1 ∧ Unified x.2 y.2

theorem scanUnsigned_unified (negative : Bool) (h : Unified cs ds) :
    Option.Rel SameNumeral (scanUnsigned? negative cs) (scanUnsigned? negative ds) := by
  obtain ⟨hwhole, hafter⟩ := scanWhole_unified h
  obtain ⟨hfraction, hafter⟩ := scanFraction_unified hafter
  obtain ⟨hexponent, hafter⟩ := scanExponent_unified hafter
  simp only [scanUnsigned?, hwhole]
  split
  · exact .none
  · exact .some ⟨by simp only [hfraction, hexponent], hafter⟩

theorem scanNumeral_unified (h : Unified cs ds) : Option.Rel SameNumeral (scanNumeral? cs) (scanNumeral? ds) := by
  cases h with
  | nil => exact scanUnsigned_unified false .nil
  | pair h => exact scanUnsigned_unified false (.pair h)
  | lone h => exact scanUnsigned_unified false (.lone h)
  | @char c cs ds hc h =>
      by_cases hminus : c = '-'
      · subst hminus
        exact scanUnsigned_unified true h
      · simpa [scanNumeral?, hminus] using scanUnsigned_unified false (.char hc h)

theorem scanWord_unified (h : Unified cs ds) :
    Option.Rel (fun x y => x.2.1 = y.2.1 ∧ Unified x.2.2 y.2.2) (scanWord? cs) (scanWord? ds) := by
  have hplain : ∀ w ∈ words, '\r' ∉ w.1 ∧ '\n' ∉ w.1 := by decide
  have hfind : (words.find? fun w => w.1.isPrefixOf cs) = words.find? fun w => w.1.isPrefixOf ds :=
    List.find?_congr fun w hw => h.isPrefixOf (hplain w hw).1 (hplain w hw).2
  simp only [scanWord?, ← hfind]
  cases hw : words.find? fun w => w.1.isPrefixOf cs with
  | none => exact .none
  | some w =>
      have hmem : w ∈ words := List.mem_of_find?_eq_some hw
      have hword : w.1.isPrefixOf cs = true := by simpa using List.find?_some hw
      exact .some ⟨rfl, h.drop (hplain w hmem).1 hword⟩

/-- The fault, at no matter which position. -/
def Fault.unplaced : Fault → Fault
  | .invalid reason _ => .invalid reason 0
  | .digits count => .digits count

@[simp] theorem Fault.unplaced_invalid (reason : Reason) (position : Nat) :
    (Fault.invalid reason position).unplaced = .invalid reason 0 :=
  rfl

/-- The tokens are the same, but for the positions of faults. -/
inductive Token.Same : Token → Token → Prop
  | refl (t : Token) : Same t t
  | badString {f g : Fault} (h : f.unplaced = g.unplaced) : Same (.badString f) (.badString g)
  | bad {f g : Fault} (h : f.unplaced = g.unplaced) : Same (.bad f) (.bad g)

def Scanned.Same (x y : Scanned) : Prop := x.token.Same y.token ∧ Unified x.rest y.rest

namespace StringScan

inductive Same : StringScan → StringScan → Prop
  | refl (s : StringScan) : Same s s
  | unit (chars : List Char) (high : Option Nat) (count value mark mark' : Nat) :
      Same ⟨chars, high, .unit count value mark⟩ ⟨chars, high, .unit count value mark'⟩

variable {s t : StringScan}

theorem readText_same (s : StringScan) (pos pos' : Nat) (c : Char) :
    Sum.LiftRel Same Token.Same (s.readText pos c) (s.readText pos' c) := by
  unfold readText
  split
  · exact .inr (.refl _)
  · split
    · exact .inl (.refl _)
    · split
      · exact .inr (.badString rfl)
      · exact .inl (.refl _)

theorem pushUnit_mode (chars : List Char) (high : Option Nat) (mode mode' : StringMode) (unit : Nat) :
    pushUnit ⟨chars, high, mode⟩ unit = pushUnit ⟨chars, high, mode'⟩ unit := by
  cases high <;> rfl

theorem read_same (h : s.Same t) (pos pos' : Nat) (c : Char) :
    Sum.LiftRel Same Token.Same (s.read pos c) (t.read pos' c) := by
  have hunit : ∀ chars high count value mark mark',
      Sum.LiftRel Same Token.Same (read ⟨chars, high, .unit count value mark⟩ pos c)
        (read ⟨chars, high, .unit count value mark'⟩ pos' c) := by
    intro chars high count value mark mark'
    simp only [read]
    split
    · rw [pushUnit_mode chars high (.unit count value mark) (.unit count value mark')]
      exact readText_same _ pos pos' c
    · split
      · exact .inl (.unit ..)
      · exact .inr (.badString rfl)
  cases h with
  | unit chars high count value mark mark' => exact hunit chars high count value mark mark'
  | refl =>
      obtain ⟨chars, high, mode⟩ := s
      cases mode with
      | text => exact readText_same _ pos pos' c
      | escape =>
          simp only [read]
          split
          · exact .inl (.unit ..)
          · split
            · exact .inl (.refl _)
            · exact .inr (.badString rfl)
      | unit count value mark => exact hunit chars high count value mark mark

theorem read_lineEnd (h : s.Same t) (pos pos' : Nat) :
    ∃ f g, s.read pos '\r' = .inr (.badString f) ∧ t.read pos' '\n' = .inr (.badString g) ∧
      f.unplaced = g.unplaced := by
  have hunit : ∀ chars high count value mark mark', ∃ f g,
      read ⟨chars, high, .unit count value mark⟩ pos '\r' = .inr (.badString f) ∧
      read ⟨chars, high, .unit count value mark'⟩ pos' '\n' = .inr (.badString g) ∧ f.unplaced = g.unplaced := by
    intro chars high count value mark mark'
    by_cases hcount : count = 4
    · subst hcount
      exact ⟨_, _, rfl, rfl, rfl⟩
    · have hr : hexValue? '\r' = none := rfl
      have hn : hexValue? '\n' = none := rfl
      simp only [read, if_neg hcount, hr, hn]
      exact ⟨_, _, rfl, rfl, rfl⟩
  cases h with
  | unit chars high count value mark mark' => exact hunit chars high count value mark mark'
  | refl =>
      obtain ⟨chars, high, mode⟩ := s
      cases mode with
      | text | escape => exact ⟨_, _, rfl, rfl, rfl⟩
      | unit count value mark => exact hunit chars high count value mark mark

theorem fault_same (h : s.Same t) (start start' : Nat) : (s.fault start).unplaced = (t.fault start').unplaced := by
  cases h with
  | unit => rfl
  | refl =>
      obtain ⟨chars, high, mode⟩ := s
      cases mode <;> rfl

end StringScan

theorem scanString_unified {s t : StringScan} (hs : s.Same t) (h : Unified cs ds) (start start' pos pos' : Nat) :
    (scanString start s pos cs).Same (scanString start' t pos' ds) := by
  induction h generalizing s t pos pos' with
  | nil => exact ⟨.badString (StringScan.fault_same hs start start'), .nil⟩
  | pair h | lone h =>
      obtain ⟨f, g, hf, hg, hfg⟩ := StringScan.read_lineEnd hs pos pos'
      simp only [scanString, hf, hg]
      exact ⟨.badString hfg, .nil⟩
  | @char c cs ds hc h ih =>
      have hread := StringScan.read_same hs pos pos' c
      rw [scanString, scanString]
      generalize s.read pos c = x at hread
      generalize t.read pos' c = y at hread
      cases hread with
      | inl hst => exact ih hst _ _
      | inr htoken =>
          cases htoken with
          | bad hfg => exact ⟨.bad hfg, h⟩
          | badString hfg => exact ⟨.badString hfg, .nil⟩
          | refl =>
              rename_i token
              cases token with
              | badString f => exact ⟨.refl _, .nil⟩
              | _ => exact ⟨.refl _, h⟩

theorem scanToken_unified {c : Char} (hc : c ≠ '\r') (h : Unified cs ds) (pos pos' : Nat) :
    (scanToken pos c cs).Same (scanToken pos' c ds) := by
  unfold scanToken
  cases punctuation? c with
  | some t => exact ⟨.refl t, h⟩
  | none =>
      by_cases hquote : c = '\x22'
      · simp only [hquote, if_true]
        exact scanString_unified (.refl _) h _ _ _ _
      simp only [if_neg hquote]
      have hword := scanWord_unified (.char hc h)
      generalize scanWord? (c :: cs) = x at hword
      generalize scanWord? (c :: ds) = y at hword
      cases hword with
      | @some x y hword =>
          obtain ⟨n, v, rest⟩ := x
          obtain ⟨n', v', rest'⟩ := y
          obtain ⟨rfl, hrest⟩ := hword
          exact ⟨.refl _, hrest⟩
      | none =>
          have hnumeral := scanNumeral_unified (.char hc h)
          generalize scanNumeral? (c :: cs) = x at hnumeral
          generalize scanNumeral? (c :: ds) = y at hnumeral
          cases hnumeral with
          | none => exact ⟨.bad rfl, .nil⟩
          | @some x y hnumeral =>
              obtain ⟨n, rest⟩ := x
              obtain ⟨m, rest'⟩ := y
              obtain ⟨rfl, hrest⟩ := hnumeral
              dsimp only at hrest ⊢
              cases n.token with
              | bad f => exact ⟨.refl _, .nil⟩
              | _ => exact ⟨.refl _, hrest⟩

theorem scan_space {c : Char} (hc : isSpace c = true) (pos : Nat) (cs : List Char) :
    scan pos (c :: cs) = scan (pos + 1) cs := by
  rw [scan, if_pos hc]

def SameTokens : List Lexeme → List Lexeme → Prop := List.Forall₂ fun l m => l.token.Same m.token

theorem scan_unified (h : Unified cs ds) (pos pos' : Nat) : SameTokens (scan pos cs) (scan pos' ds) := by
  -- A token may take up more than one character, so the induction is on the length of the text.
  induction hlength : cs.length using Nat.strong_induction_on generalizing cs ds pos pos' with
  | h length ih =>
      subst hlength
      cases h with
      | nil => rw [scan, scan]; exact .nil
      | pair h =>
          rw [scan_space rfl, scan_space rfl, scan_space rfl]
          exact ih _ (by simp only [List.length_cons]; omega) h _ _ rfl
      | lone h =>
          rw [scan_space rfl, scan_space rfl]
          exact ih _ (by simp) h _ _ rfl
      | @char c cs ds hc h =>
          cases hspace : isSpace c with
          | true =>
              rw [scan_space hspace, scan_space hspace]
              exact ih _ (by simp) h _ _ rfl
          | false =>
              obtain ⟨htoken, hrest⟩ := scanToken_unified hc h pos pos'
              have hshort := scanToken_rest_le pos c cs
              rw [scan, scan, if_neg (by simp [hspace]), if_neg (by simp [hspace])]
              exact .cons htoken (ih _ (by simp; omega) hrest _ _ rfl)

namespace Progress

theorem step_position (p : Progress) (t : Token) (pos pos' : Nat) :
    (p.step ⟨t, pos⟩).mapError Fault.unplaced = (p.step ⟨t, pos'⟩).mapError Fault.unplaced := by
  rcases p with ⟨_ | ⟨_ | _, frames⟩, due⟩ | v
  · cases due <;> cases t <;> rfl
  · cases due <;> cases t <;> rfl
  · cases due <;> cases t <;> rfl
  · rfl

theorem step_same (p : Progress) {l m : Lexeme} (h : l.token.Same m.token) :
    (p.step l).mapError Fault.unplaced = (p.step m).mapError Fault.unplaced := by
  obtain ⟨t, pos⟩ := l
  obtain ⟨u, pos'⟩ := m
  cases h with
  | refl => exact step_position p t pos pos'
  | badString hfg | bad hfg =>
      cases p with
      | done => rfl
      | going frames due =>
          cases due <;> simp [step, stepValue, stepName, stepColon, stepComma, Except.mapError, hfg]

theorem foldlM_step_same (p : Progress) {ls ms : List Lexeme} (h : SameTokens ls ms) :
    (ls.foldlM step p).mapError Fault.unplaced = (ms.foldlM step p).mapError Fault.unplaced := by
  induction h generalizing p with
  | nil => rfl
  | cons hlm _ ih =>
      rw [List.foldlM_cons, List.foldlM_cons]
      exact Steps.mapError_bind_congr (step_same p hlm) ih

theorem finish_length (p : Progress) (length length' : Nat) :
    (p.finish length).mapError Fault.unplaced = (p.finish length').mapError Fault.unplaced := by
  cases p with
  | done => rfl
  | going frames due => cases due <;> rfl

end Progress

theorem head?_unified (h : Unified cs ds) : cs.head? = some byteOrderMark ↔ ds.head? = some byteOrderMark := by
  cases h with
  | nil | char => rfl
  | pair | lone => simp [byteOrderMark]

theorem read_unified (h : Unified cs ds) : (read cs).mapError Fault.unplaced = (read ds).mapError Fault.unplaced := by
  unfold read
  simp only [head?_unified h]
  split
  · rfl
  · exact Steps.mapError_bind_congr (Progress.foldlM_step_same .start (scan_unified h 0 0))
      fun p => p.finish_length cs.length ds.length

def ParseError.unplaced : ParseError → ParseError
  | .malformed reason _ _ _ => .malformed reason 0 0 0
  | .tooManyDigits count => .tooManyDigits count

theorem unplaced_locate (cs ds : List Char) {f g : Fault} (h : f.unplaced = g.unplaced) :
    (locate cs f).unplaced = (locate ds g).unplaced := by
  cases f with
  | invalid reason =>
      cases g with
      | invalid => cases h; rfl
      | digits => cases h
  | digits count =>
      cases g with
      | invalid => cases h
      | digits => cases h; rfl

theorem parse_unified (text : String) :
    (parse (String.ofList (Text.unifyLineEnds [] text.toList))).mapError ParseError.unplaced =
      (parse text).mapError ParseError.unplaced := by
  have hread := read_unified (Text.unified_unifyLineEnds text.toList)
  rw [parse, parse, String.toList_ofList]
  generalize read text.toList = x at hread
  generalize read (Text.unifyLineEnds [] text.toList) = y at hread
  cases x with
  | ok v => rw [Steps.mapError_eq_ok.1 hread.symm]; rfl
  | error f =>
      cases y with
      | ok w => cases hread
      | error g => exact congrArg Except.error (unplaced_locate _ _ (Except.error.inj hread.symm))

theorem parse_unifyLineEnds {text : String} {v : Json} (h : parse text = .ok v) :
    parse (String.ofList (Text.unifyLineEnds [] text.toList)) = .ok v := by
  have hparse := parse_unified text
  rw [h] at hparse
  exact Steps.mapError_eq_ok.1 hparse

end Json

end Dataflow
