import Dataflow.Proofs.Tokens

namespace Dataflow.Script

namespace Token

def opens (t : Token) : Bool := t ∈ [.mark '(', .mark '[', .mark '\x7b']

def closes (t : Token) : Bool := t ∈ [.mark ')', .mark ']', .mark '\x7d']

def nest (t : Token) (depth : Nat) : Nat := if t.opens then depth + 1 else if t.closes then depth - 1 else depth

end Token

/-- Cuts the tokens at those marks `sep` that stand outside of brackets. -/
def cut (sep : Char) : Nat → List Token → List (List Token)
  | _, [] => [[]]
  | depth, t :: ts =>
    if depth = 0 ∧ t = .mark sep then [] :: cut sep 0 ts
    else (cut sep (t.nest depth) ts).modifyHead (t :: ·)

/-- The tokens before the bracket that closes one opened earlier, and those after it. -/
def enclosed : Nat → List Token → Option (List Token × List Token)
  | _, [] => none
  | depth, t :: ts =>
    if depth = 0 ∧ t.closes then some ([], ts)
    else (enclosed (t.nest depth) ts).map fun (inside, after) => (t :: inside, after)

def items (ts : List Token) : List (List Token) := if ts = [] then [] else cut ',' 0 ts

def listed (ts : List Token) : Option (List (List Token) × List Token) :=
  (enclosed 0 ts).map fun (inside, after) => (items inside, after)

/-- How many brackets are open after the tokens, unless they close one that is not theirs or have one of the marks
`seps` outside of brackets. -/
def level (seps : List Char) : Nat → List Token → Option Nat
  | depth, [] => some depth
  | depth, t :: ts =>
    if depth = 0 ∧ (t.closes ∨ t ∈ seps.map .mark) then none else level seps (t.nest depth) ts

/-- The tokens close their brackets, and have none of the marks outside of them. -/
def Whole (seps : List Char) (ts : List Token) : Prop := level seps 0 ts = some 0

section

variable {seps : List Char} {sep : Char} {depth after : Nat} {ts us : List Token} {pieces : List (List Token)}

theorem level_append (depth : Nat) (ts us : List Token) :
    level seps depth (ts ++ us) = (level seps depth ts).bind (level seps · us) := by
  induction ts generalizing depth with
  | nil => rfl
  | cons t ts ih =>
      simp only [List.cons_append, level, ih]
      split <;> rfl

theorem level_succ (seps : List Char) (h : level [] depth ts = some after) :
    level seps (depth + 1) ts = some (after + 1) := by
  induction ts generalizing depth with
  | nil => simpa [level] using h
  | cons t ts ih =>
      rw [level] at h ⊢
      split at h
      · cases h
      · rename_i hstay
        -- The depth would stay at zero only at a bracket that closes nothing.
        have hnest : t.nest (depth + 1) = t.nest depth + 1 := by
          unfold Token.nest
          split_ifs with ho hc
          · rfl
          · have hpos : depth ≠ 0 := fun hzero => hstay ⟨hzero, .inl hc⟩
            omega
          · rfl
        rw [if_neg (by omega), hnest, ih h]

theorem level_mono {more : List Char} (hseps : seps ⊆ more) (h : level more depth ts = some after) :
    level seps depth ts = some after := by
  induction ts generalizing depth with
  | nil => exact h
  | cons t ts ih =>
      rw [level] at h ⊢
      split at h
      · cases h
      · rename_i hstay
        rw [if_neg, ih h]
        rintro ⟨hzero, hend⟩
        exact hstay ⟨hzero, hend.imp_right fun hmem => List.map_subset _ hseps hmem⟩

theorem cut_append (hsep : sep ∈ seps) (h : level seps depth ts = some after) (us : List Token) :
    cut sep depth (ts ++ us) = (cut sep after us).modifyHead (ts ++ ·) := by
  induction ts generalizing depth with
  | nil =>
      cases h
      exact (congrFun List.modifyHead_id _).symm
  | cons t ts ih =>
      rw [level] at h
      split at h
      · cases h
      · rename_i hstay
        have hcut : ¬(depth = 0 ∧ t = .mark sep) := by
          rintro ⟨hzero, rfl⟩
          exact hstay ⟨hzero, .inr (List.mem_map_of_mem hsep)⟩
        rw [List.cons_append, cut, if_neg hcut, ih h, List.modifyHead_modifyHead]
        rfl

theorem enclosed_append (h : level [] depth ts = some after) (us : List Token) :
    enclosed depth (ts ++ us) = (enclosed after us).map fun (inside, rest) => (ts ++ inside, rest) := by
  induction ts generalizing depth with
  | nil =>
      cases h
      simp
  | cons t ts ih =>
      rw [level] at h
      split at h
      · cases h
      · rename_i hstay
        have hinside : ¬(depth = 0 ∧ t.closes = true) := fun hend => hstay ⟨hend.1, .inl hend.2⟩
        rw [List.cons_append, enclosed, if_neg hinside, ih h, Option.map_map]
        rfl

theorem Whole.append (hts : Whole seps ts) (hus : Whole seps us) : Whole seps (ts ++ us) := by
  rw [Whole, level_append, hts]
  exact hus

theorem level_mark {c : Char} (hsep : c ∉ seps) (hclose : (Token.mark c).closes = false) (depth : Nat)
    (ts : List Token) : level seps depth (.mark c :: ts) = level seps ((Token.mark c).nest depth) ts := by
  rw [level, if_neg]
  rintro ⟨-, hclose' | hmem⟩
  · rw [hclose] at hclose'
    cases hclose'
  · exact hsep (by simpa using hmem)

theorem Whole.bracketed (hopen : '(' ∉ seps) (h : Whole [] ts) : Whole seps (.mark '(' :: (ts ++ [.mark ')'])) := by
  have hinside : level seps 1 (ts ++ [.mark ')']) = some 0 := by
    rw [level_append, level_succ seps h]
    rfl
  rw [Whole, level_mark hopen rfl]
  exact hinside

theorem whole_comma (hcomma : ',' ∉ seps) : Whole seps [.mark ','] := level_mark hcomma rfl 0 []

theorem whole_intercalate (hcomma : ',' ∉ seps) (h : ∀ piece ∈ pieces, Whole seps piece) :
    Whole seps ([.mark ','].intercalate pieces) := by
  induction pieces with
  | nil => rfl
  | cons piece pieces ih =>
      obtain ⟨hpiece, hpieces⟩ := List.forall_mem_cons.1 h
      by_cases hlast : pieces = []
      · simpa [hlast] using hpiece
      · rw [List.intercalate_cons_of_ne_nil hlast]
        exact (hpiece.append (whole_comma hcomma)).append (ih hpieces)

theorem cut_of_whole (hsep : sep ∈ seps) (h : Whole seps ts) : cut sep 0 ts = [ts] := by
  simpa [cut] using cut_append hsep h []

theorem cut_mark (hsep : sep ∈ seps) (h : Whole seps ts) (us : List Token) :
    cut sep 0 (ts ++ .mark sep :: us) = ts :: cut sep 0 us := by
  simpa [cut] using cut_append hsep h (.mark sep :: us)

theorem cut_intercalate (hne : pieces ≠ []) (h : ∀ piece ∈ pieces, Whole [','] piece) :
    cut ',' 0 ([.mark ','].intercalate pieces) = pieces := by
  induction pieces with
  | nil => exact absurd rfl hne
  | cons piece pieces ih =>
      obtain ⟨hpiece, hpieces⟩ := List.forall_mem_cons.1 h
      by_cases hlast : pieces = []
      · simpa [hlast] using cut_of_whole (List.mem_singleton.2 rfl) hpiece
      · rw [List.intercalate_cons_of_ne_nil hlast, List.append_assoc, List.singleton_append,
          cut_mark (List.mem_singleton.2 rfl) hpiece, ih hlast hpieces]

theorem cut_ne_nil (sep : Char) (depth : Nat) (ts : List Token) : cut sep depth ts ≠ [] := by
  fun_induction cut sep depth ts with
  | case1 => exact List.cons_ne_nil _ _
  | case2 => exact List.cons_ne_nil _ _
  | case3 depth t ts hstay ih => simpa using ih

theorem items_intercalate (h : ∀ piece ∈ pieces, Whole [','] piece ∧ piece ≠ []) :
    items ([.mark ','].intercalate pieces) = pieces := by
  by_cases hne : pieces = []
  · simp [hne, items]
  · have hcut := cut_intercalate hne fun piece hpiece => (h piece hpiece).1
    rw [items, if_neg, hcut]
    intro hnil
    obtain ⟨piece, rest, rfl⟩ := List.exists_cons_of_ne_nil hne
    rw [hnil, cut] at hcut
    obtain ⟨rfl, -⟩ := List.cons.inj hcut
    exact (h [] List.mem_cons_self).2 rfl

theorem whole_items (h : ∀ piece ∈ pieces, Whole [','] piece ∧ piece ≠ []) :
    Whole [] ([.mark ','].intercalate pieces) :=
  whole_intercalate List.not_mem_nil fun piece hpiece => level_mono (List.nil_subset _) (h piece hpiece).1

theorem listed_intercalate (h : ∀ piece ∈ pieces, Whole [','] piece ∧ piece ≠ []) (rest : List Token) :
    listed ([.mark ','].intercalate pieces ++ .mark ')' :: rest) = some (pieces, rest) := by
  have hclose : enclosed 0 (.mark ')' :: rest) = some ([], rest) := rfl
  simp [listed, enclosed_append (whole_items h), hclose, items_intercalate h]

end

theorem lexes_intercalate {texts : List String} (h : ∀ text ∈ texts, Lexes text (tokens text)) :
    Lexes (", ".intercalate texts) ([.mark ','].intercalate (texts.map tokens)) := by
  have hcomma : Closed ", " [.mark ','] := closed_of_run rfl
  induction texts with
  | nil => exact (closed_of_run rfl).lexes
  | cons text texts ih =>
      obtain ⟨htext, htexts⟩ := List.forall_mem_cons.1 h
      cases texts with
      | nil => simpa using htext
      | cons next texts =>
          rw [String.intercalate_cons_cons, List.map_cons, List.intercalate_cons_of_ne_nil (by simp)]
          exact (htext.closed_append hcomma ⟨',', by decide, rfl⟩).lexes_append (ih htexts)

/-- What the first line of a procedure declares: the parameters that every call has to give, and those that have a
default. -/
structure Header where
  name : String
  fixed : List String
  ports : List String
deriving DecidableEq, Repr

/-- What a line with a call has: the variables that it assigns, and the arguments. -/
structure CallSite where
  targets : List String
  callee : String
  positional : List String
  keywords : List (String × String)
deriving DecidableEq, Repr

/-- The list in two, if `p` holds of a first part of it and nowhere after that. -/
def divided {α : Type} (p : α → Bool) (l : List α) : Option (List α × List α) :=
  if (l.dropWhile p).any p then none else some (l.takeWhile p, l.dropWhile p)

def name? : List Token → Option String
  | [.name s] => some s
  | _ => none

def readParam (ts : List Token) : Option (String × Bool) :=
  match cut '=' 0 ts with
  | [.name s :: .mark ':' :: _] => some (s, false)
  | [.name s :: .mark ':' :: _, _ :: _] => some (s, true)
  | _ => none

/-- A variable that is passed, and the parameter that it is passed for if this is named. -/
def readArgument (ts : List Token) : Option (Option String × String) :=
  match cut '=' 0 ts with
  | [[.name var]] => some (none, var)
  | [[.name param], [.name var]] => some (some param, var)
  | _ => none

def readHeader : List Token → Option Header
  | .name "def" :: .name s :: .mark '(' :: ts => do
    let (parts, _) ← listed ts
    let (fixed, ports) ← divided (!·.2) (← parts.mapM readParam)
    return ⟨s, fixed.map Prod.fst, ports.map Prod.fst⟩
  | _ => none

def readCall (targets : List String) : List Token → Option CallSite
  | .name s :: .mark '(' :: ts => do
    let (parts, []) ← listed ts | none
    let (positional, keywords) ← divided (·.1.isNone) (← parts.mapM readArgument)
    return ⟨targets, s, positional.map Prod.snd, keywords.filterMap fun (param, var) => param.map (·, var)⟩
  | _ => none

def readCommand (ts : List Token) : Option CallSite :=
  match cut '=' 0 ts with
  | [call] => readCall [] call
  | [targets, call] => do readCall (← (cut ',' 0 targets).mapM name?) call
  | _ => none

def readReturn : List Token → Option (List (List Token))
  | .name "return" :: ts => if [] ∈ cut ',' 0 ts then none else some (cut ',' 0 ts)
  | _ => none

def assigned (ts : List Token) : List String :=
  match cut '=' 0 ts with
  | targets :: _ :: _ => (cut ',' 0 targets).filterMap name?
  | _ => []

def sites (lines : List String) : List CallSite := lines.filterMap fun line => readCommand (tokens line)

def assignments (lines : List String) : List String := lines.flatMap fun line => assigned (tokens line)

theorem divided_append {α : Type} {p : α → Bool} {front back : List α} (hfront : ∀ a ∈ front, p a = true)
    (hback : ∀ a ∈ back, p a = false) : divided p (front ++ back) = some (front, back) := by
  have htake : back.takeWhile p = [] := by
    cases back with
    | nil => rfl
    | cons a back => simp [hback a]
  have hdrop : back.dropWhile p = back := by
    cases back with
    | nil => rfl
    | cons a back => simp [hback a]
  rw [divided, List.dropWhile_append_of_pos hfront, List.takeWhile_append_of_pos hfront, htake, hdrop, if_neg,
    List.append_nil]
  simpa using hback

theorem mapM_map_some {α β γ : Type} {f : α → β} {read : β → Option γ} {g : α → γ} {l : List α}
    (h : ∀ a ∈ l, read (f a) = some (g a)) : (l.map f).mapM read = some (l.map g) := by
  induction l with
  | nil => rfl
  | cons a l ih =>
      obtain ⟨ha, hl⟩ := List.forall_mem_cons.1 h
      simp [ha, ih hl]

def IsItem {α : Type} (read : List Token → Option α) (text : String) (a : α) : Prop :=
  ∃ ts, Lexes text ts ∧ Whole [','] ts ∧ ts ≠ [] ∧ read ts = some a

theorem lexes_items {α : Type} {read : List Token → Option α} {texts : List String} {as : List α}
    (h : List.Forall₂ (IsItem read) texts as) : ∃ parts,
      Lexes (", ".intercalate texts) ([.mark ','].intercalate parts) ∧
      (∀ part ∈ parts, Whole [','] part ∧ part ≠ []) ∧ parts.mapM read = some as := by
  have htexts : (∀ text ∈ texts, Lexes text (tokens text) ∧ Whole [','] (tokens text) ∧ tokens text ≠ []) ∧
      (texts.map tokens).mapM read = some as := by
    induction h with
    | nil => exact ⟨by simp, rfl⟩
    | cons hfirst _ ih =>
        obtain ⟨ts, hts, hwhole, hne, hread⟩ := hfirst
        rw [List.forall_mem_cons, List.map_cons, List.mapM_cons, hts.tokens, hread, ih.2]
        exact ⟨⟨⟨hts, hwhole, hne⟩, ih.1⟩, rfl⟩
  exact ⟨texts.map tokens, lexes_intercalate fun text htext => (htexts.1 text htext).1,
    List.forall_mem_map.2 fun text htext => (htexts.1 text htext).2, htexts.2⟩

theorem readHeader_eq {name : String} {parts : List (List Token)} {fixed ports : List String}
    (hparts : ∀ part ∈ parts, Whole [','] part ∧ part ≠ [])
    (hread : parts.mapM readParam = some (fixed.map (·, false) ++ ports.map (·, true))) (rest : List Token) :
    readHeader (.name "def" :: .name name :: .mark '(' :: ([.mark ','].intercalate parts ++ .mark ')' :: rest)) =
      some ⟨name, fixed, ports⟩ := by
  have hdivided : divided (!·.2) (fixed.map (·, false) ++ ports.map (·, true)) =
      some (fixed.map (·, false), ports.map (·, true)) := divided_append (by simp) (by simp)
  simp [readHeader, listed_intercalate hparts, hread, hdivided, Function.comp_def]

theorem readCall_eq {targets : List String} {name : String} {parts : List (List Token)} {positional : List String}
    {keywords : List (String × String)} (hparts : ∀ part ∈ parts, Whole [','] part ∧ part ≠ [])
    (hread : parts.mapM readArgument =
      some (positional.map (none, ·) ++ keywords.map fun entry => (some entry.1, entry.2))) :
    readCall targets (.name name :: .mark '(' :: ([.mark ','].intercalate parts ++ [.mark ')'])) =
      some ⟨targets, name, positional, keywords⟩ := by
  have hdivided : divided (·.1.isNone) (positional.map (none, ·) ++ keywords.map fun entry => (some entry.1, entry.2)) =
      some (positional.map (none, ·), keywords.map fun entry => (some entry.1, entry.2)) :=
    divided_append (by simp) (List.forall_mem_map.2 fun _ _ => rfl)
  simp [readCall, listed_intercalate hparts, hread, hdivided, Function.comp_def]

section

variable {targets : List String} {call : List Token}

theorem readCommand_call (h : Whole ['='] call) : readCommand call = readCall [] call ∧ assigned call = [] := by
  rw [readCommand, assigned, cut_of_whole (List.mem_singleton.2 rfl) h]
  exact ⟨rfl, rfl⟩

theorem assigned_mark {ts : List Token} (h : Whole ['='] ts) (us : List Token) :
    assigned (ts ++ .mark '=' :: us) = (cut ',' 0 ts).filterMap name? := by
  obtain ⟨first, rest, hcut⟩ := List.exists_cons_of_ne_nil (cut_ne_nil '=' 0 us)
  rw [assigned, cut_mark (List.mem_singleton.2 rfl) h, hcut]

theorem readCommand_assigned (hne : targets ≠ []) (h : Whole ['='] call) :
    readCommand ([.mark ','].intercalate (targets.map ([.name ·])) ++ .mark '=' :: call) = readCall targets call ∧
      assigned ([.mark ','].intercalate (targets.map ([.name ·])) ++ .mark '=' :: call) = targets := by
  have hwhole : Whole ['='] ([.mark ','].intercalate (targets.map ([.name ·]))) :=
    whole_intercalate (by decide) (List.forall_mem_map.2 fun _ _ => rfl)
  have htargets : cut ',' 0 ([.mark ','].intercalate (targets.map ([.name ·]))) = targets.map ([.name ·]) :=
    cut_intercalate (by simpa using hne) (List.forall_mem_map.2 fun _ _ => rfl)
  constructor
  · have hnames : (targets.map ([Token.name ·])).mapM name? = some (targets.map id) := mapM_map_some fun _ _ => rfl
    rw [readCommand, cut_mark (List.mem_singleton.2 rfl) hwhole, cut_of_whole (List.mem_singleton.2 rfl) h]
    simp [htargets, hnames]
  · rw [assigned_mark hwhole, htargets, List.filterMap_map]
    exact List.filterMap_some

end

end Dataflow.Script
