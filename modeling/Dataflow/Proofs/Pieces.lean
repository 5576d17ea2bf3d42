import Dataflow.Proofs.Lookalikes
import Dataflow.Proofs.Printable
import Dataflow.Proofs.Usage

namespace Dataflow

namespace Text

def opens (s : String) : Bool := s.toList.getLast?.any fun c => c == ':' || c == '('

def shows (s : String) : Bool := s.toList.any fun c => !isBlank c

/-- The text can be a line that another one of its level follows. -/
def settles (s : String) : Bool := shows s && !opens s

theorem opens_append (s : String) {t : String} (h : t ≠ "") : opens (s ++ t) = opens t := by
  have hne : t.toList ≠ [] := by simpa using h
  rw [opens, opens, String.toList_append, List.getLast?_append_of_ne_nil _ hne]

theorem shows_append (s t : String) : shows (s ++ t) = (shows s || shows t) := by
  simp [shows]

theorem settles_append (s : String) {t : String} (h : settles t = true) : settles (s ++ t) = true := by
  have hne : t ≠ "" := by
    rintro rfl
    cases h
  rw [settles, Bool.and_eq_true] at h
  rw [settles, shows_append, opens_append s hne, h.1, h.2, Bool.or_true, Bool.and_true]

theorem settles_comment (s : String) {mark : String} {c : Char} (hmark : mark.toList = [c]) (hc : isBlank c = false)
    (h : settles mark = true) : settles ("# " ++ oneLine (s ++ mark)) = true := by
  obtain ⟨before, hbefore⟩ := oneLine_append s hmark hc
  rw [hbefore, ← String.append_assoc]
  exact settles_append _ h

end Text

namespace Script

open Mode Text

def begins (s : String) : Bool := s.toList.head?.any (· ∈ delimiters)

/-- Whether fixed code can be part of a body: it has of the watched names only those that it needs, no other names than
the body's own and words of the language, and nothing that cannot be read or printed. -/
def fits (needs : List String) (cs : List Char) : Bool :=
  decide (OnlyUses needs (lex .code cs)) && decide (Neat [] (lex .code cs)) && decide (.fault ∉ lex .code cs) &&
    cs.all isPrintable

/-- Code that is put together from fixed code, names and strings, with its tokens. Tight code ends with its last token;
after other code, a gap or a mark has to follow. -/
inductive Made (needs names : List String) : Bool → String → List Token → Prop
  | code {cs : List Char} {ts : List Token} (hrun : run .code cs = (ts, .code)) (h : fits needs cs = true) :
      Made needs names true (String.ofList cs) ts
  | word {cs : List Char} (hrun : (run .code cs).2.pauses = true) (h : fits needs cs = true) :
      Made needs names false (String.ofList cs) (lex .code cs)
  | name {s : String} (h : s ∈ names) : Made needs names false s [.name s]
  | quoted (s : String) : Made needs names false (Text.quoted s) [.text s]
  | append {tight tight' : Bool} {s t : String} {ts us : List Token} (hs : Made needs names tight s ts)
      (ht : Made needs names tight' t us) (hmeet : (tight || begins t) = true) :
      Made needs names tight' (s ++ t) (ts ++ us)

section

variable {needs more names : List String} {tight : Bool} {s t : String} {cs : List Char} {ts us : List Token}

theorem lex_of_run (h : run .code cs = (ts, .code)) : lex .code cs = ts := by
  rw [lex, h]
  exact List.append_nil ts

theorem fits_iff : fits needs cs = true ↔
    ((OnlyUses needs (lex .code cs) ∧ Neat [] (lex .code cs)) ∧ .fault ∉ lex .code cs) ∧
      Printable (String.ofList cs) := by
  simp only [fits, Bool.and_eq_true, decide_eq_true_eq, List.all_eq_true, printable_ofList]

theorem begins_iff : begins s = true ↔ ∃ c ∈ delimiters, s.toList.head? = some c := by
  simp only [begins, Option.any_eq_true, decide_eq_true_eq, and_comm]

theorem begins_append (h : begins s = true) (t : String) : begins (s ++ t) = true := by
  obtain ⟨c, hc, hhead⟩ := begins_iff.1 h
  obtain ⟨rest, hrest⟩ := List.head?_eq_some_iff.1 hhead
  exact begins_iff.2 ⟨c, hc, by rw [String.toList_append, hrest]; rfl⟩

theorem Made.append_of_begins {tight' : Bool} (hs : Made needs names tight s ts) (ht : Made needs names tight' t us)
    (hbegins : begins t = true) : Made needs names tight' (s ++ t) (ts ++ us) :=
  hs.append ht (by rw [hbegins, Bool.or_true])

theorem Made.lexes (h : Made needs names tight s ts) (hnames : ∀ x ∈ names, IsName x) :
    Lexes s ts ∧ (tight = true → Closed s ts) := by
  induction h with
  | code hrun => exact ⟨(closed_of_run hrun).lexes, fun _ => closed_of_run hrun⟩
  | word hrun => exact ⟨lexes_of_run hrun, nofun⟩
  | name h => exact ⟨(hnames _ h).1, nofun⟩
  | quoted s => exact ⟨lexes_quoted s, nofun⟩
  | append _ _ hmeet ihs iht =>
      -- The first part ends with its last token, or the second one begins with what ends that token.
      rcases Bool.or_eq_true_iff.1 hmeet with htight | hbegins
      · exact ⟨(ihs.2 htight).lexes_append iht.1, fun h => (ihs.2 htight).append (iht.2 h)⟩
      · have hend := begins_iff.1 hbegins
        exact ⟨ihs.1.append iht.1 hend, fun h => ihs.1.closed_append (iht.2 h) hend⟩

theorem Made.onlyUses (h : Made needs names tight s ts) (hnames : ∀ x ∈ names, IsName x) : OnlyUses needs ts := by
  induction h with
  | code hrun h => exact lex_of_run hrun ▸ (fits_iff.1 h).1.1.1
  | word _ h => exact (fits_iff.1 h).1.1.1
  | name h => simpa using fun hmem => absurd (List.mem_cons_of_mem _ hmem) (hnames _ h).2
  | quoted s => simp
  | append _ _ _ ihs iht => exact ihs.append iht

theorem Made.neat (h : Made needs names tight s ts) (hnames : ∀ x ∈ names, IsName x) : Neat names ts := by
  induction h with
  | code hrun h => exact lex_of_run hrun ▸ (fits_iff.1 h).1.1.2.weaken
  | word _ h => exact (fits_iff.1 h).1.1.2.weaken
  | name h => exact neat_name h fun hfor => (hnames _ h).2 (hfor ▸ List.mem_cons_self)
  | quoted s => exact neat_text s
  | append _ _ _ ihs iht => exact ihs.append iht

theorem Made.fault_notMem (h : Made needs names tight s ts) : .fault ∉ ts := by
  induction h with
  | code hrun h => exact lex_of_run hrun ▸ (fits_iff.1 h).1.2
  | word _ h => exact (fits_iff.1 h).1.2
  | name | quoted => simp
  | append _ _ _ ihs iht => exact List.not_mem_append ihs iht

theorem Made.printable (h : Made needs names tight s ts) (hnames : ∀ x ∈ names, Printable x) : Printable s := by
  induction h with
  | code _ h | word _ h => exact (fits_iff.1 h).2
  | name h => exact hnames _ h
  | quoted s => exact printable_quoted s
  | append _ _ _ ihs iht => exact printable_append.2 ⟨ihs, iht⟩

theorem Made.weaken (h : Made needs names tight s ts) (hneeds : needs ⊆ more) : Made more names tight s ts := by
  have hfits : ∀ {cs}, fits needs cs = true → fits more cs = true := by
    intro cs h
    obtain ⟨⟨⟨huses, hneat⟩, hfault⟩, hprintable⟩ := fits_iff.1 h
    exact fits_iff.2 ⟨⟨⟨huses.weaken hneeds, hneat⟩, hfault⟩, hprintable⟩
  induction h with
  | code hrun h => exact .code hrun (hfits h)
  | word hrun h => exact .word hrun (hfits h)
  | name h => exact .name h
  | quoted s => exact .quoted s
  | append _ _ hmeet ihs iht => exact ihs.append iht hmeet

end

def SetsOwn (ts : List Token) : Prop := ∀ x ∈ assigned ts, x ∈ "config" :: ownNames

def Code (needs names : List String) (s : String) : Prop := ∃ tight ts, Made needs names tight s ts

/-- Code for one value: no comma and no equals sign is outside of its brackets. -/
def Phrase (needs names : List String) (s : String) : Prop :=
  ∃ tight ts, Made needs names tight s ts ∧ Whole [',', '='] ts ∧ ts ≠ []

section

variable {needs names : List String} {tight : Bool} {s t : String} {cs : List Char} {ts : List Token}

theorem setsOwn_of_all (h : (assigned ts).all (· ∈ "config" :: ownNames) = true) : SetsOwn ts :=
  fun x hx => of_decide_eq_true (List.all_eq_true.1 h x hx)

theorem setsOwn_mark {x : String} (hx : x ∈ "config" :: ownNames) (ts : List Token) :
    SetsOwn (.name x :: .mark '=' :: ts) := by
  have hwhole : Whole ['='] [.name x] := rfl
  have hassigned : assigned (.name x :: .mark '=' :: ts) = [x] := assigned_mark hwhole ts
  intro y hy
  rw [hassigned, List.mem_singleton] at hy
  rwa [hy]

theorem setsOwn_of_whole (h : Whole ['='] ts) : SetsOwn ts := by
  intro x hx
  rw [(readCommand_call h).2] at hx
  cases hx

theorem Made.is_code (h : Made needs names tight s ts) : Code needs names s := ⟨_, _, h⟩

theorem Code.append (hs : Code needs names s) (ht : Code needs names t) (hbegins : begins t = true) :
    Code needs names (s ++ t) := by
  obtain ⟨tight, ts, hs⟩ := hs
  obtain ⟨tight', us, ht⟩ := ht
  exact (hs.append_of_begins ht hbegins).is_code

theorem code_word (hrun : (run .code cs).2.pauses = true) (h : fits needs cs = true) :
    Code needs names (String.ofList cs) :=
  ⟨_, _, .word hrun h⟩

theorem Phrase.code (h : Phrase needs names s) : Code needs names s := by
  obtain ⟨_, _, h, -⟩ := h
  exact h.is_code

theorem phrase_name (h : s ∈ names) : Phrase needs names s := ⟨_, _, .name h, rfl, List.cons_ne_nil _ _⟩

theorem phrase_word (hrun : (run .code cs).2.pauses = true) (h : fits needs cs = true)
    (hwhole : Whole [',', '='] (lex .code cs)) (hsome : (lex .code cs).isEmpty = false) :
    Phrase needs names (String.ofList cs) :=
  ⟨_, _, .word hrun h, hwhole, List.isEmpty_eq_false_iff.1 hsome⟩

end

theorem made_intercalate {needs names texts : List String} (h : ∀ text ∈ texts, Phrase needs names text) :
    ∃ tight ts, Made needs names tight (", ".intercalate texts) ts ∧ Whole ['='] ts := by
  have hcomma : Made needs names true ", " [.mark ','] := .code rfl rfl
  induction texts with
  | nil => exact ⟨_, _, .word rfl rfl, rfl⟩
  | cons text texts ih =>
      obtain ⟨⟨tight, ts, htext, hphrase, -⟩, htexts⟩ := List.forall_mem_cons.1 h
      have hwhole : Whole ['='] ts := level_mono (by decide) hphrase
      cases texts with
      | nil => exact ⟨tight, ts, htext, hwhole⟩
      | cons next texts =>
          obtain ⟨_, us, hrest, hwhole'⟩ := ih htexts
          have hfirst := htext.append_of_begins hcomma rfl
          rw [String.intercalate_cons_cons]
          exact ⟨_, _, hfirst.append hrest rfl, (hwhole.append (whole_comma (by decide))).append hwhole'⟩

end Script

namespace Stmt

open Script Mode Text

/-- A statement of such code, which assigns to variables of the body only. Its comments are printable or remarks, its
lines open nothing, and what it opens is not empty. -/
inductive Made (needs names remarks : List String) : Stmt → Prop
  | line {text : String} {tight : Bool} {ts : List Token} (h : Script.Made needs names tight text ts)
      (hsets : SetsOwn ts) (hend : settles text = true) : Made needs names remarks (.line text)
  | comment {text : String} (h : Printable text ∨ text ∈ remarks) (hend : settles ("# " ++ oneLine text) = true) :
      Made needs names remarks (.comment text)
  | call {head : String} {args : List String} {tight : Bool} {ts : List Token}
      (hhead : Script.Made needs names tight head ts) (hsets : SetsOwn ts) (hargs : ∀ arg ∈ args, Code needs names arg)
      (hne : args ≠ []) : Made needs names remarks (.call head args)
  | block {head : String} {body : List Stmt} (hhead : Code needs names head) (hne : body ≠ [])
      (h : ∀ s ∈ body, Made needs names remarks s) : Made needs names remarks (.block head body)

variable {needs names remarks : List String}

theorem made_word {cs : List Char} (hrun : (run .code cs).2.pauses = true) (h : fits needs cs = true)
    (hsets : (assigned (lex .code cs)).all (· ∈ "config" :: ownNames) = true)
    (hend : settles (String.ofList cs) = true) : Made needs names remarks (.line (String.ofList cs)) :=
  .line (.word hrun h) (setsOwn_of_all hsets) hend

theorem made_block_line {head text : String} (hhead : Code needs names head)
    (h : Made needs names remarks (.line text)) : Made needs names remarks (.block head [.line text]) :=
  .block hhead (List.cons_ne_nil _ _) (List.forall_mem_singleton.2 h)

theorem Made.laid {s : Stmt} (h : s.Made needs names remarks) (level : Int) : ∀ l ∈ s.laid level,
    Code needs names l.text ∨ ∃ text, (Printable text ∨ text ∈ remarks) ∧ l.text = "# " ++ oneLine text := by
  induction h generalizing level with
  | line h => exact List.forall_mem_singleton.2 (.inl h.is_code)
  | comment h => exact List.forall_mem_singleton.2 (.inr ⟨_, h, rfl⟩)
  | call hhead _ hargs =>
      rw [Stmt.laid, List.cons_append, List.forall_mem_cons, List.forall_mem_append, List.forall_mem_map,
        List.forall_mem_singleton]
      refine ⟨.inl (hhead.is_code.append (code_word rfl rfl) rfl), ?_, .inl (code_word rfl rfl)⟩
      exact fun arg harg => .inl ((hargs arg harg).append (code_word rfl rfl) rfl)
  | block hhead _ _ ih =>
      rw [Stmt.laid, laidAll_eq_flatMap, List.forall_mem_cons, List.forall_mem_flatMap]
      exact ⟨.inl (hhead.append (code_word rfl rfl) rfl), fun s hs => ih s hs _⟩

end Stmt

structure Body.Made (needs names remarks : List String) (body : Body) : Prop where
  stmts : ∀ s ∈ body.stmts, s.Made needs names remarks
  results : ∀ result ∈ body.results, Script.Phrase needs names result.2

namespace BoundNode

variable (b : BoundNode)

/-- The names that the body of the procedure can be given: the parameters, and the missing value. -/
def operands : List String := "None" :: b.params.map Prod.snd

def remarks : List String :=
  let kind := (b.node.kind.map fun k => s!" / {k.tag}").getD ""
  [s!"{b.node.label} [{b.node.category.title}{kind}]", s!"{b.node.label} ({b.node.id})"]

theorem made_opening {needs names : List String} : ∀ s ∈ b.opening, s.Made needs names b.remarks := by
  have hlookup : Script.Made needs names true "config = NODE_CONFIGS[" (.name "config" :: .mark '=' :: _) :=
    .code rfl rfl
  have hclose : Script.Made needs names true "]" _ := .code rfl rfl
  have hconfig := (hlookup.append (.quoted b.node.id) rfl).append hclose rfl
  simp only [opening, List.forall_mem_cons]
  refine ⟨.comment (.inr List.mem_cons_self) ?_, .line hconfig (Script.setsOwn_mark (by decide) _) ?_, by simp⟩
  · exact Text.settles_comment _ (c := ']') (by decide) (by decide) (by decide)
  · exact Text.settles_append _ (by decide)

theorem Every.operands {P : String → Prop} {b : BoundNode} (h : b.Every P) (hnone : P "None") :
    ∀ x ∈ b.operands, P x :=
  List.forall_mem_cons.2 ⟨hnone, List.forall_mem_map.2 h.params⟩

theorem params_subset_operands : ∀ entry ∈ b.params, entry.2 ∈ b.operands :=
  fun _ hentry => List.mem_cons_of_mem _ (List.mem_map_of_mem hentry)

theorem firstParam_mem_operands : b.firstParam ∈ b.operands :=
  firstParam_of_params b.params_subset_operands List.mem_cons_self

theorem param_mem_operands (port : String) : b.param port ∈ b.operands :=
  param_of_params b.params_subset_operands port List.mem_cons_self

theorem paramOrFirst_mem_operands (port : String) : b.param port b.firstParam ∈ b.operands :=
  param_of_params b.params_subset_operands port b.firstParam_mem_operands

end BoundNode

/-- The names that the code of the template needs beside the parameters for the ports. -/
def Template.needs : Template → List String
  | .input | .textInput | .pdfInput => ["inputs"]
  | .pdfTextExtractor | .textChunker | .embeddingGenerator | .vectorStore | .semanticSearch | .languageModel
  | .llmGenerator | .promptBuilder => ["rag"]
  | _ => []

namespace Template

open Script Text

variable {needs names remarks : List String} {expr : String}

theorem phrase_textOf (h : expr ∈ names) : Phrase needs names (textOf expr) := by
  have hopen : Made needs names true "(\"\" if " [.mark '(', .text "", .name "if"] := .code rfl rfl
  have htest : Made needs names true " is None else str("
    [.name "is", .name "None", .name "else", .name "str", .mark '('] := .code rfl rfl
  have hclose : Made needs names true "))" [.mark ')', .mark ')'] := .code rfl rfl
  have hcode := (((hopen.append (.name h) rfl).append htest rfl).append (.name h) rfl).append hclose rfl
  exact ⟨_, _, hcode, rfl, by simp⟩

theorem code_listOf (h : expr ∈ names) : Code needs names (listOf expr) := by
  have hopen : Made needs names true "list(" [.name "list", .mark '('] := .code rfl rfl
  exact (hopen.append (.name h) rfl).is_code.append (code_word rfl rfl) rfl

theorem made_chosen {front back x : String} {ts us : List Token} (h : expr ∈ names)
    (hfront : Made needs names true front (.name x :: .mark '=' :: ts)) (hx : x ∈ "config" :: ownNames)
    (hback : Made needs names true back us) (hbegins : begins back = true) (hend : settles back = true) :
    (Stmt.line (front ++ expr ++ " if " ++ expr ++ back)).Made needs names remarks := by
  have hif : Made needs names true " if " [.name "if"] := .code rfl rfl
  have hfirst := ((hfront.append (.name h) rfl).append hif rfl).append (.name h) rfl
  exact .line (hfirst.append_of_begins hback hbegins) (setsOwn_mark hx _) (settles_append _ hend)

theorem phrase_allOutputs {b : BoundNode} (h : Phrase needs names expr) :
    ∀ result ∈ b.allOutputs expr, Phrase needs names result.2 :=
  List.forall_mem_map.2 fun _ _ => h

theorem made_conditionChain : ∀ s ∈ conditionChain, s.Made [] names remarks := by
  have hconditions : ∀ condition ∈ conditions, Code [] names condition.1 ∧
      (Stmt.line s!"_matched = {condition.2}").Made [] names remarks := by
    have hset : Made [] names true "_matched = " [.name "_matched", .mark '='] := .code rfl rfl
    have htest : ∀ {cs}, (Mode.run .code cs).2.pauses = true → fits [] cs = true → settles (String.ofList cs) = true →
        (Stmt.line s!"_matched = {String.ofList cs}").Made [] names remarks := fun hrun hfits hend =>
      .line (hset.append (.word hrun hfits) rfl) (setsOwn_mark (by decide) _) (settles_append _ hend)
    simp only [conditions, List.forall_mem_cons]
    refine ⟨?_, ?_, ?_, ?_, ?_, ?_, by simp⟩ <;> exact ⟨code_word rfl rfl, htest rfl rfl (by decide)⟩
  have hin : Made [] names true " _operator in " [.name "_operator", .name "in"] := .code rfl rfl
  intro s hs
  rcases List.mem_append.1 hs with hs | hs
  · obtain ⟨⟨condition, i⟩, hcondition, rfl⟩ := List.mem_map.1 hs
    obtain ⟨⟨_, _, hnames⟩, htest⟩ := hconditions _ (List.fst_mem_of_mem_zipIdx hcondition)
    have hword : Code [] names (if i = 0 then "if" else "elif") := by
      split <;> exact code_word rfl rfl
    exact Stmt.made_block_line (hword.append (hin.append hnames rfl).is_code (begins_append rfl _)) htest
  · rw [List.mem_singleton.1 hs]
    exact Stmt.made_block_line (code_word rfl rfl) (Stmt.made_word rfl rfl rfl (by decide))

theorem made_runtimeCall {b : BoundNode} {head : String} {args : List String} {tight : Bool} {ts : List Token}
    (hhead : Made needs names tight head ts) (hsets : SetsOwn ts) (hargs : ∀ arg ∈ args, Code needs names arg)
    (hne : args ≠ []) (hexpr : Phrase needs names expr) :
    Body.Made needs names remarks { stmts := [.call head args], results := b.allOutputs expr } :=
  ⟨List.forall_mem_singleton.2 (.call hhead hsets hargs hne), phrase_allOutputs hexpr⟩

section

variable (b : BoundNode)

theorem made_forwardBody : (forwardBody b).Made needs b.operands remarks where
  stmts := List.forall_mem_singleton.2 (.comment (.inl (by decide)) (by decide))
  results := phrase_allOutputs (phrase_name b.firstParam_mem_operands)

theorem made_inputBody {fallback : String} {ts : List Token} (hfallback : Made ["inputs"] names true fallback ts)
    (hwhole : Whole [] ts) : (inputBody b fallback).Made ["inputs"] names remarks where
  stmts := by simp [inputBody]
  results := by
    have hopen : Made ["inputs"] names true "inputs.get(" [.name "inputs", .mark '.', .name "get", .mark '('] :=
      .code rfl rfl
    have hcomma : Made ["inputs"] names true ", " [.mark ','] := .code rfl rfl
    have hclose : Made ["inputs"] names true ")" [.mark ')'] := .code rfl rfl
    refine List.forall_mem_map.2 fun port _ => ?_
    have hkey := (hopen.append (.quoted (b.inputKey port.id)) rfl).append hcomma rfl
    refine ⟨_, _, (hkey.append hfallback rfl).append hclose rfl, ?_, by simp⟩
    -- The commas and equals signs of the fallback are inside the brackets of the call.
    have hinside : Whole [] ([.text (b.inputKey port.id), .mark ','] ++ ts) := Whole.append rfl hwhole
    have hcall : Whole [',', '='] [.name "inputs", .mark '.', .name "get"] := rfl
    simpa using hcall.append (hinside.bracketed (by decide))

theorem made_pdfInputBody : (pdfInputBody b).Made ["inputs"] names remarks where
  stmts := by
    have hif : Made ["inputs"] names true "if " [.name "if"] := .code rfl rfl
    have hraise : Made ["inputs"] names true "raise ValueError(" [.name "raise", .name "ValueError", .mark '('] :=
      .code rfl rfl
    have hclose : Made ["inputs"] names true ")" [.mark ')'] := .code rfl rfl
    refine List.forall_mem_map.2 fun port _ => Stmt.made_block_line ?_ ?_
    · exact (hif.append (.quoted _) rfl).is_code.append (code_word rfl rfl) rfl
    · exact .line ((hraise.append (.quoted _) rfl).append hclose rfl) (setsOwn_of_whole rfl)
        (settles_append _ (by decide))
  results := by
    have hopen : Made ["inputs"] names true "inputs[" [.name "inputs", .mark '['] := .code rfl rfl
    have hclose : Made ["inputs"] names true "]" [.mark ']'] := .code rfl rfl
    exact List.forall_mem_map.2 fun port _ =>
      ⟨_, _, (hopen.append (.quoted _) rfl).append hclose rfl, rfl, by simp⟩

theorem made_pdfTextExtractorBody : (pdfTextExtractorBody b).Made ["rag"] b.operands remarks := by
  refine made_runtimeCall (.word rfl rfl) (setsOwn_of_all rfl) ?_ (List.cons_ne_nil _ _) (phrase_word rfl rfl rfl rfl)
  simp only [List.forall_mem_cons]
  exact ⟨(Made.name (b.paramOrFirst_mem_operands _)).is_code, code_word rfl rfl, code_word rfl rfl, by simp⟩

theorem made_textChunkerBody : (textChunkerBody b).Made ["rag"] b.operands remarks := by
  refine made_runtimeCall (.word rfl rfl) (setsOwn_of_all rfl) ?_ (List.cons_ne_nil _ _) (phrase_word rfl rfl rfl rfl)
  simp only [List.forall_mem_cons]
  exact ⟨(phrase_textOf (b.paramOrFirst_mem_operands _)).code, code_word rfl rfl, code_word rfl rfl,
    code_word rfl rfl, by simp⟩

theorem made_embeddingGeneratorBody : (embeddingGeneratorBody b).Made ["rag"] b.operands remarks := by
  refine made_runtimeCall (.word rfl rfl) (setsOwn_of_all rfl) ?_ (List.cons_ne_nil _ _) (phrase_word rfl rfl rfl rfl)
  simp only [List.forall_mem_cons]
  exact ⟨code_listOf (b.paramOrFirst_mem_operands _), code_word rfl rfl, code_word rfl rfl, code_word rfl rfl, by simp⟩

theorem made_vectorStoreBody : (vectorStoreBody b).Made ["rag"] b.operands remarks := by
  have hmetadata : Made ["rag"] b.operands true "metadata=" [.name "metadata", .mark '='] := .code rfl rfl
  refine made_runtimeCall (.word rfl rfl) (setsOwn_of_all rfl) ?_ (List.cons_ne_nil _ _) (phrase_word rfl rfl rfl rfl)
  simp only [List.forall_mem_cons]
  exact ⟨code_listOf (b.paramOrFirst_mem_operands _),
    (hmetadata.append (.name (b.param_mem_operands _)) rfl).is_code, code_word rfl rfl, code_word rfl rfl,
    code_word rfl rfl, by simp⟩

theorem made_semanticSearchBody : (semanticSearchBody b).Made ["rag"] b.operands remarks where
  stmts := by
    refine List.forall_mem_singleton.2 (.call (.word rfl rfl) (setsOwn_of_all rfl) ?_ (List.cons_ne_nil _ _))
    simp only [List.forall_mem_cons]
    exact ⟨(phrase_textOf (b.paramOrFirst_mem_operands _)).code, code_word rfl rfl, code_word rfl rfl,
      code_word rfl rfl, by simp⟩
  results := by
    refine List.forall_mem_map.2 fun port _ => ?_
    split <;> exact phrase_word rfl rfl rfl rfl

theorem made_languageModelBody : (languageModelBody b).Made ["rag"] b.operands remarks where
  stmts := by
    have hcontext : Made ["rag"] b.operands true "context=" [.name "context", .mark '='] := .code rfl rfl
    obtain ⟨_, _, hlist⟩ : Code ["rag"] b.operands (listOf (b.param "context")) :=
      code_listOf (b.param_mem_operands _)
    refine List.forall_mem_cons.2 ⟨?_, List.forall_mem_singleton.2
      (.call (.word rfl rfl) (setsOwn_of_all rfl) ?_ (List.cons_ne_nil _ _))⟩
    · exact made_chosen (b.paramOrFirst_mem_operands _) (.code rfl rfl) (by decide) (.code rfl rfl) rfl (by decide)
    · simp only [List.forall_mem_cons]
      exact ⟨code_word rfl rfl, (hcontext.append hlist rfl).is_code, code_word rfl rfl, code_word rfl rfl,
        code_word rfl rfl, code_word rfl rfl, code_word rfl rfl, by simp⟩
  results := phrase_allOutputs (phrase_word rfl rfl rfl rfl)

theorem made_promptBuilderBody : (promptBuilderBody b).Made ["rag"] b.operands remarks where
  stmts := by
    have htemplate : Made ["rag"] b.operands true "template=config.get('template', " _ := .code rfl rfl
    refine List.forall_mem_cons.2 ⟨?_, List.forall_mem_singleton.2
      (.call (.word rfl rfl) (setsOwn_of_all rfl) ?_ (List.cons_ne_nil _ _))⟩
    · exact made_chosen (b.paramOrFirst_mem_operands _) (.code rfl rfl) (by decide) (.code rfl rfl) rfl (by decide)
    · simp only [List.forall_mem_cons]
      exact ⟨code_word rfl rfl, code_listOf (b.param_mem_operands _),
        (htemplate.append (.quoted _) rfl).is_code.append (code_word rfl rfl) rfl, code_word rfl rfl,
        code_word rfl rfl, by simp⟩
  results := phrase_allOutputs (phrase_word rfl rfl rfl rfl)

theorem phrase_conditionalBranchBody : ∀ result ∈ (conditionalBranchBody b).results, Phrase [] names result.2 := by
  refine List.forall_mem_map.2 fun port _ => ?_
  split <;> exact phrase_word rfl rfl rfl rfl

theorem made_conditionalBranchBody : (conditionalBranchBody b).Made [] b.operands remarks where
  stmts := by
    have hset : Made [] b.operands true "_value = " [.name "_value", .mark '='] := .code rfl rfl
    obtain ⟨_, _, htext, -⟩ : Phrase [] b.operands (textOf (b.param "input" b.firstParam)) :=
      phrase_textOf (b.paramOrFirst_mem_operands _)
    refine List.forall_mem_append.2 ⟨?_, made_conditionChain⟩
    simp only [List.forall_mem_cons]
    refine ⟨.line (hset.append htext rfl) (setsOwn_mark (by decide) _) ?_, Stmt.made_word rfl rfl rfl (by decide),
      Stmt.made_word rfl rfl rfl (by decide), by simp⟩
    exact settles_append _ (settles_append _ (by decide))
  results := phrase_conditionalBranchBody b

theorem made_dataMergerBody : (dataMergerBody b).Made [] b.operands remarks where
  stmts := by
    have hvalues : Code [] b.operands (", ".intercalate (b.params.map Prod.snd) ++
        (if b.params.isEmpty then "" else ",")) := by
      have hnames : ∀ name ∈ b.params.map Prod.snd, Phrase [] b.operands name :=
        List.forall_mem_map.2 fun entry hentry => phrase_name (b.params_subset_operands entry hentry)
      obtain ⟨_, _, hlist, -⟩ := made_intercalate hnames
      split
      · rw [String.append_empty]
        exact hlist.is_code
      · exact hlist.is_code.append (code_word rfl rfl) rfl
    have hopen : Made [] b.operands true "_parts = [str(_v) for _v in (" (.name "_parts" :: .mark '=' :: _) :=
      .code rfl rfl
    have hclose : Made [] b.operands true ") if _v is not None]" _ := .code rfl rfl
    obtain ⟨tight, ts, hvalues⟩ := hvalues
    have hfirst := (hopen.append hvalues rfl).append_of_begins hclose rfl
    refine List.forall_mem_cons.2 ⟨.line hfirst (setsOwn_mark (by decide) _) (settles_append _ (by decide)), ?_⟩
    simp only [List.forall_mem_cons]
    exact ⟨Stmt.made_block_line (code_word rfl rfl) (Stmt.made_word rfl rfl rfl (by decide)),
      Stmt.made_block_line (code_word rfl rfl) (Stmt.made_word rfl rfl rfl (by decide)), by simp⟩
  results := phrase_allOutputs (phrase_word rfl rfl rfl rfl)

theorem made_jsonExportBody : (jsonExportBody b).Made [] b.operands remarks where
  stmts := by
    have hopen : Made [] b.operands true "_data = json.loads(json.dumps(" (.name "_data" :: .mark '=' :: _) :=
      .code rfl rfl
    have hclose : Made [] b.operands true ", default=str))" _ := .code rfl rfl
    have hdata := (hopen.append (.name (b.paramOrFirst_mem_operands "data")) rfl).append hclose rfl
    exact List.forall_mem_singleton.2 (.line hdata (setsOwn_mark (by decide) _) (settles_append _ (by decide)))
  results := List.forall_mem_singleton.2 (phrase_word rfl rfl rfl rfl)

end

theorem made_body (t : Template) (b : BoundNode) : (t.body b).Made t.needs b.operands remarks := by
  cases t with
  | forward | processing | retrieval | logic => exact made_forwardBody b
  | input | textInput => exact made_inputBody b (.code rfl rfl) rfl
  | pdfInput => exact made_pdfInputBody b
  | pdfTextExtractor => exact made_pdfTextExtractorBody b
  | textChunker => exact made_textChunkerBody b
  | embeddingGenerator => exact made_embeddingGeneratorBody b
  | vectorStore => exact made_vectorStoreBody b
  | semanticSearch => exact made_semanticSearchBody b
  | languageModel | llmGenerator => exact made_languageModelBody b
  | promptBuilder => exact made_promptBuilderBody b
  | conditionalBranch => exact made_conditionalBranchBody b
  | dataMerger => exact made_dataMergerBody b
  | output => exact ⟨by simp [body], List.forall_mem_singleton.2 (phrase_name b.firstParam_mem_operands)⟩
  | textResponse =>
      exact ⟨by simp [body], List.forall_mem_singleton.2 (phrase_textOf (b.paramOrFirst_mem_operands _))⟩
  | jsonExport => exact made_jsonExportBody b

theorem made_stmts (t : Template) (b : BoundNode) :
    ∀ s ∈ b.opening ++ (t.body b).stmts, s.Made t.needs b.operands b.remarks :=
  List.forall_mem_append.2 ⟨b.made_opening, (t.made_body b).stmts⟩

end Template

end Dataflow
