import Dataflow.Naming.Identifier
import Dataflow.Proofs.Characters
import Dataflow.Proofs.Compilation
import Dataflow.Proofs.Execution
import Dataflow.Proofs.Layout

namespace Dataflow

namespace Text

def Ascii (s : String) : Prop := ∀ c ∈ s.toList, c.toNat < 128

instance (s : String) : Decidable (Ascii s) := List.decidableBAll (Char.toNat · < 128) s.toList

def letters (s : String) : List Char := s.toList.filter isAlphanumeric

/-- The letters and numbers of the text can all stand in an identifier, and the first of them is a digit, which gets
a letter before it, or can start one. -/
structure Spellable (s : String) : Prop where
  parts : ∀ c ∈ letters s, identifierPart.contains c = true
  start : ∀ c ∈ (letters s).head?, isDigit c = true ∨ identifierStart.contains c = true

theorem spellable_def {s : String} : Spellable s ↔ (∀ c ∈ letters s, identifierPart.contains c = true) ∧
    ∀ c ∈ (letters s).head?, isDigit c = true ∨ identifierStart.contains c = true :=
  ⟨fun h => ⟨h.parts, h.start⟩, fun h => ⟨h.1, h.2⟩⟩

def isSpellable (s : String) : Bool :=
  (letters s).all identifierPart.contains && (letters s).head?.all fun c => isDigit c || identifierStart.contains c

theorem isSpellable_iff {s : String} : isSpellable s = true ↔ Spellable s := by
  simp [isSpellable, spellable_def, Option.all_eq_true]

instance (s : String) : Decidable (Spellable s) := decidable_of_iff _ isSpellable_iff

section

variable {p q : Char → Bool} {c : Char} {cs : List Char}

theorem filter_dropWhile (h : ∀ c, p c = true → q c = false) (cs : List Char) :
    (cs.dropWhile p).filter q = cs.filter q := by
  induction cs with
  | nil => rfl
  | cons c cs ih =>
      rw [List.dropWhile_cons]
      split
      · rename_i hp
        rw [ih, List.filter_cons_of_neg (by simp [h c hp])]
      · rfl

theorem filter_trimWhere (h : ∀ c, p c = true → q c = false) (cs : List Char) :
    (trimWhere p cs).filter q = cs.filter q := by
  rw [trimWhere, List.filter_reverse, filter_dropWhile h, List.filter_reverse, List.reverse_reverse, filter_dropWhile h]

theorem trimWhere_initial (p : Char → Bool) (cs : List Char) : trimWhere p cs <+: cs.dropWhile p := by
  rw [trimWhere, ← List.reverse_suffix, List.reverse_reverse]
  exact List.dropWhile_suffix p

theorem mem_of_mem_trimWhere (h : c ∈ trimWhere p cs) : c ∈ cs :=
  (List.dropWhile_suffix p).subset ((trimWhere_initial p cs).subset h)

theorem head?_trimWhere (h : (trimWhere p cs).head? = some c) : p c = false := by
  obtain ⟨rest, hrest⟩ := List.head?_eq_some_iff.1 h
  obtain ⟨more, hmore⟩ := trimWhere_initial p cs
  have hhead := List.head?_dropWhile_not p cs
  rw [← hmore, hrest] at hhead
  simpa using hhead

end

theorem isWord_of_isDigit {c : Char} (h : c.isDigit = true) :
    isWord c = true ∧ identifierPart.contains c = true ∧ c.toNat < 128 := by
  have hnumber : CharSet.inside [(0x30, 0x39)] alphanumeric.ranges = true := by decide
  have hpart : CharSet.inside [(0x30, 0x39)] identifierPart.ranges = true := by decide
  have hbounds : 48 ≤ c.toNat ∧ c.toNat ≤ 57 := by
    simpa [Char.isDigit, UInt32.le_iff_toNat_le] using h
  have hcode : CharSet.covers [(0x30, 0x39)] c.toNat = true := by
    simp only [CharSet.covers]
    grind
  refine ⟨?_, CharSet.covers_of_inside hpart hcode, by omega⟩
  rw [isWord, isAlphanumeric, CharSet.contains, CharSet.covers_of_inside hnumber hcode, Bool.true_or]

theorem isIdentifier_append {s t : String} (hs : s ≠ "") (ht : ∀ c ∈ t.toList, identifierPart.contains c = true) :
    isIdentifier (s ++ t) = isIdentifier s := by
  obtain ⟨c, rest, hc⟩ := List.exists_cons_of_ne_nil (show s.toList ≠ [] by simpa using hs)
  have hall : t.toList.all identifierPart.contains = true := List.all_eq_true.2 ht
  simp [isIdentifier, hc, hall]

/-- Whether a text can be spelled shows in the classes of its letters and numbers alone. -/
theorem spellable_iff {s : String} {cs : List Char} (h : List.Forall₂ SameClass (letters s) cs) :
    Spellable s ↔ (∀ c ∈ cs, identifierPart.contains c = true) ∧
      ∀ c ∈ cs.head?, isDigit c = true ∨ identifierStart.contains c = true := by
  rw [spellable_def]
  generalize letters s = ls at h
  refine and_congr ?_ ?_
  · induction h with
    | nil => simp
    | cons hcd _ ih => simp only [List.forall_mem_cons, hcd.part, ih]
  · cases h with
    | nil => simp
    | cons hcd _ => simp [hcd.digit, hcd.start]

end Text

namespace Naming

open Text

theorem mem_squeeze {keep : Char → Bool} {mark c : Char} {cs : List Char} (h : c ∈ squeeze keep mark cs) :
    keep c = true ∨ c = mark := by
  fun_induction squeeze keep mark cs with
  | case1 => cases h
  | case2 d rest hd ih =>
      rcases List.mem_cons.1 h with rfl | h
      · exact .inl hd
      · exact ih h
  | case3 => exact .inr (List.mem_singleton.1 h)
  | case4 d hd e rest he ih =>
      rcases List.mem_cons.1 h with rfl | h
      · exact .inr rfl
      · exact ih h
  | case5 d hd e rest he ih => exact ih h

theorem filter_squeeze {keep q : Char → Bool} {mark : Char} (hq : ∀ c, q c = true → keep c = true)
    (hmark : q mark = false) (cs : List Char) : (squeeze keep mark cs).filter q = cs.filter q := by
  have hdrop : ∀ c, ¬keep c = true → ¬q c = true := fun c hc h => hc (hq c h)
  fun_induction squeeze keep mark cs with
  | case1 => rfl
  | case2 c rest hc ih => simp [List.filter_cons, ih]
  | case3 c hc => rw [List.filter_cons_of_neg (by simp [hmark]), List.filter_cons_of_neg (hdrop c hc)]
  | case4 c hc d rest hd ih =>
      rw [List.filter_cons_of_neg (a := mark) (by simp [hmark]), ih, List.filter_cons_of_neg (a := c) (hdrop c hc)]
  | case5 c hc d rest hd ih => rw [ih, List.filter_cons_of_neg (a := c) (hdrop c hc)]

/-- What is left of a text once it is in lower case, with underscores for everything but letters and numbers. -/
def stem (text : String) : List Char :=
  trimWhere (· == '_') (squeeze isWord '_' (lower (trim text)).toList)

theorem safeIdentifier_eq (text : String) :
    safeIdentifier text = avoidKeyword (String.ofList (startWithLetter (stem text))) := rfl

theorem isWord_of_mem_stem {text : String} {c : Char} (h : c ∈ stem text) : isWord c = true := by
  rcases mem_squeeze (mem_of_mem_trimWhere h) with h | rfl
  · exact h
  · rfl

theorem isAlphanumeric_head?_stem {text : String} {c : Char} (h : (stem text).head? = some c) :
    isAlphanumeric c = true := by
  have hword := isWord_of_mem_stem (List.mem_of_head? h)
  have hmark := head?_trimWhere h
  simpa [isWord, show c ≠ '_' by simpa using hmark] using hword

theorem stem_class (text : String) : List.Forall₂ SameClass (letters text) ((stem text).filter isAlphanumeric) := by
  have hmark : ∀ c, (c == '_') = true → isAlphanumeric c = false := by
    intro c hc
    rw [beq_iff_eq.1 hc]
    decide
  have htrim : (trim text).toList.filter isAlphanumeric = letters text := by
    rw [trim, String.toList_ofList, filter_trimWhere fun _ => not_isAlphanumeric_of_isBlank]
    rfl
  rw [stem, filter_trimWhere hmark, filter_squeeze (fun c hc => by simp [isWord, hc]) (hmark _ rfl), lower,
    String.toList_ofList, ← htrim]
  exact lowerFrom_class false _

theorem isIdentifier_startWithLetter (cs : List Char) :
    isIdentifier (String.ofList (startWithLetter cs)) = true ↔ (∀ c ∈ cs, identifierPart.contains c = true) ∧
      ∀ c ∈ cs.head?, isDigit c = true ∨ identifierStart.contains c = true := by
  have hn : identifierStart.contains 'n' = true := by decide
  have hmark : identifierPart.contains '_' = true := by decide
  cases cs with
  | nil => simp [startWithLetter, isIdentifier, hn]
  | cons c rest =>
      by_cases hc : isDigit c = true
      · simp [startWithLetter, isIdentifier, hc, hn, hmark]
      · have hpart : identifierStart.contains c = true → identifierPart.contains c = true :=
          identifierPart_of_identifierStart
        simp [startWithLetter, isIdentifier, hc]
        tauto

theorem isIdentifier_stem (text : String) :
    isIdentifier (String.ofList (startWithLetter (stem text))) = true ↔ Spellable text := by
  have hmark : ∀ c, isWord c = true → isAlphanumeric c = false → identifierPart.contains c = true := by
    intro c hword hc
    have : c = '_' := by simpa [isWord, hc] using hword
    subst this
    decide
  rw [isIdentifier_startWithLetter, spellable_iff (stem_class text)]
  refine and_congr ?_ ?_
  · -- Apart from its letters and numbers, a stem has underscores only.
    constructor
    · intro h c hc
      exact h c (List.mem_of_mem_filter hc)
    · intro h c hc
      cases halnum : isAlphanumeric c with
      | true => exact h c (List.mem_filter.2 ⟨hc, halnum⟩)
      | false => exact hmark c (isWord_of_mem_stem hc) halnum
  · have hhead : ((stem text).filter isAlphanumeric).head? = (stem text).head? := by
      cases hs : stem text with
      | nil => rfl
      | cons c rest =>
          rw [List.filter_cons_of_pos (isAlphanumeric_head?_stem (by rw [hs]; rfl))]
          rfl
    rw [hhead]

theorem startWithLetter_ne_nil (cs : List Char) : startWithLetter cs ≠ [] := by
  cases cs with
  | nil => simp [startWithLetter]
  | cons c rest =>
      rw [startWithLetter]
      split <;> simp

theorem mem_startWithLetter {cs : List Char} {c : Char} (h : c ∈ startWithLetter cs) : c ∈ ['n', '_'] ∨ c ∈ cs := by
  cases cs with
  | nil => exact .inl (List.mem_cons.2 (.inl (List.mem_singleton.1 h)))
  | cons d rest =>
      rw [startWithLetter] at h
      split at h
      · rcases List.mem_cons.1 h with rfl | h
        · exact .inl List.mem_cons_self
        · rcases List.mem_cons.1 h with rfl | h
          · exact .inl (by decide)
          · exact .inr h
      · exact .inr h

theorem ascii_of_mem_stem {text : String} (h : ∀ c ∈ letters text, c.toNat < 128) : ∀ c ∈ stem text, c.toNat < 128 := by
  have hletters : ∀ c ∈ (stem text).filter isAlphanumeric, c.toNat < 128 := by
    have hclass := stem_class text
    generalize letters text = ls, (stem text).filter isAlphanumeric = cs at h hclass ⊢
    induction hclass with
    | nil => simp
    | cons hcd _ ih =>
        obtain ⟨hc, hls⟩ := List.forall_mem_cons.1 h
        exact List.forall_mem_cons.2 ⟨hcd.ascii hc, ih hls⟩
  intro c hc
  cases halnum : isAlphanumeric c with
  | true => exact hletters c (List.mem_filter.2 ⟨hc, halnum⟩)
  | false =>
      have hmark : c = '_' := by simpa [isWord, halnum] using isWord_of_mem_stem hc
      rw [hmark]
      decide

/-- `name` is one of the names to try for the text `hint`. -/
def Named (hint name : String) : Prop := ∃ k, name = candidate (safeIdentifier hint) k

/-- What is added to a name to set it off from others: nothing, or some characters of ASCII with an underscore among
them. -/
structure Suffix (more : String) : Prop where
  words : ∀ c ∈ more.toList, isWord c = true ∧ identifierPart.contains c = true ∧ c.toNat < 128
  marked : more = "" ∨ '_' ∈ more.toList

theorem isWord_mark : isWord '_' = true ∧ identifierPart.contains '_' = true ∧ '_'.toNat < 128 := by decide

theorem suffix_nil : Suffix "" := ⟨by simp, .inl rfl⟩

theorem suffix_mark : Suffix "_" := ⟨by simpa using isWord_mark, .inr (by decide)⟩

theorem suffix_number (n : Nat) : Suffix ("_" ++ toString n) := by
  have hlist : ("_" ++ toString n).toList = '_' :: Nat.toDigits 10 n := by simp
  refine ⟨?_, .inr (by simp)⟩
  rw [hlist, List.forall_mem_cons]
  refine ⟨isWord_mark, ?_⟩
  intro c hc
  exact isWord_of_isDigit (Nat.isDigit_of_mem_toDigits (by decide) (by decide) hc)

theorem Suffix.append {s t : String} (hs : Suffix s) (ht : Suffix t) : Suffix (s ++ t) := by
  constructor
  · rw [String.toList_append, List.forall_mem_append]
    exact ⟨hs.words, ht.words⟩
  · rcases hs.marked with rfl | hs
    · simpa using ht.marked
    · exact .inr (by simp [hs])

theorem candidate_eq_append (base : String) (k : Nat) : ∃ more, Suffix more ∧ candidate base k = base ++ more := by
  cases k with
  | zero => exact ⟨"", suffix_nil, (String.append_empty).symm⟩
  | succ k => exact ⟨"_" ++ toString (k + 2), suffix_number _, String.append_assoc⟩

theorem avoidKeyword_eq_append (base : String) :
    ∃ more, Suffix more ∧ avoidKeyword base = base ++ more ∧ (base ∈ keywords → more ≠ "") := by
  rw [avoidKeyword]
  split
  · exact ⟨"_", suffix_mark, rfl, by simp⟩
  · rename_i hbase
    exact ⟨"", suffix_nil, (String.append_empty).symm, fun h => absurd h hbase⟩

section

variable {hint name : String}

theorem Named.eq_append (h : Named hint name) :
    ∃ more, Suffix more ∧ name = String.ofList (startWithLetter (stem hint)) ++ more ∧
      (String.ofList (startWithLetter (stem hint)) ∈ keywords → more ≠ "") := by
  obtain ⟨k, rfl⟩ := h
  obtain ⟨mark, hmark, hword, hne⟩ := avoidKeyword_eq_append (String.ofList (startWithLetter (stem hint)))
  obtain ⟨number, hnumber, hname⟩ := candidate_eq_append (safeIdentifier hint) k
  refine ⟨mark ++ number, hmark.append hnumber, ?_, ?_⟩
  · rw [hname, safeIdentifier_eq, hword, String.append_assoc]
  · intro hkeyword hnil
    exact hne hkeyword (String.append_eq_empty_iff.1 hnil).1

theorem Named.isWord (h : Named hint name) : ∀ c ∈ name.toList, isWord c = true := by
  have hstart : ['n', '_'].all Text.isWord = true := by decide
  obtain ⟨more, hmore, rfl, -⟩ := h.eq_append
  rw [String.toList_append, List.forall_mem_append, String.toList_ofList]
  refine ⟨?_, fun c hc => (hmore.words c hc).1⟩
  intro c hc
  exact (mem_startWithLetter hc).elim (List.all_eq_true.1 hstart c) isWord_of_mem_stem

theorem Named.ascii (h : Named hint name) (hhint : ∀ c ∈ letters hint, c.toNat < 128) : Ascii name := by
  have hstart : Ascii "n_" := by decide
  obtain ⟨more, hmore, rfl, -⟩ := h.eq_append
  rw [Ascii, String.toList_append, List.forall_mem_append, String.toList_ofList]
  refine ⟨?_, fun c hc => (hmore.words c hc).2.2⟩
  intro c hc
  exact (mem_startWithLetter hc).elim (fun hc => hstart c (by simpa using hc)) (ascii_of_mem_stem hhint c)

theorem Named.not_keyword (h : Named hint name) : name ∉ keywords := by
  have hmark : ∀ word ∈ keywords, '_' ∉ word.toList := by decide
  obtain ⟨more, hmore, rfl, hne⟩ := h.eq_append
  intro hkeyword
  -- What is added brings an underscore, which no keyword has; nothing is added only if the stem is no keyword.
  rcases hmore.marked with rfl | hmem
  · rw [String.append_empty] at hkeyword
    exact hne hkeyword rfl
  · exact hmark _ hkeyword (by simp [hmem])

theorem Named.isIdentifier_iff (h : Named hint name) : isIdentifier name = true ↔ Spellable hint := by
  obtain ⟨more, hmore, rfl, -⟩ := h.eq_append
  have hne : String.ofList (startWithLetter (stem hint)) ≠ "" := by simpa using startWithLetter_ne_nil _
  rw [isIdentifier_append hne fun c hc => (hmore.words c hc).2.1, isIdentifier_stem]

end

end Naming

/-- The names that a node has at the top level of the script and in its run function, each with the text that it is
made from: first of its procedure, then of its variables. The declared outputs of an output node have the variable of
its result. -/
def BoundNode.spelled (b : BoundNode) : List (String × String) :=
  (s!"node_{b.node.id}", b.procedure) ::
    match b.resultVar with
    | some var => [(PortKey.hint ⟨b.node.id, PortKey.resultPort⟩, var)]
    | none => b.outputVars.map fun entry => (PortKey.hint ⟨b.node.id, entry.1⟩, entry.2)

theorem BoundNode.map_snd_spelled (b : BoundNode) : b.spelled.map Prod.snd = b.names := by
  cases h : b.resultVar <;> simp [spelled, names, targets, h, Function.comp_def]

namespace Binding

variable {p : Pipeline} {t u : SymbolTable} {node : String} {ports : List String}

theorem named_fresh (taken : List String) (hint : String) :
    Naming.Named hint (Naming.fresh taken (Naming.safeIdentifier hint)) := by
  obtain ⟨k, hk, -⟩ := Naming.fresh_eq_candidate taken (Naming.safeIdentifier hint)
  exact ⟨k, hk⟩

theorem named_define {key : PortKey} {name : String} (h : t.define key = .ok (name, u)) :
    Naming.Named key.hint name := by
  obtain ⟨hfree, -⟩ := SymbolTable.define_eq_ok h
  rw [SymbolTable.define_none hfree] at h
  cases h
  exact named_fresh _ _

theorem named_outputVarsFor {vars : List (String × String)} (h : outputVarsFor t node none ports = .ok (vars, u)) :
    ∀ entry ∈ vars, Naming.Named (PortKey.hint ⟨node, entry.1⟩) entry.2 := by
  induction ports generalizing t vars with
  | nil =>
      cases h
      simp
  | cons port rest ih =>
      obtain ⟨⟨var, v⟩, hdef, h⟩ := Steps.bind_eq_ok.1 h
      obtain ⟨⟨others, w⟩, hothers, h⟩ := Steps.bind_eq_ok.1 h
      cases h
      exact List.forall_mem_cons.2 ⟨named_define hdef, ih hothers⟩

theorem map_fst_paramsFor (taken ports : List String) : (paramsFor taken ports).map Prod.fst = ports := by
  induction ports generalizing taken with
  | nil => rfl
  | cons port rest ih => simp [paramsFor, ih]

theorem named_paramsFor (taken ports : List String) :
    ∀ entry ∈ paramsFor taken ports, Naming.Named entry.1 entry.2 := by
  induction ports generalizing taken with
  | nil => simp [paramsFor]
  | cons port rest ih => exact List.forall_mem_cons.2 ⟨named_fresh _ _, ih _⟩

/-- The parameters and names of a bound node are made from its ports and its id. -/
structure Spelled (b : BoundNode) : Prop where
  params : b.params = paramsFor [] (b.node.inputs.map Port.id)
  names : ∀ entry ∈ b.spelled, Naming.Named entry.1 entry.2

theorem bind_spelled {n : Node} {b : BoundNode} (h : bind p t n = .ok (b, u)) : Spelled b := by
  unfold bind at h
  cases ha : t.allocate s!"node_{n.id}" with
  | mk procedure v =>
      have hprocedure : Naming.Named s!"node_{n.id}" procedure := by
        cases ha
        exact named_fresh _ _
      rw [ha] at h
      obtain ⟨inputVars, hin, h⟩ := Steps.bind_eq_ok.1 h
      split at h
      · obtain ⟨⟨result, v⟩, hdef, h⟩ := Steps.bind_eq_ok.1 h
        obtain ⟨⟨outputVars, w⟩, hout, h⟩ := Steps.bind_eq_ok.1 h
        cases h
        exact ⟨rfl, List.forall_mem_cons.2 ⟨hprocedure, by simpa using named_define hdef⟩⟩
      · obtain ⟨⟨outputVars, w⟩, hout, h⟩ := Steps.bind_eq_ok.1 h
        cases h
        exact ⟨rfl, List.forall_mem_cons.2 ⟨hprocedure, List.forall_mem_map.2 (named_outputVarsFor hout)⟩⟩

theorem bindAll_spelled (p : Pipeline) (t : SymbolTable) (nodes : List Node) :
    ∀ b ∈ (bindAll p t nodes).bound, Spelled b := by
  induction nodes generalizing t with
  | nil => simp [bindAll]
  | cons n nodes ih =>
      unfold bindAll
      cases hb : bind p t n with
      | error e => simp
      | ok r => exact List.forall_mem_cons.2 ⟨bind_spelled hb, ih r.2⟩

theorem Spelled.named {b : BoundNode} (h : Spelled b) :
    ∀ entry ∈ b.spelled ++ b.params, Naming.Named entry.1 entry.2 := by
  refine List.forall_mem_append.2 ⟨h.names, ?_⟩
  rw [h.params]
  exact named_paramsFor _ _

end Binding

namespace Pipeline

variable {p : Pipeline} {order : List String} {s : Settings} {timestamp : String} {e : Emission}

theorem emit_spelled {τ : Type} [Strategy τ] {registry : Registry τ}
    (h : (p.emit order registry s timestamp).value = .ok e) : ∀ b ∈ e.bound, Binding.Spelled b := by
  obtain ⟨-, templates, table, -, -, -, hbound⟩ := emit_eq_emission h
  rw [hbound]
  exact Binding.bindAll_spelled _ _ _

/-- The names that a script binds, of procedures, of their parameters and of the variables that its commands set, are
never keywords. Such a name is an identifier exactly if the text that it is made from can be spelled. -/
theorem emit_identifier_iff_spellable {registry : Registry}
    (h : (p.emit order registry s timestamp).value = .ok e) :
    ∀ b ∈ e.bound,
      (b.signature ∈ e.lines ∧ ∀ command ∈ b.commands, "    " ++ command.text ∈ e.lines) ∧
      b.spelled.map Prod.snd = b.procedure :: b.commands.flatMap Command.targets ∧
      b.params.map Prod.fst = b.node.inputs.map Port.id ∧
      ∀ entry ∈ b.spelled ++ b.params,
        entry.2 ∉ Naming.keywords ∧ (Text.isIdentifier entry.2 = true ↔ Text.Spellable entry.1) := by
  intro b hb
  have hspelled := emit_spelled h b hb
  obtain ⟨-, table, hbinds⟩ := emit_eq_ok h
  obtain ⟨_, _, hbound⟩ := hbinds.exists_bound b hb
  refine ⟨?_, ?_, ?_, ?_⟩
  · obtain ⟨-, templates, table, -, -, rfl, -⟩ := emit_eq_emission h
    exact emission_declares b hb
  · rw [b.map_snd_spelled, hbound.targets_commands, BoundNode.names]
  · rw [hspelled.params, Binding.map_fst_paramsFor]
  · intro entry hentry
    have hnamed := hspelled.named entry hentry
    exact ⟨hnamed.not_keyword, hnamed.isIdentifier_iff⟩

def halving : Pipeline where
  name := "halving"
  nodes := [
    ⟨"in", .input, "In", [], [], [textPort], none, .null, List.nodup_nil, List.nodup_singleton "text"⟩,
    ⟨"out", .output, "Out", [], [⟨"½", .null, .text, true, .null⟩], [], none, .null, List.nodup_singleton "½",
      List.nodup_nil⟩]
  edges := [⟨"e1", "in", "text", "out", "½", .text⟩]

theorem emit_halving : ∃ e, (halving.emit ["in", "out"] .standard {} "now").value = .ok e ∧
    e.bound.map (fun b => (b.spelled, b.params)) =
      [([("node_in", "node_in"), ("in_text", "in_text")], []),
        ([("node_out", "node_out"), ("out_result", "out_result")], [("½", "½")])] :=
  Steps.exists_ok_of_any (by decide +kernel)

theorem halving_identifiers : ∃ e, (halving.emit ["in", "out"] .standard {} "now").value = .ok e ∧
    (∀ b ∈ e.bound, ∀ entry ∈ b.spelled, Text.isIdentifier entry.2 = true) ∧
    ∀ b ∈ e.bound, ∀ entry ∈ b.params, Text.isIdentifier entry.2 = false := by
  obtain ⟨e, he, hnames⟩ := emit_halving
  have hspellable : ∀ names ∈ e.bound.map (fun b => (b.spelled, b.params)),
      (∀ entry ∈ names.1, Text.Spellable entry.1) ∧ ∀ entry ∈ names.2, ¬Text.Spellable entry.1 := by
    rw [hnames]
    decide
  rw [List.forall_mem_map] at hspellable
  refine ⟨e, he, ?_, ?_⟩
  · intro b hb entry hentry
    obtain ⟨-, -, -, h⟩ := emit_identifier_iff_spellable he b hb
    exact (h entry (List.mem_append_left _ hentry)).2.2 ((hspellable b hb).1 entry hentry)
  · intro b hb entry hentry
    obtain ⟨-, -, -, h⟩ := emit_identifier_iff_spellable he b hb
    rw [← Bool.not_eq_true, (h entry (List.mem_append_right _ hentry)).2]
    exact (hspellable b hb).2 entry hentry

/-- The script of `halving` declares a parameter that is no identifier. -/
theorem halving_parameter : ∃ e, (halving.emit ["in", "out"] .standard {} "now").value = .ok e ∧
    "def node_out(½: Any = None) -> Any:" ∈ e.lines ∧
    ∃ b ∈ e.bound, ∃ entry ∈ b.params, entry.2 = "½" ∧ Text.isIdentifier entry.2 = false :=
  Steps.exists_ok_of_any (by decide +kernel)

end Pipeline

end Dataflow
