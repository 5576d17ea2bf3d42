import Dataflow.Proofs.Printable

namespace Dataflow

namespace Text

variable {p : Char → Bool} {c : Char}

theorem runs_cons_of_neg (hc : p c = false) (cs : List Char) : runs p (c :: cs) = runs p cs := by
  simp [runs, hc]

theorem runs_ne_nil {cs : List Char} (h : cs.head?.any p = true) : runs p cs ≠ [] := by
  cases cs with
  | nil => cases h
  | cons c cs =>
      have hc : p c = true := h
      unfold runs
      rw [if_pos hc]
      split
      · split <;> exact List.cons_ne_nil _ _
      · exact List.cons_ne_nil _ _

theorem runs_cons_of_pos (hc : p c = true) (cs : List Char) : runs p (c :: cs) =
    if cs.head?.any p then (runs p cs).modifyHead (c :: ·) else [c] :: runs p cs := by
  cases cs with
  | nil => simp [runs, hc]
  | cons d cs =>
      cases hruns : runs p (d :: cs) with
      | nil =>
          have hd : (d :: cs).head?.any p = false := by
            by_contra hd
            exact runs_ne_nil (Bool.not_eq_false _ ▸ hd) hruns
          unfold runs
          rw [if_pos hc, hruns, hd]
          rfl
      | cons run more =>
          unfold runs
          rw [if_pos hc, hruns]
          rfl

theorem runs_concat_of_neg (hc : p c = false) (cs : List Char) : runs p (cs ++ [c]) = runs p cs := by
  induction cs with
  | nil => exact runs_cons_of_neg hc []
  | cons d cs ih =>
      cases hd : p d with
      | false => rw [List.cons_append, runs_cons_of_neg hd, runs_cons_of_neg hd, ih]
      | true =>
          have hhead : (cs ++ [c]).head?.any p = cs.head?.any p := by
            cases cs with
            | nil => exact hc
            | cons e cs => rfl
          rw [List.cons_append, runs_cons_of_pos hd, runs_cons_of_pos hd, ih, hhead]

theorem runs_dropWhile {q : Char → Bool} (hq : ∀ c, q c = true → p c = false) (cs : List Char) :
    runs p (cs.dropWhile q) = runs p cs := by
  induction cs with
  | nil => rfl
  | cons c cs ih =>
      rw [List.dropWhile_cons]
      split
      · rename_i hc
        rw [ih, runs_cons_of_neg (hq c hc)]
      · rfl

theorem runs_reverse_dropWhile {q : Char → Bool} (hq : ∀ c, q c = true → p c = false) (cs : List Char) :
    runs p (cs.dropWhile q).reverse = runs p cs.reverse := by
  induction cs with
  | nil => rfl
  | cons c cs ih =>
      rw [List.dropWhile_cons]
      split
      · rename_i hc
        rw [ih, List.reverse_cons, runs_concat_of_neg (hq c hc)]
      · rfl

theorem runs_trimWhere {q : Char → Bool} (hq : ∀ c, q c = true → p c = false) (cs : List Char) :
    runs p (trimWhere q cs) = runs p cs := by
  rw [trimWhere, runs_reverse_dropWhile hq, List.reverse_reverse, runs_dropWhile hq]

theorem getLast?_trimWhere {cs : List Char} (h : (trimWhere p cs).getLast? = some c) : p c = false := by
  have hhead := List.head?_dropWhile_not p (cs.dropWhile p).reverse
  rw [trimWhere, List.getLast?_reverse] at h
  rw [h] at hhead
  simpa using hhead

theorem runs_map {q : Char → Bool} {f : Char → Char} (hf : ∀ c, q (f c) = p c) (hkeep : ∀ c, p c = true → f c = c)
    (cs : List Char) : runs q (cs.map f) = runs p cs := by
  induction cs with
  | nil => rfl
  | cons c cs ih =>
      have hhead : (cs.map f).head?.any q = cs.head?.any p := by
        cases cs with
        | nil => rfl
        | cons d cs => exact hf d
      cases hc : p c with
      | false => rw [List.map_cons, runs_cons_of_neg ((hf c).trans hc), runs_cons_of_neg hc, ih]
      | true => rw [List.map_cons, runs_cons_of_pos ((hf c).trans hc), runs_cons_of_pos hc, ih, hhead, hkeep c hc]

theorem splitOnP_first {cs run : List Char} {more : List (List Char)}
    (h : cs.splitOnP (!p ·) = run :: more) : run = [] ↔ cs.head?.any p = false := by
  cases cs with
  | nil =>
      cases h
      exact ⟨fun _ => rfl, fun _ => rfl⟩
  | cons c cs =>
      rw [List.splitOnP_cons_eq_if_modifyHead] at h
      cases hc : p c with
      | false =>
          rw [hc, Bool.not_false, if_pos rfl, List.cons.injEq] at h
          exact ⟨fun _ => hc, fun _ => h.1.symm⟩
      | true =>
          obtain ⟨first, others, hsplit⟩ := List.exists_cons_of_ne_nil (List.splitOnP_ne_nil (!p ·) cs)
          rw [hc, Bool.not_true, if_neg Bool.false_ne_true, hsplit, List.modifyHead_cons, List.cons.injEq] at h
          simp [← h.1, hc]

theorem splitOnP_eq_runs (p : Char → Bool) (cs : List Char) :
    (cs.splitOnP (!p ·)).filter (!·.isEmpty) = runs p cs := by
  induction cs with
  | nil => rfl
  | cons c cs ih =>
      rw [List.splitOnP_cons_eq_if_modifyHead]
      cases hc : p c with
      | false => simpa [runs_cons_of_neg hc] using ih
      | true =>
          obtain ⟨run, more, hsplit⟩ := List.exists_cons_of_ne_nil (List.splitOnP_ne_nil (!p ·) cs)
          have hrun := splitOnP_first hsplit
          rw [runs_cons_of_pos hc, ← ih, hsplit]
          cases hhead : cs.head?.any p with
          | false => simp [hrun.2 hhead]
          | true =>
              have hne : run ≠ [] := fun hnil => Bool.false_ne_true ((hrun.1 hnil).symm.trans hhead)
              simp [hne]

section

variable {mark : Char} {cs : List Char}

theorem intercalate_runs_mark (hc : c ≠ mark) (hhead : cs.head? = some mark) (hruns : runs (· != mark) cs ≠ []) :
    [mark].intercalate (runs (· != mark) (c :: cs)) = c :: mark :: [mark].intercalate (runs (· != mark) cs) := by
  rw [runs_cons_of_pos (by simpa using hc), hhead, Option.any_some, bne_self_eq_false, if_neg Bool.false_ne_true,
    List.intercalate_cons_of_ne_nil hruns]
  rfl

theorem intercalate_runs_cons (hc : c ≠ mark) (hhead : cs.head? ≠ some mark) :
    [mark].intercalate (runs (· != mark) (c :: cs)) = c :: [mark].intercalate (runs (· != mark) cs) := by
  rw [runs_cons_of_pos (by simpa using hc)]
  cases cs with
  | nil => rfl
  | cons d cs =>
      have hkeep : (d :: cs).head?.any (· != mark) = true := by simpa using hhead
      obtain ⟨run, more, hruns⟩ := List.exists_cons_of_ne_nil (runs_ne_nil hkeep)
      rw [if_pos hkeep, hruns]
      cases more <;> rfl

theorem intercalate_runs (hpair : ¬[mark, mark] <:+: cs) (hlast : cs.getLast? ≠ some mark) :
    cs = (if cs.head? = some mark then [mark] else []) ++ [mark].intercalate (runs (· != mark) cs) := by
  induction cs with
  | nil => rfl
  | cons c cs ih =>
      have hpair' : ¬[mark, mark] <:+: cs := fun h => hpair (h.trans (List.suffix_cons c cs).isInfix)
      have hlast' : cs.getLast? ≠ some mark := by
        intro h
        rw [List.getLast?_cons, h] at hlast
        exact hlast rfl
      have ih := ih hpair' hlast'
      by_cases hc : c = mark
      · subst hc
        have hhead : cs.head? ≠ some c := by
          intro hhead
          obtain ⟨rest, rfl⟩ := List.head?_eq_some_iff.1 hhead
          exact hpair (List.prefix_append [c, c] rest).isInfix
        rw [if_neg hhead, List.nil_append] at ih
        rw [runs_cons_of_neg (by simp), ← ih]
        simp
      · have hfirst : (c :: cs).head? ≠ some mark := by simpa using hc
        rw [if_neg hfirst, List.nil_append]
        by_cases hhead : cs.head? = some mark
        · -- A mark comes next, and after it another run, since it is not the last character.
          rw [if_pos hhead, List.singleton_append] at ih
          have hruns : runs (· != mark) cs ≠ [] := by
            intro hnil
            rw [hnil] at ih
            exact hlast' (ih ▸ rfl)
          rw [intercalate_runs_mark hc hhead hruns, ← ih]
        · rw [if_neg hhead, List.nil_append] at ih
          rw [intercalate_runs_cons hc hhead, ← ih]

end

end Text

namespace Naming

open Text

/-- One pass over a text: of every two marks in a row, from the left, one is left. -/
def mergePairs (mark : Char) : List Char → List Char
  | c :: d :: rest => if c = mark ∧ d = mark then mark :: mergePairs mark rest else c :: mergePairs mark (d :: rest)
  | cs => cs

/-- Passes over a text as long as two marks stand in a row. -/
inductive Merges (mark : Char) : List Char → List Char → Prop
  | done {cs : List Char} (h : ¬[mark, mark] <:+: cs) : Merges mark cs cs
  | pass {cs ds : List Char} (h : [mark, mark] <:+: cs) (hmore : Merges mark (mergePairs mark cs) ds) :
      Merges mark cs ds

variable {mark : Char} {cs ds : List Char}

theorem head?_mergePairs (mark : Char) (cs : List Char) : (mergePairs mark cs).head? = cs.head? := by
  fun_induction mergePairs mark cs with
  | case1 c d rest h => rw [h.1, List.head?_cons, List.head?_cons]
  | case2 => rfl
  | case3 => rfl

theorem getLast?_mergePairs (mark : Char) (cs : List Char) : (mergePairs mark cs).getLast? = cs.getLast? := by
  fun_induction mergePairs mark cs with
  | case1 c d rest h ih =>
      obtain ⟨rfl, rfl⟩ := h
      rw [List.getLast?_cons, List.getLast?_cons, List.getLast?_cons, ih]
      rfl
  | case2 c d rest h ih => rw [List.getLast?_cons, List.getLast?_cons, ih]
  | case3 => rfl

theorem runs_mergePairs {p : Char → Bool} (hmark : p mark = false) (cs : List Char) :
    runs p (mergePairs mark cs) = runs p cs := by
  fun_induction mergePairs mark cs with
  | case1 c d rest h ih =>
      obtain ⟨rfl, rfl⟩ := h
      rw [runs_cons_of_neg hmark, runs_cons_of_neg hmark, runs_cons_of_neg hmark, ih]
  | case2 c d rest h ih =>
      cases hc : p c with
      | false => rw [runs_cons_of_neg hc, runs_cons_of_neg hc, ih]
      | true => rw [runs_cons_of_pos hc, runs_cons_of_pos hc, ih, head?_mergePairs]
  | case3 => rfl

theorem pair_infix_cons {c d : Char} {rest : List Char} :
    [mark, mark] <:+: c :: d :: rest ↔ (c = mark ∧ d = mark) ∨ [mark, mark] <:+: d :: rest := by
  rw [List.infix_cons_iff, List.cons_prefix_cons, List.cons_prefix_cons]
  simp [eq_comm]

theorem not_pair_of_short (h : ∀ c d rest, cs = c :: d :: rest → False) : ¬[mark, mark] <:+: cs := by
  intro hpair
  match cs, h with
  | [], _ => cases hpair.length_le
  | [c], _ => cases Nat.le_of_succ_le_succ hpair.length_le
  | c :: d :: rest, h => exact h c d rest rfl

theorem length_mergePairs_le (mark : Char) (cs : List Char) : (mergePairs mark cs).length ≤ cs.length := by
  fun_induction mergePairs mark cs with
  | case1 => simp only [List.length_cons]; omega
  | case2 => simp only [List.length_cons] at *; omega
  | case3 => exact Nat.le_refl _

theorem length_mergePairs_lt (h : [mark, mark] <:+: cs) : (mergePairs mark cs).length < cs.length := by
  fun_induction mergePairs mark cs with
  | case1 c d rest =>
      have := length_mergePairs_le mark rest
      simp only [List.length_cons]
      omega
  | case2 c d rest hstay ih =>
      have hrest := (pair_infix_cons.1 h).resolve_left hstay
      exact Nat.succ_lt_succ (ih hrest)
  | case3 cs hshort => exact absurd h (not_pair_of_short hshort)

theorem mergeMarks_of_not_pair (h : ¬[mark, mark] <:+: cs) : mergeMarks mark cs = cs := by
  fun_induction mergeMarks mark cs with
  | case1 c d rest hpair => exact absurd (pair_infix_cons.2 (.inl hpair)) h
  | case2 c d rest hstay ih => rw [ih fun hrest => h (pair_infix_cons.2 (.inr hrest))]
  | case3 => rfl

theorem mergeMarks_cons (c : Char) (cs : List Char) : mergeMarks mark (c :: cs) =
    if c = mark ∧ cs.head? = some mark then mergeMarks mark cs else c :: mergeMarks mark cs := by
  cases cs with
  | nil => simp [mergeMarks]
  | cons d cs => simp [mergeMarks]

theorem mergeMarks_mergePairs (mark : Char) (cs : List Char) :
    mergeMarks mark (mergePairs mark cs) = mergeMarks mark cs := by
  fun_induction mergePairs mark cs with
  | case1 c d rest h ih =>
      rw [h.1, h.2, mergeMarks_cons, head?_mergePairs, ih, ← mergeMarks_cons, mergeMarks_cons mark (mark :: rest),
        if_pos ⟨rfl, rfl⟩]
  | case2 c d rest h ih => rw [mergeMarks_cons, head?_mergePairs, ih, ← mergeMarks_cons]
  | case3 => rfl

theorem merges_mergeMarks (mark : Char) (cs : List Char) : Merges mark cs (mergeMarks mark cs) := by
  by_cases h : [mark, mark] <:+: cs
  · have := length_mergePairs_lt h
    exact .pass h (mergeMarks_mergePairs mark cs ▸ merges_mergeMarks mark (mergePairs mark cs))
  · rw [mergeMarks_of_not_pair h]
    exact .done h
termination_by cs.length

/-- The passes come to an end, and leave one of several marks in a row. -/
theorem merges_iff : Merges mark cs ds ↔ ds = mergeMarks mark cs := by
  constructor
  · intro h
    induction h with
    | done h => exact (mergeMarks_of_not_pair h).symm
    | pass _ _ ih => exact ih.trans (mergeMarks_mergePairs mark _)
  · rintro rfl
    exact merges_mergeMarks mark cs

theorem Merges.not_pair (h : Merges mark cs ds) : ¬[mark, mark] <:+: ds := by
  induction h with
  | done h => exact h
  | pass _ _ ih => exact ih

theorem Merges.ends (h : Merges mark cs ds) : ds.head? = cs.head? ∧ ds.getLast? = cs.getLast? := by
  induction h with
  | done => exact ⟨rfl, rfl⟩
  | pass _ _ ih => rwa [head?_mergePairs, getLast?_mergePairs] at ih

theorem Merges.runs {p : Char → Bool} (hmark : p mark = false) (h : Merges mark cs ds) :
    Text.runs p ds = Text.runs p cs := by
  induction h with
  | done => rfl
  | pass _ _ ih => exact ih.trans (runs_mergePairs hmark _)

/-- The name in lower case with marks for everything but letters and numbers, none of them at its ends. -/
def markedStem (name : String) : List Char :=
  trimWhere (· == '_') ((lower name).toList.map fun c => if isAlphanumeric c then c else '_')

theorem fileStem_eq (name : String) : fileStem name =
    if mergeMarks '_' (markedStem name) = [] then "pipeline" else String.ofList (mergeMarks '_' (markedStem name)) := by
  rw [fileStem, ← markedStem]
  cases mergeMarks '_' (markedStem name) <;> rfl

theorem ends_mergeMarks (name : String) : (mergeMarks '_' (markedStem name)).head? ≠ some '_' ∧
    (mergeMarks '_' (markedStem name)).getLast? ≠ some '_' := by
  obtain ⟨hhead, hlast⟩ := (merges_mergeMarks '_' (markedStem name)).ends
  rw [hhead, hlast]
  constructor
  · intro h
    cases head?_trimWhere h
  · intro h
    cases getLast?_trimWhere h

theorem mergeMarks_markedStem (name : String) : mergeMarks '_' (markedStem name) =
    ['_'].intercalate (runs isAlphanumeric (lower name).toList) := by
  have hmark : ∀ c, isAlphanumeric c = true → c ≠ '_' := by
    rintro _ hc rfl
    exact absurd hc (by decide)
  have hmerges := merges_mergeMarks '_' (markedStem name)
  obtain ⟨hfirst, hlast⟩ := ends_mergeMarks name
  have hruns : runs (· != '_') (mergeMarks '_' (markedStem name)) = runs isAlphanumeric (lower name).toList := by
    rw [hmerges.runs rfl, markedStem, runs_trimWhere (by simp), runs_map]
    · intro c
      split
      · rename_i hc
        simpa [hc] using hmark c hc
      · rename_i hc
        simpa using hc
    · intro c hc
      rw [if_pos hc]
  have hjoined := intercalate_runs hmerges.not_pair hlast
  rwa [if_neg hfirst, List.nil_append, hruns] at hjoined

theorem mem_of_mem_mergeMarks {c : Char} (h : c ∈ mergeMarks mark cs) : c ∈ cs := by
  fun_induction mergeMarks mark cs with
  | case1 d e rest hd ih => exact List.mem_cons_of_mem d (ih h)
  | case2 d e rest hd ih =>
      rcases List.mem_cons.1 h with rfl | h
      · exact List.mem_cons_self
      · exact List.mem_cons_of_mem d (ih h)
  | case3 => exact h

theorem isWord_of_mem_fileStem {name : String} {c : Char} (h : c ∈ (fileStem name).toList) : isWord c = true := by
  rw [fileStem] at h
  split at h
  · have hword : "pipeline".toList.all isWord = true := rfl
    exact List.all_eq_true.1 hword c h
  · rw [String.toList_ofList] at h
    obtain ⟨d, -, rfl⟩ := List.mem_map.1 (mem_of_mem_trimWhere (mem_of_mem_mergeMarks h))
    split
    · rename_i hd
      rw [isWord, hd, Bool.true_or]
    · rfl

theorem fileStem_tidy (name : String) : (fileStem name).toList ≠ [] ∧ ¬['_', '_'] <:+: (fileStem name).toList ∧
    (fileStem name).toList.head? ≠ some '_' ∧ (fileStem name).toList.getLast? ≠ some '_' := by
  rw [fileStem_eq]
  split
  · have hmark : '_' ∉ "pipeline".toList := by decide
    exact ⟨by decide, fun h => hmark (h.subset List.mem_cons_self), by decide, by decide⟩
  · rename_i hsome
    rw [String.toList_ofList]
    exact ⟨hsome, (merges_mergeMarks '_' (markedStem name)).not_pair, ends_mergeMarks name⟩

theorem intercalate_eq_nil {words : List (List Char)} (h : ∀ word ∈ words, word ≠ []) :
    ['_'].intercalate words = [] ↔ words = [] := by
  constructor
  · intro hnil
    cases words with
    | nil => rfl
    | cons word words =>
        obtain ⟨c, rest, hword⟩ := List.exists_cons_of_ne_nil (h word List.mem_cons_self)
        have hmem : c ∈ ['_'].intercalate (word :: words) :=
          mem_intercalate_of_mem_flatten (by simp [hword]) _
        rw [hnil] at hmem
        cases hmem
  · rintro rfl
    rfl

/-- The stem of a file's name has the maximal runs of letters and numbers in it, with one mark between each two. Passes
over the marked name, as long as two marks stand in a row, come to an end with it. So it is not empty, has neither
separators nor points, and no mark but single ones between its words. -/
theorem fileName_joins_words (name : String) :
    let words := ((lower name).toList.splitOnP (!isAlphanumeric ·)).filter (!·.isEmpty)
    let stem := (fileStem name).toList
    fileName name = (if words = [] then "pipeline" else "_".intercalate (words.map String.ofList)) ++ ".py" ∧
    fileName name = fileStem name ++ ".py" ∧
    (∃ merged, (∀ cs, Merges '_' (markedStem name) cs ↔ cs = merged) ∧
      fileStem name = if merged = [] then "pipeline" else String.ofList merged) ∧
    stem ≠ [] ∧ (∀ c ∈ stem, isAlphanumeric c = true ∨ c = '_') ∧ (∀ c ∈ ['/', '\\', '.', '\x00'], c ∉ stem) ∧
    ¬['_', '_'] <:+: stem ∧ stem.head? ≠ some '_' ∧ stem.getLast? ≠ some '_' := by
  extract_lets words stem
  have hwords : words = runs isAlphanumeric (lower name).toList := splitOnP_eq_runs _ _
  have hmerged : mergeMarks '_' (markedStem name) = ['_'].intercalate words := hwords ▸ mergeMarks_markedStem name
  have hempty : ['_'].intercalate words = [] ↔ words = [] := by
    apply intercalate_eq_nil
    intro word hword
    simpa using (List.mem_filter.1 hword).2
  have hstem : fileStem name = if words = [] then "pipeline" else "_".intercalate (words.map String.ofList) := by
    have hjoined : String.ofList (['_'].intercalate words) = "_".intercalate (words.map String.ofList) := by
      apply String.toList_inj.1
      simp [Function.comp_def]
    rw [fileStem_eq, hmerged, hjoined]
    exact if_congr hempty rfl rfl
  obtain ⟨hne, hpair, hfirst, hlast⟩ := fileStem_tidy name
  have hword : ∀ c ∈ stem, isAlphanumeric c = true ∨ c = '_' := by
    intro c hc
    simpa [isWord] using isWord_of_mem_fileStem hc
  refine ⟨congrArg (· ++ ".py") hstem, rfl, ⟨_, fun _ => merges_iff, fileStem_eq name⟩, hne, hword, ?_, hpair, hfirst,
    hlast⟩
  have houtside : ['/', '\\', '.', '\x00'].all (!isWord ·) = true := rfl
  intro c hc hmem
  have hout := List.all_eq_true.1 houtside c hc
  rw [isWord_of_mem_fileStem hmem] at hout
  cases hout

example : fileName "Document Q&A Pipeline" = "document_q_a_pipeline.py" := rfl

end Naming

end Dataflow
