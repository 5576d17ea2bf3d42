import Dataflow.Text.LineBreak
import Dataflow.Text.Split

namespace Dataflow.Text

variable {mark c : Char} {cs : List Char}

theorem splitAt_eq_splitOn (mark : Char) (cs : List Char) : splitAt mark cs = cs.splitOn mark := by
  induction cs with
  | nil => rfl
  | cons c cs ih =>
      have hstep : splitAt mark (c :: cs) = splitStep mark c (splitAt mark cs) := rfl
      obtain ⟨part, rest, hparts⟩ := List.exists_cons_of_ne_nil (List.splitOn_ne_nil mark cs)
      rw [hstep, ih, List.splitOn_cons_eq_if_modifyHead, hparts]
      simp [splitStep]

theorem not_mem_of_mem_splitAt {part : List Char} (h : part ∈ splitAt mark cs) : mark ∉ part := by
  rw [splitAt_eq_splitOn] at h
  induction cs generalizing part with
  | nil => simp_all
  | cons c cs ih =>
      obtain ⟨first, more, hparts⟩ := List.exists_cons_of_ne_nil (List.splitOn_ne_nil mark cs)
      rw [hparts] at ih
      rw [List.splitOn_cons_eq_if_modifyHead, hparts] at h
      split at h
      · rcases List.mem_cons.1 h with rfl | h
        · exact List.not_mem_nil
        · exact ih h
      · rename_i hc
        rcases List.mem_cons.1 h with rfl | h
        · rw [List.mem_cons, not_or]
          exact ⟨fun he => hc (beq_iff_eq.2 he.symm), ih List.mem_cons_self⟩
        · exact ih (List.mem_cons_of_mem _ h)

theorem splitAt_of_not_mem (h : mark ∉ cs) : splitAt mark cs = [cs] := by
  induction cs with
  | nil => rfl
  | cons c cs ih =>
      obtain ⟨hc, hcs⟩ := not_or.1 (mt List.mem_cons.2 h)
      have hstep : splitAt mark (c :: cs) = splitStep mark c (splitAt mark cs) := rfl
      rw [hstep, ih hcs, splitStep, if_neg (Ne.symm hc)]

theorem mem_intercalate {α : Type} {a : α} {sep : List α} {parts : List (List α)} (h : a ∈ sep.intercalate parts) :
    a ∈ sep ∨ ∃ part ∈ parts, a ∈ part := by
  induction parts with
  | nil => cases h
  | cons part parts ih =>
      cases parts with
      | nil => exact .inr ⟨part, List.mem_cons_self, by simpa using h⟩
      | cons next parts =>
          rw [List.intercalate_cons_cons, List.mem_append, List.mem_append] at h
          rcases h with (h | h) | h
          · exact .inr ⟨part, List.mem_cons_self, h⟩
          · exact .inl h
          · rcases ih h with h | ⟨other, hother, h⟩
            · exact .inl h
            · exact .inr ⟨other, List.mem_cons_of_mem _ hother, h⟩

theorem mem_intercalate_of_mem_flatten {α : Type} {a : α} {parts : List (List α)} (h : a ∈ parts.flatten)
    (sep : List α) : a ∈ sep.intercalate parts := by
  induction parts with
  | nil => cases h
  | cons part parts ih =>
      rw [List.flatten_cons, List.mem_append] at h
      cases parts with
      | nil => simpa using h
      | cons next parts =>
          rw [List.intercalate_cons_cons, List.mem_append, List.mem_append]
          exact h.imp .inl ih

theorem mem_splitAt (mark : Char) (h : c ∈ cs) : c = mark ∨ ∃ part ∈ splitAt mark cs, c ∈ part := by
  have hjoined : [mark].intercalate (splitAt mark cs) = cs := by rw [splitAt_eq_splitOn, List.intercalate_splitOn]
  rw [← hjoined] at h
  simpa using mem_intercalate h

theorem splitAt_flatMap {parts : List (List Char)} (h : ∀ part ∈ parts, mark ∉ part) (rest : List Char) :
    splitAt mark (parts.flatMap (· ++ [mark]) ++ rest) = parts ++ splitAt mark rest := by
  simp only [splitAt_eq_splitOn]
  induction parts with
  | nil => rfl
  | cons part parts ih =>
      obtain ⟨hpart, hparts⟩ := List.forall_mem_cons.1 h
      have hshape : (part :: parts).flatMap (· ++ [mark]) ++ rest =
          part ++ mark :: (parts.flatMap (· ++ [mark]) ++ rest) := by
        simp
      rw [hshape, List.splitOn_append_cons_self_of_not_mem hpart, ih hparts, List.cons_append]

def Unbroken (s : String) : Prop := ∀ c ∈ s.toList, isLineBreak c = false

instance (s : String) : Decidable (Unbroken s) := List.decidableBAll (isLineBreak · = false) s.toList

theorem unbroken_iff {s : String} : Unbroken s ↔ ∀ c ∈ s.toList, c ∉ lineBreaks := by
  simp [Unbroken, isLineBreak]

theorem unbroken_append {s t : String} : Unbroken (s ++ t) ↔ Unbroken s ∧ Unbroken t := by
  simp [Unbroken, or_imp, forall_and]

theorem toList_intercalate_newline {lines : List String} (h : lines ≠ []) :
    ("\n".intercalate lines ++ "\n").toList = lines.flatMap fun line => line.toList ++ ['\n'] := by
  induction lines with
  | nil => exact absurd rfl h
  | cons line lines ih =>
      cases lines with
      | nil => simp
      | cons next lines =>
          have hnext := ih (List.cons_ne_nil _ _)
          rw [List.flatMap_cons, ← hnext, String.intercalate_cons_cons]
          simp

theorem linesFrom_append (h : ∀ c ∈ cs, isLineBreak c = false) (line rest : List Char) :
    linesFrom line (cs ++ '\n' :: rest) = (line.reverse ++ cs) :: linesFrom [] rest := by
  induction cs generalizing line with
  | nil => simp [linesFrom, isLineBreak, lineBreaks]
  | cons c cs ih =>
      obtain ⟨hc, hcs⟩ := List.forall_mem_cons.1 h
      -- A carriage return would be a break itself, so that no break of two characters starts here.
      have hreturn : c ≠ '\r' := by
        rintro rfl
        cases hc
      have hstep : linesFrom line (c :: (cs ++ '\n' :: rest)) = linesFrom (c :: line) (cs ++ '\n' :: rest) := by
        rw [linesFrom.eq_def]
        split <;> simp_all
      rw [List.cons_append, hstep, ih hcs]
      simp

theorem linesFrom_flatMap {lines : List String} (h : ∀ line ∈ lines, Unbroken line) :
    linesFrom [] (lines.flatMap fun line => line.toList ++ ['\n']) = lines.map String.toList := by
  induction lines with
  | nil => rfl
  | cons line lines ih =>
      obtain ⟨hline, hlines⟩ := List.forall_mem_cons.1 h
      rw [List.flatMap_cons, List.append_assoc, List.singleton_append, linesFrom_append hline, ih hlines]
      simp

theorem splitLines_of_unbroken {lines : List String} (hne : lines ≠ []) (h : ∀ line ∈ lines, Unbroken line) :
    splitLines ("\n".intercalate lines ++ "\n") = lines := by
  rw [splitLines, toList_intercalate_newline hne, linesFrom_flatMap h]
  simp [Function.comp_def]

end Dataflow.Text
