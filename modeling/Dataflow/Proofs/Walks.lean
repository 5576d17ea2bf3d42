import Dataflow.Files.Tree
import Dataflow.Proofs.Steps

namespace Dataflow.FileTree

variable {t u v : FileTree} {p : Path} {start place q names more : List String} {name : String} {entry : FileEntry}
  {octets : List UInt8}

theorem find?_nil (t : FileTree) : t.find? [] = some .directory := rfl

theorem find?_eq_lookup (h : place ≠ []) : t.find? place = t.entries.lookup place := by
  rw [find?, if_neg (by simpa using h)]

theorem find?_put_self (h : place ≠ []) : find? (t.put place entry) place = some entry := by
  rw [find?_eq_lookup h]
  exact List.lookup_cons_self

theorem find?_put_of_ne (h : q ≠ place) : find? (t.put place entry) q = t.find? q := by
  have hfilter : ∀ entries : List (List String × FileEntry),
      (entries.filter (·.1 != place)).lookup q = entries.lookup q := by
    intro entries
    induction entries with
    | nil => rfl
    | cons first rest ih =>
        by_cases hfirst : first.1 = place
        · have hne : (q == first.1) = false := by simpa [hfirst] using h
          rw [List.filter_cons_of_neg (by simpa using hfirst), ih, List.lookup_cons, hne]
        · rw [List.filter_cons_of_pos (by simpa using hfirst), List.lookup_cons, List.lookup_cons, ih]
  by_cases hroot : q = []
  · rw [hroot, find?_nil, find?_nil]
  · rw [find?_eq_lookup hroot, find?_eq_lookup hroot, put, List.lookup_cons, beq_eq_false_iff_ne.2 h, hfilter]

/-- Every directory of the first tree is one of the second. -/
def Keeps (t u : FileTree) : Prop := ∀ q, t.find? q = some .directory → u.find? q = some .directory

theorem keeps_put (h : t.find? place ≠ some .directory) (entry : FileEntry) : t.Keeps (t.put place entry) := by
  intro q hq
  rw [find?_put_of_ne, hq]
  rintro rfl
  exact h hq

/-- The names lead from one place to another, through directories. -/
inductive Walks (t : FileTree) : List String → List String → List String → Prop
  | here (place : List String) : Walks t place [] place
  | up {place names q : List String} (h : Walks t place.dropLast names q) : Walks t place (".." :: names) q
  | down {place names q : List String} {name : String} (hname : name ≠ "..")
      (hsize : name.utf8ByteSize ≤ maxNameLength) (hentry : t.find? (place ++ [name]) = some .directory)
      (h : Walks t (place ++ [name]) names q) : Walks t place (name :: names) q

theorem Walks.mono (h : t.Walks start names place) (hkept : t.Keeps u) : u.Walks start names place := by
  induction h with
  | here place => exact .here place
  | up _ ih => exact .up ih
  | down hname hsize hentry _ ih => exact .down hname hsize (hkept _ hentry) ih

theorem Walks.append (h : t.Walks start names place) (hmore : t.Walks place more q) :
    t.Walks start (names ++ more) q := by
  induction h with
  | here => exact hmore
  | up _ ih => exact .up (ih hmore)
  | down hname hsize hentry _ ih => exact .down hname hsize hentry (ih hmore)

theorem Walks.follow_append (h : t.Walks start names place) (more : List String) :
    t.follow start (names ++ more) = t.follow place more := by
  induction h with
  | here => rfl
  | up _ ih => rw [List.cons_append, follow, if_pos rfl, ih]
  | down hname hsize hentry _ ih =>
      rw [List.cons_append, follow, if_neg hname, if_neg (Nat.not_lt.2 hsize)]
      simp only [hentry, ih]

/-- The names lead to a directory by all but the last of them, which is a plain name. -/
structure Ends (t : FileTree) (start names place : List String) (name : String) : Prop where
  walks : ∃ front, names = front ++ [name] ∧ t.Walks start front place
  plain : name ≠ ".."
  size : name.utf8ByteSize ≤ maxNameLength

theorem Ends.after (hends : t.Ends place names q name) (h : t.Walks start more place) :
    t.Ends start (more ++ names) q name := by
  obtain ⟨⟨front, rfl, hwalks⟩, hplain, hsize⟩ := hends
  exact ⟨⟨more ++ front, (List.append_assoc _ _ _).symm, h.append hwalks⟩, hplain, hsize⟩

/-- What names can lead to: a directory, or an entry in one that is missing or a file. -/
inductive Leads (t : FileTree) (start names : List String) : Location → Prop
  | directory {place : List String} (h : t.Walks start names place) : Leads t start names (.directory place)
  | missing {place : List String} {name : String} (h : t.Ends start names place name)
      (hentry : t.find? (place ++ [name]) = none) : Leads t start names (.missing (place ++ [name]))
  | file {place : List String} {name : String} {octets : List UInt8} (h : t.Ends start names place name)
      (hentry : t.find? (place ++ [name]) = some (.file octets)) :
      Leads t start names (.file (place ++ [name]) octets)

theorem Leads.after {l : Location} (hleads : t.Leads place names l) (h : t.Walks start more place) :
    t.Leads start (more ++ names) l := by
  cases hleads with
  | directory hwalks => exact .directory (h.append hwalks)
  | missing hends hentry => exact .missing (hends.after h) hentry
  | file hends hentry => exact .file (hends.after h) hentry

theorem leads_of_follow {l : Location} (h : t.follow start names = .ok l) : t.Leads start names l := by
  have hend : ∀ {place : List String} {name : String} {rest : List String}, name ≠ ".." →
      ¬maxNameLength < name.utf8ByteSize → rest.isEmpty = true → t.Ends place (name :: rest) place name := by
    intro place name rest hname hsize hrest
    rw [List.isEmpty_iff.1 hrest]
    exact ⟨⟨[], rfl, .here place⟩, hname, Nat.not_lt.1 hsize⟩
  fun_induction follow t start names with
  | case1 place =>
      cases h
      exact .directory (.here place)
  | case2 place rest ih =>
      have hup : t.Walks place [".."] place.dropLast := .up (.here _)
      exact (ih h).after hup
  | case3 => cases h
  | case4 place name rest hname hsize next hentry ih =>
      have hdown : t.Walks place [name] next := .down hname (Nat.not_lt.1 hsize) hentry (.here _)
      exact (ih h).after hdown
  | case5 place name rest hname hsize next octets hentry hrest =>
      cases h
      exact .file (hend hname hsize hrest) hentry
  | case6 => cases h
  | case7 place name rest hname hsize next hentry hrest =>
      cases h
      exact .missing (hend hname hsize hrest) hentry
  | case8 => cases h

theorem Ends.eq_of_singleton {other : String} (h : t.Ends start [other] place name) : place = start ∧ name = other := by
  obtain ⟨⟨front, hnames, hwalks⟩, -, -⟩ := h
  obtain ⟨rfl, hname⟩ := List.append_inj' (hnames.symm.trans (List.nil_append [other]).symm) rfl
  cases hwalks
  exact ⟨rfl, (List.cons.inj hname).1⟩

def origin (t : FileTree) (p : Path) : List String := if p.root = "" then t.cwd else []

theorem locate_eq_ok {l : Location} : t.locate p = .ok l ↔
    (('\x00' ∉ p.text.toList ∧ p.text.utf8ByteSize ≤ maxPathLength) ∧ t.follow (t.origin p) p.names = .ok l) := by
  rw [locate, ← List.contains_iff_mem]
  by_cases hnull : p.text.toList.contains '\x00' = true
  · rw [if_pos hnull]
    simp only [hnull, not_true, false_and, reduceCtorEq]
  · rw [if_neg hnull]
    by_cases hsize : maxPathLength < p.text.utf8ByteSize
    · rw [if_pos hsize]
      simp only [Nat.not_le.2 hsize, and_false, false_and, reduceCtorEq]
    · rw [if_neg hsize, Steps.mapError_eq_ok, and_iff_right ⟨hnull, Nat.not_lt.1 hsize⟩, origin]

theorem locate_eq_directory : t.locate p = .ok (.directory place) ↔
    (('\x00' ∉ p.text.toList ∧ p.text.utf8ByteSize ≤ maxPathLength) ∧ t.Walks (t.origin p) p.names place) := by
  rw [locate_eq_ok]
  refine and_congr_right fun _ => ⟨fun h => ?_, fun h => ?_⟩
  · cases leads_of_follow h with
    | directory hwalks => exact hwalks
  · have hfollow := h.follow_append []
    rwa [List.append_nil] at hfollow

/-- The path leads to the place on its way, or at its end. -/
def Passes (t : FileTree) (p : Path) (q : List String) : Prop := ∃ n, t.Walks (t.origin p) (p.names.take n) q

theorem Passes.mono (h : t.Passes p q) (hkept : t.Keeps u) (hcwd : u.cwd = t.cwd) : u.Passes p q := by
  obtain ⟨n, hwalks⟩ := h
  refine ⟨n, ?_⟩
  rw [origin, hcwd]
  exact hwalks.mono hkept

theorem locate_mono (hkept : t.Keeps u) (hcwd : u.cwd = t.cwd) (h : t.locate p = .ok (.directory place)) :
    u.locate p = .ok (.directory place) := by
  rw [locate_eq_directory] at h ⊢
  refine ⟨h.1, ?_⟩
  rw [origin, hcwd]
  exact h.2.mono hkept

/-- The second tree is the first with some directories added, all of which the path passes. -/
structure Adds (t u : FileTree) (p : Path) : Prop where
  cwd : u.cwd = t.cwd
  entries : ∀ q, u.find? q = t.find? q ∨ t.find? q = none ∧ u.find? q = some .directory ∧ u.Passes p q

namespace Adds

theorem refl (t : FileTree) (p : Path) : t.Adds t p := ⟨rfl, fun _ => .inl rfl⟩

theorem keeps (h : t.Adds u p) : t.Keeps u := by
  intro q hq
  rcases h.entries q with hsame | ⟨-, hnew, -⟩
  · rw [hsame, hq]
  · exact hnew

theorem trans (h : t.Adds u p) (h' : u.Adds v p) : t.Adds v p := by
  refine ⟨h'.cwd.trans h.cwd, fun q => ?_⟩
  rcases h'.entries q with hsame | ⟨hnone, hnew, hpasses⟩
  · rw [hsame]
    exact (h.entries q).imp_right fun hnew => ⟨hnew.1, hnew.2.1, hnew.2.2.mono h'.keeps h'.cwd⟩
  -- What the second step adds was missing after the first one, and so before it.
  · rcases h.entries q with hsame | ⟨-, hnew', -⟩
    · exact .inr ⟨hsame ▸ hnone, hnew, hpasses⟩
    · rw [hnone] at hnew'
      cases hnew'

theorem of_parent (h : t.Adds u p.parent) : t.Adds u p := by
  refine ⟨h.cwd, fun q => (h.entries q).imp_right fun hnew => ⟨hnew.1, hnew.2.1, ?_⟩⟩
  obtain ⟨n, hwalks⟩ := hnew.2.2
  rw [Path.parent, List.dropLast_eq_take, List.take_take] at hwalks
  exact ⟨_, hwalks⟩

theorem put (h : t.Ends (t.origin p) p.names place name) (hentry : t.find? (place ++ [name]) = none) :
    t.Adds (t.put (place ++ [name]) .directory) p ∧
      (t.put (place ++ [name]) .directory).Walks (t.origin p) p.names (place ++ [name]) := by
  obtain ⟨⟨front, hnames, hfront⟩, hplain, hsize⟩ := h
  have hself : find? (t.put (place ++ [name]) .directory) (place ++ [name]) = some .directory :=
    find?_put_self (by simp)
  have hkept : t.Keeps (t.put (place ++ [name]) .directory) := keeps_put (by simp [hentry]) .directory
  have hwalks : (t.put (place ++ [name]) .directory).Walks (t.origin p) p.names (place ++ [name]) :=
    hnames ▸ (hfront.mono hkept).append (.down hplain hsize hself (.here _))
  refine ⟨⟨rfl, fun q => ?_⟩, hwalks⟩
  by_cases hq : q = place ++ [name]
  · subst hq
    exact .inr ⟨hentry, hself, p.names.length, List.take_length ▸ hwalks⟩
  · exact .inl (find?_put_of_ne hq)

end Adds

theorem makeDirectory_eq_ok (h : t.makeDirectory p = .ok u) :
    t.Adds u p ∧ ∃ place, u.locate p = .ok (.directory place) := by
  obtain ⟨l, hl, h⟩ := Steps.bind_eq_ok.1 h
  obtain ⟨husable, hfollow⟩ := locate_eq_ok.1 hl
  cases leads_of_follow hfollow with
  | directory | file => cases h
  | missing hends hentry =>
      cases h
      obtain ⟨hadds, hwalks⟩ := Adds.put hends hentry
      exact ⟨hadds, _, locate_eq_directory.2 ⟨husable, hwalks⟩⟩

theorem isDirectory_iff : t.isDirectory p = true ↔ ∃ place, t.locate p = .ok (.directory place) := by
  rw [isDirectory]
  split
  · rename_i place hplace
    exact iff_of_true rfl ⟨place, hplace⟩
  · rename_i hother
    refine iff_of_false (by decide) ?_
    rintro ⟨place, hplace⟩
    exact hother place hplace

theorem ensureDirectory_eq_ok (h : t.ensureDirectory p = .ok u) :
    t.Adds u p ∧ ∃ place, u.locate p = .ok (.directory place) := by
  rw [ensureDirectory] at h
  cases hmade : t.makeDirectory p with
  | ok made =>
      rw [hmade] at h
      cases h
      exact makeDirectory_eq_ok hmade
  | error e =>
      simp only [hmade, Bool.and_eq_true] at h
      split at h
      · rename_i hthere
        cases h
        exact ⟨.refl t p, isDirectory_iff.1 hthere.2⟩
      · cases h

theorem settle_eq_ok {result : Except FileError FileTree} (h : t.settle result = (u, .ok ())) : result = .ok u := by
  cases result with
  | ok => cases h; rfl
  | error => cases h

/-- The second tree has some directories more that the path passes, and if nothing failed the path leads to one. -/
def Paves (t : FileTree) (p : Path) (made : FileTree × Except FileError Unit) : Prop :=
  t.Adds made.1 p ∧ (made.2 = .ok () → ∃ place, made.1.locate p = .ok (.directory place))

theorem paves_ensureDirectory (t : FileTree) (p : Path) : t.Paves p (t.settle (t.ensureDirectory p)) := by
  cases h : t.ensureDirectory p with
  | ok u =>
      obtain ⟨hadds, hplace⟩ := ensureDirectory_eq_ok h
      exact ⟨hadds, fun _ => hplace⟩
  | error e => exact ⟨.refl t p, fun h => nomatch h⟩

theorem paves_makeDirectories (t : FileTree) (p : Path) : t.Paves p (t.makeDirectories p) := by
  fun_induction makeDirectories t p with
  | case1 p made hmade =>
      obtain ⟨hadds, hplace⟩ := makeDirectory_eq_ok hmade
      exact ⟨hadds, fun _ => hplace⟩
  | case2 p e => exact ⟨.refl t p, fun h => nomatch h⟩
  | case3 p e _ _ _ _ parents hparents ih =>
      rw [hparents] at ih
      obtain ⟨hadds, hplace⟩ := paves_ensureDirectory parents p
      exact ⟨ih.1.of_parent.trans hadds, hplace⟩
  | case4 p e _ _ _ _ hfailed ih =>
      exact ⟨ih.1.of_parent, fun h => (hfailed _ (Prod.ext rfl h)).elim⟩
  | case5 p => exact paves_ensureDirectory t p

theorem write_child_eq_ok (hplace : t.locate p = .ok (.directory place)) (h : t.write (p.child name) octets = .ok u) :
    t.find? (place ++ [name]) ≠ some .directory ∧ u = t.put (place ++ [name]) (.file octets) := by
  obtain ⟨l, hl, h⟩ := Steps.bind_eq_ok.1 h
  have hfollow : t.follow place [name] = .ok l := by
    rw [← (locate_eq_directory.1 hplace).2.follow_append]
    exact (locate_eq_ok.1 hl).2
  cases leads_of_follow hfollow with
  | directory => cases h
  | missing hends hentry | file hends hentry =>
      obtain ⟨rfl, rfl⟩ := hends.eq_of_singleton
      cases h
      exact ⟨by simp [hentry], rfl⟩

end Dataflow.FileTree
