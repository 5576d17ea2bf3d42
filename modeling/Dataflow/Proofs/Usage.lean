import Dataflow.Proofs.Phrases
import Dataflow.Proofs.Spelling

namespace Dataflow.Script

open Mode

theorem isNameChar_of_isWord {c : Char} (h : Text.isWord c = true) : isNameChar c = true := by
  have hranges : ∃ rest, Text.alphanumeric.ranges =
      (0x30, 0x39) :: (0x41, 0x5a) :: (0x61, 0x7a) :: (0xaa, 0xaa) :: rest := ⟨_, rfl⟩
  have hname : isNameChar c = true ↔ (((65 ≤ c.toNat ∧ c.toNat ≤ 90 ∨ 97 ≤ c.toNat ∧ c.toNat ≤ 122) ∨
      48 ≤ c.toNat ∧ c.toNat ≤ 57) ∨ c = '_') ∨ 128 ≤ c.toNat := by
    have hletter : c.isAlpha = (decide (65 ≤ c.val ∧ c.val ≤ 90) || decide (97 ≤ c.val) && decide (c.val ≤ 122)) := rfl
    simp [isNameChar, Char.isAlphanum, hletter, Char.isDigit, UInt32.le_iff_toNat_le]
  rw [Text.isWord, Bool.or_eq_true, beq_iff_eq] at h
  rcases h with h | rfl
  · -- Below 128, the table has no more than its first three ranges.
    obtain ⟨rest, hrest⟩ := hranges
    rw [Text.isAlphanumeric, Text.CharSet.contains, hrest] at h
    simp only [Text.CharSet.covers] at h
    rw [hname]
    split_ifs at h <;> omega
  · rfl

theorem head?_startWithLetter (cs : List Char) : (Naming.startWithLetter cs).head?.any Char.isDigit = false := by
  have hdigit : ∀ c : Char, c.isDigit = true → Text.isDigit c = true := by
    intro c hc
    have hbounds : 48 ≤ c.toNat ∧ c.toNat ≤ 57 := by simpa [Char.isDigit, UInt32.le_iff_toNat_le] using hc
    rw [Text.isDigit, Text.CharSet.contains, Text.digits, Text.CharSet.covers, if_neg (by omega), if_pos (by omega)]
  cases cs with
  | nil => rfl
  | cons c rest =>
      rw [Naming.startWithLetter]
      split
      · rfl
      · rename_i hc
        simpa using fun h => hc (hdigit c h)

theorem lexes_named {hint name : String} (h : Naming.Named hint name) : Lexes name [.name name] := by
  refine lexes_name ?_ (fun c hc => isNameChar_of_isWord (h.isWord c hc)) ?_
  · obtain ⟨more, -, rfl, -⟩ := h.eq_append
    simpa using fun hnil => absurd hnil (Naming.startWithLetter_ne_nil _)
  · obtain ⟨more, -, rfl, -⟩ := h.eq_append
    rw [String.toList_append, String.toList_ofList, List.head?_append_of_ne_nil _ (Naming.startWithLetter_ne_nil _)]
    exact head?_startWithLetter _

/-- The names that a script gives to its runtime and to the caller's mapping, and the word that ends a procedure. -/
def watched : List String := ["rag", "inputs", "return"]

/-- Of the names that are watched, the tokens have some of these only. -/
def OnlyUses (names : List String) (ts : List Token) : Prop := ∀ x ∈ watched, .name x ∈ ts → x ∈ names

instance (names : List String) (ts : List Token) : Decidable (OnlyUses names ts) :=
  List.decidableBAll (fun x => Token.name x ∈ ts → x ∈ names) watched

section

variable {names : List String} {s : String} {ts us : List Token}

@[simp] theorem onlyUses_nil : OnlyUses names [] := by simp [OnlyUses]

@[simp] theorem onlyUses_name : OnlyUses names (.name s :: ts) ↔ (s ∈ watched → s ∈ names) ∧ OnlyUses names ts := by
  simp only [OnlyUses, List.mem_cons, Token.name.injEq]
  grind

@[simp] theorem onlyUses_text : OnlyUses names (.text s :: ts) ↔ OnlyUses names ts := by simp [OnlyUses]

theorem OnlyUses.append (hts : OnlyUses names ts) (hus : OnlyUses names us) : OnlyUses names (ts ++ us) := by
  intro x hx hmem
  exact (List.mem_append.1 hmem).elim (hts x hx) (hus x hx)

theorem OnlyUses.weaken {more : List String} (h : OnlyUses names ts) (hnames : names ⊆ more) : OnlyUses more ts :=
  fun x hx hmem => hnames (h x hx hmem)

end

/-- A name that is not watched, and that starts no loop. -/
def IsName (s : String) : Prop := Lexes s [.name s] ∧ s ∉ "for" :: watched

theorem isName_none : IsName "None" := ⟨lexes_of_run rfl, by decide⟩

theorem isName_of_named {hint name : String} (h : Naming.Named hint name) (hname : name ∉ Naming.reserved) :
    IsName name := by
  have hwatched : ∀ x ∈ "for" :: watched, x ∈ Naming.reserved ∨ x ∈ Naming.keywords := by decide
  exact ⟨lexes_named h, fun hmem => (hwatched name hmem).elim hname h.not_keyword⟩

/-- A name in some code, with the token before it and those after it. -/
structure Place where
  before : Option Token
  name : String
  after : List Token

def placesAfter : Option Token → List Token → List Place
  | _, [] => []
  | before, .name x :: ts => ⟨before, x, ts⟩ :: placesAfter (some (.name x)) ts
  | _, t :: ts => placesAfter (some t) ts

def startsAssignment (ts : List Token) : Bool :=
  ts.head? == some (.mark '=') && ts.tail.head? != some (.mark '=')

/-- A name is read unless it is a member, or the one that a value is given to. -/
def Place.isRead (place : Place) : Bool := place.before != some (.mark '.') && !startsAssignment place.after

def Place.isLooped (place : Place) : Bool := place.before == some (.name "for")

def reads (ts : List Token) : List String := ((placesAfter none ts).filter Place.isRead).map Place.name

def loops (ts : List Token) : List String := ((placesAfter none ts).filter Place.isLooped).map Place.name

def ownNames : List String := [
  "_value", "_matched", "_v", "_parts", "_merged", "_prompt", "_query", "_expected", "_operator", "_text", "_chunks",
  "_embeddings", "_stored", "_results", "_scores", "_response", "_data"]

/-- The other words of the bodies: names that are reserved, and keywords. -/
def vocabulary : List String := [
  "config", "rag", "inputs", "json", "NODE_CONFIGS", "str", "int", "bool", "float", "list", "len", "ValueError",
  "None", "True", "False", "if", "else", "is", "not", "in", "or", "for", "elif", "raise", "return"]

theorem ownNames_marked : ∀ x ∈ ownNames, x.toList.head? = some '_' := by decide

theorem vocabulary_taken : ∀ x ∈ vocabulary, x ∈ Naming.keywords ∨ x ∈ Naming.reserved := by decide

/-- The name is read only if it is known, and set only if it is one of the body's own. -/
def Place.Neat (names : List String) (place : Place) : Prop :=
  (place.isRead = true → place.name ∈ names ∨ place.name ∈ ownNames ∨ place.name ∈ vocabulary) ∧
    (place.isLooped = true → place.name ∈ ownNames)

/-- All names are neat, and stay so in more code. -/
def Neat (names : List String) (ts : List Token) : Prop :=
  (∀ place ∈ placesAfter none ts, place.Neat names) ∧ ts.head? ≠ some (.mark '=') ∧ ts.getLast? ≠ some (.name "for")

instance (names : List String) (place : Place) : Decidable (place.Neat names) :=
  inferInstanceAs (Decidable ((_ → _) ∧ (_ → _)))

instance (names : List String) (ts : List Token) : Decidable (Neat names ts) :=
  inferInstanceAs (Decidable (_ ∧ _ ∧ _))

section

variable {names : List String} {ts us : List Token}

theorem placesAfter_append (before : Option Token) (ts us : List Token) : placesAfter before (ts ++ us) =
    (placesAfter before ts).map (fun place => { place with after := place.after ++ us }) ++
      placesAfter (ts.getLast?.or before) us := by
  induction ts generalizing before with
  | nil => rfl
  | cons t ts ih =>
      have hlast : ts.getLast?.or (some t) = (t :: ts).getLast?.or before := by
        rw [List.getLast?_cons]
        cases ts.getLast? <;> rfl
      cases t <;> simp [placesAfter, ih, hlast]

theorem startsAssignment_append (h : us.head? ≠ some (.mark '=')) (hts : startsAssignment ts = true) :
    startsAssignment (ts ++ us) = true := by
  match ts with
  | [] => cases hts
  | [t] => simpa [startsAssignment, h] using hts
  | t :: u :: ts => exact hts

theorem Place.Neat.extend {place : Place} (h : place.Neat names) (hus : us.head? ≠ some (.mark '=')) :
    Place.Neat names { place with after := place.after ++ us } := by
  refine ⟨fun hread => h.1 ?_, h.2⟩
  rw [isRead, Bool.and_eq_true, Bool.not_eq_true'] at hread ⊢
  refine ⟨hread.1, ?_⟩
  by_contra hstarts
  rw [startsAssignment_append hus (by simpa using hstarts)] at hread
  cases hread.2

theorem neat_placesAfter {before : Option Token} (hbefore : before ≠ some (.name "for"))
    (h : ∀ place ∈ placesAfter none us, place.Neat names) : ∀ place ∈ placesAfter before us, place.Neat names := by
  cases us with
  | nil => exact h
  | cons t us =>
      cases t with
      | name x =>
          obtain ⟨⟨hread, -⟩, hrest⟩ := List.forall_mem_cons.1 h
          refine List.forall_mem_cons.2 ⟨⟨fun hx => hread ?_, fun hx => absurd (beq_iff_eq.1 hx) hbefore⟩, hrest⟩
          rw [Place.isRead, Bool.and_eq_true] at hx ⊢
          exact ⟨rfl, hx.2⟩
      | number _ | text _ | mark _ | fault => exact h

theorem Neat.append (hts : Neat names ts) (hus : Neat names us) : Neat names (ts ++ us) := by
  obtain ⟨hplaces, hfirst, hlast⟩ := hts
  obtain ⟨hplaces', hfirst', hlast'⟩ := hus
  refine ⟨?_, ?_, ?_⟩
  · rw [placesAfter_append, Option.or_none, List.forall_mem_append, List.forall_mem_map]
    exact ⟨fun place hplace => (hplaces place hplace).extend hfirst', neat_placesAfter hlast hplaces'⟩
  · cases ts with
    | nil => exact hfirst'
    | cons t ts => exact hfirst
  · rw [List.getLast?_append]
    cases hend : us.getLast? with
    | none => exact hlast
    | some t =>
        rw [hend] at hlast'
        exact hlast'

theorem Neat.weaken (h : Neat [] ts) : Neat names ts := by
  refine ⟨fun place hplace => ⟨fun hread => ?_, (h.1 place hplace).2⟩, h.2⟩
  exact .inr (((h.1 place hplace).1 hread).resolve_left List.not_mem_nil)

theorem neat_name {s : String} (h : s ∈ names) (hfor : s ≠ "for") : Neat names [.name s] := by
  refine ⟨List.forall_mem_singleton.2 ⟨fun _ => .inl h, ?_⟩, by simp, by simpa using hfor⟩
  simp [Place.isLooped]

theorem neat_text (s : String) : Neat names [.text s] := by simp [Neat, placesAfter]

theorem Neat.reads (h : Neat names ts) : ∀ x ∈ reads ts, x ∈ names ∨ x ∈ ownNames ∨ x ∈ vocabulary := by
  refine List.forall_mem_map.2 fun place hplace => ?_
  obtain ⟨hplace, hread⟩ := List.mem_filter.1 hplace
  exact (h.1 place hplace).1 hread

theorem Neat.loops (h : Neat names ts) : ∀ x ∈ loops ts, x ∈ ownNames := by
  refine List.forall_mem_map.2 fun place hplace => ?_
  obtain ⟨hplace, hlooped⟩ := List.mem_filter.1 hplace
  exact (h.1 place hplace).2 hlooped

end

end Dataflow.Script
