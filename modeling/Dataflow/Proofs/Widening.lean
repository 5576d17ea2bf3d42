import Dataflow.Proofs.Reports
import Dataflow.Proofs.Steps
import Dataflow.Proofs.Vocabulary

namespace Dataflow

section

variable {α β : Type} {K V : α → Prop} {L W : β → Prop}

/-- Of the members of the list that have the key, the last one has the value. -/
def LastHas (K V : α → Prop) (l : List α) : Prop :=
  ∃ before a after, l = before ++ a :: after ∧ K a ∧ (∀ b ∈ after, ¬K b) ∧ V a

theorem lastHas_cons {a : α} {l : List α} :
    LastHas K V (a :: l) ↔ LastHas K V l ∨ K a ∧ (∀ b ∈ l, ¬K b) ∧ V a := by
  constructor
  · rintro ⟨before, c, after, hsplit, hc⟩
    cases before with
    | nil =>
        cases hsplit
        exact .inr hc
    | cons b before =>
        cases hsplit
        exact .inl ⟨before, c, after, rfl, hc⟩
  · rintro (⟨before, c, after, rfl, hc⟩ | hc)
    · exact ⟨a :: before, c, after, rfl, hc⟩
    · exact ⟨[], a, l, rfl, hc⟩

theorem not_lastHas_nil : ¬LastHas K V [] := by
  rintro ⟨before, a, after, hsplit, -⟩
  simp at hsplit

theorem lastHas_congr {R : α → β → Prop} {l : List α} {m : List β} (h : List.Forall₂ R l m)
    (hkey : ∀ a b, R a b → (K a ↔ L b)) (hvalue : ∀ a b, R a b → (V a ↔ W b)) :
    LastHas K V l ↔ LastHas L W m := by
  have hnone : ∀ {l m}, List.Forall₂ R l m → ((∀ a ∈ l, ¬K a) ↔ ∀ b ∈ m, ¬L b) := by
    intro l m h
    induction h with
    | nil => simp
    | cons hab _ ih => rw [List.forall_mem_cons, List.forall_mem_cons, hkey _ _ hab, ih]
  induction h with
  | nil => exact iff_of_false not_lastHas_nil not_lastHas_nil
  | cons hab htail ih =>
      rw [lastHas_cons, lastHas_cons]
      exact or_congr ih (and_congr (hkey _ _ hab) (and_congr (hnone htail) (hvalue _ _ hab)))

theorem lastHas_of_pairwise {l : List α} (h : l.Pairwise fun a b => ¬(K a ∧ K b)) :
    LastHas K V l ↔ ∃ a ∈ l, K a ∧ V a := by
  constructor
  · rintro ⟨before, a, after, rfl, hkey, -, hvalue⟩
    exact ⟨a, by simp, hkey, hvalue⟩
  · rintro ⟨a, ha, hkey, hvalue⟩
    obtain ⟨before, after, rfl⟩ := List.append_of_mem ha
    refine ⟨before, a, after, rfl, hkey, ?_, hvalue⟩
    intro b hb hother
    exact (List.pairwise_cons.1 (List.pairwise_append.1 h).2.1).1 b hb ⟨hkey, hother⟩

end

namespace FeedRules

variable {r base wide : FeedRules} {s t source : DataType}

/-- Under the key of a source the table names a target. Of several keys for one source the last one counts. -/
def Lists (table : Json.Fields) (s t : DataType) : Prop :=
  LastHas (fun entry => s.Spelled (.str entry.1)) (fun entry => ∃ part ∈ parts entry.2, t.Spelled part) table

def extendAll (r : FeedRules) (calls : List (DataType × List DataType)) : FeedRules :=
  calls.foldl (fun r call => r.extend call.1 call.2) r

theorem targets_assign (rules : List (DataType × List DataType)) (ts : List DataType) :
    (⟨assign source ts rules⟩ : FeedRules).targets s = if s = source then ts else (⟨rules⟩ : FeedRules).targets s := by
  unfold targets
  induction rules with
  | nil =>
      by_cases h : s = source
      · simp [assign, h]
      · have hne : (s == source) = false := by simpa using h
        simp [assign, List.lookup_cons, h, hne]
  | cons e rest ih =>
      obtain ⟨other, us⟩ := e
      by_cases ho : other = source
      · subst ho
        by_cases h : s = other
        · simp [assign, h]
        · have hne : (s == other) = false := by simpa using h
          simp [assign, List.lookup_cons, h, hne]
      · by_cases h : s = other
        · simp [assign, ho, h]
        · have hne : (s == other) = false := by simpa using h
          simpa [assign, List.lookup_cons, ho, hne] using ih

theorem mem_targets_extend {ts : List DataType} :
    t ∈ (r.extend source ts).targets s ↔ t ∈ r.targets s ∨ source = s ∧ t ∈ ts := by
  rw [extend, targets_assign]
  by_cases h : s = source
  · subst h
    simp
  · simp [h, Ne.symm h]

theorem mem_targets_extendAll {calls : List (DataType × List DataType)} :
    t ∈ (r.extendAll calls).targets s ↔ t ∈ r.targets s ∨ ∃ call ∈ calls, call.1 = s ∧ t ∈ call.2 := by
  induction calls generalizing r with
  | nil => simp [extendAll]
  | cons call calls ih =>
      have hstep : r.extendAll (call :: calls) = (r.extend call.1 call.2).extendAll calls := rfl
      rw [hstep, ih, mem_targets_extend, List.exists_mem_cons_iff, or_assoc]

theorem mem_targets_foldl {entries acc : List (DataType × List DataType)} :
    t ∈ (⟨entries.foldl (fun acc e => assign e.1 e.2 acc) acc⟩ : FeedRules).targets s ↔
      LastHas (·.1 = s) (t ∈ ·.2) entries ∨ (∀ e ∈ entries, e.1 ≠ s) ∧ t ∈ (⟨acc⟩ : FeedRules).targets s := by
  induction entries generalizing acc with
  | nil => simp [not_lastHas_nil]
  | cons e entries ih =>
      rw [List.foldl_cons, ih, targets_assign, lastHas_cons, List.forall_mem_cons]
      by_cases h : e.1 = s
      · simp [h]
      · simp [h, Ne.symm h]

theorem mem_targets_ofEntries {entries : List (DataType × List DataType)} :
    t ∈ (ofEntries entries).targets s ↔ LastHas (·.1 = s) (t ∈ ·.2) entries := by
  rw [ofEntries, mem_targets_foldl]
  simp [targets]

theorem parts_of_elim {v : Json} {items : List Json}
    (h : (parts? v).elim (.error (.listing v)) .ok = (.ok items : Except Unrecognised _)) : items = parts v := by
  rw [parts]
  cases hparts : parts? v with
  | none =>
      rw [hparts] at h
      cases h
  | some items =>
      rw [hparts] at h
      cases h
      rfl

theorem mem_targets_of_read {table : Json.Fields} (h : read table = .ok base) :
    t ∈ base.targets s ↔ Lists table s t := by
  obtain ⟨entries, hentries, hbase⟩ := Steps.bind_eq_ok.1 h
  cases hbase
  rw [mem_targets_ofEntries, Lists]
  symm
  apply lastHas_congr (Steps.mapM_eq_ok.1 hentries)
  · intro entry e he
    obtain ⟨source, hsource, he⟩ := Steps.bind_eq_ok.1 he
    obtain ⟨items, -, he⟩ := Steps.bind_eq_ok.1 he
    obtain ⟨targets, -, he⟩ := Steps.bind_eq_ok.1 he
    cases he
    rw [← DataType.read_eq_ok, hsource, Except.ok.injEq]
  · intro entry e he
    obtain ⟨source, -, he⟩ := Steps.bind_eq_ok.1 he
    obtain ⟨items, hitems, he⟩ := Steps.bind_eq_ok.1 he
    obtain ⟨targets, htargets, he⟩ := Steps.bind_eq_ok.1 he
    cases he
    rw [Steps.mem_of_mapM_eq_ok htargets, parts_of_elim hitems]
    simp only [DataType.read_eq_ok]

theorem extendAll_allows {table : Json.Fields} (h : read table = .ok base) {calls : List (DataType × List DataType)} :
    (base.extendAll calls).allows s t = true ↔
      s = t ∨ Lists table s t ∨ ∃ call ∈ calls, call.1 = s ∧ t ∈ call.2 := by
  rw [Pipeline.allows_iff, mem_targets_extendAll, mem_targets_of_read h]

end FeedRules

namespace Pipeline

variable {p : Pipeline} {base wide : FeedRules}

/-- A type error on an edge between ports whose types, as they are now, the wider rules allow and the former did not. -/
def Relieved (p : Pipeline) (base wide : FeedRules) (d : Problem) : Prop :=
  ∃ e ∈ p.edges, ∃ source out target into, p.Names .output e.sourceNode e.sourcePort source out ∧
    p.Names .input e.targetNode e.targetPort target into ∧
    base.allows out.dataType into.dataType = false ∧ wide.allows out.dataType into.dataType = true ∧
    d = .incompatible e out.dataType into.dataType source.label target.label

theorem relieved_iff {d : Problem} :
    (∃ e ∈ p.edges, p.Resolves e ∧ p.edgeProblem? base e = some d ∧ p.edgeProblem? wide e = none) ↔
      p.Relieved base wide d := by
  apply exists_congr
  intro e
  apply and_congr_right
  intro _
  constructor
  · rintro ⟨⟨⟨source, out, hs⟩, target, into, ht⟩, hbase, hwide⟩
    rw [edgeProblem?_of_names hs ht] at hbase hwide
    refine ⟨source, out, target, into, hs, ht, ?_⟩
    split at hbase
    · cases hbase
    · rename_i hrefused
      cases hbase
      split at hwide
      · rename_i hallowed
        exact ⟨Bool.not_eq_true _ ▸ hrefused, hallowed, rfl⟩
      · cases hwide
  · rintro ⟨source, out, target, into, hs, ht, hbase, hwide, rfl⟩
    refine ⟨⟨⟨source, out, hs⟩, target, into, ht⟩, ?_, ?_⟩
    · simp [edgeProblem?_of_names hs ht, hbase]
    · simp [edgeProblem?_of_names hs ht, hwide]

instance {d : Problem} : Decidable (p.Relieved base wide d) := decidable_of_iff _ relieved_iff

variable (hmono : ∀ s t, base.allows s t = true → wide.allows s t = true)

include hmono

theorem edgeProblem?_widen {e : Edge} (he : e ∈ p.edges) :
    p.edgeProblem? wide e = (p.edgeProblem? base e).filter fun d => ¬p.Relieved base wide d := by
  by_cases hr : p.Resolves e
  · obtain ⟨⟨source, out, hs⟩, target, into, ht⟩ := hr
    rw [edgeProblem?_of_names hs ht, edgeProblem?_of_names hs ht]
    cases hbase : base.allows out.dataType into.dataType with
    | true => simp [hmono _ _ hbase]
    | false =>
        cases hwide : wide.allows out.dataType into.dataType with
        | true =>
            have hrelieved : p.Relieved base wide
                (.incompatible e out.dataType into.dataType source.label target.label) :=
              ⟨e, he, source, out, target, into, hs, ht, hbase, hwide, rfl⟩
            simp [Option.filter_some, hrelieved]
        | false =>
            have hkept : ¬p.Relieved base wide
                (.incompatible e out.dataType into.dataType source.label target.label) := by
              rintro ⟨_, _, _, out', _, into', _, _, _, hallowed, hd⟩
              injection hd with _ hout hinto
              rw [← hout, ← hinto, hwide] at hallowed
              cases hallowed
            simp [Option.filter_some, hkept]
  · have hkept : ¬p.Relieved base wide (.loose e (p.looseEnds e)) := by
      rintro ⟨_, _, _, _, _, _, _, _, _, _, hd⟩
      cases hd
    rw [edgeProblem?_of_not_resolves hr, edgeProblem?_of_not_resolves hr]
    simp [Option.filter_some, hkept]

theorem problems_widen : p.problems wide = (p.problems base).filter fun d => ¬p.Relieved base wide d := by
  have hmissing : (p.missingCategories.filter fun d => ¬p.Relieved base wide d) = p.missingCategories := by
    rw [List.filter_eq_self]
    intro d hd
    apply decide_eq_true
    rintro ⟨_, _, _, _, _, _, _, _, _, _, rfl⟩
    simp [missingCategories] at hd
  rw [problems, problems, List.filter_append, hmissing, List.filter_filterMap]
  congr 1
  exact List.filterMap_congr fun e he => edgeProblem?_widen hmono he

omit hmono

/-- Rules that are extended several times allow, besides equal types, what their table lists and what some extension
added, whatever their order and number; the rules that they started from stay as they were. Of what a check under these
finds, a check under the extended rules drops the type errors on edges between types that it allows now, and no more. -/
theorem extension_only_relieves {table : Json.Fields} (h : FeedRules.read table = .ok base)
    (calls : List (DataType × List DataType)) :
    (∀ s t, (base.extendAll calls).allows s t = true ↔
      s = t ∨ FeedRules.Lists table s t ∨ ∃ call ∈ calls, call.1 = s ∧ t ∈ call.2) ∧
    (∀ others, (∀ call, call ∈ others ↔ call ∈ calls) →
      ∀ s t, (base.extendAll others).allows s t = (base.extendAll calls).allows s t) ∧
    (∀ s t, base.allows s t = true ↔ s = t ∨ FeedRules.Lists table s t) ∧
    (∀ s t, (table.Pairwise fun a b => ¬(s.Spelled (.str a.1) ∧ s.Spelled (.str b.1))) →
      (FeedRules.Lists table s t ↔
        ∃ entry ∈ table, s.Spelled (.str entry.1) ∧ ∃ part ∈ FeedRules.parts entry.2, t.Spelled part)) ∧
    ∀ p : Pipeline, p.problems (base.extendAll calls) =
      (p.problems base).filter fun d => ¬p.Relieved base (base.extendAll calls) d := by
  have hbase : ∀ s t, base.allows s t = true ↔ s = t ∨ FeedRules.Lists table s t := by
    intro s t
    rw [allows_iff, FeedRules.mem_targets_of_read h]
  refine ⟨fun s t => FeedRules.extendAll_allows h, ?_, hbase, fun s t => lastHas_of_pairwise, ?_⟩
  · intro others hsame s t
    rw [Bool.eq_iff_iff, FeedRules.extendAll_allows h, FeedRules.extendAll_allows h]
    simp only [hsame]
  · intro p
    apply problems_widen
    intro s t hallowed
    rw [FeedRules.extendAll_allows h]
    exact ((hbase s t).1 hallowed).imp_right .inl

def shouted : Json.Fields := [("TEXT", .arr [.str "pdf"]), ("Chunks", .arr [.str "Text", .str "json"])]

theorem frayed_relieved : ∃ base, FeedRules.read shouted = .ok base ∧
    base.allows .text .pdf = true ∧ base.allows .chunks .pdf = false ∧
    (base.extendAll [(.chunks, [.pdf]), (.text, [.number]), (.chunks, [.pdf])]).allows .chunks .pdf = true ∧
    ((frayed.problems base).map (·.diagnostic.edge)) = [none, some "e1", some "e2", some "e3", some "e4"] ∧
    ((frayed.problems (base.extendAll [(.chunks, [.pdf]), (.text, [.number]), (.chunks, [.pdf])])).map
      (·.diagnostic.edge)) = [none, some "e1", some "e2", some "e3"] := by
  have hread : FeedRules.read shouted = .ok ⟨[(.text, [.pdf]), (.chunks, [.text, .json])]⟩ := rfl
  obtain ⟨hallows, -, -, -, hproblems⟩ :=
    extension_only_relieves hread [(.chunks, [.pdf]), (.text, [.number]), (.chunks, [.pdf])]
  refine ⟨_, hread, rfl, rfl, ?_, rfl, ?_⟩
  · exact (hallows .chunks .pdf).2 (.inr (.inr ⟨_, List.mem_cons_self, rfl, List.mem_cons_self⟩))
  · rw [hproblems frayed]
    decide

end Pipeline

end Dataflow
