import Dataflow.Proofs.Failure
import Dataflow.Proofs.Recursion

namespace Dataflow

/-- The second list of edges is the first one with edges to some of the nodes in `new` put in anywhere. -/
inductive Inserted (new : List String) : List Edge → List Edge → Prop
  | nil : Inserted new [] []
  | keep (e : Edge) {edges more : List Edge} (h : Inserted new edges more) : Inserted new (e :: edges) (e :: more)
  | insert {e : Edge} (he : e.targetNode ∈ new) {edges more : List Edge} (h : Inserted new edges more) :
      Inserted new edges (e :: more)

theorem Inserted.filter_eq {new : List String} {edges more : List Edge} (h : Inserted new edges more) {f : Edge → Bool}
    (hf : ∀ e, e.targetNode ∈ new → f e = false) : more.filter f = edges.filter f := by
  induction h with
  | nil => rfl
  | keep e _ ih => rw [List.filter_cons, List.filter_cons, ih]
  | @insert e he _ _ _ ih =>
      have hout : ¬f e = true := by simp [hf e he]
      rw [List.filter_cons_of_neg hout, ih]

namespace Binding

theorem bindAll_append {p : Pipeline} {t v : SymbolTable} {nodes more : List Node}
    (h : (bindAll p t (nodes ++ more)).result = .ok v) :
    (∃ u, (bindAll p t nodes).result = .ok u) ∧
      (bindAll p t nodes).bound <+: (bindAll p t (nodes ++ more)).bound := by
  induction nodes generalizing t with
  | nil => exact ⟨⟨t, rfl⟩, List.nil_prefix⟩
  | cons n nodes ih =>
      rw [List.cons_append, bindAll] at h ⊢
      rw [bindAll]
      cases hb : bind p t n with
      | error e =>
          rw [hb] at h
          cases h
      | ok r =>
          rw [hb] at h
          obtain ⟨hok, hbound⟩ := ih h
          exact ⟨hok, (List.prefix_cons_inj r.1).2 hbound⟩

end Binding

namespace Pipeline

variable {p q : Pipeline}

theorem visitAll_append {path order ns ms : List String} (h : ∀ n ∈ ns ++ ms, n ∈ p.ids) :
    p.visitAll path order (ns ++ ms) h =
      p.visitAll path order ns (fun n hn => h n (List.mem_append_left ms hn)) >>= fun order =>
        p.visitAll path order ms fun n hn => h n (List.mem_append_right ns hn) := by
  induction ns generalizing order with
  | nil => simp only [List.nil_append, visitAll_nil, Steps.ok_bind]
  | cons n ns ih =>
      simp only [List.cons_append, visitAll_cons, bind_assoc]
      congr 1
      funext order
      exact ih _

mutual

theorem visit_extends {path order later : List String} {n : String} (hn : n ∈ p.ids)
    (h : p.visit path order n hn = .ok later) : order <+: later := by
  by_cases hpath : n ∈ path
  · rw [visit_of_mem_path hn hpath] at h
    cases h
  by_cases horder : n ∈ order
  · rw [visit_of_finished hn hpath horder] at h
    cases h
    exact List.prefix_rfl
  · rw [visit_of_new hn hpath horder] at h
    obtain ⟨between, hbetween, h⟩ := Steps.bind_eq_ok.1 h
    cases h
    have := length_offPath_concat hn hpath
    exact (visitAll_extends _ hbetween).trans (List.prefix_append between [n])
termination_by ((p.offPath path).length, 0)
decreasing_by exact Prod.Lex.left _ _ this

theorem visitAll_extends {path order later ns : List String} (hns : ∀ n ∈ ns, n ∈ p.ids)
    (h : p.visitAll path order ns hns = .ok later) : order <+: later := by
  match ns with
  | [] =>
      rw [visitAll_nil] at h
      cases h
      exact List.prefix_rfl
  | n :: rest =>
      rw [visitAll_cons] at h
      obtain ⟨between, hbetween, h⟩ := Steps.bind_eq_ok.1 h
      exact (visit_extends _ hbetween).trans (visitAll_extends _ h)
termination_by ((p.offPath path).length, ns.length + 1)
decreasing_by
  · exact Prod.Lex.right _ (Nat.succ_pos _)
  · exact Prod.Lex.right _ (by simp)

end

mutual

theorem visit_congr (h : ∀ n ∈ p.ids, q.suppliers n = p.suppliers n) {path order : List String} {n : String}
    (hp : n ∈ p.ids) (hq : n ∈ q.ids) : q.visit path order n hq = p.visit path order n hp := by
  by_cases hpath : n ∈ path
  · rw [visit_of_mem_path hp hpath, visit_of_mem_path hq hpath]
  by_cases horder : n ∈ order
  · rw [visit_of_finished hp hpath horder, visit_of_finished hq hpath horder]
  · have := length_offPath_concat hp hpath
    rw [visit_of_new hp hpath horder, visit_of_new hq hpath horder]
    simp only [h n hp]
    rw [visitAll_congr h]
termination_by ((p.offPath path).length, 0)
decreasing_by exact Prod.Lex.left _ _ this

theorem visitAll_congr (h : ∀ n ∈ p.ids, q.suppliers n = p.suppliers n) {path order ns : List String}
    (hp : ∀ n ∈ ns, n ∈ p.ids) (hq : ∀ n ∈ ns, n ∈ q.ids) :
    q.visitAll path order ns hq = p.visitAll path order ns hp := by
  match ns with
  | [] => rw [visitAll_nil, visitAll_nil]
  | n :: rest =>
      rw [visitAll_cons, visitAll_cons, visit_congr h (hp n List.mem_cons_self)]
      congr 1
      funext order
      exact visitAll_congr h _ _
termination_by ((p.offPath path).length, ns.length + 1)
decreasing_by
  · exact Prod.Lex.right _ (Nat.succ_pos _)
  · exact Prod.Lex.right _ (by simp)

end

/-- The second pipeline is the first one with nodes appended, and edges to these nodes put in anywhere. -/
structure GrowsBy (p : Pipeline) (added : List Node) (q : Pipeline) : Prop where
  nodes : q.nodes = p.nodes ++ added
  edges : Inserted (added.map Node.id) p.edges q.edges

namespace GrowsBy

variable {added : List Node} (h : p.GrowsBy added q)

include h

theorem ids_eq : q.ids = p.ids ++ added.map Node.id := by
  rw [ids, ids, h.nodes, List.map_append]

theorem not_new {id : String} (hid : id ∈ p.ids) : id ∉ added.map Node.id := by
  intro hnew
  have hnodup : (p.ids ++ added.map Node.id).Nodup := h.ids_eq ▸ q.nodes_nodup
  exact List.disjoint_of_nodup_append hnodup hid hnew

theorem node?_eq {id : String} (hid : id ∈ p.ids) : q.node? id = p.node? id := by
  obtain ⟨n, hn, rfl⟩ := mem_ids.1 hid
  have hold : p.node? n.id = some n := node?_eq_some.2 ⟨hn, rfl⟩
  rw [hold, node?_eq_some, h.nodes]
  exact ⟨List.mem_append_left added hn, rfl⟩

theorem nodesIn_eq {order : List String} (horder : order ⊆ p.ids) : q.nodesIn order = p.nodesIn order :=
  List.filterMap_congr fun _ hid => h.node?_eq (horder hid)

theorem filter_edges_eq {id : String} (hid : id ∈ p.ids) {f : Edge → Bool} (hf : ∀ e, f e = true → e.targetNode = id) :
    q.edges.filter f = p.edges.filter f := by
  refine h.edges.filter_eq fun e he => ?_
  by_contra hto
  exact h.not_new hid (hf e (by simpa using hto) ▸ he)

theorem feeder?_eq {id : String} (hid : id ∈ p.ids) (port : String) : q.feeder? id port = p.feeder? id port := by
  rw [feeder?, feeder?, ← List.head?_filter, ← List.head?_filter, h.filter_edges_eq hid]
  intro e he
  exact eq_of_beq (Bool.and_eq_true_iff.1 he).1

theorem suppliers_eq (hedges : ∀ e ∈ p.edges, p.Resolves e) {id : String} (hid : id ∈ p.ids) :
    q.suppliers id = p.suppliers id := by
  rw [suppliers, suppliers, h.filter_edges_eq hid fun e he => eq_of_beq he, h.ids_eq, List.filter_append,
    List.append_right_eq_self, List.filter_eq_nil_iff]
  intro m hm hfeeds
  obtain ⟨e, he, rfl⟩ := List.mem_map.1 (List.contains_iff_mem.1 hfeeds)
  exact h.not_new (hedges e (List.mem_of_mem_filter he)).source_mem_ids hm

theorem schedule_begins (hedges : ∀ e ∈ p.edges, p.Resolves e) {later : List String} (hs : q.schedule = .ok later) :
    ∃ order, p.schedule = .ok order ∧ order <+: later := by
  rw [schedule_eq_visitAll] at hs
  simp only [h.ids_eq] at hs
  rw [visitAll_append] at hs
  obtain ⟨order, horder, hrest⟩ := Steps.bind_eq_ok.1 hs
  rw [visitAll_congr (fun n hn => h.suppliers_eq hedges hn) fun _ hn => hn] at horder
  exact ⟨order, (schedule_eq_visitAll p).trans horder, visitAll_extends _ hrest⟩

theorem emit_begins {order later : List String} (hperm : order.Perm p.ids) (hbegins : order <+: later)
    {τ : Type} [Strategy τ] {registry : Registry τ} {s : Settings} {timestamp : String} {e : Emission}
    (he : (q.emit later registry s timestamp).value = .ok e) (other : String) :
    ∃ d, (p.emit order registry s other).value = .ok d ∧ d.bound <+: e.bound := by
  obtain ⟨-, templates, table, htemplates, hbindings, -, hbound⟩ := emit_eq_emission he
  obtain ⟨rest, rfl⟩ := hbegins
  have hnodes : q.nodesIn (order ++ rest) = p.nodesIn order ++ q.nodesIn rest := by
    rw [← h.nodesIn_eq hperm.subset]
    exact List.filterMap_append
  have hsame : ∀ t, Binding.bindAll q t (p.nodesIn order) = Binding.bindAll p t (p.nodesIn order) := by
    refine Binding.bindAll_congr fun n hn port => ?_
    rw [h.feeder?_eq (mem_ids.2 ⟨n, (mem_nodesIn.1 hn).1, rfl⟩)]
  rw [bindings, hnodes] at hbindings hbound
  obtain ⟨⟨u, hu⟩, hfirst⟩ := Binding.bindAll_append hbindings
  rw [hsame] at hu hfirst
  cases ht : p.templatesFor registry order with
  | error d =>
      obtain ⟨before, n, after, hsplit, -, hn, -⟩ := templatesFor_error ht
      refine absurd ((templatesFor_ok htemplates).2 n ?_) hn
      simp [hnodes, hsplit]
  | ok found =>
      have hemit : (p.emit order registry s other).value = .ok _ := emit_of_bindings hperm ht hu
      obtain ⟨-, -, -, -, -, -, hd⟩ := emit_eq_emission hemit
      refine ⟨_, hemit, ?_⟩
      rw [hd, hbound]
      exact hfirst

end GrowsBy

/-- A pipeline that grows keeps its schedule and its names. Where the larger one is scheduled, so is the smaller one,
and its schedule is how that of the larger one begins. Where the larger one is emitted in its schedule, so is the
smaller one, and its bound nodes are the first of the larger one's. -/
theorem growth_keeps_schedule_and_names {added : List Node} (h : p.GrowsBy added q)
    (hedges : ∀ e ∈ p.edges, p.Resolves e) {later : List String} (hs : q.schedule = .ok later) :
    ∃ order, p.schedule = .ok order ∧ order <+: later ∧
      ∀ {τ : Type} [Strategy τ] (registry : Registry τ) s timestamp e,
        (q.emit later registry s timestamp).value = .ok e →
        ∀ other, ∃ d, (p.emit order registry s other).value = .ok d ∧ d.bound <+: e.bound := by
  obtain ⟨order, horder, hbegins⟩ := h.schedule_begins hedges hs
  refine ⟨order, horder, hbegins, ?_⟩
  intro _ _ registry s timestamp e he other
  exact h.emit_begins (schedule_ok horder).perm hbegins he other

/-- Nodes that record an answer, the last one first. One of them is named like a node of `answering`. -/
def recorders : List Node := [
  ⟨"record", .output, "Record", [], [textPort], [], none, .null, List.nodup_singleton "text", List.nodup_nil⟩,
  ⟨"merge!", .logic, "Merge", [], [⟨"left", .null, .text, true, .null⟩], [textPort], some .dataMerger, .null,
    List.nodup_singleton "left", List.nodup_singleton "text"⟩]

def recorded : Pipeline where
  nodes := answering.nodes ++ recorders
  edges := [
    ⟨"f1", "merge!", "text", "record", "text", .text⟩,
    ⟨"e1", "merge", "text", "short", "text", .text⟩,
    ⟨"e2", "question", "text", "merge", "left", .text⟩,
    ⟨"f2", "question", "text", "record", "text", .text⟩,
    ⟨"e3", "merge", "text", "long", "text", .text⟩,
    ⟨"e4", "question", "text", "long", "text", .text⟩,
    ⟨"f3", "merge", "text", "merge!", "left", .text⟩]
  nodes_nodup := by decide

theorem growsBy_recorded : answering.GrowsBy recorders recorded :=
  ⟨rfl, .insert (by decide) (.keep _ (.keep _ (.insert (by decide) (.keep _ (.keep _ (.insert (by decide) .nil))))))⟩

theorem schedule_recorded :
    recorded.schedule = .ok ["question", "merge", "short", "long", "merge!", "record"] := by
  cbv

theorem emit_recorded : ∃ e,
    (recorded.emit ["question", "merge", "short", "long", "merge!", "record"] .standard {} "then").value = .ok e :=
  (emit_outcome (by decide) (by decide)).succeeds (by decide) (by decide) (by decide)

theorem recorded_keeps_answering :
    recorded.schedule = .ok ["question", "merge", "short", "long", "merge!", "record"] ∧
    answering.schedule = .ok ["question", "merge", "short", "long"] ∧
    ∃ d e, (answering.emit ["question", "merge", "short", "long"] .standard {} "now").value = .ok d ∧
      (recorded.emit ["question", "merge", "short", "long", "merge!", "record"] .standard {} "then").value = .ok e ∧
      d.bound <+: e.bound := by
  obtain ⟨order, horder, -, hnames⟩ :=
    growth_keeps_schedule_and_names growsBy_recorded (by decide) schedule_recorded
  cases schedule_answering.symm.trans horder
  obtain ⟨e, he⟩ := emit_recorded
  obtain ⟨d, hd, hbound⟩ := hnames .standard {} "then" e he "now"
  exact ⟨schedule_recorded, schedule_answering, d, e, hd, he, hbound⟩

end Pipeline

end Dataflow
