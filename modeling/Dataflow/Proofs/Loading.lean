import Dataflow.Document.Codec
import Dataflow.Proofs.Grammar

namespace Dataflow

namespace Document

open Json (Fields)

variable {fields : Fields} {key : String} {v : Json}

theorem need_eq_ok : need fields key = .ok v ↔ fields.get? key = some v := by
  unfold need
  cases fields.get? key <;> simp

theorem toText_eq_ok {s : String} : toText v = .ok s ↔ v = .str s := by
  cases v <;> simp [toText]

theorem toItems_eq_ok {items : List Json} : toItems v = .ok items ↔ v = .arr items := by
  cases v <;> simp [toItems]

theorem toFields_eq_ok : toFields v = .ok fields ↔ v = .obj fields := by
  cases v <;> simp [toFields, Json.fields?]

theorem toWord_eq_ok {α : Type} {read : Json → Except Unrecognised α} {w : α} :
    toWord read v = .ok w ↔ read v = .ok w :=
  Steps.mapError_eq_ok

theorem needText_eq_ok {s : String} : needText fields key = .ok s ↔ fields.get? key = some (.str s) := by
  simp [needText, Steps.bind_eq_ok, need_eq_ok, toText_eq_ok]

theorem exists_mapM_of_members {α : Type} {q : Fields → String → Prop} {build : Json → Except BuildError α}
    {idOf : α → String} (h : ∀ fields id, q fields id → ∃ a, build (.obj fields) = .ok a ∧ idOf a = id)
    {items : List Json} {ids : List String} (hitems : List.Forall₂ (fun item id => item.IsObject (q · id)) items ids) :
    ∃ as, items.mapM build = .ok as ∧ as.map idOf = ids := by
  induction hitems with
  | nil => exact ⟨[], rfl, rfl⟩
  | cons hitem _ ih =>
      obtain ⟨fields, rfl, hq⟩ := hitem
      obtain ⟨a, ha, rfl⟩ := h fields _ hq
      obtain ⟨as, has, rfl⟩ := ih
      exact ⟨a :: as, by simp [List.mapM_cons, ha, has], rfl⟩

theorem exists_buildPort {id : String} (h : IsPort fields id) :
    ∃ port, buildPort (.obj fields) = .ok port ∧ port.id = id := by
  obtain ⟨hid, word, hword, t, ht⟩ := h
  have hid := needText_eq_ok.2 hid
  have hword := need_eq_ok.2 hword
  have ht := toWord_eq_ok.2 (DataType.read_eq_ok.2 ht)
  simp [buildPort, toFields_eq_ok.2 rfl, hid, hword, ht]

theorem exists_buildPorts (h : fields.May key (IsMembers IsPort)) :
    ∃ ports, buildPorts (fields.getD key (.arr [])) = .ok ports ∧ (ports.map Port.id).Nodup := by
  obtain ⟨items, ids, hv, hitems, hnodup⟩ := (Fields.may_iff_getD isMembers_nil).1 h
  obtain ⟨ports, hports, rfl⟩ := exists_mapM_of_members (fun _ _ => exists_buildPort) hitems
  exact ⟨ports, by simp [buildPorts, toItems_eq_ok.2 hv, hports], hnodup⟩

theorem exists_nodeLabel (h : fields.May "label" Json.IsString) (id : String) :
    ∃ label, nodeLabel fields id = .ok label := by
  unfold nodeLabel
  split
  · rename_i htruthy
    cases hv : fields.get? "label" with
    | none => simp [Fields.getD_eq, hv, Json.truthy] at htruthy
    | some v =>
        obtain ⟨s, rfl⟩ := h v hv
        exact ⟨s, by simp [Fields.getD_eq, hv, toText]⟩
  · exact ⟨id, rfl⟩

theorem exists_buildNode {id : String} (h : IsNode fields id) :
    ∃ node, buildNode (.obj fields) = .ok node ∧ node.id = id := by
  have hid := needText_eq_ok.2 h.id_eq
  obtain ⟨word, hword, c, hc⟩ := h.category
  have hword := need_eq_ok.2 hword
  have hc := toWord_eq_ok.2 (Category.read_eq_ok.2 hc)
  obtain ⟨label, hlabel⟩ := exists_nodeLabel h.label id
  obtain ⟨config, hconfig, -⟩ := (Fields.may_iff_getD ⟨[], rfl, trivial⟩).1 h.config
  have hconfig := toFields_eq_ok.2 hconfig
  obtain ⟨inputs, hin, hinputs⟩ := exists_buildPorts h.inputs
  obtain ⟨outputs, hout, houtputs⟩ := exists_buildPorts h.outputs
  obtain ⟨kind, hkind⟩ := Kind.exists_read_eq_ok.2 ((Fields.may_iff_getD (.inl rfl)).1 h.kind)
  have hkind := toWord_eq_ok.2 hkind
  simp [buildNode, toFields_eq_ok.2 rfl, hid, hword, hc, hlabel, hconfig, hin, hout, hkind, Node.make, hinputs,
    houtputs, Except.mapError]

theorem exists_needText (h : fields.Has key Json.IsString) : ∃ s, needText fields key = .ok s := by
  obtain ⟨_, hv, s, rfl⟩ := h
  exact ⟨s, needText_eq_ok.2 hv⟩

theorem exists_edgeType (h : IsEdge fields) (nodes : List Node) : ∃ t, edgeType nodes fields = .ok t := by
  unfold edgeType
  split
  · rename_i word hword
    obtain ⟨t, ht⟩ := h.dataType word hword
    exact ⟨t, toWord_eq_ok.2 (DataType.read_eq_ok.2 ht)⟩
  · obtain ⟨source, hsource⟩ := exists_needText h.sourceNode
    obtain ⟨port, hport⟩ := exists_needText h.sourcePort
    simp [hsource, hport]

theorem exists_buildEdge (h : IsEdge fields) (nodes : List Node) :
    ∃ edge, buildEdge nodes (.obj fields) = .ok edge := by
  obtain ⟨t, ht⟩ := exists_edgeType h nodes
  obtain ⟨id, hid⟩ := exists_needText h.id
  obtain ⟨sourceNode, hsourceNode⟩ := exists_needText h.sourceNode
  obtain ⟨sourcePort, hsourcePort⟩ := exists_needText h.sourcePort
  obtain ⟨targetNode, htargetNode⟩ := exists_needText h.targetNode
  obtain ⟨targetPort, htargetPort⟩ := exists_needText h.targetPort
  simp [buildEdge, toFields_eq_ok.2 rfl, ht, hid, hsourceNode, hsourcePort, htargetNode, htargetPort]

theorem exists_build (h : IsDocument fields) : ∃ p, build fields = .ok p := by
  obtain ⟨_, hnodes, items, ids, rfl, hitems, hnodup⟩ := h.nodes
  obtain ⟨_, hedges, edges, rfl, hall⟩ := h.edges
  obtain ⟨nodes, hbuilt, rfl⟩ := exists_mapM_of_members (fun _ _ => exists_buildNode) hitems
  obtain ⟨built, hbuiltEdges⟩ : ∃ built, edges.mapM (buildEdge nodes) = .ok built := by
    apply Steps.exists_mapM_eq_ok
    intro item hitem
    obtain ⟨edge, rfl, hedge⟩ := hall item hitem
    exact exists_buildEdge hedge nodes
  have hdefault : Json.IsString (.str "Generated Pipeline") := ⟨_, rfl⟩
  obtain ⟨name, hname⟩ := (Fields.may_iff_getD hdefault).1 h.name
  have hnodes := need_eq_ok.2 hnodes
  have hedges := need_eq_ok.2 hedges
  simp [build, hnodes, hedges, toItems, hbuilt, hbuiltEdges, hname, toText, Pipeline.make, hnodup, Except.mapError]

end Document

namespace Pipeline

variable {v : Json} {p : Pipeline}

theorem ofJson_eq_ok : ofJson v = .ok p ↔ ∃ canonical fields, Document.fold v = .ok canonical ∧
    Document.read canonical = .ok fields ∧ Document.build fields = .ok p := by
  simp only [ofJson, Steps.bind_eq_ok, Steps.mapError_eq_ok]
  constructor
  · rintro ⟨canonical, hfold, fields, hread, hbuild⟩
    exact ⟨canonical, fields, hfold, hread, hbuild⟩
  · rintro ⟨canonical, fields, hfold, hread, hbuild⟩
    exact ⟨canonical, hfold, fields, hread, hbuild⟩

theorem ofJson_ok_or_shape (v : Json) : (∃ p, ofJson v = .ok p) ∨ ∃ cause, ofJson v = .error (.shape cause) := by
  cases hfold : Document.fold v with
  | error cause => exact .inr ⟨cause, by simp [ofJson, hfold, Except.mapError]⟩
  | ok canonical =>
      cases hread : Document.read canonical with
      | error cause => exact .inr ⟨cause, by simp [ofJson, hfold, hread, Except.mapError]⟩
      | ok fields =>
          obtain ⟨p, hbuild⟩ := Document.exists_build (Document.read_eq_ok.1 hread).2
          exact .inl ⟨p, ofJson_eq_ok.2 ⟨canonical, fields, hfold, hread, hbuild⟩⟩

/-- Reading accepts exactly the grammar, and what it accepts is always built. So loading either returns a
pipeline or finds fault with the document. -/
theorem ofJson_returns_or_refuses :
    (∀ v, (∃ fields, Document.read v = .ok fields) ↔ v.IsObject Document.IsDocument) ∧
    (∀ v fields, Document.read v = .ok fields → ∃ p, Document.build fields = .ok p) ∧
    ∀ v, (∃ p, ofJson v = .ok p) ∨ ∃ cause, ofJson v = .error (.shape cause) := by
  refine ⟨?_, ?_, ofJson_ok_or_shape⟩
  · intro v
    simp only [Document.read_eq_ok, Json.IsObject]
  · intro v fields hread
    exact Document.exists_build (Document.read_eq_ok.1 hread).2

def sketch : Json := .obj [
  ("nodes", .arr [.obj [
    ("id", .str "ask"),
    ("category", .str "INPUT"),
    ("kind", .null),
    ("outputs", .arr [
      .obj [("id", .str "text"), ("dataType", .str "Text")],
      .obj [("id", .str "file"), ("dataType", .str "pdf")]])]]),
  ("edges", .arr [])]

theorem sketch_builds : sketch.IsObject Document.IsDocument ∧
    ∃ fields, Document.read sketch = .ok fields ∧ ∃ p, Document.build fields = .ok p := by
  obtain ⟨hread, hbuild, -⟩ := ofJson_returns_or_refuses
  have hsketch : ∃ fields, Document.read sketch = .ok fields := ⟨_, rfl⟩
  refine ⟨(hread sketch).1 hsketch, ?_⟩
  obtain ⟨fields, hfields⟩ := hsketch
  exact ⟨fields, hfields, hbuild sketch fields hfields⟩

end Pipeline

end Dataflow
