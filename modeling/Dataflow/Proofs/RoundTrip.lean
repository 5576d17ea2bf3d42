import Dataflow.Proofs.Loading

namespace Dataflow

open Json (Fields)

/-- No label is empty but that of an empty id, and no description but the empty text. -/
structure Node.Normal (n : Node) : Prop where
  label : n.label = "" → n.id = ""
  description : n.description.truthy = false → n.description = .str ""

structure Pipeline.Normal (p : Pipeline) : Prop where
  nodes : ∀ n ∈ p.nodes, n.Normal
  description : p.description.truthy = false → p.description = .str ""

namespace Document

theorem foldItems_eq_self {field : String} {f : Place → Json → Except ShapeError Json} {items : List Json} {i : Nat}
    (h : ∀ place, ∀ item ∈ items, f place item = .ok item) : foldItems field f i items = .ok items := by
  induction items generalizing i with
  | nil => rfl
  | cons item items ih =>
      have hitems := ih (i := i + 1) fun place item hitem => h place item (List.mem_cons_of_mem _ hitem)
      simp [foldItems, h _ item List.mem_cons_self, hitems]

@[simp] theorem known_nil : known [] = [] := rfl

@[simp] theorem known_cons_none {key : String} {entries : List (String × Option Json)} :
    known ((key, none) :: entries) = known entries := rfl

@[simp] theorem known_cons_some {key : String} {v : Json} {entries : List (String × Option Json)}
    (h : v.isNull = false) : known ((key, some v) :: entries) = (key, v) :: known entries := by
  simp [known, h]

theorem foldNode_toJson (place : Place) (n : Node) : foldNode place n.toJson = .ok n.toJson := by
  -- A kind and a description are written only if there is one, and a description that is written is not null.
  have hnull := @Json.isNull_eq_false_of_truthy n.description
  cases hk : n.kind <;> by_cases hd : n.description.truthy = true <;>
    simp [foldNode, dataFields, foldNodeFields, Node.toJson, descriptionFields, Json.fields?, Fields.merge,
      Fields.getD_eq, Option.filter_some, hk, hd, hnull]

theorem foldEdge_toJson (place : Place) (e : Edge) : foldEdge place e.toJson = .ok e.toJson := by
  simp [foldEdge, dataFields, foldEdgeFields, Edge.toJson, Json.fields?, Fields.merge, Option.filter_some]

theorem fold_toJson (p : Pipeline) : fold p.toJson = .ok p.toJson := by
  have hnodes : foldItems "nodes" foldNode 0 (p.nodes.map Node.toJson) = .ok (p.nodes.map Node.toJson) := by
    apply foldItems_eq_self
    intro place item hitem
    obtain ⟨n, -, rfl⟩ := List.mem_map.1 hitem
    exact foldNode_toJson place n
  have hedges : foldItems "edges" foldEdge 0 (p.edges.map Edge.toJson) = .ok (p.edges.map Edge.toJson) := by
    apply foldItems_eq_self
    intro place item hitem
    obtain ⟨e, -, rfl⟩ := List.mem_map.1 hitem
    exact foldEdge_toJson place e
  have hnull := @Json.isNull_eq_false_of_truthy p.description
  by_cases hd : p.description.truthy = true <;>
    simp [fold, foldRoot, Pipeline.toJson, descriptionFields, Json.fields?, Fields.getD_eq, Option.filter_some, hnodes,
      hedges, hd, hnull]

@[simp] theorem get?_descriptionFields {description : Json} {key : String} :
    Fields.get? (descriptionFields description) key =
      if key = "description" ∧ description.truthy = true then some description else none := by
  unfold descriptionFields
  by_cases h : description.truthy = true <;> simp [h]

@[simp] theorem get?_kindFields {kind : Option Kind} {key : String} :
    Fields.get? (kind.map fun k => ("kind", Json.str k.tag)).toList key =
      if key = "kind" then kind.map (.str ·.tag) else none := by
  cases kind <;> simp

theorem isMembers_map {α : Type} {q : Fields → String → Prop} {toJson : α → Json} {idOf : α → String} {l : List α}
    (h : ∀ a ∈ l, (toJson a).IsObject (q · (idOf a))) (hnodup : (l.map idOf).Nodup) :
    IsMembers q (.arr (l.map toJson)) := by
  refine ⟨l.map toJson, l.map idOf, rfl, ?_, hnodup⟩
  rw [List.forall₂_map_left_iff, List.forall₂_map_right_iff, List.forall₂_same]
  exact h

theorem isPort_toJson (p : Port) : p.toJson.IsObject (IsPort · p.id) :=
  ⟨_, rfl, by simp, .str p.dataType.tag, by simp, p.dataType, p.dataType.spelled_tag⟩

theorem isNode_toJson (n : Node) : n.toJson.IsObject (IsNode · n.id) := by
  refine ⟨_, rfl, by simp, ⟨.str n.category.tag, by simp, n.category, n.category.spelled_tag⟩, ?_, ?_, ?_, ?_, ?_⟩
  · cases hk : n.kind with
    | none => simp [Fields.May]
    | some k => exact .of_get? (by simp) (.inr ⟨k, k.spelled_tag⟩)
  · exact .of_get? (by simp) ⟨n.label, rfl⟩
  · exact .of_get? (by simp) ⟨n.config, rfl, trivial⟩
  · exact .of_get? (by simp) (isMembers_map (fun p _ => isPort_toJson p) n.inputs_nodup)
  · exact .of_get? (by simp) (isMembers_map (fun p _ => isPort_toJson p) n.outputs_nodup)

theorem isEdge_toJson (e : Edge) : e.toJson.IsObject IsEdge := by
  refine ⟨_, rfl, ⟨.str e.id, by simp, e.id, rfl⟩, ⟨.str e.sourceNode, by simp, e.sourceNode, rfl⟩,
    ⟨.str e.sourcePort, by simp, e.sourcePort, rfl⟩, ⟨.str e.targetNode, by simp, e.targetNode, rfl⟩,
    ⟨.str e.targetPort, by simp, e.targetPort, rfl⟩, ?_⟩
  exact .of_get? (by simp) ⟨e.dataType, e.dataType.spelled_tag⟩

theorem isDocument_toJson (p : Pipeline) : p.toJson.IsObject IsDocument := by
  refine ⟨_, rfl, ?_, ⟨.arr (p.nodes.map Node.toJson), by simp, ?_⟩, .arr (p.edges.map Edge.toJson), by simp, ?_⟩
  · exact .of_get? (by simp) ⟨p.name, rfl⟩
  · exact isMembers_map (fun n _ => isNode_toJson n) p.nodes_nodup
  · refine ⟨_, rfl, ?_⟩
    intro item hitem
    obtain ⟨e, -, rfl⟩ := List.mem_map.1 hitem
    exact isEdge_toJson e

theorem mapM_map_eq_ok {α : Type} {build : Json → Except BuildError α} {toJson : α → Json} {l : List α}
    (h : ∀ a ∈ l, build (toJson a) = .ok a) : (l.map toJson).mapM build = .ok l := by
  rw [Steps.mapM_eq_ok, List.forall₂_map_left_iff, List.forall₂_same]
  exact h

@[simp] theorem toWord_tag (t : DataType) : toWord DataType.read (.str t.tag) = .ok t :=
  toWord_eq_ok.2 (DataType.read_eq_ok.2 t.spelled_tag)

theorem buildPort_toJson (p : Port) : buildPort p.toJson = .ok p := by
  simp [buildPort, Port.toJson, toFields, Json.fields?, needText, need, toText, Fields.getD_eq, Json.truthy]

theorem buildPorts_map (ports : List Port) : buildPorts (.arr (ports.map Port.toJson)) = .ok ports := by
  simp [buildPorts, toItems, mapM_map_eq_ok fun p _ => buildPort_toJson p]

theorem nodeLabel_of_get? {fields : Fields} {label : String} (h : fields.get? "label" = some (.str label))
    (id : String) :
    nodeLabel fields id = .ok (if label = "" then id else label) := by
  by_cases hempty : label = "" <;> simp [nodeLabel, Fields.getD_eq, h, Json.truthy, toText, hempty]

theorem description_getD {description : Json} (h : description.truthy = false → description = .str "") :
    (if description.truthy = true then some description else none).getD (.str "") = description := by
  cases ht : description.truthy with
  | true => rfl
  | false => exact (h ht).symm

theorem buildNode_toJson {n : Node} (h : n.Normal) : buildNode n.toJson = .ok n := by
  have hcategory : toWord Category.read (.str n.category.tag) = .ok n.category :=
    toWord_eq_ok.2 (Category.read_eq_ok.2 n.category.spelled_tag)
  have hkind : toWord Kind.read ((n.kind.map (.str ·.tag)).getD .null) = .ok n.kind := by
    rw [toWord_eq_ok, Kind.read_eq_ok]
    cases n.kind with
    | none => exact .inl ⟨rfl, rfl⟩
    | some k => exact .inr ⟨k, rfl, k.spelled_tag⟩
  have hlabel : (if n.label = "" then n.id else n.label) = n.label := by
    -- An empty label is replaced by the id, which is then empty itself.
    split
    · rename_i hempty
      rw [h.label hempty, hempty]
    · rfl
  simp [buildNode, Node.toJson, toFields, Json.fields?, needText, need, toText, nodeLabel_of_get?, hlabel, hcategory,
    Fields.getD_eq, buildPorts_map, hkind, Node.make, n.inputs_nodup, n.outputs_nodup, description_getD h.description,
    Except.mapError]

theorem buildEdge_toJson (nodes : List Node) (e : Edge) : buildEdge nodes e.toJson = .ok e := by
  simp [buildEdge, Edge.toJson, edgeType, toFields, Json.fields?, needText, need, toText]

theorem build_toJson {p : Pipeline} (h : p.Normal) : ∃ fields, p.toJson = .obj fields ∧ build fields = .ok p := by
  refine ⟨_, rfl, ?_⟩
  have hnodes : (p.nodes.map Node.toJson).mapM buildNode = .ok p.nodes :=
    mapM_map_eq_ok fun n hn => buildNode_toJson (h.nodes n hn)
  have hedges : (p.edges.map Edge.toJson).mapM (buildEdge p.nodes) = .ok p.edges :=
    mapM_map_eq_ok fun e _ => buildEdge_toJson p.nodes e
  simp [-List.mapM_map, build, need, toItems, hnodes, hedges, toText, Fields.getD_eq, Pipeline.make, p.nodes_nodup,
    description_getD h.description, Except.mapError]

theorem mem_of_get?_known {entries : List (String × Option Json)} {key : String} {v : Json}
    (h : (known entries).get? key = some v) : (key, some v) ∈ entries := by
  obtain ⟨⟨k, o⟩, hmem, he⟩ := List.mem_filterMap.1 (Fields.mem_of_get? h)
  obtain ⟨w, hw, he⟩ := Option.map_eq_some_iff.1 he
  cases he
  exact (Option.filter_eq_some_iff.1 hw).1 ▸ hmem

theorem foldItems_eq_ok {field : String} {f : Place → Json → Except ShapeError Json} {items folded : List Json}
    {i : Nat} (h : foldItems field f i items = .ok folded) : ∀ v ∈ folded, ∃ place item, f place item = .ok v := by
  induction items generalizing i folded with
  | nil =>
      cases h
      simp
  | cons item items ih =>
      rw [foldItems, Steps.bind_eq_ok] at h
      obtain ⟨v, hv, h⟩ := h
      obtain ⟨others, hothers, h⟩ := Steps.bind_eq_ok.1 h
      cases h
      refine List.forall_mem_cons.2 ⟨⟨_, item, hv⟩, ih hothers⟩

theorem foldNode_eq_ok {place : Place} {item v : Json} (h : foldNode place item = .ok v) :
    ∃ fields data, v = .obj (foldNodeFields fields data) := by
  cases item with
  | obj fields =>
      obtain ⟨data, -, hv⟩ := Steps.bind_eq_ok.1 h
      cases hv
      exact ⟨fields, data, rfl⟩
  | _ => cases h

theorem foldEdge_eq_ok {place : Place} {item v : Json} (h : foldEdge place item = .ok v) :
    ∃ fields data, v = .obj (foldEdgeFields fields data) := by
  cases item with
  | obj fields =>
      obtain ⟨data, -, hv⟩ := Steps.bind_eq_ok.1 h
      cases hv
      exact ⟨fields, data, rfl⟩
  | _ => cases h

def Described (fields : Fields) : Prop := fields.May "description" fun v => v.truthy = true

theorem Described.getD {fields : Fields} (h : Described fields)
    (hfalse : (fields.getD "description" (.str "")).truthy = false) :
    fields.getD "description" (.str "") = .str "" := by
  rw [Fields.getD_eq] at hfalse ⊢
  cases hv : fields.get? "description" with
  | none => rfl
  | some v =>
      rw [hv, Option.getD_some, h v hv] at hfalse
      cases hfalse

theorem described_foldNodeFields (fields data : Fields) : Described (foldNodeFields fields data) := by
  intro v hv
  have hmem := mem_of_get?_known hv
  simp only [List.mem_cons, Prod.mk.injEq, String.reduceEq, false_and, true_and, false_or, List.not_mem_nil, or_false]
    at hmem
  exact (Option.filter_eq_some_iff.1 hmem.symm).2

theorem described_foldRoot (fields : Fields) (nodes edges : List Json) : Described (foldRoot fields nodes edges) := by
  intro v hv
  simp only [foldRoot, Fields.get?_append, Fields.get?_cons, String.reduceEq, if_false, Fields.get?_nil,
    Option.none_or] at hv
  have hmem := mem_of_get?_known hv
  rw [List.mem_singleton, Prod.mk.injEq] at hmem
  exact (Option.filter_eq_some_iff.1 hmem.2.symm).2

theorem id_eq_empty_of_nodeLabel {fields : Fields} {id label : String} (h : nodeLabel fields id = .ok label)
    (hempty : label = "") : id = "" := by
  unfold nodeLabel at h
  split at h
  · rename_i htruthy
    rw [toText_eq_ok.1 h, hempty] at htruthy
    cases htruthy
  · exact (Except.ok.inj h).trans hempty

theorem buildNode_normal {fields : Fields} {n : Node} (hd : Described fields) (h : buildNode (.obj fields) = .ok n) :
    n.Normal := by
  simp only [buildNode, toFields, Json.fields?, Option.elim_some, Steps.ok_bind, Steps.bind_eq_ok,
    Steps.mapError_eq_ok] at h
  obtain ⟨id, -, word, -, category, -, label, hlabel, config, -, inputs, -, outputs, -, kind, -, hmake⟩ := h
  unfold Node.make at hmake
  split at hmake
  · split at hmake
    · cases hmake
      exact ⟨id_eq_empty_of_nodeLabel hlabel, hd.getD⟩
    · cases hmake
  · cases hmake

theorem build_normal {fields : Fields} {nodes : List Json} {p : Pipeline}
    (hnodes : fields.get? "nodes" = some (.arr nodes)) (hall : ∀ item ∈ nodes, item.IsObject Described)
    (hd : Described fields) (h : build fields = .ok p) : p.Normal := by
  simp only [build, need, hnodes, Option.elim_some, toItems, Steps.ok_bind, Steps.bind_eq_ok,
    Steps.mapError_eq_ok] at h
  obtain ⟨built, hbuilt, -, -, -, -, edges, -, name, -, hmake⟩ := h
  unfold Pipeline.make at hmake
  split at hmake
  · cases hmake
    refine ⟨?_, hd.getD⟩
    intro n hn
    obtain ⟨item, hitem, hbuild⟩ := (Steps.mem_of_mapM_eq_ok hbuilt).1 hn
    obtain ⟨fields', rfl, hd'⟩ := hall item hitem
    exact buildNode_normal hd' hbuild
  · cases hmake

theorem fold_eq_ok {v canonical : Json} (h : fold v = .ok canonical) : ∃ fields nodes edges,
    canonical = .obj (foldRoot fields nodes edges) ∧
    (∀ item ∈ nodes, ∃ top data, item = .obj (foldNodeFields top data)) ∧
    ∀ item ∈ edges, ∃ top data, item = .obj (foldEdgeFields top data) := by
  unfold fold at h
  split at h
  · cases h
  · rename_i fields _
    split at h
    · cases h
    · rename_i nodes edges _ _
      obtain ⟨foldedNodes, hnodes, h⟩ := Steps.bind_eq_ok.1 h
      obtain ⟨foldedEdges, hedges, h⟩ := Steps.bind_eq_ok.1 h
      cases h
      refine ⟨fields, foldedNodes, foldedEdges, rfl, ?_, ?_⟩
      · intro item hitem
        obtain ⟨place, source, hfold⟩ := foldItems_eq_ok hnodes item hitem
        exact foldNode_eq_ok hfold
      · intro item hitem
        obtain ⟨place, source, hfold⟩ := foldItems_eq_ok hedges item hitem
        exact foldEdge_eq_ok hfold
    · cases h
    · cases h

end Document

namespace Pipeline

theorem normal_of_ofJson {v : Json} {p : Pipeline} (h : ofJson v = .ok p) : p.Normal := by
  obtain ⟨canonical, fields, hfold, hread, hbuild⟩ := ofJson_eq_ok.1 h
  obtain ⟨root, nodes, edges, rfl, hnodes, -⟩ := Document.fold_eq_ok hfold
  obtain ⟨hfields, -⟩ := Document.read_eq_ok.1 hread
  cases hfields
  have hall : ∀ item ∈ nodes, item.IsObject Document.Described := by
    intro item hitem
    obtain ⟨top, data, rfl⟩ := hnodes item hitem
    exact ⟨_, rfl, Document.described_foldNodeFields top data⟩
  exact Document.build_normal (by simp [Document.foldRoot]) hall (Document.described_foldRoot root nodes edges) hbuild

/-- A pipeline that was loaded is loaded again from the document that it is written as, which is in the
canonical shape and passes every check. -/
theorem ofJson_toJson {v : Json} {p : Pipeline} (h : ofJson v = .ok p) :
    ofJson p.toJson = .ok p ∧ Document.fold p.toJson = .ok p.toJson ∧
      ∃ fields, Document.read p.toJson = .ok fields := by
  have hfold := Document.fold_toJson p
  obtain ⟨fields, hfields, hdocument⟩ := Document.isDocument_toJson p
  have hread := Document.read_eq_ok.2 ⟨hfields, hdocument⟩
  obtain ⟨fields', hfields', hbuild⟩ := Document.build_toJson (normal_of_ofJson h)
  have hsame : fields = fields' := Json.obj.inj (hfields.symm.trans hfields')
  subst hsame
  exact ⟨ofJson_eq_ok.2 ⟨p.toJson, fields, hfold, hread, hbuild⟩, hfold, fields, hread⟩

/-- A document in the editor's shape, with an empty label, descriptions that are not text, a port without a
label, and an edge that leaves its type open. -/
def drawing : Json := .obj [
  ("nodes", .arr [
    .obj [("id", .str "ask"), ("type", .str "Input"), ("data", .obj [
      ("label", .str ""),
      ("description", .arr [.null]),
      ("config", .obj [("b", .int 1), ("a", .null)]),
      ("outputs", .arr [.obj [("id", .str "file"), ("dataType", .str "PDF"), ("required", .int 0)]])])],
    .obj [("id", .str "say"), ("type", .str "output"), ("data", .obj [
      ("description", .bool false),
      ("inputs", .arr [.obj [("id", .str "text"), ("label", .null), ("dataType", .str "text")]])])]]),
  ("edges", .arr [
    .obj [("id", .str "e"), ("source", .str "ask"), ("sourceHandle", .str "file"), ("target", .str "say"),
      ("targetHandle", .str "text")]]),
  ("description", .int 0)]

theorem drawing_round_trips : ∃ p, ofJson drawing = .ok p ∧ p.nodes.map Node.label = ["ask", "say"] ∧
    p.edges.map Edge.dataType = [.pdf] ∧ ofJson p.toJson = .ok p ∧ Document.fold p.toJson = .ok p.toJson ∧
    ∃ fields, Document.read p.toJson = .ok fields := by
  obtain ⟨p, hp, hlabels, htypes⟩ : ∃ p, ofJson drawing = .ok p ∧ p.nodes.map Node.label = ["ask", "say"] ∧
    p.edges.map Edge.dataType = [.pdf] := ⟨_, rfl, rfl, rfl⟩
  exact ⟨p, hp, hlabels, htypes, ofJson_toJson hp⟩

end Pipeline

end Dataflow
