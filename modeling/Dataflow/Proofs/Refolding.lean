import Dataflow.Proofs.Editor
import Dataflow.Proofs.RoundTrip

namespace Dataflow

open Json (Fields)

namespace Document

variable {fields more : Fields} {entries : List (String × Option Json)} {key : String}

theorem mem_map_fst_known (h : key ∈ (known entries).map Prod.fst) : key ∈ entries.map Prod.fst := by
  obtain ⟨field, hfield, rfl⟩ := List.mem_map.1 h
  obtain ⟨entry, hentry, hvalue⟩ := List.mem_filterMap.1 hfield
  obtain ⟨v, -, rfl⟩ := Option.map_eq_some_iff.1 hvalue
  exact List.mem_map_of_mem hentry

theorem get?_known (h : (entries.map Prod.fst).Nodup) (key : String) :
    (known entries).get? key = (entries.lookup key).join.filter (!·.isNull) := by
  induction entries with
  | nil => rfl
  | cons entry entries ih =>
      obtain ⟨name, value⟩ := entry
      obtain ⟨hname, hrest⟩ := List.nodup_cons.1 h
      have hcons : known ((name, value) :: entries) =
          ((value.filter (!·.isNull)).map (name, ·)).toList ++ known entries := by
        rw [known, List.filterMap_cons]
        cases value.filter (!·.isNull) <;> rfl
      rw [hcons, Fields.get?_append, List.lookup_cons]
      by_cases hkey : key = name
      · subst hkey
        have hnone : (known entries).get? key = none := Fields.get?_eq_none.2 fun hk => hname (mem_map_fst_known hk)
        rw [hnone, Option.or_none, beq_self_eq_true]
        cases hvalue : value.filter (!·.isNull) <;> simp [hvalue]
      · rw [beq_eq_false_iff_ne.2 hkey, ih hrest]
        cases value.filter (!·.isNull) <;> simp [hkey]

theorem known_get? (h : (entries.map Prod.fst).Nodup) :
    known ((entries.map Prod.fst).map fun key => (key, (known entries).get? key)) = known entries := by
  have hvalues : ((entries.map Prod.fst).map fun key => (key, (known entries).get? key)) =
      entries.map fun entry => (entry.1, entry.2.filter (!·.isNull)) := by
    rw [List.map_map]
    refine List.map_congr_left fun entry hentry => ?_
    rw [Function.comp_apply, get?_known h, lookup_of_mem h hentry, Option.join_some]
  rw [hvalues, known, List.filterMap_map, known]
  simp [Option.filter_filter]

/-- The fields have keys from a list, and no field is null. -/
structure Settled (keys : List String) (fields : Fields) : Prop where
  keys : fields.map Prod.fst ⊆ keys
  present : ∀ key, (fields.get? key).filter (!·.isNull) = fields.get? key

theorem settled_known {keys : List String} (h : entries.map Prod.fst ⊆ keys) : Settled keys (known entries) where
  keys _ hkey := h (mem_map_fst_known hkey)
  present key := by
    cases hv : (known entries).get? key with
    | none => rfl
    | some v =>
        obtain ⟨entry, -, hentry⟩ := List.mem_filterMap.1 (Fields.mem_of_get? hv)
        obtain ⟨w, hw, hpair⟩ := Option.map_eq_some_iff.1 hentry
        cases hpair
        rw [Option.filter_some, if_pos (Option.filter_eq_some_iff.1 hw).2]

theorem Settled.firstPresent? {keys others : List String} (h : Settled keys fields)
    (hothers : ∀ other ∈ others, other ∉ keys) : fields.firstPresent? (key :: others) = fields.get? key := by
  have hnone : fields.firstPresent? others = none :=
    Fields.firstPresent?_of_forall fun other hother => get?_eq_none_of_canonical h.keys (hothers other hother)
  rw [Fields.firstPresent?_cons, hnone, Option.or_none, h.present]

theorem settled_foldNodeFields (fields data : Fields) : Settled nodeKeys (foldNodeFields fields data) := by
  apply settled_known
  simp [nodeKeys]

theorem settled_foldEdgeFields (fields data : Fields) : Settled edgeKeys (foldEdgeFields fields data) := by
  apply settled_known
  simp [edgeKeys]

theorem foldEdgeFields_self (fields data : Fields) :
    foldEdgeFields (foldEdgeFields fields data) [] = foldEdgeFields fields data := by
  obtain ⟨entries, hfolded, hkeys⟩ : ∃ entries, foldEdgeFields fields data = known entries ∧
    entries.map Prod.fst = edgeKeys := ⟨_, rfl, rfl⟩
  have hsettled := settled_foldEdgeFields fields data
  rw [hfolded] at hsettled ⊢
  rw [foldEdgeFields, Fields.merge_nil, hsettled.firstPresent? (by decide), hsettled.firstPresent? (by decide),
    hsettled.firstPresent? (by decide), hsettled.firstPresent? (by decide)]
  have hself := known_get? (hkeys ▸ (by decide : edgeKeys.Nodup))
  rw [hkeys] at hself
  exact hself

/-- The second fields of a node are the first, with what they leave open filled in. -/
structure Completes (fields more : Fields) : Prop where
  same : ∀ key ∈ ["id", "category", "kind", "description"], more.get? key = fields.get? key
  label : more.get? "label" = (fields.get? "label").or (fields.get? "id")
  config : more.get? "config" = some (fields.getD "config" (.obj []))
  inputs : more.get? "inputs" = some (fields.getD "inputs" (.arr []))
  outputs : more.get? "outputs" = some (fields.getD "outputs" (.arr []))

theorem Settled.completes (h : Settled nodeKeys fields) (hd : Described fields) :
    Completes fields (foldNodeFields fields []) := by
  have hself : fields.filter (·.1 != "data") = fields := filter_of_canonical h.keys (by decide)
  have hdescription : (fields.get? "description").filter Json.truthy = fields.get? "description" := by
    cases hv : fields.get? "description" with
    | none => rfl
    | some v => rw [Option.filter_some, if_pos (hd v hv)]
  have hlabel : ((fields.get? "label").or (fields.get? "id")).filter (!·.isNull) =
      (fields.get? "label").or (fields.get? "id") := by
    cases hv : fields.get? "label" with
    | none => exact h.present "id"
    | some v =>
        rw [Option.some_or, ← hv]
        exact h.present "label"
  have hfilled : ∀ key default, default.isNull = false →
      (some (fields.getD key default)).filter (!·.isNull) = some (fields.getD key default) := by
    intro key default hdefault
    have hpresent := h.present key
    rw [Fields.getD_eq]
    cases hv : fields.get? key with
    | none => simp [hdefault]
    | some v =>
        rw [hv] at hpresent
        exact hpresent
  rw [foldNodeFields, hself, Fields.merge_nil, h.firstPresent? (by decide), hdescription]
  refine ⟨?_, ?_, ?_, ?_, ?_⟩ <;> simp [get?_known, List.lookup_cons, h.present, hlabel, hfilled]

namespace Completes

variable (h : Completes fields more)

include h

theorem getD_same (key : String) (hkey : key ∈ ["id", "category", "kind", "description"]) (default : Json) :
    more.getD key default = fields.getD key default := by
  rw [Fields.getD_eq, Fields.getD_eq, h.same key hkey]

theorem getD_config : more.getD "config" (.obj []) = fields.getD "config" (.obj []) := by
  rw [Fields.getD_eq, h.config, Option.getD_some]

theorem getD_inputs : more.getD "inputs" (.arr []) = fields.getD "inputs" (.arr []) := by
  rw [Fields.getD_eq, h.inputs, Option.getD_some]

theorem getD_outputs : more.getD "outputs" (.arr []) = fields.getD "outputs" (.arr []) := by
  rw [Fields.getD_eq, h.outputs, Option.getD_some]

theorem getD_label {id : String} (hid : fields.get? "id" = some (.str id)) (default : Json) :
    more.getD "label" default = fields.getD "label" (.str id) := by
  rw [Fields.getD_eq, Fields.getD_eq, h.label, hid]
  cases fields.get? "label" <;> rfl

theorem readNode_eq (place : Place) (seen : List String) :
    readNode place seen (.obj more) = readNode place seen (.obj fields) := by
  have hrequire : require more ["id", "category"] place = require fields ["id", "category"] place := by
    simp only [require, List.find?_cons, List.find?_nil, h.same "id" (by decide), h.same "category" (by decide)]
  simp only [readNode, asMember, Json.fields?, Option.elim_some, Steps.ok_bind, hrequire,
    h.getD_same "id" (by decide), h.getD_same "category" (by decide), h.getD_same "kind" (by decide), h.getD_config,
    h.getD_inputs, h.getD_outputs]
  refine Steps.bind_congr_ok fun _ _ => Steps.bind_congr_ok fun id hid => ?_
  have hid : fields.get? "id" = some (.str id) := (Fields.getD_null_eq (by simp)).1 (freshId_eq_ok.1 hid).1
  refine Steps.bind_congr_ok fun _ _ => Steps.bind_congr_ok fun _ _ => ?_
  -- A label that is filled in is the id, a string as any label has to be.
  have hgetD : ∀ default, fields.getD "label" default = (fields.get? "label").getD default := fun _ => rfl
  rw [h.getD_label hid, hgetD, hgetD]
  cases fields.get? "label" <;> rfl

theorem buildNode_eq : buildNode (.obj more) = buildNode (.obj fields) := by
  have hid : needText more "id" = needText fields "id" := by
    rw [needText, need, needText, need, h.same "id" (by decide)]
  have hcategory : need more "category" = need fields "category" := by
    rw [need, need, h.same "category" (by decide)]
  simp only [buildNode, toFields, Json.fields?, Option.elim_some, Steps.ok_bind, hid, hcategory,
    h.getD_same "kind" (by decide), h.getD_same "description" (by decide), h.getD_config, h.getD_inputs,
    h.getD_outputs]
  refine Steps.bind_congr_ok fun id hid => ?_
  have hlabel : nodeLabel more id = nodeLabel fields id := by
    rw [nodeLabel, nodeLabel, h.getD_label (needText_eq_ok.1 hid), Fields.getD_eq, Fields.getD_eq]
    cases fields.get? "label" with
    | some v => rfl
    | none => by_cases hempty : id = "" <;> simp [Json.truthy, toText, hempty]
  rw [hlabel]

end Completes

theorem readMembers_congr {read : Place → List String → Json → Except ShapeError String} {items others : List Json}
    (h : List.Forall₂ (fun item other => ∀ place seen, read place seen other = read place seen item) items others)
    (place : Place) (i : Nat) (seen : List String) :
    readMembers read place i seen others = readMembers read place i seen items := by
  induction h generalizing i seen with
  | nil => rfl
  | cons hitem _ ih => simp only [readMembers, hitem, ih]

theorem foldRoot_foldRoot (fields : Fields) (nodes edges nodes' edges' : List Json) :
    foldRoot (foldRoot fields nodes edges) nodes' edges' = foldRoot fields nodes' edges' := by
  cases hv : (fields.get? "description").filter Json.truthy with
  | none => simp [foldRoot, Fields.getD_eq, hv]
  | some v =>
      have htruthy : v.truthy = true := (Option.filter_eq_some_iff.1 hv).2
      simp [foldRoot, Fields.getD_eq, hv, htruthy, Option.filter_some, Json.isNull_eq_false_of_truthy htruthy]

theorem fold_foldRoot (fields : Fields) {nodes edges nodes' edges' : List Json}
    (hnodes : foldItems "nodes" foldNode 0 nodes = .ok nodes')
    (hedges : foldItems "edges" foldEdge 0 edges = .ok edges') :
    fold (.obj (foldRoot fields nodes edges)) = .ok (.obj (foldRoot fields nodes' edges')) := by
  have hfold : fold (.obj (foldRoot fields nodes edges)) = do
      let nodes' ← foldItems "nodes" foldNode 0 nodes
      let edges' ← foldItems "edges" foldEdge 0 edges
      return .obj (foldRoot (foldRoot fields nodes edges) nodes' edges') := rfl
  rw [hfold, hnodes, hedges, Steps.ok_bind, Steps.ok_bind, foldRoot_foldRoot]
  rfl

def NodeCompletes (item other : Json) : Prop :=
  ∃ fields more, item = .obj fields ∧ other = .obj more ∧ Completes fields more

theorem foldNode_again (top data : Fields) : ∃ other, NodeCompletes (.obj (foldNodeFields top data)) other ∧
    ∀ place, foldNode place (.obj (foldNodeFields top data)) = .ok other := by
  have h := settled_foldNodeFields top data
  refine ⟨_, ⟨_, _, rfl, rfl, h.completes (described_foldNodeFields top data)⟩, fun place => ?_⟩
  have hdata : (foldNodeFields top data).get? "data" = none := get?_eq_none_of_canonical h.keys (by decide)
  simp [foldNode, Json.fields?, dataFields_of_none hdata]

theorem foldEdge_again (top data : Fields) (place : Place) :
    foldEdge place (.obj (foldEdgeFields top data)) = .ok (.obj (foldEdgeFields top data)) := by
  have h := settled_foldEdgeFields top data
  have hdata : (foldEdgeFields top data).get? "data" = none := get?_eq_none_of_canonical h.keys (by decide)
  simp [foldEdge, Json.fields?, dataFields_of_none hdata, foldEdgeFields_self]

theorem foldItems_again {nodes : List Json} (h : ∀ item ∈ nodes, ∃ top data, item = .obj (foldNodeFields top data))
    (i : Nat) :
    ∃ nodes', List.Forall₂ NodeCompletes nodes nodes' ∧ foldItems "nodes" foldNode i nodes = .ok nodes' := by
  induction nodes generalizing i with
  | nil => exact ⟨[], .nil, rfl⟩
  | cons item nodes ih =>
      obtain ⟨⟨top, data, rfl⟩, hnodes⟩ := List.forall_mem_cons.1 h
      obtain ⟨other, hother, hfold⟩ := foldNode_again top data
      obtain ⟨nodes', hall, hitems⟩ := ih hnodes (i + 1)
      exact ⟨other :: nodes', .cons hother hall, by simp [foldItems, hfold, hitems]⟩

theorem exists_fold_again {d doc : Json} (h : fold d = .ok doc) : ∃ fields nodes nodes' edges,
    doc = .obj (foldRoot fields nodes edges) ∧ fold doc = .ok (.obj (foldRoot fields nodes' edges)) ∧
      List.Forall₂ NodeCompletes nodes nodes' := by
  obtain ⟨fields, nodes, edges, rfl, hnodes, hedges⟩ := fold_eq_ok h
  obtain ⟨nodes', hall, hfolded⟩ := foldItems_again hnodes 0
  have hsame : foldItems "edges" foldEdge 0 edges = .ok edges := by
    apply foldItems_eq_self
    intro place item hitem
    obtain ⟨top, data, rfl⟩ := hedges item hitem
    exact foldEdge_again top data place
  exact ⟨fields, nodes, nodes', edges, rfl, fold_foldRoot fields hfolded hsame, hall⟩

section

variable {nodes nodes' : List Json} (h : List.Forall₂ NodeCompletes nodes nodes') (fields : Fields) (edges : List Json)

include h

theorem read_foldRoot_completed :
    (∃ cause, read (.obj (foldRoot fields nodes edges)) = .error cause ∧
      read (.obj (foldRoot fields nodes' edges)) = .error cause) ∨
    read (.obj (foldRoot fields nodes edges)) = .ok (foldRoot fields nodes edges) ∧
      read (.obj (foldRoot fields nodes' edges)) = .ok (foldRoot fields nodes' edges) := by
  have hread : ∀ nodes, read (.obj (foldRoot fields nodes edges)) = do
      let _ ← asString [.field "name"] (fields.getD "name" (.str "Generated Pipeline"))
      readMembers readNode [.field "nodes"] 0 [] nodes
      readEdges 0 edges
      return foldRoot fields nodes edges := by
    intro nodes
    simp [read, foldRoot, Json.fields?, require, asList, Fields.getD_eq]
  have hnodes : readMembers readNode [.field "nodes"] 0 [] nodes' =
      readMembers readNode [.field "nodes"] 0 [] nodes := by
    refine readMembers_congr (h.imp ?_) _ 0 []
    rintro _ _ ⟨fields, more, rfl, rfl, h⟩
    exact h.readNode_eq
  rw [hread, hread, hnodes]
  cases asString [.field "name"] (fields.getD "name" (.str "Generated Pipeline")) with
  | error cause => exact .inl ⟨cause, rfl, rfl⟩
  | ok name =>
      cases readMembers readNode [.field "nodes"] 0 [] nodes with
      | error cause => exact .inl ⟨cause, rfl, rfl⟩
      | ok =>
          cases readEdges 0 edges with
          | error cause => exact .inl ⟨cause, rfl, rfl⟩
          | ok => exact .inr ⟨rfl, rfl⟩

theorem build_foldRoot_completed : build (foldRoot fields nodes' edges) = build (foldRoot fields nodes edges) := by
  have hbuild : nodes'.mapM buildNode = nodes.mapM buildNode := by
    induction h with
    | nil => rfl
    | cons hnode _ ih =>
        obtain ⟨fields, more, rfl, rfl, h⟩ := hnode
        rw [List.mapM_cons, List.mapM_cons, h.buildNode_eq, ih]
  simp [build, need, toItems, foldRoot, Fields.getD_eq, hbuild]

end

end Document

namespace Pipeline

theorem ofJson_of_fold {d doc : Json} (h : Document.fold d = .ok doc) :
    ofJson d = (Document.read doc).mapError .shape >>= fun fields => (Document.build fields).mapError .build := by
  simp [ofJson, h, Except.mapError]

/-- A folded document can be folded again, and it loads like the document that it was folded from. -/
theorem ofJson_folded {d doc : Json} (h : Document.fold d = .ok doc) :
    (∃ again, Document.fold doc = .ok again) ∧
      ((∃ p, ofJson doc = .ok p ∧ ofJson d = .ok p) ∨
        ∃ cause, ofJson doc = .error (.shape cause) ∧ ofJson d = .error (.shape cause)) := by
  obtain ⟨fields, nodes, nodes', edges, rfl, hfold, hnodes⟩ := Document.exists_fold_again h
  refine ⟨⟨_, hfold⟩, ?_⟩
  have hsame : ofJson (.obj (Document.foldRoot fields nodes edges)) = ofJson d := by
    rw [ofJson_of_fold hfold, ofJson_of_fold h]
    rcases Document.read_foldRoot_completed hnodes fields edges with ⟨cause, hread, hread'⟩ | ⟨hread, hread'⟩
    · rw [hread, hread']
    · rw [hread, hread']
      exact congrArg (Except.mapError LoadError.build) (Document.build_foldRoot_completed hnodes fields edges)
  rw [hsame]
  rcases ofJson_ok_or_shape d with ⟨p, hp⟩ | ⟨cause, hcause⟩
  · exact .inl ⟨p, hp, hp⟩
  · exact .inr ⟨cause, hcause, hcause⟩

/-- A document with null ports, a null label and configuration, and a node that is all inside `data`. -/
def draft : Json := .obj [
  ("nodes", .arr [
    .obj [("id", .str "say"), ("label", .str "Say"), ("data", .obj [("category", .str "output"), ("outputs", .null)])],
    .obj [("id", .str "ask"), ("type", .str "input"), ("label", .null), ("config", .null),
      ("outputs", .arr [.obj [("id", .str "file"), ("dataType", .str "pdf")]])],
    .obj [("data", .obj [("id", .str "hear"), ("category", .str "input"), ("inputs", .null)])]])]

theorem draft_loads_when_folded : ∃ doc again p, Document.fold draft = .ok doc ∧ Document.fold doc = .ok again ∧
    doc ≠ again ∧ ofJson doc = .ok p ∧ ofJson draft = .ok p ∧ p.nodes.map Node.label = ["Say", "ask", "hear"] := by
  obtain ⟨doc, again, hdoc, hagain, hne⟩ : ∃ doc again, Document.fold draft = .ok doc ∧
    Document.fold doc = .ok again ∧ doc ≠ again := ⟨_, _, rfl, rfl, nofun⟩
  obtain ⟨p, hp, hlabels⟩ : ∃ p, ofJson draft = .ok p ∧ p.nodes.map Node.label = ["Say", "ask", "hear"] := ⟨_, rfl, rfl⟩
  rcases (ofJson_folded hdoc).2 with ⟨q, hq, hdraft⟩ | ⟨cause, -, hcause⟩
  · cases hp.symm.trans hdraft
    exact ⟨doc, again, p, hdoc, hagain, hne, hq, hp, hlabels⟩
  · cases hp.symm.trans hcause

end Pipeline

end Dataflow
