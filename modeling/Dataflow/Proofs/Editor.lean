import Dataflow.Proofs.Loading

namespace Dataflow

open Json (Fields)

namespace Document

def nodeKeys : List String := ["id", "category", "kind", "label", "description", "config", "inputs", "outputs"]

def edgeKeys : List String := ["id", "sourceNodeId", "sourcePortId", "targetNodeId", "targetPortId", "dataType"]

/-- Under the second name of each pair, `editor` has what `fields` has under the first. It has nothing under the
other keys that are recognised; all further keys are free. -/
structure Renames (names : List (String × String)) (recognised : List String) (fields editor : Fields) : Prop where
  shown : ∀ pair ∈ names, editor.get? pair.2 = fields.get? pair.1
  unused : ∀ key ∈ recognised, key ∉ names.map Prod.snd → editor.get? key = none

def movedKeys : List String := ["kind", "label", "description", "config", "inputs", "outputs"]

/-- An editor keeps a node's id, has the category under `type`, and has all other fields inside `data`. -/
structure ShowsNode (fields editor data : Fields) : Prop where
  canonical : fields.map Prod.fst ⊆ nodeKeys
  top : Renames [("id", "id"), ("category", "type")] ("type" :: nodeKeys) fields editor
  nested : editor.get? "data" = some (.obj data)
  distinct : (data.map Prod.fst).Nodup
  inner : Renames (movedKeys.map fun key => (key, key)) ("type" :: nodeKeys) fields data

def edgeNames (handles : Bool) : List (String × String) := [
  ("id", "id"),
  ("sourceNodeId", "source"),
  ("sourcePortId", if handles then "sourceHandle" else "sourcePort"),
  ("targetNodeId", "target"),
  ("targetPortId", if handles then "targetHandle" else "targetPort"),
  ("dataType", "dataType")]

def recognisedEdgeKeys : List String :=
  edgeKeys ++ ["source", "sourcePort", "sourceHandle", "target", "targetPort", "targetHandle", "data"]

structure ShowsEdge (handles : Bool) (fields editor : Fields) : Prop where
  canonical : fields.map Prod.fst ⊆ edgeKeys
  renames : Renames (edgeNames handles) recognisedEdgeKeys fields editor

inductive ShowsObject (shows : Fields → Fields → Prop) : Json → Json → Prop
  | object {fields editor : Fields} (h : shows fields editor) : ShowsObject shows (.obj fields) (.obj editor)
  | other {v : Json} (h : v.fields? = none) : ShowsObject shows v v

inductive ShowsList (shows : Fields → Fields → Prop) : Json → Json → Prop
  | list {items drawn : List Json} (h : List.Forall₂ (ShowsObject shows) items drawn) :
      ShowsList shows (.arr items) (.arr drawn)
  | other {v : Json} (h : ∀ items, v ≠ .arr items) : ShowsList shows v v

structure ShowsRoot (fields editor : Fields) : Prop where
  canonical : fields.map Prod.fst ⊆ ["name", "description", "nodes", "edges"]
  name : editor.get? "name" = fields.get? "name"
  description : editor.get? "description" = fields.get? "description"
  nodes : Option.Rel (ShowsList fun fields editor => ∃ data, ShowsNode fields editor data)
    (fields.get? "nodes") (editor.get? "nodes")
  edges : Option.Rel (ShowsList fun fields editor => ∃ handles, ShowsEdge handles fields editor)
    (fields.get? "edges") (editor.get? "edges")

/-- The second document is the editor's form of the first, which has canonical keys only. -/
def EditorForm : Json → Json → Prop := ShowsObject ShowsRoot

variable {fields editor data : Fields} {place : Place} {key : String}

theorem dataFields_of_none (h : fields.get? "data" = none) : dataFields place fields = .ok [] := by
  simp [dataFields, h]

theorem dataFields_of_obj (h : fields.get? "data" = some (.obj data)) : dataFields place fields = .ok data := by
  cases data <;> simp [dataFields, h, Json.truthy, Json.fields?]

theorem get?_eq_none_of_canonical {keys : List String} (h : fields.map Prod.fst ⊆ keys) (hkey : key ∉ keys) :
    fields.get? key = none :=
  Fields.get?_eq_none.2 fun hmem => hkey (h hmem)

theorem filter_of_canonical {keys : List String} (h : fields.map Prod.fst ⊆ keys) (hkey : key ∉ keys) :
    fields.filter (·.1 != key) = fields := by
  rw [List.filter_eq_self]
  intro field hfield
  have hmem : field.1 ∈ keys := h (List.mem_map_of_mem hfield)
  exact bne_iff_ne.2 fun heq => hkey (heq ▸ hmem)

namespace ShowsNode

theorem get?_merged (h : ShowsNode fields editor data) (hkey : key ≠ "data") :
    (Fields.merge (editor.filter (·.1 != "data")) data).get? key = (data.get? key).or (editor.get? key) := by
  rw [Fields.get?_merge h.distinct, Fields.get?_filter hkey]

theorem get?_moved (h : ShowsNode fields editor data) (hkey : key ∈ movedKeys) :
    (Fields.merge (editor.filter (·.1 != "data")) data).get? key = fields.get? key := by
  have hdata : key ≠ "data" := by
    rintro rfl
    exact absurd hkey (by decide)
  have htop : editor.get? key = none := by
    apply h.top.unused
    · revert key; decide
    · revert key; decide
  have hinner : data.get? key = fields.get? key := h.inner.shown (key, key) (List.mem_map_of_mem hkey)
  rw [h.get?_merged hdata, htop, hinner, Option.or_none]

theorem firstPresent?_category (h : ShowsNode fields editor data) :
    (Fields.merge (editor.filter (·.1 != "data")) data).firstPresent? ["category", "type"] =
      fields.firstPresent? ["category", "type"] := by
  have hcategory : (Fields.merge (editor.filter (·.1 != "data")) data).get? "category" = none := by
    rw [h.get?_merged (by decide), h.inner.unused "category" (by decide) (by decide),
      h.top.unused "category" (by decide) (by decide), Option.or_none]
  have htype : (Fields.merge (editor.filter (·.1 != "data")) data).get? "type" = fields.get? "category" := by
    rw [h.get?_merged (by decide), h.inner.unused "type" (by decide) (by decide), Option.none_or]
    exact h.top.shown ("category", "type") (by decide)
  have hnone : fields.get? "type" = none := get?_eq_none_of_canonical h.canonical (by decide)
  simp [hcategory, htype, hnone]

theorem foldNodeFields_eq (h : ShowsNode fields editor data) :
    foldNodeFields editor data = foldNodeFields fields [] := by
  have hid : editor.get? "id" = fields.get? "id" := h.top.shown ("id", "id") (by decide)
  have hnone : data.get? "id" = none := h.inner.unused "id" (by decide) (by decide)
  have hself : fields.filter (·.1 != "data") = fields := filter_of_canonical h.canonical (by decide)
  simp only [foldNodeFields, Fields.getD_eq, h.firstPresent?_category, hid, hnone, hself, Fields.merge_nil,
    Fields.get?_nil,
    h.get?_moved (by decide : "kind" ∈ movedKeys), h.get?_moved (by decide : "label" ∈ movedKeys),
    h.get?_moved (by decide : "description" ∈ movedKeys), h.get?_moved (by decide : "config" ∈ movedKeys),
    h.get?_moved (by decide : "inputs" ∈ movedKeys), h.get?_moved (by decide : "outputs" ∈ movedKeys)]

theorem foldNode_eq (h : ShowsNode fields editor data) :
    foldNode place (.obj editor) = foldNode place (.obj fields) := by
  have hnone : fields.get? "data" = none := get?_eq_none_of_canonical h.canonical (by decide)
  simp [foldNode, Json.fields?, dataFields_of_obj h.nested, dataFields_of_none hnone, h.foldNodeFields_eq]

end ShowsNode

namespace ShowsEdge

variable {handles : Bool}

theorem firstPresent?_eq (h : ShowsEdge handles fields editor) (key name : String) {keys : List String}
    (hpair : (key, name) ∈ edgeNames handles) (hkey : key ∈ keys) (hname : name ∈ keys)
    (hfields : ∀ k ∈ keys, k ≠ key → k ∉ edgeKeys)
    (heditor : ∀ k ∈ keys, k ≠ name → k ∈ recognisedEdgeKeys ∧ k ∉ (edgeNames handles).map Prod.snd) :
    editor.firstPresent? keys = fields.firstPresent? keys := by
  have hleft : editor.firstPresent? keys = (editor.get? name).filter (!·.isNull) := by
    apply Fields.firstPresent?_of_only hname
    intro k hk hne
    exact h.renames.unused k (heditor k hk hne).1 (heditor k hk hne).2
  have hright : fields.firstPresent? keys = (fields.get? key).filter (!·.isNull) := by
    apply Fields.firstPresent?_of_only hkey
    intro k hk hne
    exact get?_eq_none_of_canonical h.canonical (hfields k hk hne)
  rw [hleft, hright, h.renames.shown (key, name) hpair]

theorem foldEdgeFields_eq (h : ShowsEdge handles fields editor) :
    foldEdgeFields editor [] = foldEdgeFields fields [] := by
  have hid : editor.get? "id" = fields.get? "id" := h.renames.shown ("id", "id") (by simp [edgeNames])
  have htype : editor.get? "dataType" = fields.get? "dataType" :=
    h.renames.shown ("dataType", "dataType") (by simp [edgeNames])
  have hsource : editor.firstPresent? ["sourceNodeId", "source"] = fields.firstPresent? ["sourceNodeId", "source"] := by
    apply h.firstPresent?_eq "sourceNodeId" "source" <;> cases handles <;> decide
  have htarget : editor.firstPresent? ["targetNodeId", "target"] = fields.firstPresent? ["targetNodeId", "target"] := by
    apply h.firstPresent?_eq "targetNodeId" "target" <;> cases handles <;> decide
  have hout : editor.firstPresent? ["sourcePortId", "sourcePort", "sourceHandle"] =
      fields.firstPresent? ["sourcePortId", "sourcePort", "sourceHandle"] := by
    apply h.firstPresent?_eq "sourcePortId" (if handles then "sourceHandle" else "sourcePort") <;>
      cases handles <;> decide
  have hin : editor.firstPresent? ["targetPortId", "targetPort", "targetHandle"] =
      fields.firstPresent? ["targetPortId", "targetPort", "targetHandle"] := by
    apply h.firstPresent?_eq "targetPortId" (if handles then "targetHandle" else "targetPort") <;>
      cases handles <;> decide
  simp only [foldEdgeFields, Fields.merge_nil, hid, hsource, hout, htarget, hin, htype]

theorem foldEdge_eq (h : ShowsEdge handles fields editor) :
    foldEdge place (.obj editor) = foldEdge place (.obj fields) := by
  have hfields : fields.get? "data" = none := get?_eq_none_of_canonical h.canonical (by decide)
  have heditor : editor.get? "data" = none := by
    apply h.renames.unused <;> cases handles <;> decide
  simp [foldEdge, Json.fields?, dataFields_of_none hfields, dataFields_of_none heditor, h.foldEdgeFields_eq]

end ShowsEdge

theorem foldItems_congr {field : String} {f : Place → Json → Except ShapeError Json} {shows : Json → Json → Prop}
    {items drawn : List Json} (hitems : List.Forall₂ shows items drawn)
    (h : ∀ place item drawn, shows item drawn → f place drawn = f place item) (i : Nat) :
    foldItems field f i drawn = foldItems field f i items := by
  induction hitems generalizing i with
  | nil => rfl
  | cons hitem _ ih => rw [foldItems, foldItems, h _ _ _ hitem, ih]

theorem foldNode_of_shows (place : Place) (item drawn : Json)
    (h : ShowsObject (fun fields editor => ∃ data, ShowsNode fields editor data) item drawn) :
    foldNode place drawn = foldNode place item := by
  cases h with
  | object h =>
      obtain ⟨data, h⟩ := h
      exact h.foldNode_eq
  | other => rfl

theorem foldEdge_of_shows (place : Place) (item drawn : Json)
    (h : ShowsObject (fun fields editor => ∃ handles, ShowsEdge handles fields editor) item drawn) :
    foldEdge place drawn = foldEdge place item := by
  cases h with
  | object h =>
      obtain ⟨handles, h⟩ := h
      exact h.foldEdge_eq
  | other => rfl

theorem fold_of_editorForm {d e : Json} (h : EditorForm d e) : fold e = fold d := by
  cases h with
  | other => rfl
  | @object fields editor h =>
      obtain ⟨-, hname, hdescription, hnodes, hedges⟩ := h
      have hroot : foldRoot editor = foldRoot fields := by
        funext nodes edges
        simp [foldRoot, Fields.getD_eq, hname, hdescription]
      simp only [fold, Json.fields?, Fields.getD_eq, hroot]
      generalize fields.get? "nodes" = nodes at hnodes
      generalize editor.get? "nodes" = drawnNodes at hnodes
      generalize fields.get? "edges" = edges at hedges
      generalize editor.get? "edges" = drawnEdges at hedges
      cases hnodes with
      | none => rfl
      | @some v _ hnodes =>
          cases hnodes with
          | other hv =>
              -- The list of nodes is asked for first, so that the edges do not matter.
              cases v with
              | arr items => exact absurd rfl (hv items)
              | _ => rfl
          | @list items drawn hitems =>
              have hnodes : foldItems "nodes" foldNode 0 drawn = foldItems "nodes" foldNode 0 items :=
                foldItems_congr hitems foldNode_of_shows 0
              cases hedges with
              | none => simp only [Option.getD_none, hnodes]
              | @some w _ hedges =>
                  cases hedges with
                  | @list items drawn hitems =>
                      have hedges : foldItems "edges" foldEdge 0 drawn = foldItems "edges" foldEdge 0 items :=
                        foldItems_congr hitems foldEdge_of_shows 0
                      simp only [Option.getD_some, hnodes, hedges]
                  | other hw =>
                      cases w with
                      | arr items => exact absurd rfl (hw items)
                      | _ => rfl

end Document

namespace Pipeline

open Document (EditorForm)

/-- A document and its form in the editor load as the same pipeline, or are refused for the same cause. -/
theorem ofJson_editorForm {d e : Json} (h : EditorForm d e) :
    (∃ p, ofJson d = .ok p ∧ ofJson e = .ok p) ∨
      ∃ cause, ofJson d = .error (.shape cause) ∧ ofJson e = .error (.shape cause) := by
  have hsame : ofJson e = ofJson d := by
    rw [ofJson, ofJson, Document.fold_of_editorForm h]
  rw [hsame]
  rcases ofJson_ok_or_shape d with ⟨p, hp⟩ | ⟨cause, hcause⟩
  · exact .inl ⟨p, hp, hp⟩
  · exact .inr ⟨cause, hcause, hcause⟩

def outline : Json := .obj [
  ("nodes", .arr [
    .obj [("id", .str "ask"), ("category", .str "input"), ("kind", .null), ("config", .null),
      ("outputs", .arr [.obj [("id", .str "file"), ("dataType", .str "pdf")]])],
    .obj [("id", .str "say"), ("label", .str "Say"), ("category", .str "output"),
      ("inputs", .arr [.obj [("id", .str "text"), ("dataType", .str "text")]])]]),
  ("edges", .arr [
    .obj [("id", .str "e1"), ("sourceNodeId", .str "ask"), ("sourcePortId", .str "file"),
      ("targetNodeId", .str "say"), ("targetPortId", .str "text"), ("dataType", .null)],
    .obj [("id", .str "e2"), ("sourceNodeId", .str "ask"), ("sourcePortId", .str "file"),
      ("targetNodeId", .str "say"), ("targetPortId", .str "text")]])]

/-- The same document in an editor, which keeps a view, positions and styles with it. The ports of one edge are
handles, those of the other are not. -/
def canvas : Json := .obj [
  ("viewport", .obj [("zoom", .int 2)]),
  ("edges", .arr [
    .obj [("id", .str "e1"), ("source", .str "ask"), ("target", .str "say"), ("sourceHandle", .str "file"),
      ("targetHandle", .str "text"), ("dataType", .null), ("style", .obj [])],
    .obj [("selected", .bool true), ("id", .str "e2"), ("source", .str "ask"), ("sourcePort", .str "file"),
      ("target", .str "say"), ("targetPort", .str "text")]]),
  ("nodes", .arr [
    .obj [("id", .str "ask"), ("position", .obj [("x", .int 0)]), ("type", .str "input"),
      ("data", .obj [("kind", .null), ("color", .str "red"), ("config", .null),
        ("outputs", .arr [.obj [("id", .str "file"), ("dataType", .str "pdf")]])])],
    .obj [("id", .str "say"), ("type", .str "output"), ("selected", .bool false),
      ("data", .obj [("inputs", .arr [.obj [("id", .str "text"), ("dataType", .str "text")]]),
        ("label", .str "Say")])]])]

theorem editorForm_canvas : EditorForm outline canvas := by
  refine .object ⟨by decide, rfl, rfl, .some (.list ?_), .some (.list ?_)⟩
  · refine .cons (.object ⟨_, by decide, ⟨?_, ?_⟩, rfl, by decide, ⟨?_, ?_⟩⟩)
      (.cons (.object ⟨_, by decide, ⟨?_, ?_⟩, rfl, by decide, ⟨?_, ?_⟩⟩) .nil) <;>
    simp [Document.nodeKeys, Document.movedKeys]
  · refine .cons (.object ⟨true, by decide, ?_, ?_⟩) (.cons (.object ⟨false, by decide, ?_, ?_⟩) .nil) <;>
    simp [Document.edgeNames, Document.recognisedEdgeKeys, Document.edgeKeys]

theorem canvas_loads_like_outline : EditorForm outline canvas ∧
    ∃ p, ofJson outline = .ok p ∧ ofJson canvas = .ok p ∧ p.edges.map Edge.dataType = [.pdf, .pdf] := by
  refine ⟨editorForm_canvas, ?_⟩
  have hloads : ∃ p, ofJson outline = .ok p ∧ p.edges.map Edge.dataType = [.pdf, .pdf] := ⟨_, rfl, rfl⟩
  obtain ⟨p, hp, htypes⟩ := hloads
  rcases ofJson_editorForm editorForm_canvas with ⟨q, hq, hcanvas⟩ | ⟨cause, hcause, -⟩
  · cases hp.symm.trans hq
    exact ⟨p, hp, hcanvas, htypes⟩
  · cases hp.symm.trans hcause

end Pipeline

end Dataflow
