import Dataflow.Document.Shape
import Dataflow.Proofs.Fields
import Dataflow.Proofs.Steps
import Dataflow.Proofs.Vocabulary

namespace Dataflow

namespace Json

def IsObject (q : Fields → Prop) (v : Json) : Prop := ∃ fields, v = .obj fields ∧ q fields

def IsString (v : Json) : Prop := ∃ s, v = .str s

namespace Fields

variable {fields : Fields} {key : String} {v default : Json} {q : Json → Prop}

def Has (fields : Fields) (key : String) (q : Json → Prop) : Prop := ∃ v, fields.get? key = some v ∧ q v

/-- The field may be missing; if it is there, its value satisfies `q`. -/
def May (fields : Fields) (key : String) (q : Json → Prop) : Prop := ∀ v, fields.get? key = some v → q v

theorem has_iff_getD (h : ¬q .null) : fields.Has key q ↔ q (fields.getD key .null) := by
  unfold Has
  rw [getD_eq]
  cases fields.get? key <;> simp [h]

theorem May.of_get? (h : fields.get? key = some v) (hv : q v) : fields.May key q := by
  intro w hw
  rw [h] at hw
  exact Option.some.inj hw ▸ hv

theorem Has.exists (h : fields.Has key q) : ∃ v, fields.get? key = some v := by
  obtain ⟨v, hv, -⟩ := h
  exact ⟨v, hv⟩

theorem getD_null_eq (hv : v ≠ .null) : fields.getD key .null = v ↔ fields.get? key = some v := by
  rw [getD_eq]
  cases fields.get? key <;> simp [hv.symm]

theorem may_iff_getD (h : q default) : fields.May key q ↔ q (fields.getD key default) := by
  unfold May
  rw [getD_eq]
  cases fields.get? key <;> simp [h]

end Fields

end Json

namespace Document

open Json (Fields)

/-- The value is a list of objects, each with an id that none before it has. -/
def IsMembers (q : Fields → String → Prop) (v : Json) : Prop :=
  ∃ items ids, v = .arr items ∧ List.Forall₂ (fun item id => item.IsObject (q · id)) items ids ∧ ids.Nodup

structure IsPort (fields : Fields) (id : String) : Prop where
  id_eq : fields.get? "id" = some (.str id)
  dataType : fields.Has "dataType" fun v => ∃ t : DataType, t.Spelled v

structure IsNode (fields : Fields) (id : String) : Prop where
  id_eq : fields.get? "id" = some (.str id)
  category : fields.Has "category" fun v => ∃ c : Category, c.Spelled v
  kind : fields.May "kind" fun v => v = .null ∨ ∃ k : Kind, k.Spelled v
  label : fields.May "label" Json.IsString
  config : fields.May "config" (Json.IsObject fun _ => True)
  inputs : fields.May "inputs" (IsMembers IsPort)
  outputs : fields.May "outputs" (IsMembers IsPort)

structure IsEdge (fields : Fields) : Prop where
  id : fields.Has "id" Json.IsString
  sourceNode : fields.Has "sourceNodeId" Json.IsString
  sourcePort : fields.Has "sourcePortId" Json.IsString
  targetNode : fields.Has "targetNodeId" Json.IsString
  targetPort : fields.Has "targetPortId" Json.IsString
  dataType : fields.May "dataType" fun v => ∃ t : DataType, t.Spelled v

structure IsDocument (fields : Fields) : Prop where
  name : fields.May "name" Json.IsString
  nodes : fields.Has "nodes" (IsMembers IsNode)
  edges : fields.Has "edges" fun v => ∃ items, v = .arr items ∧ ∀ item ∈ items, item.IsObject IsEdge

variable {place : Place} {noun : Noun} {v : Json} {fields : Fields} {seen : List String} {id : String}

theorem require_eq_ok {keys : List String} {u : Unit} :
    require fields keys place = .ok u ↔ ∀ key ∈ keys, ∃ v, fields.get? key = some v := by
  unfold require
  split
  · rename_i key hkey
    simp only [reduceCtorEq, false_iff]
    intro h
    obtain ⟨v, hv⟩ := h key (List.mem_of_find?_eq_some hkey)
    simpa [hv] using List.find?_some hkey
  · rename_i hnone
    simpa [Option.ne_none_iff_exists'] using hnone

theorem asString_eq_ok {s : String} : asString place v = .ok s ↔ v = .str s := by
  cases v <;> simp [asString]

theorem asList_eq_ok {items : List Json} : asList place v = .ok items ↔ v = .arr items := by
  cases v <;> simp [asList]

theorem asFields_eq_ok : asFields place v = .ok fields ↔ v = .obj fields := by
  cases v <;> simp [asFields, Json.fields?]

theorem asMember_eq_ok : asMember place noun v = .ok fields ↔ v = .obj fields := by
  cases v <;> simp [asMember, Json.fields?]

theorem asWord_eq_ok {α : Type} {read : Json → Except Unrecognised α} {w : α} :
    asWord place read v = .ok w ↔ read v = .ok w := by
  rw [asWord, Steps.mapError_eq_ok]

theorem freshId_eq_ok : freshId place noun seen v = .ok id ↔ v = .str id ∧ id ∉ seen := by
  unfold freshId
  rw [Steps.bind_eq_ok]
  simp only [asString_eq_ok]
  constructor
  · rintro ⟨s, rfl, h⟩
    split at h
    · cases h
    · cases h
      exact ⟨rfl, by assumption⟩
  · rintro ⟨rfl, h⟩
    exact ⟨id, rfl, by rw [if_neg h]; rfl⟩

theorem readMembers_eq_ok {q : Fields → String → Prop}
    {read : Place → List String → Json → Except ShapeError String}
    (h : ∀ place seen v id, read place seen v = .ok id ↔ v.IsObject (q · id) ∧ id ∉ seen)
    {i : Nat} {items : List Json} {u : Unit} :
    readMembers read place i seen items = .ok u ↔
      ∃ ids, List.Forall₂ (fun item id => item.IsObject (q · id)) items ids ∧ ids.Nodup ∧ ∀ id ∈ ids, id ∉ seen := by
  -- The ids seen grow with every member, so that those of the rest are distinct from it too.
  induction items generalizing i seen with
  | nil => simp [readMembers]
  | cons v items ih =>
      rw [readMembers, Steps.bind_eq_ok]
      simp only [h, ih, List.forall₂_cons_left_iff]
      constructor
      · rintro ⟨id, ⟨hv, hid⟩, ids, hitems, hnodup, hseen⟩
        refine ⟨id :: ids, ⟨id, ids, hv, hitems, rfl⟩, ?_, ?_⟩
        · refine List.nodup_cons.2 ⟨?_, hnodup⟩
          intro hmem
          exact hseen id hmem List.mem_cons_self
        · intro k hk
          rcases List.mem_cons.1 hk with rfl | hk
          · exact hid
          · exact fun hmem => hseen k hk (List.mem_cons_of_mem _ hmem)
      · rintro ⟨_, ⟨id, ids, hv, hitems, rfl⟩, hnodup, hseen⟩
        obtain ⟨hfresh, hnodup⟩ := List.nodup_cons.1 hnodup
        refine ⟨id, ⟨hv, hseen id List.mem_cons_self⟩, ids, hitems, hnodup, ?_⟩
        intro k hk hmem
        rcases List.mem_cons.1 hmem with rfl | hmem
        · exact hfresh hk
        · exact hseen k (List.mem_cons_of_mem _ hk) hmem

theorem readPort_eq_ok : readPort place seen v = .ok id ↔ v.IsObject (IsPort · id) ∧ id ∉ seen := by
  simp only [readPort, Steps.bind_eq_ok, asMember_eq_ok, require_eq_ok, freshId_eq_ok, asWord_eq_ok,
    DataType.read_eq_ok, Steps.pure_eq_ok]
  constructor
  · rintro ⟨fields, rfl, -, -, _, ⟨hid, hseen⟩, t, ht, rfl⟩
    refine ⟨⟨fields, rfl, ?_, ?_⟩, hseen⟩
    · exact (Fields.getD_null_eq (by simp)).1 hid
    · exact (Fields.has_iff_getD (by simp [DataType.Spelled])).2 ⟨t, ht⟩
  · rintro ⟨⟨fields, rfl, hid, htype⟩, hseen⟩
    obtain ⟨t, ht⟩ := (Fields.has_iff_getD (by simp [DataType.Spelled])).1 htype
    exact ⟨fields, rfl, (), by simp [hid, htype.exists], id, ⟨(Fields.getD_null_eq (by simp)).2 hid, hseen⟩, t, ht, rfl⟩

theorem readPorts_eq_ok {u : Unit} : readPorts place v = .ok u ↔ IsMembers IsPort v := by
  simp only [readPorts, Steps.bind_eq_ok, asList_eq_ok, readMembers_eq_ok (fun _ _ _ _ => readPort_eq_ok),
    IsMembers]
  constructor
  · rintro ⟨items, rfl, ids, hitems, hnodup, -⟩
    exact ⟨items, ids, rfl, hitems, hnodup⟩
  · rintro ⟨items, ids, rfl, hitems, hnodup⟩
    exact ⟨items, rfl, ids, hitems, hnodup, by simp⟩

theorem isMembers_nil {q : Fields → String → Prop} : IsMembers q (.arr []) :=
  ⟨[], [], rfl, .nil, List.nodup_nil⟩

theorem readNode_eq_ok : readNode place seen v = .ok id ↔ v.IsObject (IsNode · id) ∧ id ∉ seen := by
  simp only [readNode, Steps.bind_eq_ok, asMember_eq_ok, require_eq_ok, freshId_eq_ok, asWord_eq_ok, asString_eq_ok,
    asFields_eq_ok, readPorts_eq_ok, Category.read_eq_ok, Steps.pure_eq_ok]
  constructor
  · rintro ⟨fields, rfl, -, -, _, ⟨hid, hseen⟩, c, hc, kind, hkind, s, hs, config, hconfig, -, hin, -, hout, rfl⟩
    refine ⟨⟨fields, rfl, ?_, ?_, ?_, ?_, ?_, ?_, ?_⟩, hseen⟩
    · exact (Fields.getD_null_eq (by simp)).1 hid
    · exact (Fields.has_iff_getD (by simp [Category.Spelled])).2 ⟨c, hc⟩
    · exact (Fields.may_iff_getD (.inl rfl)).2 (Kind.exists_read_eq_ok.1 ⟨kind, hkind⟩)
    · exact (Fields.may_iff_getD ⟨"", rfl⟩).2 ⟨s, hs⟩
    · exact (Fields.may_iff_getD ⟨[], rfl, trivial⟩).2 ⟨config, hconfig, trivial⟩
    · exact (Fields.may_iff_getD isMembers_nil).2 hin
    · exact (Fields.may_iff_getD isMembers_nil).2 hout
  · rintro ⟨⟨fields, rfl, hid, hcategory, hkind, hlabel, hconfig, hin, hout⟩, hseen⟩
    obtain ⟨c, hc⟩ := (Fields.has_iff_getD (by simp [Category.Spelled])).1 hcategory
    obtain ⟨s, hs⟩ := (Fields.may_iff_getD ⟨"", rfl⟩).1 hlabel
    obtain ⟨config, hconfig, -⟩ := (Fields.may_iff_getD ⟨[], rfl, trivial⟩).1 hconfig
    obtain ⟨kind, hkind⟩ := Kind.exists_read_eq_ok.2 ((Fields.may_iff_getD (.inl rfl)).1 hkind)
    exact ⟨fields, rfl, (), by simp [hid, hcategory.exists], id, ⟨(Fields.getD_null_eq (by simp)).2 hid, hseen⟩,
      c, hc, kind, hkind, s, hs, config, hconfig, (), (Fields.may_iff_getD isMembers_nil).1 hin, (),
      (Fields.may_iff_getD isMembers_nil).1 hout, rfl⟩

theorem readTexts_eq_ok {keys : List String} {u : Unit} :
    readTexts place fields keys = .ok u ↔ ∀ key ∈ keys, fields.Has key Json.IsString := by
  induction keys with
  | nil => simp [readTexts]
  | cons key keys ih =>
      simp only [readTexts, Steps.bind_eq_ok, asString_eq_ok, ih, List.forall_mem_cons, Fields.has_iff_getD
        (by simp [Json.IsString] : ¬Json.IsString .null), Json.IsString]
      exact ⟨fun ⟨s, hs, hkeys⟩ => ⟨⟨s, hs⟩, hkeys⟩, fun ⟨⟨s, hs⟩, hkeys⟩ => ⟨s, hs, hkeys⟩⟩

theorem texts_iff : (∀ key ∈ edgeTexts, fields.Has key Json.IsString) ↔
    fields.Has "id" Json.IsString ∧ fields.Has "sourceNodeId" Json.IsString ∧ fields.Has "sourcePortId" Json.IsString ∧
      fields.Has "targetNodeId" Json.IsString ∧ fields.Has "targetPortId" Json.IsString := by
  simp [edgeTexts]

theorem readEdge_eq_ok {u : Unit} : readEdge place v = .ok u ↔ v.IsObject IsEdge := by
  simp only [readEdge, Steps.bind_eq_ok, asMember_eq_ok, require_eq_ok, readTexts_eq_ok]
  constructor
  · rintro ⟨fields, rfl, -, -, -, htexts, htype⟩
    obtain ⟨hid, hsource, hout, htarget, hin⟩ := texts_iff.1 htexts
    refine ⟨fields, rfl, hid, hsource, hout, htarget, hin, ?_⟩
    intro word hword
    simp only [hword, Steps.bind_eq_ok, asWord_eq_ok, DataType.read_eq_ok] at htype
    obtain ⟨t, ht, -⟩ := htype
    exact ⟨t, ht⟩
  · rintro ⟨fields, rfl, hid, hsource, hout, htarget, hin, htype⟩
    have htexts := texts_iff.2 ⟨hid, hsource, hout, htarget, hin⟩
    refine ⟨fields, rfl, (), fun key hkey => (htexts key hkey).exists, (), htexts, ?_⟩
    cases hword : Fields.get? fields "dataType" with
    | none => rfl
    | some word =>
        obtain ⟨t, ht⟩ := htype word hword
        simp only [Steps.bind_eq_ok, asWord_eq_ok, DataType.read_eq_ok]
        exact ⟨t, ht, rfl⟩

theorem readEdges_eq_ok {i : Nat} {items : List Json} {u : Unit} :
    readEdges i items = .ok u ↔ ∀ item ∈ items, item.IsObject IsEdge := by
  induction items generalizing i with
  | nil => simp [readEdges]
  | cons v items ih =>
      simp only [readEdges, Steps.bind_eq_ok, readEdge_eq_ok, ih, List.forall_mem_cons]
      exact ⟨fun ⟨_, h⟩ => h, fun h => ⟨(), h⟩⟩

theorem read_eq_ok : read v = .ok fields ↔ v = .obj fields ∧ IsDocument fields := by
  have hobject : ∀ fields', v.fields?.elim (.error .notAnObject) Except.ok = (.ok fields' : Except ShapeError Fields) ↔
      v = .obj fields' := by
    intro fields'
    cases v <;> simp [Json.fields?]
  simp only [read, Steps.bind_eq_ok, hobject, require_eq_ok, asString_eq_ok, asList_eq_ok,
    readMembers_eq_ok (fun _ _ _ _ => readNode_eq_ok), readEdges_eq_ok, Steps.pure_eq_ok]
  constructor
  · rintro ⟨fields', rfl, -, -, name, hname, nodes, hnodes, edges, hedges, -, ⟨ids, hitems, hnodup, -⟩, -, hall, rfl⟩
    refine ⟨rfl, ?_, ?_, ?_⟩
    · exact (Fields.may_iff_getD ⟨"", rfl⟩).2 ⟨name, hname⟩
    · exact (Fields.has_iff_getD (by simp [IsMembers])).2 ⟨nodes, ids, hnodes, hitems, hnodup⟩
    · exact (Fields.has_iff_getD (by simp)).2 ⟨edges, hedges, hall⟩
  · rintro ⟨rfl, hname, hnodes, hedges⟩
    have hkeys : ∀ key ∈ ["nodes", "edges"], ∃ v, fields.get? key = some v := by
      simp [hnodes.exists, hedges.exists]
    obtain ⟨name, hname⟩ := (Fields.may_iff_getD ⟨"", rfl⟩).1 hname
    obtain ⟨nodes, ids, hnodes, hitems, hnodup⟩ := (Fields.has_iff_getD (by simp [IsMembers])).1 hnodes
    obtain ⟨edges, hedges, hall⟩ := (Fields.has_iff_getD (by simp)).1 hedges
    exact ⟨fields, rfl, (), hkeys, name, hname, nodes, hnodes, edges, hedges, (), ⟨ids, hitems, hnodup, by simp⟩, (),
      hall, rfl⟩

end Document

end Dataflow
