import Dataflow.Json.Printer
import Dataflow.Proofs.Layout
import Dataflow.Proofs.Numerals
import Dataflow.Proofs.Proper

namespace Dataflow

namespace Script

inductive Due where
  | value
  | itemOrEnd
  | keyOrEnd
  | colon
  | commaOrEnd
  /-- The numeral of a negative number. -/
  | numeral

inductive Reader where
  /-- Within these lists and mappings, innermost first. -/
  | within (frames : List Json.Frame) (due : Due)
  | done (v : Json)
  | refused

namespace Reader

def deliver (v : Json) : List Json.Frame → Reader
  | [] => .done v
  | .array items :: frames => .within (.array (v :: items) :: frames) .commaOrEnd
  | .object fields key :: frames => .within (.object (fields.set key v) key :: frames) .commaOrEnd

def deliver? (v : Option Json) (frames : List Json.Frame) : Reader :=
  match v with
  | some v => deliver v frames
  | none => .refused

def constant? : String → Option Json
  | "None" => some .null
  | "True" => some (.bool true)
  | "False" => some (.bool false)
  | _ => none

def stepValue (frames : List Json.Frame) : Token → Reader
  | .name s => deliver? (constant? s) frames
  | .number s => deliver? (number? false s) frames
  | .text s => deliver (.str s) frames
  | .mark '-' => .within frames .numeral
  | .mark '[' => .within (.array [] :: frames) .itemOrEnd
  | .mark '\x7b' => .within (.object [] "" :: frames) .keyOrEnd
  | _ => .refused

def close : List Json.Frame → Token → Reader
  | .array items :: frames, .mark ']' => deliver (.arr items.reverse) frames
  | .object fields _ :: frames, .mark '\x7d' => deliver (.obj fields) frames
  | _, _ => .refused

/-- Takes the next token. A comma may stand after the last item, too. -/
def step : Reader → Token → Reader
  | .within frames .value, t => stepValue frames t
  | .within frames .itemOrEnd, t => if t = .mark ']' then close frames t else stepValue frames t
  | .within frames .keyOrEnd, t =>
    match t, frames with
    | .text key, .object fields _ :: outer => .within (.object fields key :: outer) .colon
    | _, _ => close frames t
  | .within frames .colon, t => if t = .mark ':' then .within frames .value else .refused
  | .within frames .commaOrEnd, t =>
    if t = .mark ',' then
      match frames with
      | .array _ :: _ => .within frames .itemOrEnd
      | .object .. :: _ => .within frames .keyOrEnd
      | [] => .refused
    else close frames t
  | .within frames .numeral, t =>
    match t with
    | .number s => deliver? (number? true s) frames
    | _ => .refused
  | _, _ => .refused

def value? : Reader → Option Json
  | .done v => some v
  | _ => none

end Reader

def readTokens (ts : List Token) : Option Json := (ts.foldl Reader.step (.within [] .value)).value?

def readLiteral (s : String) : Option Json := readTokens (tokens s)

open Reader

/-- The text is a literal of the value, wherever a value is due. -/
structure Reads (s : String) (v : Json) : Prop where
  lexes : Lexes s (tokens s)
  value : ∀ frames, (tokens s).foldl step (.within frames .value) = deliver v frames
  item : ∀ frames, (tokens s).foldl step (.within frames .itemOrEnd) = deliver v frames

theorem Reads.readLiteral {s : String} {v : Json} (h : Reads s v) : readLiteral s = some v := by
  rw [Script.readLiteral, readTokens, h.value]
  rfl

theorem reads_of_lexes {s : String} {ts : List Token} {v : Json} (hs : Lexes s ts) (hts : ts.head? ≠ some (.mark ']'))
    (hne : ts ≠ []) (h : ∀ frames, ts.foldl step (.within frames .value) = deliver v frames) : Reads s v := by
  obtain rfl := hs.tokens
  refine ⟨hs, h, fun frames => ?_⟩
  obtain ⟨t, ts, ht⟩ := List.exists_cons_of_ne_nil hne
  have hitem : step (.within frames .itemOrEnd) t = step (.within frames .value) t :=
    if_neg fun hend => hts (by rw [ht, hend]; rfl)
  rw [← h frames, ht, List.foldl_cons, List.foldl_cons, hitem]

theorem reads_quoted (s : String) : Reads (Text.quoted s) (.str s) :=
  reads_of_lexes (lexes_quoted s) (by simp) (by simp) fun _ => rfl

theorem reads_signed {s t : String} {negative : Bool} {v : Json} (hs : Lexes s (signed negative t))
    (ht : number? negative t = some v) : Reads s v := by
  cases negative with
  | false =>
      refine reads_of_lexes hs (by simp [signed]) (by simp [signed]) fun frames => ?_
      simp [signed, step, stepValue, ht, deliver?]
  | true =>
      refine reads_of_lexes hs (by simp [signed]) (by simp [signed]) fun frames => ?_
      simp [signed, step, stepValue, ht, deliver?]

theorem reads_constant {s : String} {v : Json} (hne : s ≠ "") (hs : s.toList.all isNameChar = true)
    (hfirst : s.toList.head?.any Char.isDigit = false) (hv : constant? s = some v) : Reads s v :=
  reads_of_lexes (lexes_name hne (List.all_eq_true.1 hs) hfirst) (by simp) (by simp) fun frames => by
    simp [step, stepValue, hv, deliver?]

section

variable {α : Type} {l : List α} {text : α → String}

/-- Parts with commas between them, and the mark at their end. The machine is in a state of `due` where a part may
follow and in one of `after` where a part is complete, with the parts so far. -/
theorem fold_separated (due after : List α → Reader → Prop) (result : Reader) {last : String} {mark : Token}
    (hlast : Closed last [mark]) (hfirst : ∃ c ∈ delimiters, last.toList.head? = some c)
    (htext : ∀ a ∈ l, Lexes (text a) (tokens (text a)))
    (hpart : ∀ front a back r, l = front ++ a :: back → due front r →
      after (front ++ [a]) ((tokens (text a)).foldl step r))
    (hcomma : ∀ front r, after front r → due front (step r (.mark ',')))
    (hdue : ∀ r, due l r → step r mark = result) (hafter : ∀ r, after l r → step r mark = result)
    (front back : List α) (h : l = front ++ back) :
    ∃ ts, Closed (", ".intercalate (back.map text) ++ last) ts ∧ ∀ r, due front r → ts.foldl step r = result := by
  induction back generalizing front with
  | nil =>
      refine ⟨[mark], hlast, fun r hr => ?_⟩
      exact hdue r (by rwa [h, List.append_nil])
  | cons a back ih =>
      have ha : Lexes (text a) (tokens (text a)) := htext a (by simp [h])
      have hl : l = front ++ [a] ++ back := by simp [h]
      cases back with
      | nil =>
          refine ⟨tokens (text a) ++ [mark], ha.closed_append hlast hfirst, fun r hr => ?_⟩
          rw [List.foldl_append]
          exact hafter _ (by simpa [hl] using hpart front a [] r h hr)
      | cons b back =>
          obtain ⟨ts, hclosed, hts⟩ := ih (front ++ [a]) hl
          have hsep : Closed ", " [.mark ','] := closed_of_run rfl
          refine ⟨tokens (text a) ++ [.mark ','] ++ ts, ?_, fun r hr => ?_⟩
          · rw [List.map_cons, List.map_cons, String.intercalate_cons_cons, String.append_assoc]
            exact (ha.closed_append hsep ⟨',', by decide, rfl⟩).append hclosed
          · rw [List.foldl_append, List.foldl_append]
            exact hts _ (hcomma _ _ (hpart front a _ r h hr))

theorem reads_bracketed {opening : String} {mark : Token} {v : Json} {rest : String} (hopening : Closed opening [mark])
    (hmark : mark ≠ .mark ']')
    (h : ∀ frames, ∃ ts, Closed rest ts ∧ ts.foldl step (stepValue frames mark) = deliver v frames) :
    Reads (opening ++ rest) v := by
  obtain ⟨ts, hts, _⟩ := h []
  refine reads_of_lexes (hopening.append hts).lexes (by simpa using hmark) (by simp) fun frames => ?_
  obtain ⟨us, hus, hfold⟩ := h frames
  obtain rfl : ts = us := hts.lexes.tokens.symm.trans hus.lexes.tokens
  exact hfold

theorem reads_list {value : α → Json} (h : ∀ a ∈ l, Reads (text a) (value a)) :
    Reads ("[" ++ ", ".intercalate (l.map text) ++ "]") (.arr (l.map value)) := by
  have hlast : Closed "]" [.mark ']'] := closed_of_run rfl
  rw [String.append_assoc]
  refine reads_bracketed (closed_of_run rfl) (by decide) fun frames => ?_
  refine (fold_separated
    (fun front r => r = .within (.array (front.map value).reverse :: frames) .itemOrEnd)
    (fun front r => r = .within (.array (front.map value).reverse :: frames) .commaOrEnd)
    (deliver (.arr (l.map value)) frames) hlast ⟨']', by decide, rfl⟩ (fun a ha => (h a ha).lexes)
    ?_ ?_ ?_ ?_ [] l rfl).imp fun ts hts => ⟨hts.1, hts.2 _ rfl⟩
  · rintro front a back _ rfl rfl
    rw [(h a (by simp)).item]
    simp [deliver]
  · rintro front _ rfl
    simp [step]
  · rintro _ rfl
    simp [step, close]
  · rintro _ rfl
    simp [step, close]

variable {key : α → String} {value : α → Json}

theorem reads_entry {k s : String} {v : Json} (h : Reads s v) :
    Lexes (Text.quoted k ++ ": " ++ s) (tokens (Text.quoted k ++ ": " ++ s)) ∧ ∀ fields old frames,
      k ∉ fields.map Prod.fst →
        (tokens (Text.quoted k ++ ": " ++ s)).foldl step (.within (.object fields old :: frames) .keyOrEnd) =
          .within (.object (fields ++ [(k, v)]) k :: frames) .commaOrEnd := by
  have hcolon : Closed ": " [.mark ':'] := closed_of_run rfl
  have hlexes := ((lexes_quoted k).closed_append hcolon ⟨':', by decide, rfl⟩).lexes_append h.lexes
  rw [hlexes.tokens]
  refine ⟨hlexes, ?_⟩
  intro fields old frames hkey
  have hfront : [Token.text k, .mark ':'].foldl step (.within (.object fields old :: frames) .keyOrEnd) =
      .within (.object fields k :: frames) .value := by simp [step]
  rw [List.foldl_append, List.singleton_append, hfront, h.value, deliver, Json.Fields.set_of_notMem hkey]

theorem reads_mapping (hkeys : (l.map key).Nodup) (h : ∀ a ∈ l, Reads (text a) (value a)) :
    Reads ("\x7b" ++ ", ".intercalate (l.map fun a => Text.quoted (key a) ++ ": " ++ text a) ++ "\x7d")
      (.obj (l.map fun a => (key a, value a))) := by
  have hlast : Closed "\x7d" [.mark '\x7d'] := closed_of_run rfl
  rw [String.append_assoc]
  refine reads_bracketed (closed_of_run rfl) (by decide) fun frames => ?_
  refine (fold_separated
    (fun front r => ∃ old, r = .within (.object (front.map fun a => (key a, value a)) old :: frames) .keyOrEnd)
    (fun front r => ∃ old, r = .within (.object (front.map fun a => (key a, value a)) old :: frames) .commaOrEnd)
    (deliver (.obj (l.map fun a => (key a, value a))) frames) hlast ⟨'\x7d', by decide, rfl⟩
    (fun a ha => (reads_entry (h a ha)).1) ?_ ?_ ?_ ?_ [] l rfl).imp fun ts hts => ⟨hts.1, hts.2 _ ⟨"", rfl⟩⟩
  · rintro front a back _ rfl ⟨old, rfl⟩
    have hnew : key a ∉ (front.map fun a => (key a, value a)).map Prod.fst := by
      rw [List.map_append, List.map_cons, List.nodup_append'] at hkeys
      intro hmem
      exact hkeys.2.2 (by simpa using hmem) List.mem_cons_self
    exact ⟨key a, by simp [(reads_entry (h a (by simp))).2 _ _ _ hnew]⟩
  · rintro front _ ⟨old, rfl⟩
    exact ⟨old, by simp [step]⟩
  · rintro _ ⟨old, rfl⟩
    simp [step, close]
  · rintro _ ⟨old, rfl⟩
    simp [step, close]

end

end Script

namespace Json

mutual

/-- The value with the text of each number that is not finite in its place. -/
def settled : Json → Json
  | .float x => if x.isFinite then .float x else .str x.toText
  | .arr items => .arr (settledItems items)
  | .obj fields => .obj (settledFields fields)
  | v => v

def settledItems : List Json → List Json
  | [] => []
  | v :: rest => settled v :: settledItems rest

def settledFields : List (String × Json) → List (String × Json)
  | [] => []
  | (k, v) :: rest => (k, settled v) :: settledFields rest

end

theorem settledItems_eq (items : List Json) : settledItems items = items.map settled := by
  induction items with
  | nil => rfl
  | cons v rest ih => rw [settledItems, ih, List.map_cons]

theorem settledFields_eq (fields : Fields) :
    settledFields fields = fields.map fun entry => (entry.1, entry.2.settled) := by
  induction fields with
  | nil => rfl
  | cons entry rest ih => rw [settledFields, ih, List.map_cons]

theorem literalItems_eq (style : NonFinite) (items : List Json) :
    literalItems style items = items.map (literalWith style) := by
  induction items with
  | nil => rfl
  | cons v rest ih => rw [literalItems, ih, List.map_cons]

theorem literalFields_eq (style : NonFinite) (fields : Fields) :
    literalFields style fields = fields.map fun entry => Text.quoted entry.1 ++ ": " ++ literalWith style entry.2 := by
  induction fields with
  | nil => rfl
  | cons entry rest ih => rw [literalFields, ih, List.map_cons]

theorem allFinite_eq (items : List Json) : allFinite items = items.all isFinite := by
  induction items with
  | nil => rfl
  | cons v rest ih => rw [allFinite, ih, List.all_cons]

theorem fieldsFinite_eq (fields : Fields) : fieldsFinite fields = fields.all fun entry => entry.2.isFinite := by
  induction fields with
  | nil => rfl
  | cons entry rest ih => rw [fieldsFinite, ih, List.all_cons]

theorem Proper.settled_eq {v : Json} (hv : v.Proper) (h : v.isFinite = true) : v.settled = v := by
  induction hv with
  | null | bool | int | str => rw [settled] <;> simp
  | float =>
      rw [isFinite] at h
      rw [settled, if_pos h]
  | arr hitems ih =>
      rw [isFinite, allFinite_eq, List.all_eq_true] at h
      rw [settled, settledItems_eq, List.map_congr_left fun v hv => ih v hv (h v hv), List.map_id']
  | @obj fields hkeys hfields ih =>
      rw [isFinite, fieldsFinite_eq, List.all_eq_true] at h
      have hself : ∀ entry ∈ fields, (entry.1, entry.2.settled) = entry := fun entry hentry =>
        Prod.ext rfl (ih entry hentry (h entry hentry))
      rw [settled, settledFields_eq, List.map_congr_left hself, List.map_id']

open Script

theorem reads_float {x : Binary64} (h : x.Proper) : Reads (literal (.float x)) (settled (.float x)) := by
  rw [literal, literalWith, NonFinite.text, settled]
  cases x with
  | finite negative m e =>
      obtain ⟨s, hlexes, hvalue⟩ := lexes_float h negative
      exact reads_signed hlexes hvalue
  | infinite negative => exact reads_quoted _
  | nan => exact reads_quoted _

theorem Proper.reads_literal {v : Json} (hv : v.Proper) : Reads v.literal v.settled := by
  induction hv with
  | null => exact reads_constant (by decide) (by decide) (by decide) rfl
  | bool b =>
      cases b with
      | false => exact reads_constant (by decide) (by decide) (by decide) rfl
      | true => exact reads_constant (by decide) (by decide) (by decide) rfl
  | int n =>
      obtain ⟨negative, s, hlexes, hvalue⟩ := lexes_int n
      exact reads_signed hlexes hvalue
  | float h => exact reads_float h
  | str s => exact reads_quoted s
  | arr hitems ih =>
      rw [literal, literalWith, literalItems_eq, settled, settledItems_eq]
      exact reads_list ih
  | obj hkeys hfields ih =>
      rw [literal, literalWith, literalFields_eq, settled, settledFields_eq]
      exact reads_mapping hkeys ih

end Json

namespace Script

open Reader

/-- The name that a statement assigns to, and the value of the literal that it assigns. -/
def readAssigned (s : String) : Option (String × Json) :=
  match tokens s with
  | .name target :: rest => (readTokens (rest.dropWhile (· ≠ .mark '=')).tail).map (target, ·)
  | _ => none

theorem closed_lines {lines : List String} (h : ∀ line ∈ lines, Closed line (tokens line)) :
    Closed ("\n".intercalate lines) (lines.flatMap tokens) := by
  have hbreak : Closed "\n" [] := closed_of_run rfl
  induction lines with
  | nil => exact closed_of_run rfl
  | cons line lines ih =>
      obtain ⟨hline, hlines⟩ := List.forall_mem_cons.1 h
      cases lines with
      | nil => simpa using hline
      | cons next lines =>
          rw [String.intercalate_cons_cons, List.flatMap_cons]
          simpa using (hline.append hbreak).append (ih hlines)

def configEntry (b : BoundNode) : String × Json := (b.node.id, (Json.obj b.node.config).settled)

def configLine (b : BoundNode) : String := s!"    {Text.quoted b.node.id}: {(Json.obj b.node.config).literal},"

theorem closed_configLine {b : BoundNode} (h : (Json.obj b.node.config).Proper) :
    Closed (configLine b) (tokens (configLine b)) ∧ ∀ (fields : Json.Fields) old, b.node.id ∉ fields.map Prod.fst →
      (tokens (configLine b)).foldl step (.within [.object fields old] .keyOrEnd) =
        .within [.object (fields ++ [configEntry b]) b.node.id] .keyOrEnd := by
  have hindent : Closed "    " [] := closed_of_run rfl
  have hcomma : Closed "," [.mark ','] := closed_of_run rfl
  obtain ⟨hlexes, hfold⟩ := reads_entry (k := b.node.id) h.reads_literal
  have hline : configLine b = "    " ++ (Text.quoted b.node.id ++ ": " ++ (Json.obj b.node.config).literal ++ ",") := by
    simp only [← String.append_assoc]
    rfl
  have hclosed := hindent.append (hlexes.closed_append hcomma ⟨',', by decide, rfl⟩)
  rw [← hline, List.nil_append] at hclosed
  rw [hclosed.lexes.tokens]
  refine ⟨hclosed, ?_⟩
  intro fields old hid
  rw [List.foldl_append, hfold fields old [] hid]
  rfl

theorem readAssigned_nodeConfigs {bound : List BoundNode} (hids : (bound.map fun b => b.node.id).Nodup)
    (h : ∀ b ∈ bound, (Json.obj b.node.config).Proper) :
    readAssigned ("\n".intercalate (nodeConfigs bound)) = some ("NODE_CONFIGS", .obj (bound.map configEntry)) := by
  have hopen : Closed "NODE_CONFIGS: Dict[str, Dict[str, Any]] = \x7b" ([.name "NODE_CONFIGS", .mark ':',
      .name "Dict", .mark '[', .name "str", .mark ',', .name "Dict", .mark '[', .name "str", .mark ',', .name "Any",
      .mark ']', .mark ']', .mark '=', .mark '\x7b']) := closed_of_run rfl
  have hend : Closed "\x7d" [.mark '\x7d'] := closed_of_run rfl
  have hlines : ∀ line ∈ nodeConfigs bound, Closed line (tokens line) := by
    have hself : ∀ {line ts}, Closed line ts → Closed line (tokens line) := fun h => h.lexes.tokens.symm ▸ h
    simp only [nodeConfigs, List.forall_mem_append, List.forall_mem_map, List.forall_mem_singleton]
    exact ⟨⟨hself hopen, fun b hb => (closed_configLine (h b hb)).1⟩, hself hend⟩
  -- Each line adds the entry of its node.
  have hfold : ∀ front back, bound = front ++ back → ∀ old,
      ((back.map configLine ++ ["\x7d"]).flatMap tokens).foldl step
        (.within [.object (front.map configEntry) old] .keyOrEnd) = .done (.obj (bound.map configEntry)) := by
    intro front back
    induction back generalizing front with
    | nil =>
        intro hbound old
        simp [hbound, hend.lexes.tokens, step, close, deliver]
    | cons b back ih =>
        intro hbound old
        have hnew : b.node.id ∉ (front.map configEntry).map Prod.fst := by
          rw [hbound, List.map_append, List.map_cons, List.nodup_append'] at hids
          intro hmem
          exact hids.2.2 (by simpa [configEntry] using hmem) List.mem_cons_self
        rw [List.map_cons, List.cons_append, List.flatMap_cons, List.foldl_append,
          (closed_configLine (h b (by simp [hbound]))).2 _ _ hnew]
        simpa using ih (front ++ [b]) (by simp [hbound]) b.node.id
  have htokens := (closed_lines hlines).lexes.tokens
  rw [nodeConfigs, List.append_assoc, List.flatMap_append, List.flatMap_singleton, hopen.lexes.tokens] at htokens
  have hbody : readTokens (.mark '\x7b' :: ((bound.map configLine ++ ["\x7d"]).flatMap tokens)) =
      some (.obj (bound.map configEntry)) := by
    rw [readTokens, List.foldl_cons]
    exact congrArg value? (hfold [] bound rfl "")
  rw [readAssigned, nodeConfigs, List.append_assoc, htokens]
  exact congrArg (Option.map ("NODE_CONFIGS", ·)) hbody

theorem tokens_lookup (id : String) : tokens ("    " ++ s!"config = NODE_CONFIGS[{Text.quoted id}]") =
    [.name "config", .mark '=', .name "NODE_CONFIGS", .mark '[', .text id, .mark ']'] := by
  have hindent : Closed "    " [] := closed_of_run rfl
  have hfront : Closed "config = NODE_CONFIGS[" [.name "config", .mark '=', .name "NODE_CONFIGS", .mark '['] :=
    closed_of_run rfl
  have hend : Closed "]" [.mark ']'] := closed_of_run rfl
  have hlookup := (hfront.lexes_append (lexes_quoted id)).closed_append hend ⟨']', by decide, rfl⟩
  exact (hindent.append hlookup).lexes.tokens

theorem quoted_injective {s t : String} (h : Text.quoted s = Text.quoted t) : s = t := by
  have hs := (lexes_quoted s).tokens
  rw [h, (lexes_quoted t).tokens] at hs
  simpa using hs.symm

end Script

namespace Pipeline

open Script

theorem procedureLines_lookup (pair : BoundNode × Template) : ∃ remark rest, procedureLines pair =
    pair.1.signature :: remark :: ("    " ++ s!"config = NODE_CONFIGS[{Text.quoted pair.1.node.id}]") :: rest := by
  have hlookup : Line.render ⟨1, s!"config = NODE_CONFIGS[{Text.quoted pair.1.node.id}]"⟩ =
      "    " ++ s!"config = NODE_CONFIGS[{Text.quoted pair.1.node.id}]" := by
    simp [Line.render, ToString.toString]
  rw [Template.procedureLines_eq pair.2 pair.1, ← hlookup]
  exact ⟨_, _, rfl⟩

/-- The literal of a value that was read from text is read as this value, to its end and with the members in order,
so that two values of finite numbers have two literals. The table of configurations has one entry for each node, in
the order of the script, and the key that the procedure of a node looks up is that of its own configuration. -/
theorem literals_read_back :
    (∀ (text : String) (v : Json), Json.parse text = .ok v → v.Proper) ∧
    (∀ v : Json, v.Proper → readLiteral v.literal = some v.settled ∧ (v.isFinite = true → v.settled = v)) ∧
    (∀ v w : Json, v.Proper → w.Proper → v.isFinite = true → w.isFinite = true → v.literal = w.literal → v = w) ∧
    ∀ (p : Pipeline) (order : List String) (registry : Registry) (s : Settings) (timestamp : String) (e : Emission),
      (p.emit order registry s timestamp).value = .ok e → (∀ n ∈ p.nodes, (Json.obj n.config).Proper) →
      ∃ (pairs : List (BoundNode × Template)) (before after : List String), pairs.map Prod.fst = e.bound ∧
        e.lines = before ++ nodeConfigs e.bound ++ ["", "", proceduresHeading, ""] ++
          pairs.flatMap procedureLines ++ after ∧
        (e.bound.map fun b => b.node.id) = order ∧ (e.bound.map fun b => Text.quoted b.node.id).Nodup ∧
        readAssigned ("\n".intercalate (nodeConfigs e.bound)) =
          some ("NODE_CONFIGS", .obj (e.bound.map configEntry)) ∧
        ∀ pair ∈ pairs, ∃ remark lookup rest, procedureLines pair = pair.1.signature :: remark :: lookup :: rest ∧
          tokens lookup =
            [.name "config", .mark '=', .name "NODE_CONFIGS", .mark '[', .text pair.1.node.id, .mark ']'] ∧
          Json.Fields.get? (e.bound.map configEntry) pair.1.node.id = some (Json.obj pair.1.node.config).settled := by
  refine ⟨fun text v => Json.proper_parse, fun v hv => ⟨hv.reads_literal.readLiteral, hv.settled_eq⟩, ?_, ?_⟩
  · intro v w hv hw hv' hw' h
    have hread := hv.reads_literal.readLiteral
    rw [h, hw.reads_literal.readLiteral, hv.settled_eq hv', hw.settled_eq hw'] at hread
    exact (Option.some.inj hread).symm
  · intro p order registry s timestamp e he hproper
    obtain ⟨hperm, table, hbinds⟩ := emit_eq_ok he
    have hids : (e.bound.map fun b => b.node.id) = order := by
      rw [← map_id_nodesIn hperm.subset, ← hbinds.map_node, List.map_map]
      rfl
    have hnodup : (e.bound.map fun b => b.node.id).Nodup := by
      rw [hids]
      exact hperm.nodup_iff.2 p.nodes_nodup
    have hconfigs : ∀ b ∈ e.bound, (Json.obj b.node.config).Proper := by
      intro b hb
      have hmem : b.node ∈ p.nodesIn order := hbinds.map_node ▸ List.mem_map_of_mem hb
      exact hproper b.node (mem_nodesIn.1 hmem).1
    obtain ⟨pairs, hemission, hpairs, -⟩ := emit_pairs he
    obtain ⟨usesRuntime, -, hlines⟩ := emission_sections p s timestamp pairs
    rw [← hemission, hpairs] at hlines
    refine ⟨pairs, _, _, hpairs, hlines, hids, ?_, readAssigned_nodeConfigs hnodup hconfigs, ?_⟩
    · have hquoted := hnodup.map fun _ _ h => quoted_injective h
      rwa [List.map_map] at hquoted
    · intro pair hpair
      obtain ⟨remark, rest, heq⟩ := procedureLines_lookup pair
      refine ⟨remark, _, rest, heq, tokens_lookup _, ?_⟩
      have hb : pair.1 ∈ e.bound := hpairs ▸ List.mem_map_of_mem hpair
      refine Json.Fields.get?_of_mem ?_ (List.mem_map_of_mem hb)
      rwa [List.map_map]

/-- Keys and texts of all kinds of quotes, and the least number above zero. -/
def tangled : Json.Fields := [
  ("it's", .arr [.float (.finite true 1 (-1074)), .int (-12), .str "\"it's\"", .null]),
  ("", .obj [("a\nb", .str "\\"), ("\x00", .float (.finite false 7205759403792794 (-56)))])]

def quoting : Pipeline where
  nodes := [
    ⟨"it's", .input, "Question", tangled, [], [], none, .null, List.nodup_nil, List.nodup_nil⟩,
    ⟨"\\", .input, "Question", [], [], [], none, .null, List.nodup_nil, List.nodup_nil⟩]

theorem proper_tangled : (Json.obj tangled).Proper := by
  have hleast : Binary64.Canonical 1 (-1074) := ⟨by norm_num, by decide, by decide, .inr rfl⟩
  have htenth : Binary64.Canonical 7205759403792794 (-56) := ⟨by norm_num, by decide, by decide, .inl (by norm_num)⟩
  refine .obj (by decide) ?_
  simp only [tangled, List.forall_mem_cons]
  refine ⟨.arr ?_, .obj (by decide) ?_, by simp⟩
  · simp only [List.forall_mem_cons]
    exact ⟨.float hleast, .int _, .str _, .null, by simp⟩
  · simp only [List.forall_mem_cons]
    exact ⟨.str _, .float htenth, by simp⟩

theorem quoting_read_back : readLiteral (Json.obj tangled).literal = some (.obj tangled) ∧
    ∃ e fields, (quoting.emit ["\\", "it's"] .standard {} "now").value = .ok e ∧ e.bound.length = 2 ∧
      readAssigned ("\n".intercalate (nodeConfigs e.bound)) = some ("NODE_CONFIGS", .obj fields) ∧
      fields.map Prod.fst = ["\\", "it's"] := by
  obtain ⟨-, hread, -, hemit⟩ := literals_read_back
  obtain ⟨hliteral, hfinite⟩ := hread _ proper_tangled
  have hquoting : ∃ e, (quoting.emit ["\\", "it's"] .standard {} "now").value = .ok e ∧ e.bound.length = 2 :=
    Steps.exists_ok_of_any (by decide)
  obtain ⟨e, he, hlength⟩ := hquoting
  have hproper : ∀ n ∈ quoting.nodes, (Json.obj n.config).Proper := by
    simp only [quoting, List.forall_mem_cons]
    exact ⟨proper_tangled, .obj (by simp) (by simp), by simp⟩
  obtain ⟨_, _, _, _, _, hids, _, htable, _⟩ := hemit quoting _ _ _ _ e he hproper
  refine ⟨by rw [hliteral, hfinite rfl], e, _, he, hlength, htable, ?_⟩
  rw [List.map_map, ← hids]
  rfl

end Pipeline

end Dataflow
