import Dataflow.Proofs.Bodies

namespace Dataflow

theorem Category.fixed_cases (c : Category) : (c.fixedParams, c.fixedArgs) ∈
    [([], []), (["inputs: Dict[str, Any]"], ["inputs"]), (["rag: Any"], ["rag"])] := by
  cases c <;> decide

theorem Category.items_fixed (c : Category) :
    List.Forall₂ (Script.IsItem Script.readParam) c.fixedParams (c.fixedArgs.map (·, false)) ∧
      List.Forall₂ (Script.IsItem Script.readArgument) c.fixedArgs (c.fixedArgs.map (none, ·)) := by
  have hcases := c.fixed_cases
  simp only [List.mem_cons, Prod.mk.injEq, List.not_mem_nil, or_false] at hcases
  rcases hcases with ⟨hparams, hargs⟩ | ⟨hparams, hargs⟩ | ⟨hparams, hargs⟩ <;> rw [hparams, hargs]
  · exact ⟨.nil, .nil⟩
  · exact ⟨.cons ⟨_, Script.lexes_of_run rfl, rfl, by decide, rfl⟩ .nil,
      .cons ⟨_, Script.lexes_of_run rfl, rfl, by decide, rfl⟩ .nil⟩
  · exact ⟨.cons ⟨_, Script.lexes_of_run rfl, rfl, by decide, rfl⟩ .nil,
      .cons ⟨_, Script.lexes_of_run rfl, rfl, by decide, rfl⟩ .nil⟩

namespace BoundNode

open Script

variable {b : BoundNode}

theorem Every.read_signature (h : b.Every IsName) :
    readHeader (tokens b.signature) = some ⟨b.procedure, b.node.category.fixedArgs, b.params.map Prod.snd⟩ := by
  have hports : List.Forall₂ (IsItem readParam) (b.params.map fun entry => s!"{entry.2}: Any = None")
      ((b.params.map Prod.snd).map (·, true)) := by
    rw [List.map_map, List.forall₂_map_left_iff, List.forall₂_map_right_iff, List.forall₂_same]
    intro entry hentry
    have htype : Lexes ": Any = None" [.mark ':', .name "Any", .mark '=', .name "None"] := lexes_of_run rfl
    exact ⟨_, (h.params entry hentry).1.append htype ⟨':', by decide, rfl⟩, rfl, by simp, rfl⟩
  obtain ⟨parts, hlexes, hparts, hread⟩ := lexes_items (List.rel_append b.node.category.items_fixed.1 hports)
  have hdef : Closed "def " [.name "def"] := closed_of_run rfl
  have hopen : Closed "(" [.mark '('] := closed_of_run rfl
  have hend : Closed ") -> Any:" [.mark ')', .mark '-', .mark '>', .name "Any", .mark ':'] := closed_of_run rfl
  have hname := (hdef.lexes_append h.procedure.1).closed_append hopen ⟨'(', by decide, rfl⟩
  have hsignature := (hname.lexes_append hlexes).closed_append hend ⟨')', by decide, rfl⟩
  have htokens : tokens b.signature = _ := hsignature.lexes.tokens
  rw [htokens]
  simpa using readHeader_eq hparts hread _

def callSite (b : BoundNode) (targets : List String) : CallSite :=
  ⟨targets, b.procedure, b.node.category.fixedArgs, b.invocation.args.map fun arg => (arg.param, arg.var)⟩

theorem Every.lexes_invocation (h : b.Every IsName) : ∃ ts, Lexes b.invocation.text ts ∧ Whole ['='] ts ∧
    ∀ targets, readCall targets ts = some (b.callSite targets) := by
  have hkeywords : List.Forall₂ (IsItem readArgument) (b.invocation.args.map fun arg => s!"{arg.param}={arg.var}")
      ((b.invocation.args.map fun arg => (arg.param, arg.var)).map fun entry => (some entry.1, entry.2)) := by
    rw [List.map_map, List.forall₂_map_left_iff, List.forall₂_map_right_iff, List.forall₂_same]
    intro arg harg
    obtain ⟨⟨port, var?⟩, hentry, harg⟩ := List.mem_filterMap.1 harg
    obtain ⟨var, hvar, rfl⟩ := Option.map_eq_some_iff.1 harg
    have hequals : Closed "=" [.mark '='] := closed_of_run rfl
    have hleft := (h.param port isName_none).1.closed_append hequals ⟨'=', by decide, rfl⟩
    exact ⟨_, hleft.lexes_append (h.inputVars _ hentry var hvar).1, rfl, by simp, rfl⟩
  obtain ⟨parts, hlexes, hparts, hread⟩ := lexes_items (List.rel_append b.node.category.items_fixed.2 hkeywords)
  have hopen : Closed "(" [.mark '('] := closed_of_run rfl
  have hclose : Closed ")" [.mark ')'] := closed_of_run rfl
  have hname := h.procedure.1.closed_append hopen ⟨'(', by decide, rfl⟩
  have hcall := (hname.lexes_append hlexes).closed_append hclose ⟨')', by decide, rfl⟩
  rw [List.append_assoc, List.append_assoc] at hcall
  refine ⟨_, hcall.lexes, ?_, fun targets => readCall_eq hparts hread⟩
  have hbracketed : Whole ['='] (.mark '(' :: ([.mark ','].intercalate parts ++ [.mark ')'])) :=
    (whole_items hparts).bracketed (by decide)
  exact Whole.append rfl hbracketed

theorem Every.read_command (h : b.Every IsName) {targets : List String} (htargets : ∀ target ∈ targets, IsName target)
    (hne : targets ≠ []) :
    readCommand (tokens (", ".intercalate targets ++ s!" = {b.invocation.text}")) = some (b.callSite targets) ∧
      assigned (tokens (", ".intercalate targets ++ s!" = {b.invocation.text}")) = targets := by
  obtain ⟨ts, hts, hwhole, hread⟩ := h.lexes_invocation
  have hequals : Closed " = " [.mark '='] := closed_of_run rfl
  have hnames : Lexes (", ".intercalate targets) ([.mark ','].intercalate (targets.map ([.name ·]))) := by
    have htokens : ∀ target ∈ targets, tokens target = [.name target] := fun target h => (htargets target h).1.tokens
    rw [← List.map_congr_left htokens]
    exact lexes_intercalate fun target htarget => htokens target htarget ▸ (htargets target htarget).1
  have hline := hnames.append (hequals.lexes_append hts) ⟨' ', by decide, by simp⟩
  have htokens : tokens (", ".intercalate targets ++ s!" = {b.invocation.text}") = _ := hline.tokens
  rw [htokens, List.singleton_append, ← hread targets]
  exact readCommand_assigned hne hwhole

theorem Every.read_commands (h : b.Every IsName) {p : Pipeline} {t u : SymbolTable}
    (hb : Binding.Bound p t b.node b u) :
    ∃ command, b.commands = [command] ∧ readCommand (tokens command.text) = some (b.callSite b.targets) ∧
      assigned (tokens command.text) = b.targets := by
  have htargets := h.targets
  by_cases hcat : b.node.category = .output
  · obtain ⟨var, hcommands, hvar, -⟩ := hb.commands_of_output hcat
    have htext : (Command.result var b.invocation).text = ", ".intercalate [var] ++ s!" = {b.invocation.text}" :=
      String.append_assoc
    rw [hvar] at htargets ⊢
    refine ⟨_, hcommands, ?_⟩
    rw [htext]
    exact h.read_command htargets (List.cons_ne_nil _ _)
  · obtain ⟨hcommands, hvars, -⟩ := hb.commands_of_not_output hcat
    rw [← hvars] at hcommands
    refine ⟨_, hcommands, ?_⟩
    cases hlist : b.targets with
    | nil =>
        -- Without variables to assign, the line is the call alone.
        obtain ⟨ts, hts, hwhole, hread⟩ := h.lexes_invocation
        rw [Command.text, hts.tokens, ← hread []]
        exact readCommand_call hwhole
    | cons target rest =>
        rw [Command.text, ← hlist]
        · exact h.read_command htargets (by simp [hlist])
        · simp

end BoundNode

namespace Script

theorem assignments_append (front back : List String) :
    assignments (front ++ back) = assignments front ++ assignments back :=
  List.flatMap_append

theorem read_callLines {b : BoundNode} (h : b.Every IsName) {p : Pipeline} {t u : SymbolTable}
    (hb : Binding.Bound p t b.node b u) :
    sites (callLines b) = [b.callSite b.targets] ∧ assignments (callLines b) = b.targets := by
  obtain ⟨command, hcommands, hsite, hassigned⟩ := h.read_commands hb
  have hlines : callLines b = List.map Line.render
      [⟨1, ""⟩, ⟨1, "# " ++ Text.oneLine s!"{b.node.label} ({b.node.id})"⟩, ⟨1, command.text⟩] := by
    rw [callLines_eq, BoundNode.call, hcommands]
    rfl
  have hblank : readCommand (tokens "") = none ∧ assigned (tokens "") = [] := ⟨rfl, rfl⟩
  have hcomment : readCommand [] = none ∧ assigned [] = [] := ⟨rfl, rfl⟩
  simp [hlines, sites, assignments, tokens_render, tokens_comment, hblank, hcomment, hsite, hassigned]

theorem read_calls {bound : List BoundNode} (hsites : ∀ b ∈ bound, sites (callLines b) = [b.callSite b.targets])
    (hassigned : ∀ b ∈ bound, assignments (callLines b) = b.targets) :
    sites (bound.flatMap callLines) = (bound.map fun b => b.callSite b.targets) ∧
      assignments (bound.flatMap callLines) = bound.flatMap BoundNode.targets := by
  constructor
  · rw [sites, List.filterMap_flatMap, List.map_eq_flatMap]
    exact List.flatMap_congr hsites
  · rw [assignments, List.flatMap_assoc]
    exact List.flatMap_congr hassigned

theorem assignments_returnLines {bound : List BoundNode} (h : ∀ b ∈ bound, b.Every IsName) :
    assignments ((returnLines bound).map Line.render) = [] := by
  have hentries : ∀ entry ∈ results bound, assigned (tokens s!"{Text.quoted entry.1}: {entry.2},") = [] := by
    intro entry hentry
    obtain ⟨b, hb, hentry⟩ := List.mem_filterMap.1 hentry
    obtain ⟨var, hvar, rfl⟩ := Option.map_eq_some_iff.1 hentry
    have hcolon : Closed ": " [.mark ':'] := closed_of_run rfl
    have hcomma : Closed "," [.mark ','] := closed_of_run rfl
    have hlabel := (lexes_quoted b.node.label).closed_append hcolon ⟨':', by decide, rfl⟩
    have hline := (hlabel.lexes_append ((h b hb).resultVar var hvar).1).closed_append hcomma ⟨',', by decide, rfl⟩
    have htokens : tokens s!"{Text.quoted b.node.label}: {var}," = _ := hline.lexes.tokens
    rw [htokens]
    rfl
  refine List.flatMap_eq_nil_iff.2 (List.forall_mem_map.2 fun l hl => ?_)
  rw [tokens_render]
  unfold returnLines at hl
  split at hl
  · rw [List.mem_singleton.1 hl]
    rfl
  · rcases List.mem_append.1 hl with hl | hl
    · rcases List.mem_cons.1 hl with rfl | hl
      · rfl
      · obtain ⟨entry, hentry, rfl⟩ := List.mem_map.1 hl
        exact hentries entry hentry
    · rw [List.mem_singleton.1 hl]
      rfl

theorem assignments_runOpening (usesRuntime : Bool) (s : Settings) :
    assignments ((runOpening usesRuntime s).map Line.render) = "inputs" :: (if usesRuntime then ["rag"] else []) := by
  have hfirst : assignments (List.map Line.render [
      ⟨0, "def run_pipeline(inputs: Optional[Dict[str, Any]] = None) -> Dict[str, Any]:"⟩,
      ⟨1, "\"\"\"Run every node in dependency order and return the results by output label.\"\"\""⟩,
      ⟨1, "inputs = dict(inputs or \x7b\x7d)"⟩]) = ["inputs"] := by
    simp only [assignments, List.map_cons, List.map_nil, List.flatMap_cons, List.flatMap_nil, tokens_render]
    rfl
  have hrag : assigned (tokens s!"rag = {s.runtimeClass}.get_instance()") = ["rag"] := by
    have hset : Closed "rag = " [.name "rag", .mark '='] := closed_of_run rfl
    have htext : s!"rag = {s.runtimeClass}.get_instance()" = "rag = " ++ (s.runtimeClass ++ ".get_instance()") :=
      String.append_assoc
    have hname : Whole ['='] [.name "rag"] := rfl
    rw [htext, tokens, String.toList_append, hset]
    exact assigned_mark hname _
  rw [runOpening, List.map_append, assignments_append, hfirst]
  cases usesRuntime with
  | false => rfl
  | true => simp [assignments, tokens_render, hrag]

end Script

namespace Template

open Script

variable {b : BoundNode}

theorem read_returned {t : Template} {needs names : List String} (hnames : ∀ x ∈ names, IsName x)
    (hnone : "None" ∈ names) (h : ∀ result ∈ (t.body b).results, Phrase needs names result.2) :
    readReturn (tokens s!"return {t.returned b}") = some ((t.expressions b).map tokens) := by
  have hword : Closed "return " [.name "return"] := closed_of_run rfl
  have hphrases : ∀ expr ∈ t.expressions b,
      Lexes expr (tokens expr) ∧ Whole [','] (tokens expr) ∧ tokens expr ≠ [] := by
    intro expr hexpr
    obtain ⟨_, ts, hmade, hwhole, hsome⟩ := phrase_expressions hnone h expr hexpr
    have hts := (hmade.lexes hnames).1
    rw [hts.tokens]
    exact ⟨hts, level_mono (by decide) hwhole, hsome⟩
  have hlist := lexes_intercalate fun expr hexpr => (hphrases expr hexpr).1
  have htokens : tokens s!"return {t.returned b}" = _ := t.returned_eq b ▸ (hword.lexes_append hlist).tokens
  have hcut : cut ',' 0 ([.mark ','].intercalate ((t.expressions b).map tokens)) = (t.expressions b).map tokens :=
    cut_intercalate (by simpa using t.expressions_ne_nil b)
      (List.forall_mem_map.2 fun expr hexpr => (hphrases expr hexpr).2.1)
  rw [htokens, List.singleton_append, readReturn, hcut, if_neg]
  intro hempty
  obtain ⟨expr, hexpr, hnil⟩ := List.mem_map.1 hempty
  exact (hphrases expr hexpr).2.2 hnil

theorem procedureLines_sections (t : Template) (h : b.Every IsName) : ∃ body last,
    procedureLines (b, t) = b.signature :: body ++ [last, "", ""] ∧
      readReturn (tokens last) = some ((t.expressions b).map tokens) ∧
      Sealed t.needs ("\n".intercalate body ++ "\n") ∧
      Sealed ("return" :: t.needs) ("\n".intercalate (body ++ [last]) ++ "\n") := by
  have hoperands := h.operands isName_none
  have hmade : (t.body b).Made t.needs b.operands [] := t.made_body b
  -- No token goes on after a newline, so the lines can be read one by one.
  have hbody : ∀ line ∈ (Stmt.laidAll 1 (b.opening ++ (t.body b).stmts)).map Line.render,
      Sealed t.needs (line ++ "\n") := by
    refine List.forall_mem_map.2 fun l hl => sealed_render ?_
    rw [Stmt.laidAll_eq_flatMap] at hl
    obtain ⟨s, hs, hl⟩ := List.mem_flatMap.1 hl
    exact (t.made_stmts b s hs).sealed_laid hoperands 1 l hl
  have hreturn : Sealed ("return" :: t.needs) (Line.render ⟨1, s!"return {t.returned b}"⟩ ++ "\n") := by
    obtain ⟨_, _, hlast, -⟩ := t.made_return b
    exact sealed_render (hlast.line hoperands)
  refine ⟨_, _, procedureLines_eq t b, ?_, sealed_lines ?_ hbody, sealed_lines (by simp) ?_⟩
  · rw [tokens_render, read_returned hoperands List.mem_cons_self hmade.results]
  · simp [BoundNode.opening, Stmt.laidAll, Stmt.laid]
  · refine List.forall_mem_append.2 ⟨fun line hline => ?_, List.forall_mem_singleton.2 hreturn⟩
    exact (hbody line hline).weaken (List.subset_cons_self _ _)

end Template

namespace BoundNode

open Script

theorem forall₂_ports {α : Type} {entries : List (String × α)} {ports : List Port}
    (h : entries.map Prod.fst = ports.map Port.id) :
    List.Forall₂ (fun port a => (port.id, a) ∈ entries) ports (entries.map Prod.snd) := by
  have hsame : List.Forall₂ Eq (entries.map Prod.fst) (ports.map Port.id) := by
    rw [List.forall₂_eq_eq_eq]
    exact h
  rw [List.forall₂_map_left_iff, List.forall₂_map_right_iff] at hsame
  rw [List.forall₂_map_right_iff]
  refine ((List.forall₂_and_left entries ports).2 ⟨fun _ => id, hsame⟩).flip.imp ?_
  rintro port entry ⟨hentry, hid⟩
  exact hid ▸ hentry

theorem keywords_sublist {b : BoundNode} (hports : b.params.map Prod.fst = b.inputVars.map Prod.fst)
    (hnodup : (b.params.map Prod.fst).Nodup) :
    (b.invocation.args.map Call.Argument.param).Sublist (b.params.map Prod.snd) := by
  -- The call has its arguments in the order of the ports, but none for a port without a variable.
  have hvars : ∀ vars : List (String × Option String),
      ((vars.filterMap fun entry => entry.2.map (Call.Argument.mk entry.1 (b.param entry.1) ·)).map
        Call.Argument.param).Sublist ((vars.map Prod.fst).map b.param) := by
    intro vars
    induction vars with
    | nil => exact .slnil
    | cons entry vars ih =>
        obtain ⟨port, var⟩ := entry
        cases var with
        | none => exact ih.cons _
        | some var => exact ih.cons_cons _
  rw [← map_lookup hnodup "None", hports]
  exact hvars b.inputVars

/-- The procedure of a node and its call agree: in the arguments, and in the values that are returned and assigned. -/
structure Agrees (b : BoundNode) (t : Template) (header : Header) (returned : List (List Token)) (site : CallSite) :
    Prop where
  callee : site.callee = header.name
  positional : site.positional = header.fixed
  ports : header.ports = b.params.map Prod.snd
  keywords : (site.keywords.map Prod.fst).Nodup ∧ site.keywords.map Prod.fst ⊆ header.ports
  result : b.node.category = .output → ∃ var expr, site.targets = [var] ∧ returned = [expr]
  nothing : b.node.category ≠ .output → b.node.outputs = [] → site.targets = [] ∧ returned = [[.name "None"]]
  outputs : b.node.category ≠ .output → b.node.outputs ≠ [] →
    List.Forall₂ (fun port var => (port.id, var) ∈ b.outputVars) b.node.outputs site.targets ∧
      List.Forall₂ (fun port expr => ∃ text, (port.id, text) ∈ (t.body b).results ∧ tokens text = expr)
        b.node.outputs returned

theorem agrees_of_bound {b : BoundNode} {p : Pipeline} {table more : SymbolTable} {t : Template}
    (hb : Binding.Bound p table b.node b more) (hspelled : Binding.Spelled b)
    (ht : t.returnsResult = true ↔ b.node.category = .output) :
    b.Agrees t ⟨b.procedure, b.node.category.fixedArgs, b.params.map Prod.snd⟩ ((t.expressions b).map tokens)
      (b.callSite b.targets) := by
  have hports : b.params.map Prod.fst = b.node.inputs.map Port.id := by
    rw [hspelled.params, Binding.map_fst_paramsFor]
  have hkeys : b.params.map Prod.fst = b.inputVars.map Prod.fst := by
    rw [hports, hb.inputVars, List.map_map]
    simp
  have hsublist := keywords_sublist hkeys (hports ▸ b.node.inputs_nodup)
  have hfresh := (Binding.paramsFor_fresh [] (b.node.inputs.map Port.id)).1
  rw [← hspelled.params] at hfresh
  have hnames : (b.callSite b.targets).keywords.map Prod.fst = b.invocation.args.map Call.Argument.param := by
    rw [callSite, List.map_map]
    rfl
  refine ⟨rfl, rfl, rfl, hnames ▸ ⟨hfresh.sublist hsublist, hsublist.subset⟩, ?_, ?_, ?_⟩
  · intro hcat
    obtain ⟨var, -, htargets, -⟩ := hb.commands_of_output hcat
    have hresults := t.results_ports b
    rw [if_pos (ht.2 hcat)] at hresults
    obtain ⟨⟨port, expr⟩, hexpr, rfl⟩ := List.map_eq_singleton_iff.1 hresults
    refine ⟨var, tokens expr, htargets, ?_⟩
    rw [Template.expressions, if_neg (by simp [ht.2 hcat]), hexpr]
    rfl
  · intro hcat hnil
    obtain ⟨-, htargets, -⟩ := hb.commands_of_not_output hcat
    have hvars := hb.ports
    rw [hnil, List.map_nil, List.map_eq_nil_iff] at hvars
    refine ⟨by rw [callSite, htargets, hvars, List.map_nil], ?_⟩
    rw [Template.expressions, if_pos ⟨by simpa using mt ht.1 hcat, hnil⟩, List.map_singleton, isName_none.1.tokens]
  · intro hcat hne
    obtain ⟨-, htargets, -⟩ := hb.commands_of_not_output hcat
    have hresults := t.results_ports b
    rw [if_neg (mt ht.1 hcat)] at hresults
    constructor
    · rw [callSite, htargets]
      exact forall₂_ports hb.ports
    · rw [Template.expressions, if_neg fun hnone => hne hnone.2, List.forall₂_map_right_iff]
      exact (forall₂_ports hresults).imp fun port expr hexpr => ⟨expr, hexpr, rfl⟩

theorem Every.read_back {b : BoundNode} (h : b.Every IsName) {p : Pipeline} {table more : SymbolTable} {t : Template}
    (hb : Binding.Bound p table b.node b more) (hspelled : Binding.Spelled b)
    (ht : Registry.standard.lookup b.node = .ok t) : ∃ body last declared returned site,
      procedureLines (b, t) = b.signature :: body ++ [last, "", ""] ∧
      readHeader (tokens b.signature) = some declared ∧ readReturn (tokens last) = some returned ∧
      sites (callLines b) = [site] ∧ b.Agrees t declared returned site ∧
      .name "return" ∉ tokens ("\n".intercalate body ++ "\n") ∧
      .fault ∉ tokens ("\n".intercalate (body ++ [last]) ++ "\n") ∧
      ∀ x ∈ ["rag", "inputs"],
        .name x ∈ tokens ("\n".intercalate (body ++ [last]) ++ "\n") → x ∈ declared.fixed := by
  have hreturn : "return" ∉ b.node.category.fixedArgs := by cases b.node.category <;> decide
  have hwatched : ∀ x ∈ ["rag", "inputs"], x ∈ watched ∧ x ≠ "return" := by decide
  obtain ⟨hneeds, hreturns⟩ := Template.of_lookup_standard ht
  obtain ⟨body, last, hbody, hlast, hcode, huses⟩ := t.procedureLines_sections h
  refine ⟨body, last, _, _, _, hbody, h.read_signature, hlast, (read_callLines h hb).1,
    agrees_of_bound hb hspelled hreturns, ?_, huses.tokens.2, ?_⟩
  · intro hmem
    exact hreturn (hneeds (hcode.tokens.1 _ (by decide) hmem))
  · intro x hx hmem
    obtain ⟨hx, hne⟩ := hwatched x hx
    exact hneeds ((List.mem_cons.1 (huses.tokens.1 x hx hmem)).resolve_left hne)

end BoundNode

theorem Category.rag_mem_fixedArgs (c : Category) : "rag" ∈ c.fixedArgs ↔ c.usesRuntime = true := by
  cases c <;> decide

namespace Pipeline

open Script

variable {p : Pipeline} {order : List String} {s : Settings} {timestamp : String} {e : Emission}

/-- Every procedure of a script agrees with its call. The call passes the fixed parameters by position and ports by
name, and assigns what the procedure returns, port by port. The body can be read to its end, it uses the runtime and the
caller's mapping only as parameters, and the script loads and sets the runtime exactly if some call passes it. -/
theorem calls_agree_with_procedures (h : (p.emit order .standard s timestamp).value = .ok e) :
    ∃ (pairs : List (BoundNode × Template)) (loads opening closing : List String),
      pairs.map Prod.fst = e.bound ∧ (e.bound.map fun b => b.node.id) = order ∧
      e.lines = header p timestamp ++ imports false s ++ loads ++ ["", ""] ++ nodeConfigs e.bound ++
        ["", "", proceduresHeading, ""] ++ pairs.flatMap procedureLines ++
        (opening ++ e.bound.flatMap callLines ++ closing) ++ ["", ""] ++ entryPoint ∧
      (∀ pair ∈ pairs, ∃ body last declared returned site,
        procedureLines pair = pair.1.signature :: body ++ [last, "", ""] ∧
        readHeader (tokens pair.1.signature) = some declared ∧ readReturn (tokens last) = some returned ∧
        sites (callLines pair.1) = [site] ∧ pair.1.Agrees pair.2 declared returned site ∧
        .name "return" ∉ tokens ("\n".intercalate body ++ "\n") ∧
        .fault ∉ tokens ("\n".intercalate (body ++ [last]) ++ "\n") ∧
        ∀ x ∈ ["rag", "inputs"],
          .name x ∈ tokens ("\n".intercalate (body ++ [last]) ++ "\n") → x ∈ declared.fixed) ∧
      ((∃ site ∈ sites (e.bound.flatMap callLines), "rag" ∈ site.positional) ↔
        "rag" ∈ assignments (opening ++ e.bound.flatMap callLines ++ closing)) ∧
      ((∃ site ∈ sites (e.bound.flatMap callLines), "rag" ∈ site.positional) ∧
          loads = ["", s!"from {s.runtimeModule} import {s.runtimeClass}"] ∨
        (¬∃ site ∈ sites (e.bound.flatMap callLines), "rag" ∈ site.positional) ∧ loads = []) := by
  have hevery := emit_every (fun _ _ => isName_of_named) h
  have hspelled := emit_spelled h
  obtain ⟨hperm, table, hbinds⟩ := emit_eq_ok h
  have hbound := hbinds.exists_bound
  obtain ⟨pairs, hemission, hpairs, hlookup⟩ := emit_pairs h
  obtain ⟨usesRuntime, huses, hlines⟩ := emission_sections p s timestamp pairs
  rw [hpairs] at huses
  rw [← hemission, hpairs] at hlines
  have hrun := runFunction_sections pairs usesRuntime s
  rw [hpairs] at hrun
  have hread : ∀ b ∈ e.bound, sites (callLines b) = [b.callSite b.targets] ∧ assignments (callLines b) = b.targets := by
    intro b hb
    obtain ⟨_, _, hbound⟩ := hbound b hb
    exact read_callLines (hevery b hb) hbound
  obtain ⟨hsites, hassigned⟩ := read_calls (fun b hb => (hread b hb).1) fun b hb => (hread b hb).2
  have hpasses : (∃ site ∈ sites (e.bound.flatMap callLines), "rag" ∈ site.positional) ↔ usesRuntime = true := by
    rw [hsites, huses, List.any_eq_true]
    simp [BoundNode.callSite, Category.rag_mem_fixedArgs]
  refine ⟨pairs, if usesRuntime then ["", s!"from {s.runtimeModule} import {s.runtimeClass}"] else [],
    (runOpening usesRuntime s).map Line.render, "" :: (returnLines e.bound).map Line.render, hpairs, ?_, ?_, ?_, ?_, ?_⟩
  · rw [← map_id_nodesIn hperm.subset, ← hbinds.map_node, List.map_map]
    rfl
  · have himports : imports usesRuntime s = imports false s ++
        if usesRuntime then ["", s!"from {s.runtimeModule} import {s.runtimeClass}"] else [] := by
      cases usesRuntime <;> simp [imports]
    rw [hlines, hrun, himports]
    simp only [List.append_assoc]
  · intro pair hpair
    have hb : pair.1 ∈ e.bound := hpairs ▸ List.mem_map_of_mem hpair
    obtain ⟨_, _, hbound⟩ := hbound _ hb
    exact (hevery _ hb).read_back hbound (hspelled _ hb) (hlookup pair hpair)
  · have hclosing : assignments ("" :: (returnLines e.bound).map Line.render) = [] := assignments_returnLines hevery
    -- The name of the runtime is reserved, so no call assigns it.
    have hclear : "rag" ∉ e.bound.flatMap BoundNode.targets := by
      intro hmem
      obtain ⟨b, hb, hmem⟩ := List.mem_flatMap.1 hmem
      exact ((hevery b hb).targets _ hmem).2 (by decide)
    rw [hpasses, assignments_append, assignments_append, assignments_runOpening, hassigned, hclosing]
    cases usesRuntime <;> simp [hclear]
  · rw [hpasses]
    cases usesRuntime with
    | false => exact .inr ⟨by simp, rfl⟩
    | true => exact .inl ⟨rfl, rfl⟩

/-- A question is tested, kept if it passes and given back if not. The node that keeps it has no outputs, and a kind of
another category. -/
def branching : Pipeline where
  name := "branching"
  nodes := [
    ⟨"ask", .input, "Ask", [], [], [textPort], some .textInput, .null, List.nodup_nil, List.nodup_singleton "text"⟩,
    ⟨"test", .logic, "Test", [], [textPort],
      [⟨"true", .null, .text, true, .null⟩, ⟨"false", .null, .text, true, .null⟩], some .conditionalBranch, .null,
      List.nodup_singleton "text", by decide⟩,
    ⟨"keep", .processing, "Keep", [], [textPort], [], some .pdfInput, .null, List.nodup_singleton "text",
      List.nodup_nil⟩,
    ⟨"back", .output, "Back", [], [textPort], [], some .textResponse, .null, List.nodup_singleton "text",
      List.nodup_nil⟩]
  edges := [
    ⟨"e1", "ask", "text", "test", "text", .text⟩,
    ⟨"e2", "test", "true", "keep", "text", .text⟩,
    ⟨"e3", "test", "false", "back", "text", .text⟩]

theorem emit_branching : ∃ e, (branching.emit ["ask", "test", "keep", "back"] .standard {} "now").value = .ok e ∧
    sites (e.bound.flatMap callLines) = [⟨["ask_text"], "node_ask", ["inputs"], []⟩,
      ⟨["test_true", "test_false"], "node_test", [], [("text", "ask_text")]⟩,
      ⟨[], "node_keep", ["rag"], [("text", "test_true")]⟩,
      ⟨["back_result"], "node_back", [], [("text", "test_false")]⟩] :=
  Steps.exists_ok_of_any (by decide +kernel)

theorem branching_calls_agree :
    ∃ e, (branching.emit ["ask", "test", "keep", "back"] .standard {} "now").value = .ok e ∧
      "from pipegraph_runtime import RagPipeline" ∈ e.lines ∧ ∃ pairs : List (BoundNode × Template),
        (pairs.map fun pair => pair.1.node.id) = ["ask", "test", "keep", "back"] ∧
        ∀ pair ∈ pairs, ∃ declared returned site, readHeader (tokens pair.1.signature) = some declared ∧
          sites (callLines pair.1) = [site] ∧ pair.1.Agrees pair.2 declared returned site := by
  obtain ⟨e, he, hsites⟩ := emit_branching
  obtain ⟨pairs, loads, opening, closing, hpairs, hids, hlines, hagree, -, hloads⟩ := calls_agree_with_procedures he
  refine ⟨e, he, ?_, pairs, ?_, ?_⟩
  · have hpasses : ∃ site ∈ sites (e.bound.flatMap callLines), "rag" ∈ site.positional := by
      rw [hsites]
      exact ⟨⟨[], "node_keep", ["rag"], [("text", "test_true")]⟩, by simp, List.mem_singleton.2 rfl⟩
    rcases hloads with ⟨-, hloads⟩ | ⟨hnot, -⟩
    · rw [hlines, hloads]
      simp [toString]
    · exact absurd hpasses hnot
  · rw [← hids, ← hpairs, List.map_map]
    rfl
  · intro pair hpair
    obtain ⟨_, _, declared, returned, site, -, hdeclared, -, hsite, hpair, -⟩ := hagree pair hpair
    exact ⟨declared, returned, site, hdeclared, hsite, hpair⟩

end Pipeline

end Dataflow
