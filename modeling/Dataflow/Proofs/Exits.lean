import Dataflow.Proofs.FrontEnds
import Dataflow.Proofs.Loading
import Dataflow.Proofs.TextFiles
import Dataflow.Proofs.Walks

namespace Dataflow

namespace FileTree

variable {t : FileTree} {path : Path} {e : ReadError}

/-- Why what is at a path cannot be looked at as a document. -/
inductive Unreadable (t : FileTree) (path : Path) : ReadError → Prop
  | directory (h : t.isDirectory path = true) : Unreadable t path (.file ⟨.isDirectory, path⟩)
  | encoding {octets : List UInt8} {fault : Utf8.Fault} (hread : t.read path = .ok octets)
      (h : Utf8.decode octets = .error fault) : Unreadable t path (.encoding fault)
  | digits {octets : List UInt8} {text : String} {count : Nat} (hread : t.read path = .ok octets)
      (htext : Utf8.decode octets = .ok text) (h : Json.parse text = .error (.tooManyDigits count)) :
      Unreadable t path (.load (.json (some path.text) (.tooManyDigits count)))

theorem read_of_isDirectory (h : t.isDirectory path = true) : t.read path = .error ⟨.isDirectory, path⟩ := by
  obtain ⟨place, hplace⟩ := isDirectory_iff.1 h
  rw [read, hplace]
  rfl

theorem read_or_isDirectory (h : t.exists? path = .ok true) :
    (∃ octets, t.read path = .ok octets) ∨ t.isDirectory path = true := by
  rw [exists?] at h
  cases hlocate : t.locate path with
  | error e =>
      simp only [hlocate] at h
      split at h <;> cases h
  | ok location =>
      cases location with
      | directory place => exact .inr (isDirectory_iff.2 ⟨place, hlocate⟩)
      | file place octets =>
          refine .inl ⟨octets, ?_⟩
          rw [read, hlocate]
          rfl
      | missing place =>
          rw [hlocate] at h
          cases h

theorem pipeline_loadedAlike {octets : List UInt8} {text : String} (hread : t.read path = .ok octets)
    (htext : Utf8.decode octets = .ok text) :
    ∃ loaded, t.pipeline path = loaded.mapError .load ∧ LoadedAlike text path.text loaded (Pipeline.ofText text) :=
  ⟨_, pipeline_of_decode hread htext, loadedAlike_ofText text path.text⟩

theorem Unreadable.pipeline_eq (h : t.Unreadable path e) : t.pipeline path = .error e := by
  cases h with
  | directory h => rw [pipeline, read_of_isDirectory h]; rfl
  | encoding hread h => rw [pipeline, hread, Except.mapError, Steps.ok_bind, h]; rfl
  | digits hread htext h =>
      obtain ⟨loaded, hloaded, halike⟩ := pipeline_loadedAlike hread htext
      rw [hloaded]
      generalize Pipeline.ofText _ = direct at halike
      cases halike with
      | value hv => cases h.symm.trans hv
      | malformed he => cases h.symm.trans he
      | tooManyDigits he =>
          cases h.symm.trans he
          rfl

theorem pipeline_cases (h : t.exists? path = .ok true) :
    (∃ p, t.pipeline path = .ok p) ∨
    (∃ cause, t.pipeline path = .error (.load cause) ∧ cause.isDocumentFault = true) ∨ ∃ e, t.Unreadable path e := by
  rcases read_or_isDirectory h with ⟨octets, hread⟩ | hdirectory
  · cases htext : Utf8.decode octets with
    | error fault => exact .inr (.inr ⟨_, .encoding hread htext⟩)
    | ok text =>
        obtain ⟨loaded, hloaded, halike⟩ := pipeline_loadedAlike hread htext
        rw [hloaded]
        generalize Pipeline.ofText text = direct at halike
        cases halike with
        | @value v hv =>
            rcases Pipeline.ofJson_ok_or_shape v with ⟨p, hp⟩ | ⟨cause, hcause⟩
            · exact .inl ⟨p, by rw [hp]; rfl⟩
            · exact .inr (.inl ⟨.shape cause, by rw [hcause]; rfl, rfl⟩)
        | malformed => exact .inr (.inl ⟨_, rfl, rfl⟩)
        | tooManyDigits he => exact .inr (.inr ⟨_, .digits hread htext he⟩)
  · exact .inr (.inr ⟨_, .directory hdirectory⟩)

end FileTree

namespace CommandLine

variable {s : Surroundings} {o : Options} {path : Path} {args : List String} {file : String}

theorem refuse_of_unreadable {e : ReadError} (h : s.tree.Unreadable path e) :
    refuse s e = { status := .error (.read e), tree := s.tree } := by
  cases h with
  | directory | encoding | digits => rfl

/-- What cuts a run short that prints the pipeline at a path: it cannot be looked at as a document, or the threshold is
given without a value, or an output node of a well-formed pipeline clashes with its own result. -/
inductive CutShort (s : Surroundings) (o : Options) (path : Path) : Abort → Prop
  | unreadable {e : ReadError} (h : s.tree.Unreadable path e) : CutShort s o path (.read e)
  | valueless {p : Pipeline} {settings : Settings} (hp : s.tree.pipeline path = .ok p)
      (hsettings : Settings.ofEnvironment s.environment = .ok settings) (h : o.threshold = .bare) :
      CutShort s o path (.valueless .threshold)
  | clash {p : Pipeline} {settings : Settings} {n : Node} (hp : s.tree.pipeline path = .ok p)
      (hsettings : loadSettings s o.threshold = .ok settings) (hw : p.WellFormed .standard .standard)
      (hn : n ∈ p.nodes) (hclash : n.Clashes) :
      CutShort s o path (.emit (.symbol (.alreadyDefined ⟨n.id, PortKey.resultPort⟩)))

inductive Ending (s : Surroundings) (o : Options) (path : Path) : Outcome → Prop
  | cut {abort : Abort} (h : CutShort s o path abort) (notices : List Notice) :
      Ending s o path { status := .error abort, notices, tree := s.tree }
  | refused {errors : List String} (h : errors ≠ []) (log : List LogRecord) (warnings : List String) :
      Ending s o path { status := .ok 1, notices := report log warnings errors, tree := s.tree }
  | printed (source : String) (notices : List Notice) :
      Ending s o path { status := .ok 0, stdout := lines [source], notices, tree := s.tree }

namespace Ending

variable {outcome : Outcome}

theorem returns (h : Ending s o path outcome) (hnone : ¬∃ abort, CutShort s o path abort) :
    outcome.status = .ok 0 ∨ outcome.status = .ok 1 := by
  cases h with
  | cut hcut => exact absurd ⟨_, hcut⟩ hnone
  | refused => exact .inr rfl
  | printed => exact .inl rfl

theorem cutShort (h : Ending s o path outcome) {abort : Abort} (habort : outcome.status = .error abort) :
    CutShort s o path abort := by
  cases h with
  | cut hcut =>
      cases habort
      exact hcut
  | refused | printed => cases habort

theorem errors_ne_nil (h : Ending s o path outcome) (hstatus : outcome.status = .ok 1) :
    outcome.errors ≠ [] ∧ outcome.stdout = "" := by
  cases h with
  | cut | printed => cases hstatus
  | refused herrors =>
      rw [errors_report]
      exact ⟨herrors, rfl⟩

end Ending

theorem loadSource_of_exists (hsource : o.source = .file file) (h : s.tree.exists? (Path.ofText file) = .ok true) :
    loadSource s o.source = (s.tree.pipeline (Path.ofText file)).mapError (refuse s) := by
  rw [hsource, loadSource, loadFile, h]

theorem ending_of_loadSettings {p : Pipeline} {outcome : Outcome} (hp : s.tree.pipeline path = .ok p)
    (h : loadSettings s o.threshold = .error outcome) : Ending s o path outcome := by
  unfold loadSettings at h
  split at h
  · cases h
    exact .refused (List.cons_ne_nil _ []) [] []
  · rename_i settings hsettings hbare
    cases h
    obtain ⟨settings, henvironment, -⟩ := Steps.bind_eq_ok.1 hsettings
    exact .cut (.valueless hp henvironment hbare) []
  · cases h

theorem ending_compilePipeline {p : Pipeline} {settings : Settings} (hprint : o.printOnly = true)
    (hp : s.tree.pipeline path = .ok p) (hsettings : loadSettings s o.threshold = .ok settings) :
    Ending s o path (compilePipeline s o settings p) := by
  have houtcome := p.compile_outcome { settings } s.timestamp
  simp only [compilePipeline]
  generalize (p.compile { settings } s.timestamp).value = value at houtcome
  cases houtcome with
  | @rejected problems h =>
      have herrors :
          Compilation.errors ⟨.rejected problems, (p.advice settings.threshold).map Advice.message⟩ ≠ [] := by
        simpa [Compilation.errors, Compilation.diagnostics, Compilation.problems] using h.ne_nil
      exact .refused herrors _ _
  | emitted =>
      simp only [Compilation.success, if_true, deliver, hprint]
      exact .printed _ _
  | failed hw hn hclash => exact .cut (.clash hp hsettings hw hn hclash) _

theorem ending_compile (hsource : o.source = .file file) (hprint : o.printOnly = true)
    (h : s.tree.exists? (Path.ofText file) = .ok true) : Ending s o (Path.ofText file) (compile s o) := by
  have hload := loadSource_of_exists hsource h
  rcases FileTree.pipeline_cases h with ⟨p, hp⟩ | ⟨cause, hcause, hfault⟩ | ⟨e, he⟩
  · simp only [compile, hload, hp, Except.mapError]
    cases hsettings : loadSettings s o.threshold with
    | error outcome => exact ending_of_loadSettings hp hsettings
    | ok settings => exact ending_compilePipeline hprint hp hsettings
  · simp only [compile, hload, hcause, Except.mapError, refuse, hfault, if_true]
    exact .refused (List.cons_ne_nil _ []) [] []
  · simp only [compile, hload, he.pipeline_eq, Except.mapError, refuse_of_unreadable he]
    exact .cut (.unreadable he) []

theorem CutShort.status_compile {abort : Abort} (h : CutShort s o (Path.ofText file) abort)
    (hsource : o.source = .file file) (hexists : s.tree.exists? (Path.ofText file) = .ok true) :
    ∃ abort, (compile s o).status = .error abort := by
  have hload := loadSource_of_exists hsource hexists
  cases h with
  | unreadable he =>
      simp only [compile, hload, he.pipeline_eq, Except.mapError, refuse_of_unreadable he]
      exact ⟨_, rfl⟩
  | valueless hp hsettings hbare =>
      simp only [compile, hload, hp, Except.mapError, loadSettings, settingsOf, hbare, hsettings, Steps.ok_bind]
      exact ⟨_, rfl⟩
  | @clash p settings n hp hsettings hw hn hclash =>
      have houtcome := p.compile_outcome { settings } s.timestamp
      simp only [compile, hload, hp, Except.mapError, hsettings, compilePipeline]
      generalize (p.compile { settings } s.timestamp).value = value at houtcome
      cases houtcome with
      | rejected h => exact absurd hw h.not_wellFormed
      | emitted _ hnone => exact absurd hclash (hnone n hn)
      | failed => exact ⟨_, rfl⟩

/-- A run that prints what is at a path has exit status 0 or 1 unless one of the known causes cuts it short. With exit
status 1 it reports an error and has put nothing out, and of a rejected pipeline it reports all errors. The model has
no bound on the depth of a document, a stream that takes any character, an environment that no `.env` file adds to, and
arguments in which an option may be given `--` as its value (`--threshold=--` is then without one). What else may cut a
run short there is outside the statement. -/
theorem run_returns_iff_not_cutShort (hargs : Request.ofArguments args = .ok (.compile o))
    (hsource : o.source = .file file) (hprint : o.printOnly = true)
    (hexists : s.tree.exists? (Path.ofText file) = .ok true) :
    let outcome := run s args
    (outcome.status = .ok 0 ∨ outcome.status = .ok 1 ↔ ¬∃ abort, CutShort s o (Path.ofText file) abort) ∧
    (∀ abort, outcome.status = .error abort → CutShort s o (Path.ofText file) abort) ∧
    (outcome.status = .ok 1 → outcome.errors ≠ [] ∧ outcome.stdout = "") ∧
    ∀ p settings c, s.tree.pipeline (Path.ofText file) = .ok p → loadSettings s o.threshold = .ok settings →
      (p.compile { settings } s.timestamp).value = .ok c → c.success = false →
      outcome.status = .ok 1 ∧ outcome.errors = c.errors := by
  have hrun : run s args = compile s o := by rw [run, hargs]
  intro outcome
  rw [show outcome = compile s o from hrun]
  have hending := ending_compile hsource hprint hexists
  refine ⟨⟨?_, hending.returns⟩, fun _ => hending.cutShort, hending.errors_ne_nil, ?_⟩
  · rintro hstatus ⟨abort, hcut⟩
    obtain ⟨abort', habort⟩ := hcut.status_compile hsource hexists
    rw [habort] at hstatus
    rcases hstatus with hstatus | hstatus <;> cases hstatus
  · intro p settings c hp hsettings hc hrejected
    simp only [compile, loadSource_of_exists hsource hexists, hp, Except.mapError, hsettings, compilePipeline, hc,
      hrejected, Bool.false_eq_true, if_false]
    exact ⟨trivial, errors_report _ _ _ _ _ _⟩

end CommandLine

namespace Lone

/-- The pipeline of the document has two errors, and both are reported. -/
theorem both_errors_reported : ∃ o, CommandLine.Request.ofArguments arguments = .ok (.compile o) ∧
    (¬∃ abort, CommandLine.CutShort surroundings o (Path.ofText "lone.json") abort) ∧
    (CommandLine.run surroundings arguments).status = .ok 1 ∧
    (CommandLine.run surroundings arguments).errors.length = 2 ∧
    (CommandLine.run surroundings arguments).stdout = "" := by
  obtain ⟨o, hrequest, hsource, hprint, hthreshold⟩ := prints_arguments.options
  have hread : surroundings.tree.read (Path.ofText "lone.json") = .ok (Utf8.encode document) := rfl
  have htext : Utf8.decode (Utf8.encode document) = .ok document := Utf8.decode_encode document
  have hbody : Json.parse document = .ok (.obj fields) := by cbv
  have hpipeline : ∃ p, surroundings.tree.pipeline (Path.ofText "lone.json") = .ok p ∧
      ∃ c, (p.compile { settings := Settings.over {} (some 0) } surroundings.timestamp).value = .ok c ∧
        c.success = false ∧ c.errors.length = 2 := by
    rw [FileTree.pipeline_of_parse hread htext hbody]
    exact ⟨_, rfl, _, rfl, rfl, rfl⟩
  obtain ⟨p, hp, c, hc, hrejected, hlength⟩ := hpipeline
  have hsettings : CommandLine.loadSettings surroundings o.threshold = .ok (Settings.over {} (some 0)) := by
    rw [hthreshold]
    exact CommandLine.loadSettings_over rfl (some 0)
  obtain ⟨hiff, -, hone, hall⟩ :=
    CommandLine.run_returns_iff_not_cutShort hrequest hsource hprint (FileTree.exists?_of_read hread)
  obtain ⟨hstatus, herrors⟩ := hall p _ c hp hsettings hc hrejected
  exact ⟨o, hrequest, hiff.1 (.inr hstatus), hstatus, herrors ▸ hlength, (hone hstatus).2⟩

end Lone

namespace Undecodable

def arguments : List String := ["graph.json", "--print"]

def surroundings : CommandLine.Surroundings where
  tree := { entries := [(["graph.json"], .file [255])] }
  environment := []
  timestamp := "now"

theorem request_arguments : CommandLine.Request.ofArguments arguments =
    .ok (.compile { source := .file "graph.json", printOnly := true }) := by
  have hroles : Argument.classify CommandLine.specs arguments =
      .ok [⟨"graph.json", .value⟩, ⟨"--print", .option ⟨.print, ["--print"], false⟩ .nothing⟩] :=
    rfl
  have hreading : Reading.ofTexts CommandLine.specs arguments = .ok { used := [.free "graph.json", .flag .print] } := by
    rw [Reading.ofTexts, hroles, Steps.ok_bind]
    simp only [Reading.ofArguments, Reading.runOf]
    rfl
  rw [CommandLine.Request.ofArguments, hreading]
  rfl

/-- A file that holds no text cuts the run short, which then has no exit status. -/
theorem undecodable_cuts_short : surroundings.tree.exists? (Path.ofText "graph.json") = .ok true ∧
    (CommandLine.run surroundings arguments).status = .error (.read (.encoding ⟨0, [255], .invalidStart⟩)) := by
  rw [CommandLine.run, request_arguments]
  exact ⟨rfl, rfl⟩

end Undecodable

end Dataflow
