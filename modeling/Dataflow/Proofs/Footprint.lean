import Dataflow.CommandLine.Run
import Dataflow.Proofs.Compilation
import Dataflow.Proofs.FileNames
import Dataflow.Proofs.Splitting
import Dataflow.Proofs.TextFiles
import Dataflow.Proofs.Walks

namespace Dataflow

theorem Path.ofText_of_plain {name : String} (hslash : '/' ∉ name.toList) (hempty : name ≠ "") (hdot : name ≠ ".") :
    Path.ofText name = { names := [name] } := by
  have hroot : name.toList.takeWhile (· == '/') = [] := by
    cases hchars : name.toList with
    | nil => rfl
    | cons c cs =>
        have hc : c ≠ '/' := by
          rintro rfl
          exact hslash (hchars ▸ List.mem_cons_self)
        exact List.takeWhile_cons_of_neg (by simpa using hc)
  simp [ofText, rootOf, hroot, Text.splitAt_of_not_mem hslash, hempty, hdot]

namespace Naming

open Text

theorem ofText_fileName (name : String) : Path.ofText (fileName name) = { names := [fileName name] } := by
  have hend : (fileName name).toList = (fileStem name).toList ++ ['.', 'p', 'y'] := String.toList_append
  have hlong : ∀ other : String, other.toList.length < 3 → fileName name ≠ other := by
    rintro other hother rfl
    rw [hend, List.length_append] at hother
    exact absurd hother (Nat.not_lt.2 (Nat.le_add_left 3 _))
  refine Path.ofText_of_plain ?_ (hlong "" (by decide)) (hlong "." (by decide))
  intro hslash
  rw [hend, List.mem_append] at hslash
  rcases hslash with hslash | hslash
  · exact absurd (isWord_of_mem_fileStem hslash) (by decide)
  · exact absurd hslash (by decide)

theorem fileName_ne_requirementsName (name : String) : fileName name ≠ CommandLine.requirementsName := by
  intro h
  have hlast := congrArg (·.toList.getLast?) h
  simp [fileName, CommandLine.requirementsName] at hlast

end Naming

namespace CommandLine

/-- The run has a pipeline, and a compilation of it that went through, so that its output comes next. -/
structure Reaches (s : Surroundings) (o : Options) (p : Pipeline) (c : Compilation) : Prop where
  source : loadSource s o.source = .ok p
  compiled : ∃ settings, loadSettings s o.threshold = .ok settings ∧ (p.compile { settings } s.timestamp).value = .ok c
  success : c.success = true

/-- The run has ended without success and without a trace, but for what stands on the error stream. -/
structure Outcome.Traceless (outcome : Outcome) (s : Surroundings) : Prop where
  status : outcome.status ≠ .ok 0
  stdout : outcome.stdout = ""
  tree : outcome.tree = s.tree

variable {s : Surroundings} {o : Options} {p : Pipeline} {c : Compilation} {args : List String}

theorem traceless_refuse (s : Surroundings) (e : ReadError) : (refuse s e).Traceless s := by
  cases e with
  | load cause =>
      rw [refuse]
      split
      · exact ⟨by simp, rfl, rfl⟩
      · exact ⟨by simp, rfl, rfl⟩
  | file | encoding => exact ⟨by simp [refuse], rfl, rfl⟩

theorem traceless_of_loadFile {path : Path} {outcome : Outcome} (h : loadFile s path = .error outcome) :
    outcome.Traceless s := by
  rw [loadFile] at h
  split at h
  · cases h
    exact ⟨by simp, rfl, rfl⟩
  · cases h
    exact ⟨by simp, rfl, rfl⟩
  · cases hread : s.tree.pipeline path with
    | ok p =>
        rw [hread] at h
        cases h
    | error e =>
        rw [hread] at h
        cases h
        exact traceless_refuse s e

theorem traceless_of_loadSource {source : Source} {outcome : Outcome} (h : loadSource s source = .error outcome) :
    outcome.Traceless s := by
  cases source with
  | stock p => cases h
  | unnamed =>
      cases h
      exact ⟨by simp, rfl, rfl⟩
  | file text => exact traceless_of_loadFile h

theorem traceless_of_loadSettings {threshold : Given Int} {outcome : Outcome}
    (h : loadSettings s threshold = .error outcome) : outcome.Traceless s := by
  unfold loadSettings at h
  split at h
  · cases h
    exact ⟨by simp, rfl, rfl⟩
  · cases h
    exact ⟨by simp, rfl, rfl⟩
  · cases h

theorem traceless_of_not_reaches (h : ¬∃ p c, Reaches s o p c) : (compile s o).Traceless s := by
  unfold compile
  cases hsource : loadSource s o.source with
  | error outcome => exact traceless_of_loadSource hsource
  | ok p =>
      cases hsettings : loadSettings s o.threshold with
      | error outcome => exact traceless_of_loadSettings hsettings
      | ok settings =>
          simp only [compilePipeline]
          cases hcompiled : (p.compile { settings } s.timestamp).value with
          | error e => exact ⟨by simp, rfl, rfl⟩
          | ok c =>
              have hrejected : c.success = false := by
                by_contra hsuccess
                exact h ⟨p, c, hsource, ⟨settings, hsettings, hcompiled⟩, eq_true_of_ne_false hsuccess⟩
              simp only [hrejected]
              exact ⟨by simp, rfl, rfl⟩

theorem Reaches.compile_eq (h : Reaches s o p c) : ∃ notices, compile s o = deliver o s.tree p c notices := by
  obtain ⟨hsource, ⟨settings, hsettings, hcompiled⟩, hsuccess⟩ := h
  simp only [compile, hsource, hsettings, compilePipeline, hcompiled, hsuccess, if_true]
  exact ⟨_, rfl⟩

/-- The second tree is the first with two files in the directory that a path leads to, and besides them no more than
directories that the path passes. -/
structure Delivered (t u : FileTree) (out : Path) (place : List String) (script source : String)
    (manifest : List String) : Prop where
  directory : u.locate out = .ok (.directory place)
  distinct : place ++ [script] ≠ place ++ [requirementsName]
  scriptFile : u.find? (place ++ [script]) = some (.file (Utf8.encode source))
  scriptText : ∃ octets, u.find? (place ++ [script]) = some (.file octets) ∧ Utf8.decode octets = .ok source
  manifestFile : u.find? (place ++ [requirementsName]) = some (.file (Utf8.encode (lines manifest)))
  manifestText : ∃ octets text, u.find? (place ++ [requirementsName]) = some (.file octets) ∧
    Utf8.decode octets = .ok text ∧ Text.splitLines text = manifest
  cwd : u.cwd = t.cwd
  others : ∀ q, q ≠ place ++ [script] → q ≠ place ++ [requirementsName] →
    u.find? q = t.find? q ∨ t.find? q = none ∧ u.find? q = some .directory ∧ u.Passes out q

theorem splitLines_lines {texts : List String} (h : ∀ text ∈ texts, Text.Unbroken text) :
    Text.splitLines (lines texts) = texts := by
  have hlines : (lines texts).toList = texts.flatMap fun text => text.toList ++ ['\n'] := by
    simp [lines, String.toList_join, List.flatMap, Function.comp_def]
  rw [Text.splitLines, hlines, Text.linesFrom_flatMap h]
  simp [Function.comp_def]

theorem delivered_of_writeFiles {t u : FileTree} {out : Path} {script source : String} {manifest : List String}
    (hscript : script ≠ requirementsName) (hmanifest : ∀ text ∈ manifest, Text.Unbroken text)
    (h : writeFiles t out script source manifest = (u, .ok ())) :
    ∃ place, Delivered t u out place script source manifest := by
  unfold writeFiles at h
  obtain ⟨hadds, hleads⟩ := t.paves_makeDirectories out
  split at h
  · cases h
  rename_i made hmade
  rw [hmade] at hadds hleads
  obtain ⟨place, hplace⟩ := hleads rfl
  split at h
  · cases h
  rename_i first hfirst
  obtain ⟨hnew, rfl⟩ := FileTree.write_child_eq_ok hplace hfirst
  -- Neither file takes the place of a directory, so that the path goes on leading to the same one.
  have hkept := FileTree.keeps_put hnew (.file (Utf8.encode source))
  obtain ⟨hnew', rfl⟩ :=
    FileTree.write_child_eq_ok (FileTree.locate_mono hkept rfl hplace) (FileTree.settle_eq_ok h)
  have hkept' := FileTree.keeps_put hnew' (.file (Utf8.encode (lines manifest)))
  have hdistinct : place ++ [script] ≠ place ++ [requirementsName] := by simpa using hscript
  have hfirst' : FileTree.find? ((made.put (place ++ [script]) (.file (Utf8.encode source))).put
      (place ++ [requirementsName]) (.file (Utf8.encode (lines manifest)))) (place ++ [script]) =
        some (.file (Utf8.encode source)) := by
    rw [FileTree.find?_put_of_ne hdistinct, FileTree.find?_put_self (by simp)]
  refine ⟨place, {
    directory := FileTree.locate_mono hkept' rfl (FileTree.locate_mono hkept rfl hplace)
    distinct := hdistinct
    scriptFile := hfirst'
    scriptText := ⟨_, hfirst', Utf8.decode_encode source⟩
    manifestFile := FileTree.find?_put_self (by simp)
    manifestText := ⟨_, _, FileTree.find?_put_self (by simp), Utf8.decode_encode _, splitLines_lines hmanifest⟩
    cwd := hadds.cwd
    others := ?_ }⟩
  · intro q hq hq'
    rw [FileTree.find?_put_of_ne hq', FileTree.find?_put_of_ne hq]
    exact (hadds.entries q).imp_right fun hnew =>
      ⟨hnew.1, hnew.2.1, (hnew.2.2.mono hkept rfl).mono hkept' rfl⟩

theorem deliverTo_cases (out : Path) (t : FileTree) (p : Pipeline) (c : Compilation) (notices : List Notice) :
    (∃ e, (deliverTo out t p c notices).status = .error (.read (.file e))) ∨
      (deliverTo out t p c notices).status = .ok 0 ∧
        writeFiles t out (Naming.fileName p.name) (c.source?.getD "") c.manifest =
          ((deliverTo out t p c notices).tree, .ok ()) := by
  cases hwritten : writeFiles t out (Naming.fileName p.name) (c.source?.getD "") c.manifest with
  | mk u written =>
      simp only [deliverTo, hwritten]
      cases written with
      | error e => exact .inl ⟨e, rfl⟩
      | ok => exact .inr ⟨rfl, rfl⟩

theorem status_deliver_ne_one (o : Options) (t : FileTree) (p : Pipeline) (c : Compilation) (notices : List Notice) :
    (deliver o t p c notices).status ≠ .ok 1 := by
  unfold deliver
  split
  · simp
  · split
    · simp
    · rename_i name _
      rcases deliverTo_cases (Path.ofText name) t p c notices with ⟨e, hstatus⟩ | ⟨hstatus, -⟩
      · simp [hstatus]
      · simp [hstatus]

theorem delivered_of_deliver {t : FileTree} {notices : List Notice} (hprint : o.printOnly = false)
    (hmanifest : ∀ text ∈ c.manifest, Text.Unbroken text) (h : (deliver o t p c notices).status = .ok 0) :
    ∃ name place, o.directory? = some name ∧ Delivered t (deliver o t p c notices).tree (Path.ofText name) place
      (Naming.fileName p.name) (c.source?.getD "") c.manifest := by
  simp only [deliver, hprint, Bool.false_eq_true, if_false] at h ⊢
  cases hname : o.directory? with
  | none =>
      rw [hname] at h
      cases h
  | some name =>
      simp only [hname] at h ⊢
      rcases deliverTo_cases (Path.ofText name) t p c notices with ⟨e, hstatus⟩ | ⟨-, hwritten⟩
      · cases hstatus.symm.trans h
      · obtain ⟨place, hdelivered⟩ := delivered_of_writeFiles (Naming.fileName_ne_requirementsName p.name) hmanifest
          hwritten
        exact ⟨name, place, rfl, hdelivered⟩

end CommandLine

theorem Pipeline.unbroken_manifestOf {nodes : List Node} : ∀ text ∈ manifestOf nodes, Text.Unbroken text := by
  intro text htext
  rw [manifestOf, List.mem_mergeSort, List.mem_eraseDups, List.mem_flatMap] at htext
  obtain ⟨n, -, htext⟩ := htext
  have hunbroken : ∀ category : Category, ∀ text ∈ category.dependencies, Text.Unbroken text := by
    intro category
    cases category <;> decide
  exact hunbroken n.category text htext

namespace CommandLine

theorem Reaches.emitted (h : Reaches s o p c) :
    (∃ source, c.source? = some source) ∧ ∀ text ∈ c.manifest, Text.Unbroken text := by
  obtain ⟨settings, -, hcompiled⟩ := h.compiled
  have houtcome := p.compile_outcome { settings } s.timestamp
  rw [hcompiled] at houtcome
  cases houtcome with
  | rejected => cases h.success
  | emitted _ _ _ he =>
      refine ⟨⟨_, rfl⟩, ?_⟩
      obtain ⟨-, templates, table, -, -, he, -⟩ := Pipeline.emit_eq_emission he
      rw [he]
      exact Pipeline.unbroken_manifestOf

/-- A run leaves the tree as it was, with nothing on the output stream, if it fails or does not come to its output,
and it leaves the tree as it was if it prints. Any other run that succeeds writes the script, under one plain name, and
its requirements, one to a line, into the output directory, and makes no more than the directories on the way there. -/
theorem run_writes_only_its_files (s : Surroundings) (h : Request.ofArguments args = .ok (.compile o)) :
    let outcome := run s args
    (outcome.status = .ok 1 ∨ (¬∃ p c, Reaches s o p c) → outcome.tree = s.tree ∧ outcome.stdout = "") ∧
    (o.printOnly = true → outcome.tree = s.tree) ∧
    (outcome.status = .ok 0 → o.printOnly = false → ∃ p c source name place, Reaches s o p c ∧
      c.source? = some source ∧ Text.splitLines (lines c.manifest) = c.manifest ∧
      Path.ofText (Naming.fileName p.name) = { names := [Naming.fileName p.name] } ∧ o.directory? = some name ∧
      Delivered s.tree outcome.tree (Path.ofText name) place (Naming.fileName p.name) source c.manifest) := by
  have hrun : run s args = compile s o := by rw [run, h]
  intro outcome
  rw [show outcome = compile s o from hrun]
  by_cases hreached : ∃ p c, Reaches s o p c
  · obtain ⟨p, c, hreaches⟩ := hreached
    obtain ⟨⟨source, hsource⟩, hmanifest⟩ := hreaches.emitted
    obtain ⟨notices, hdeliver⟩ := hreaches.compile_eq
    rw [hdeliver]
    refine ⟨?_, ?_, ?_⟩
    · rintro (hstatus | hnone)
      · exact absurd hstatus (status_deliver_ne_one o s.tree p c notices)
      · exact absurd ⟨p, c, hreaches⟩ hnone
    · intro hprint
      simp only [deliver, hprint, if_true]
    · intro hstatus hprint
      obtain ⟨name, place, hname, hdelivered⟩ := delivered_of_deliver hprint hmanifest hstatus
      rw [hsource] at hdelivered
      exact ⟨p, c, source, name, place, hreaches, hsource, splitLines_lines hmanifest,
        Naming.ofText_fileName p.name, hname, hdelivered⟩
  · have htraceless := traceless_of_not_reaches hreached
    exact ⟨fun _ => ⟨htraceless.tree, htraceless.stdout⟩, fun _ => htraceless.tree,
      fun hstatus => absurd hstatus htraceless.status⟩

end CommandLine

namespace Quick

def surroundings : CommandLine.Surroundings where
  tree := { entries := [(["kept"], .file [65])] }
  environment := []
  timestamp := "now"

def arguments : List String := ["--template", "quick-answer", "--out=made/here"]

def options : CommandLine.Options where
  source := .stock Stock.quickAnswer
  out := .value "made/here"

theorem request_arguments : CommandLine.Request.ofArguments arguments = .ok (.compile options) := by
  have hroles : Argument.classify CommandLine.specs arguments = .ok [
      ⟨"--template", .option ⟨.template, ["--template"], true⟩ .nothing⟩, ⟨"quick-answer", .value⟩,
      ⟨"--out=made/here", .option ⟨.out, ["--out"], true⟩ (.equals "made/here")⟩] :=
    rfl
  have hreading : Reading.ofTexts CommandLine.specs arguments =
      .ok { used := [.option .template (some "quick-answer"), .option .out (some "made/here")] } := by
    rw [Reading.ofTexts, hroles, Steps.ok_bind]
    simp only [Reading.ofArguments, Reading.runOf]
    rfl
  rw [CommandLine.Request.ofArguments, hreading]
  rfl

theorem wellFormed_quickAnswer : Stock.quickAnswer.WellFormed .standard .standard := by
  obtain ⟨hinput, houtput, hedges⟩ :=
    Pipeline.problems_eq_nil.1 (show Stock.quickAnswer.problems .standard = [] from rfl)
  have hforward : ∀ e ∈ Stock.quickAnswer.edges,
      Stock.quickAnswer.ids.idxOf e.sourceNode < Stock.quickAnswer.ids.idxOf e.targetNode := by
    decide
  have hfeeds : ∀ {m n}, Stock.quickAnswer.Feeds m n →
      Stock.quickAnswer.ids.idxOf m < Stock.quickAnswer.ids.idxOf n := by
    rintro m n ⟨-, -, e, he, rfl, rfl⟩
    exact hforward e he
  exact ⟨hinput, houtput, hedges, Pipeline.not_cyclic_of_lt hfeeds, by decide⟩

theorem makeDirectories_surroundings : surroundings.tree.makeDirectories (Path.ofText "made/here") =
    ({ entries := [(["made", "here"], .directory), (["made"], .directory), (["kept"], .file [65])] }, .ok ()) := by
  have hpath : Path.ofText "made/here" = ⟨"", ["made", "here"]⟩ := rfl
  have hmissing : surroundings.tree.makeDirectory ⟨"", ["made", "here"]⟩ =
      .error ⟨.notFound, ⟨"", ["made", "here"]⟩⟩ :=
    rfl
  have hparent : surroundings.tree.makeDirectories ⟨"", ["made"]⟩ =
      ({ entries := [(["made"], .directory), (["kept"], .file [65])] }, .ok ()) := by
    rw [FileTree.makeDirectories]
    rfl
  rw [hpath, FileTree.makeDirectories, hmissing]
  simp only [Path.parent, List.dropLast, hparent]
  rfl

theorem status_run : (CommandLine.run surroundings arguments).status = .ok 0 := by
  obtain ⟨order, e, -, -, hcompiled⟩ :=
    Pipeline.WellFormed.emits {} surroundings.timestamp wellFormed_quickAnswer (by decide)
  have hname : Naming.fileName Stock.quickAnswer.name = "quick_answer_pipeline.py" := rfl
  have hsettings : CommandLine.loadSettings surroundings .absent = .ok {} := rfl
  have hwritten : ∃ u, CommandLine.writeFiles surroundings.tree (Path.ofText "made/here") "quick_answer_pipeline.py"
      e.source e.manifest = (u, .ok ()) := by
    rw [CommandLine.writeFiles, makeDirectories_surroundings]
    exact ⟨_, rfl⟩
  obtain ⟨u, hwritten⟩ := hwritten
  simp only [CommandLine.run, request_arguments, CommandLine.compile, options, CommandLine.loadSource, hsettings,
    CommandLine.compilePipeline, hcompiled, Compilation.success, if_true, CommandLine.deliver,
    CommandLine.Options.directory?, CommandLine.deliverTo, Compilation.source?, Compilation.manifest, Option.getD,
    hname, hwritten]
  rfl

theorem quickAnswer_written : CommandLine.Request.ofArguments arguments = .ok (.compile options) ∧
    (CommandLine.run surroundings arguments).status = .ok 0 ∧
    FileTree.find? (CommandLine.run surroundings arguments).tree ["kept"] = some (.file [65]) ∧
    ∃ source place,
      (CommandLine.run surroundings arguments).tree.locate (Path.ofText "made/here") = .ok (.directory place) ∧
      FileTree.find? (CommandLine.run surroundings arguments).tree (place ++ ["quick_answer_pipeline.py"]) =
        some (.file (Utf8.encode source)) := by
  obtain ⟨-, -, hwritten⟩ := CommandLine.run_writes_only_its_files surroundings request_arguments
  obtain ⟨p, c, source, name, place, hreaches, -, -, -, hname, hdelivered⟩ := hwritten status_run rfl
  cases hreaches.source
  cases hname
  refine ⟨request_arguments, status_run, ?_, source, place, hdelivered.directory, hdelivered.scriptFile⟩
  have hkept : ∀ file, "kept" ≠ file → ["kept"] ≠ place ++ [file] := by
    intro file hfile h
    have hlast : some "kept" = some file := by simpa using congrArg List.getLast? h
    exact hfile (Option.some.inj hlast)
  rcases hdelivered.others ["kept"] (hkept _ (by decide)) (hkept _ (by decide)) with hsame | ⟨hnone, -⟩
  · exact hsame
  · cases hnone

end Quick

end Dataflow
