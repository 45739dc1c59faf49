import Flowscript.CommandLine.Execution
import Flowscript.Proofs.Analysis.Markers
import Flowscript.Proofs.Host.Writing
import Flowscript.Proofs.Pipeline.Saving

/-!
# Showing a script and writing it

The script of an analysis can be shown before it is written.  The two ways differ in how they come
by their options and in what they check first, but a script that is written is the one that is
shown, and none is written that cannot be shown.

* `Analysis.ofDescriptor_eq_ok` says what has been done when an analysis is written, and
  `Analysis.ofDescriptor_eq_error` that nothing is done without a script.
* `CommandLine.compiledScript_of_scriptOf` says that both ways lead to one script.
* `CommandLine.Invocation.compile_agrees` is the agreement, down to what can be read afterwards.
-/

set_option autoImplicit false

namespace Flowscript

/-! ## What has been written -/

theorem BuildScript.write_eq_ok {s : BuildScript} {h after : Host}
    (hwrite : s.write h = (.ok (), after)) :
    (h.makeDirectories s.outputRoot).2.write? s.path s.text = some after := by
  rw [write] at hwrite
  split at hwrite
  · cases hwrite
  · rename_i made hmade
    split at hwrite
    · cases hwrite
    · rename_i written hwritten
      obtain ⟨-, rfl⟩ := Prod.mk.inj hwrite
      rw [hmade]
      exact hwritten

theorem AnalysisDescriptor.save_eq_ok {d : AnalysisDescriptor} {h after : Host}
    {directory path : String} (hsave : d.save h directory = (.ok path, after)) :
    (h.makeDirectories directory).2.write? (Path.join directory fileName) d.toJson =
      some after := by
  rw [save] at hsave
  split at hsave
  · cases hsave
  · rename_i made hmade
    dsimp only at hsave
    split at hsave
    · cases hsave
    · rename_i written hwritten
      obtain ⟨-, rfl⟩ := Prod.mk.inj hsave
      rw [hmade]
      exact hwritten

namespace Analysis

variable {d : AnalysisDescriptor} {h after : Host} {outputRoot : String} {options : ScriptOptions}
  {settings : RunSettings}

/-- An analysis that is created has its script written, and then its descriptor. -/
theorem ofDescriptor_eq_ok {a : Analysis}
    (hok : ofDescriptor d h outputRoot options settings = (.ok a, after)) :
    ∃ inputs script scripted path, d.loadInputs h = .ok inputs ∧
      scriptOf inputs h outputRoot options settings = .ok script ∧
      script.write h = (.ok (), scripted) ∧
      d.save scripted script.outputRoot = (.ok path, after) := by
  unfold ofDescriptor at hok
  split at hok
  · cases hok
  rename_i inputs hinputs
  split at hok
  · cases hok
  rename_i analysis scripted hcreate
  split at hok
  · cases hok
  rename_i path saved hsave
  obtain ⟨-, rfl⟩ := Prod.mk.inj hok
  unfold create at hcreate
  split at hcreate
  · cases hcreate
  rename_i script hscript
  split at hcreate
  · cases hcreate
  rename_i scripted' hwrite
  obtain ⟨hanalysis, rfl⟩ := Prod.mk.inj hcreate
  obtain rfl := Except.ok.inj hanalysis
  exact ⟨inputs, script, scripted', path, hinputs, hscript, hwrite, hsave⟩

/-- Without a script nothing is written. -/
theorem ofDescriptor_eq_error
    (hscript : ∀ inputs script, d.loadInputs h = .ok inputs →
      scriptOf inputs h outputRoot options settings ≠ .ok script) :
    ∃ e, ofDescriptor d h outputRoot options settings = (.error e, h) := by
  unfold ofDescriptor
  cases hinputs : d.loadInputs h with
  | error e => exact ⟨e, rfl⟩
  | ok inputs =>
    cases hof : scriptOf inputs h outputRoot options settings with
    | error e => exact ⟨e, by simp [create, hof]⟩
    | ok script => exact absurd hof (hscript inputs script hinputs)

end Analysis

/-! ## One script -/

namespace CommandLine

variable {d : AnalysisDescriptor} {h : Host} {outputRoot : String} {options : ScriptOptions}

/-- **A script that is written is the one that is shown.**  The settings decide whether it goes on
after a failure, and they were given the same as the options. -/
theorem compiledScript_of_scriptOf {settings : RunSettings} {inputs : AnalysisInputs}
    {script : BuildScript} (hkeep : settings.keepGoing = options.keepGoing)
    (hinputs : d.loadInputs h = .ok inputs)
    (hscript : Analysis.scriptOf inputs h outputRoot options settings = .ok script) :
    compiledScript d h outputRoot options = .ok script ∧
      Path.absolute? h.workingPath outputRoot = some script.outputRoot := by
  have hoptions : { options with keepGoing := settings.keepGoing } = options := by
    rw [hkeep]
  unfold Analysis.scriptOf at hscript
  dsimp only at hscript
  split at hscript
  · cases hscript
  · rw [hoptions] at hscript
    unfold compiledScript
    rw [hinputs]
    refine ⟨hscript, ?_⟩
    cases hcompile : Flowscript.compile options inputs.pipeline inputs.table h.workingPath
        outputRoot with
    | error e => simp [hcompile, Except.mapError] at hscript
    | ok compiled =>
      rw [hcompile] at hscript
      obtain rfl := Except.ok.inj hscript
      exact Compilation.outputRoot_of_compile hcompile

/-- Nothing is written for a script that cannot be shown. -/
theorem writtenAnalysis_of_error {e : AnalysisError}
    (hscript : compiledScript d h outputRoot options = .error e) :
    ∃ e', writtenAnalysis d h outputRoot options = (.error e', h) := by
  refine Analysis.ofDescriptor_eq_error fun inputs script hinputs hof => ?_
  rw [(compiledScript_of_scriptOf (by rfl) hinputs hof).1] at hscript
  cases hscript

/-! ## The two forms of the command -/

variable {i : InputArguments} {output : Option String}

theorem compile_shown {shown : Report} {before : Host}
    (hshown : CommandLine.compile i output true options h = (shown, before)) :
    before = h ∧
    ((∃ script, compiledScript i.descriptor h (output.getD i.descriptor.defaultOutputRoot) options =
        .ok script ∧ shown = .done true script.text) ∨
      ∃ e, compiledScript i.descriptor h (output.getD i.descriptor.defaultOutputRoot) options =
        .error e ∧ shown = .givenUp "" (.analysis e)) := by
  unfold CommandLine.compile at hshown
  simp only [if_true] at hshown
  split at hshown
  · rename_i e hscript
    obtain ⟨rfl, rfl⟩ := Prod.mk.inj hshown
    exact ⟨rfl, .inr ⟨e, hscript, rfl⟩⟩
  · rename_i script hscript
    obtain ⟨rfl, rfl⟩ := Prod.mk.inj hshown
    exact ⟨rfl, .inl ⟨script, hscript, rfl⟩⟩

theorem compile_written {written : Report} {after : Host}
    (hwritten : CommandLine.compile i output false options h = (written, after)) :
    (∃ a, writtenAnalysis i.descriptor h (output.getD i.descriptor.defaultOutputRoot) options =
        (.ok a, after) ∧ written = .done true (line a.outputRoot)) ∨
      ∃ e, writtenAnalysis i.descriptor h (output.getD i.descriptor.defaultOutputRoot) options =
        (.error e, after) ∧ written = .givenUp "" (.analysis e) := by
  unfold CommandLine.compile at hwritten
  simp only [Bool.false_eq_true, if_false] at hwritten
  split at hwritten
  · rename_i e host hanalysis
    obtain ⟨rfl, rfl⟩ := Prod.mk.inj hwritten
    exact .inr ⟨e, hanalysis, rfl⟩
  · rename_i a host hanalysis
    obtain ⟨rfl, rfl⟩ := Prod.mk.inj hwritten
    exact .inl ⟨a, hanalysis, rfl⟩

/-- A script that is there to be shown is what is shown. -/
theorem compile_shown_of_ok {shown : Report} {before : Host} {script : BuildScript}
    (hshown : CommandLine.compile i output true options h = (shown, before))
    (hscript : compiledScript i.descriptor h (output.getD i.descriptor.defaultOutputRoot) options =
      .ok script) : shown = .done true script.text := by
  obtain ⟨-, ⟨script', hscript', rfl⟩ | ⟨e, hscript', -⟩⟩ := compile_shown hshown
  · obtain rfl := Except.ok.inj (hscript.symm.trans hscript')
    rfl
  · cases hscript.symm.trans hscript'

/-- **Showing a script and writing it agree.**  Where the script is written, it is the text that is
shown, and it can be read from its place in the output root afterwards: unless that place is the
device that swallows all, or another name of the descriptor's file.  Where there is no script to
show, none is written, nor is anything else. -/
theorem Invocation.compile_agrees (showTime : Duration → String) (i : InputArguments)
    (output shell : Option String) (keepGoing : Bool) (h : Host)
    {shown written : Report} {before after : Host}
    (hshown : (Invocation.compile i output true keepGoing shell).execute showTime h =
      (shown, before))
    (hwritten : (Invocation.compile i output false keepGoing shell).execute showTime h =
      (written, after)) :
    before = h ∧
    (written.code = 0 → ∃ root text scripted,
      Path.absolute? h.workingPath (output.getD i.descriptor.defaultOutputRoot) = some root ∧
      shown = .done true text ∧
      (h.makeDirectories root).2.write? (Path.join root Layout.scriptFile) text = some scripted ∧
      (∃ path, i.descriptor.save scripted root = (.ok path, after)) ∧
      (after.readText? (Path.join root Layout.scriptFile) = some text ∨
        after.tree.find? after.directory (Path.join root Layout.scriptFile) =
          some (.device .nothing) ∨
        ∃ n, after.tree.find after.directory (Path.join root Layout.scriptFile) true = .ok n ∧
          after.tree.find after.directory (Path.join root AnalysisDescriptor.fileName) true =
            .ok n)) ∧
    (shown.code ≠ 0 → written.code ≠ 0 ∧ after = h) := by
  have hwritten := compile_written hwritten
  refine ⟨(compile_shown hshown).1, fun hcode => ?_, fun hcode => ?_⟩
  · obtain ⟨a, hanalysis, -⟩ | ⟨e, -, rfl⟩ := hwritten
    · obtain ⟨inputs, script, scripted, path, hinputs, hof, hwrite, hsave⟩ :=
        Analysis.ofDescriptor_eq_ok hanalysis
      obtain ⟨hscript, hroot⟩ := compiledScript_of_scriptOf (by rfl) hinputs hof
      have hmakefile := BuildScript.write_eq_ok hwrite
      have hdescriptor := AnalysisDescriptor.save_eq_ok hsave
      exact ⟨script.outputRoot, script.text, scripted, hroot, compile_shown_of_ok hshown hscript,
        hmakefile, ⟨path, hsave⟩, Host.readText?_of_write? hmakefile hdescriptor⟩
    · cases hcode
  · obtain ⟨-, ⟨script, -, rfl⟩ | ⟨e, hscript, -⟩⟩ := compile_shown hshown
    · exact absurd rfl hcode
    · obtain ⟨e', hnothing⟩ := writtenAnalysis_of_error hscript
      obtain ⟨a, hanalysis, -⟩ | ⟨e'', hanalysis, rfl⟩ := hwritten
      · rw [hnothing] at hanalysis
        cases hanalysis
      · rw [hnothing] at hanalysis
        exact ⟨Nat.one_ne_zero, (Prod.mk.inj hanalysis).2.symm⟩

end CommandLine

/-! ## A specimen -/

namespace Specimen

open Json

/-- A file of a tree. -/
def paper (text : String) : FileNode :=
  ⟨.regular text.toUTF8, FileTree.plainMode, FileTree.startTime⟩

/-- The formats on the desk: one for plain text. -/
def formatsValue : Value :=
  .ofMembers [("formatDefs",
    .array [.ofMembers [("text", .ofMembers [("suffix", .ofString "txt")])]])]

/-- The module on the desk. -/
def moduleValue : Value :=
  .ofMembers [("moduleName", .ofString "sort"),
    ("enclosedCommand", .ofString "sort \x7bin\x7d > \x7bout\x7d"),
    ("inputs", .array [(text "in" true).value]), ("outputs", .array [(text "out" true).value])]

/-- The pipeline on the desk, with a module between a source and a sink. -/
def drawing : PipelineDocument :=
  ⟨"w", [⟨"in", ⟨0⟩, place, text "in" true⟩], [⟨"out", ⟨2⟩, place, text "out" true⟩],
    [⟨"sort", ⟨1⟩, place⟩], [⟨"sources[0]", "modules[1].in"⟩, ⟨"modules[1].out", "sinks[2]"⟩]⟩

/-- A host with the inputs of an analysis, and with more files in the root. -/
def desk (entries : List (String × Nat)) (papers : List FileNode) : Host :=
  ⟨⟨.ofTree ⟨#[folder 0 ([("t", 1), ("p", 6), ("s", 7)] ++ entries),
    folder 0 [("config", 2), ("modules", 4)], folder 1 [("formats.json", 3)],
    paper formatsValue.pretty, folder 1 [("sort.json", 5)], paper moduleValue.pretty,
    paper drawing.toJson, paper "id|in|out\na|a.txt|a.out"] ++ papers.toArray,
    FileTree.startTime⟩, []⟩, 0, "/", [], ⟨[], fun _ next => next 0⟩, []⟩

/-- The toolbox on the desk. -/
def bench : Toolbox := ⟨"t", some "t", catalog, [sort], none⟩

/-- The pipeline of the document on the desk. -/
def drawn : Pipeline := (Pipeline.ofDocument drawing bench).toOption.getD (.empty "w" bench)

/-- The table on the desk. -/
def tray : Table :=
  ⟨["id", "in", "out"], [⟨[("id", "a"), ("in", "a.txt"), ("out", "a.out")]⟩]⟩

/-- The inputs on the desk, with a path for the table. -/
def inputs (table : String) : CommandLine.InputArguments := ⟨"t", "p", table, none⟩

/-- A failure does not stop the build, and another shell runs the recipes. -/
def options : ScriptOptions := ⟨true, "/bin/sh"⟩

/-- The desk after both files were written. -/
def filed (script descriptor : String) : Host :=
  desk [("Makefile", 8), ("analysis.json", 9)] [paper script, paper descriptor]

/-- Where paths lead on the desk, and their parts. -/
def places : List (String × List String × Place) :=
  [("t/config/formats.json", ["t", "config", "formats.json"], ⟨2, "formats.json", some 3⟩),
    ("t/config/ABOUT.txt", ["t", "config", "ABOUT.txt"], ⟨2, "ABOUT.txt", none⟩),
    ("t/modules", ["t", "modules"], ⟨1, "modules", some 4⟩),
    ("t/modules/sort.json", ["t", "modules", "sort.json"], ⟨4, "sort.json", some 5⟩),
    ("p", ["p"], ⟨0, "p", some 6⟩), ("s", ["s"], ⟨0, "s", some 7⟩), ("x", ["x"], ⟨0, "x", none⟩)]

theorem leads_desk : ∀ place ∈ places,
    (desk [] []).tree.Leads true FileTree.mostLinks 0 place.2.1 place.2.2 := by
  simp only [places, List.forall_mem_cons]
  refine ⟨?_, ?_, ?_, ?_, ?_, ?_, ?_, by simp⟩
  · exact .enter rfl (by decide) rfl nofun (List.cons_ne_nil _ _)
      (.enter rfl (by decide) rfl nofun (List.cons_ne_nil _ _)
        (.found rfl (by decide) rfl fun _ => nofun))
  · exact .enter rfl (by decide) rfl nofun (List.cons_ne_nil _ _)
      (.enter rfl (by decide) rfl nofun (List.cons_ne_nil _ _) (.missing rfl (by decide) rfl))
  · exact .enter rfl (by decide) rfl nofun (List.cons_ne_nil _ _)
      (.found rfl (by decide) rfl fun _ => nofun)
  · exact .enter rfl (by decide) rfl nofun (List.cons_ne_nil _ _)
      (.enter rfl (by decide) rfl nofun (List.cons_ne_nil _ _)
        (.found rfl (by decide) rfl fun _ => nofun))
  · exact .found rfl (by decide) rfl fun _ => nofun
  · exact .found rfl (by decide) rfl fun _ => nofun
  · exact .missing rfl (by decide) rfl

theorem locate_desk : ∀ place ∈ places,
    (desk [] []).tree.locate (desk [] []).directory place.1 true = .ok place.2.2 := by
  have hpaths : ∀ place ∈ places, FileTree.IsPath place.1 ∧ Path.endsInSlash place.1 = false ∧
      Path.parts place.1 = place.2.1 ∧ Path.isAbsolute place.1 = false := by decide
  intro place hplace
  obtain ⟨hpath, hslash, hparts, habsolute⟩ := hpaths place hplace
  refine FileTree.locate_of_leads _ ⟨hpath, hslash, hparts⟩ ?_
  rw [habsolute]
  exact leads_desk place hplace

theorem find?_desk : ∀ place ∈ places,
    (desk [] []).tree.find? (desk [] []).directory place.1 =
      place.2.2.node?.bind (desk [] []).tree.kind? :=
  fun place hplace => FileTree.find?_of_locate (locate_desk place hplace)

/-! ### What is read on the desk -/

theorem sound_value (p : Parameter) : p.value.Sound := by
  refine sound_ofMembers ?_
  simp only [List.forall_mem_cons]
  exact ⟨.text _, .text _, .bool _, by simp⟩

theorem read_formatsValue : FormatCatalog.read formatsValue.pretty = .ok catalog := by
  have hsound : formatsValue.Sound := by
    refine sound_ofMembers (List.forall_mem_singleton.2 (.array (List.forall_mem_singleton.2 ?_)))
    exact sound_ofMembers (List.forall_mem_singleton.2
      (sound_ofMembers (List.forall_mem_singleton.2 (.text _))))
  rw [FormatCatalog.read, read?_pretty hsound]
  rfl

theorem moduleOfText_moduleValue (file : String) :
    Toolbox.moduleOfText moduleValue.pretty file = .ok sort := by
  have hsound : moduleValue.Sound := by
    refine sound_ofMembers ?_
    simp only [List.forall_mem_cons]
    exact ⟨.text _, .text _, .array (List.forall_mem_singleton.2 (sound_value _)),
      .array (List.forall_mem_singleton.2 (sound_value _)), by simp⟩
  have hfile : ModuleFile.ofValue? moduleValue =
      some ⟨"sort", "sort \x7bin\x7d > \x7bout\x7d", sort.inputs, sort.outputs⟩ := rfl
  have hname : (Text.trim "sort").isEmpty = false := by decide
  have hdefine : ModuleDef.define "sort" sort.inputs sort.outputs
      "sort \x7bin\x7d > \x7bout\x7d" = .ok sort :=
    ModuleDef.define_eq_self (m := sort) rfl rfl (by decide +kernel)
  rw [Toolbox.moduleOfText, read?_pretty hsound]
  simp only [Option.bind_some, hfile, hname, hdefine]
  rfl

theorem ofJson_drawing : Pipeline.ofJson drawing.toJson bench = .ok drawn := by
  have hwritable : drawing.Writable :=
    ⟨List.forall_mem_singleton.2 ⟨by decide, readsBack_place⟩,
      List.forall_mem_singleton.2 ⟨by decide, readsBack_place⟩,
      List.forall_mem_singleton.2 ⟨by decide, readsBack_place⟩⟩
  have hsome : (Pipeline.ofDocument drawing bench).toOption.isSome = true := by decide +kernel
  have hdrawn : Pipeline.ofDocument drawing bench = .ok drawn := by
    rw [drawn]
    cases hp : Pipeline.ofDocument drawing bench with
    | error e =>
      rw [hp] at hsome
      cases hsome
    | ok p => rfl
  rw [Pipeline.ofJson, PipelineDocument.ofJson_toJson hwritable]
  exact hdrawn

theorem load_bench : Toolbox.load (desk [] []) "t" = .ok bench := by
  have hfind := find?_desk
  have hlocate := locate_desk
  simp only [places, List.forall_mem_cons] at hfind hlocate
  obtain ⟨hformats, habout, -, hsort, -⟩ := hfind
  obtain ⟨-, -, hmodules, -⟩ := hlocate
  have hformats : (desk [] []).readText? (Path.join (Path.join "t" "config") "formats.json") =
      some formatsValue.pretty :=
    Host.readText?_of_find? hformats
  have habout : (desk [] []).readText? (Path.join (Path.join "t" "config") "ABOUT.txt") = none :=
    Host.readText?_of_find?_eq_none habout
  have hmodule : (desk [] []).readText? "t/modules/sort.json" = some moduleValue.pretty :=
    Host.readText?_of_find? hsort
  have hnode : (desk [] []).tree.find (desk [] []).directory "t/modules" true = .ok 4 :=
    FileTree.find_eq_ok_iff.2 ⟨_, hmodules, rfl⟩
  have hfile : (desk [] []).isFile "t/modules/sort.json" = true := by
    rw [Host.isFile, FileTree.isFile, hsort]
    rfl
  have hfiles : Toolbox.moduleFiles (desk [] []) (Path.join "t" "modules") =
      .ok ["t/modules/sort.json"] := by
    have hnames : (desk [] []).namesIn (Path.join "t" "modules") = .ok ["sort.json"] :=
      (Host.namesIn_of_entries hnode rfl List.not_mem_nil).trans
        (congrArg Except.ok (List.mergeSort_singleton _))
    have hpath : ["sort.json"].filter (fun name => !name.endsWith "~") = ["sort.json"] ∧
        Path.join (Path.join "t" "modules") "sort.json" = "t/modules/sort.json" := by
      decide +kernel
    rw [Toolbox.moduleFiles, hnames]
    simp [bind, Except.bind, Except.mapError, hpath.1, hpath.2, hfile]
  have hload : Toolbox.loadModule (desk [] []) ⟨"t", some "t", catalog, [], none⟩
      "t/modules/sort.json" = .ok bench := by
    rw [Toolbox.loadModule, hmodule]
    simp only [moduleOfText_moduleValue]
    rfl
  have hname : Toolbox.nameOf "t" = "t" := by decide
  unfold Toolbox.load
  simp only [hformats, habout, read_formatsValue, hfiles, hname, Except.mapError, bind, Except.bind]
  rw [List.foldlM_cons, hload]
  rfl

/-- The inputs are loaded, unless a table is asked for that is not there. -/
theorem loadInputs_desk :
    (inputs "s").descriptor.loadInputs (desk [] []) = .ok ⟨bench, drawn, tray⟩ ∧
      (inputs "x").descriptor.loadInputs (desk [] []) = .error (.table (.unreadable "x")) := by
  have hfind := find?_desk
  simp only [places, List.forall_mem_cons] at hfind
  obtain ⟨-, -, -, -, hp, hs, hx, -⟩ := hfind
  have hpipeline : Pipeline.load (desk [] []) "p" bench = .ok drawn := by
    rw [Pipeline.load, Host.readText?_of_find? hp]
    exact ofJson_drawing
  have htable : Table.load (desk [] []) "s" = .ok tray := by
    have hread : Table.parse "id|in|out\na|a.txt|a.out" = .ok tray := by decide
    rw [Table.load, Host.readText?_of_find? hs]
    exact hread
  have hnoTable : Table.load (desk [] []) "x" = .error (.unreadable "x") := by
    rw [Table.load, Host.readText?_of_find?_eq_none hx]
  have hdescriptor : ∀ table, (inputs table).descriptor = ⟨"t", "p", "p", table⟩ := by
    have hname : (Path.fileStem? "p").getD "analysis" = "p" := by decide
    intro table
    rw [inputs, CommandLine.InputArguments.descriptor, Option.getD_none, hname]
  rw [hdescriptor, hdescriptor, AnalysisDescriptor.loadInputs, AnalysisDescriptor.loadInputs,
    load_bench]
  simp [bind, Except.bind, Except.mapError, hpipeline, htable, hnoTable]

/-! ### What is written on the desk -/

theorem write_desk {script : BuildScript} (hroot : script.outputRoot = "/") :
    script.write (desk [] []) = (.ok (), desk [("Makefile", 8)] [paper script.text]) := by
  have hmade : (desk [] []).makeDirectories "/" = (true, desk [] []) :=
    Host.makeDirectories_root rfl
  have hplace : (desk [] []).treeNow.locate (desk [] []).directory "/Makefile" true =
      .ok ⟨0, "Makefile", none⟩ :=
    FileTree.locate_of_leads ["Makefile"] (by decide) (.missing rfl (by decide) rfl)
  have hwrite : (desk [] []).write? "/Makefile" script.text =
      some (desk [("Makefile", 8)] [paper script.text]) :=
    Host.write?_of_missing hplace (by decide) rfl _
  have hpath : script.path = "/Makefile" := by
    rw [BuildScript.path, hroot]
    decide
  rw [BuildScript.write, hroot, hmade]
  simp only [hpath, hwrite]

theorem save_desk (d : AnalysisDescriptor) (script : String) :
    d.save (desk [("Makefile", 8)] [paper script]) "/" =
      (.ok "/analysis.json", filed script d.toJson) := by
  have hmade : (desk [("Makefile", 8)] [paper script]).makeDirectories "/" =
      (true, desk [("Makefile", 8)] [paper script]) :=
    Host.makeDirectories_root rfl
  have hplace : (desk [("Makefile", 8)] [paper script]).treeNow.locate
      (desk [("Makefile", 8)] [paper script]).directory "/analysis.json" true =
      .ok ⟨0, "analysis.json", none⟩ :=
    FileTree.locate_of_leads ["analysis.json"] (by decide) (.missing rfl (by decide) rfl)
  have hwrite : (desk [("Makefile", 8)] [paper script]).write? "/analysis.json" d.toJson =
      some (filed script d.toJson) :=
    Host.write?_of_missing hplace (by decide) rfl _
  have hpath : Path.join "/" AnalysisDescriptor.fileName = "/analysis.json" := by decide
  rw [AnalysisDescriptor.save, hmade]
  simp only [hpath, hwrite]

theorem find_filed (script descriptor : String) :
    (filed script descriptor).tree.find 0 "/Makefile" true = .ok 8 ∧
      (filed script descriptor).tree.find 0 "/analysis.json" true = .ok 9 :=
  ⟨FileTree.find_eq_ok_iff.2 ⟨_, FileTree.locate_of_leads ["Makefile"] (by decide)
      (.found rfl (by decide) rfl fun _ => nofun), rfl⟩,
    FileTree.find_eq_ok_iff.2 ⟨_, FileTree.locate_of_leads ["analysis.json"] (by decide)
      (.found rfl (by decide) rfl fun _ => nofun), rfl⟩⟩

theorem readText?_filed (script descriptor : String) :
    (filed script descriptor).readText? "/Makefile" = some script :=
  Host.readText?_of_find?
    (FileTree.find?_eq_some_iff.2 ⟨_, (find_filed script descriptor).1, rfl⟩)

theorem sortedSinks_drawn : (Compilation.mk drawn tray).sortedSinks = drawn.sinks :=
  List.mergeSort_of_pairwise (by decide +kernel)

/-- The script of the desk has a rule for the row, one for the sink and one for the module. -/
theorem compile_desk : ∃ script, compile options drawn tray "/" "/" = .ok script ∧
    script.outputRoot = "/" ∧ script.rules.length = 3 := by
  have hrules : (compile options drawn tray "/" "/").toOption.map
      (fun script => (script.outputRoot, script.rules.length)) = some ("/", 3) := by
    rw [compile, Compilation.draft, Compilation.addRow_eq sortedSinks_drawn]
    decide +kernel
  obtain ⟨script, hscript, heq⟩ := exists_ok_of_map_toOption hrules
  exact ⟨script, hscript, (Prod.mk.inj heq).1, (Prod.mk.inj heq).2⟩

/-- What is written on the desk. -/
theorem writtenAnalysis_desk : ∃ a script, compile options drawn tray "/" "/" = .ok script ∧
    script.rules.length = 3 ∧
    CommandLine.writtenAnalysis (inputs "s").descriptor (desk [] []) "/" options =
      (.ok a, filed script.text (inputs "s").descriptor.toJson) := by
  obtain ⟨script, hscript, hroot, hrules⟩ := compile_desk
  have hof : Analysis.scriptOf ⟨bench, drawn, tray⟩ (desk [] []) "/" options
      { RunSettings.standard with keepGoing := true } = .ok script := by
    have hreport : (BindingReport.check drawn tray).isOk = true := by decide +kernel
    unfold Analysis.scriptOf
    simp only [hreport]
    exact congrArg (Except.mapError AnalysisError.script) hscript
  refine ⟨⟨(inputs "s").descriptor.analysis, "/",
    { RunSettings.standard with keepGoing := true }, .idle⟩, script, hscript, hrules, ?_⟩
  unfold CommandLine.writtenAnalysis Analysis.ofDescriptor Analysis.create
  rw [loadInputs_desk.1]
  simp only
  rw [show options.keepGoing = true from rfl, hof]
  simp only [write_desk hroot, hroot, save_desk]

end Specimen

namespace CommandLine

/-- One script that is shown and written, of a pipeline with a module, and one that is neither since
its table is not there. -/
theorem Invocation.compile_agrees_desk :
    (∃ script written after, Flowscript.compile ⟨true, "/bin/sh"⟩ Specimen.drawn Specimen.tray
        "/" "/" = .ok script ∧ script.rules.length = 3 ∧
      (Invocation.compile (Specimen.inputs "s") (some "/") false true (some "/bin/sh")).execute
        (fun _ => "") (Specimen.desk [] []) = (written, after) ∧ written.code = 0 ∧
      (Invocation.compile (Specimen.inputs "s") (some "/") true true (some "/bin/sh")).execute
        (fun _ => "") (Specimen.desk [] []) = (.done true script.text, Specimen.desk [] []) ∧
      after.readText? "/Makefile" = some script.text) ∧
    ∃ written,
      (Invocation.compile (Specimen.inputs "x") (some "/") false true (some "/bin/sh")).execute
        (fun _ => "") (Specimen.desk [] []) = (written, Specimen.desk [] []) ∧
      written.code ≠ 0 := by
  constructor
  · obtain ⟨a, script, hscript, hrules, hanalysis⟩ := Specimen.writtenAnalysis_desk
    have hwritten : (Invocation.compile (Specimen.inputs "s") (some "/") false true
        (some "/bin/sh")).execute (fun _ => "") (Specimen.desk [] []) =
          (.done true (line a.outputRoot),
            Specimen.filed script.text (Specimen.inputs "s").descriptor.toJson) := by
      change CommandLine.compile _ (some "/") false Specimen.options _ = _
      unfold CommandLine.compile
      simp only [Bool.false_eq_true, if_false, Option.getD_some, hanalysis]
    obtain ⟨hbefore, hok, -⟩ := compile_agrees _ _ _ _ _ _ rfl hwritten
    obtain ⟨root, text, scripted, hroot, hshown, -, -, hread⟩ := hok rfl
    have hpaths : Path.absolute? "/" "/" = some "/" ∧
        Path.join "/" Layout.scriptFile = "/Makefile" ∧
        Path.join "/" AnalysisDescriptor.fileName = "/analysis.json" := by decide
    obtain rfl : "/" = root := Option.some.inj (hpaths.1.symm.trans hroot)
    rw [hpaths.2.1, hpaths.2.2] at hread
    have hcontent := Specimen.readText?_filed script.text (Specimen.inputs "s").descriptor.toJson
    obtain ⟨hmakefile, hdescriptor⟩ :=
      Specimen.find_filed script.text (Specimen.inputs "s").descriptor.toJson
    obtain rfl : script.text = text := by
      rcases hread with hread | hdevice | ⟨n, hn, hn'⟩
      · exact Option.some.inj (hcontent.symm.trans hread)
      · obtain ⟨n, hn, hkind⟩ := FileTree.find?_eq_some_iff.1 hdevice
        obtain rfl := Except.ok.inj (hmakefile.symm.trans hn)
        cases hkind
      · cases (hmakefile.symm.trans hn).trans (hn'.symm.trans hdescriptor)
    exact ⟨script, _, _, hscript, hrules, hwritten, rfl, Prod.ext hshown hbefore, hcontent⟩
  · have hshown : (Invocation.compile (Specimen.inputs "x") (some "/") true true
        (some "/bin/sh")).execute (fun _ => "") (Specimen.desk [] []) =
          (.givenUp "" (.analysis (.table (.unreadable "x"))), Specimen.desk [] []) := by
      change CommandLine.compile _ (some "/") true Specimen.options _ = _
      unfold CommandLine.compile compiledScript
      simp only [Specimen.loadInputs_desk.2]
      rfl
    obtain ⟨-, -, hfails⟩ := compile_agrees _ _ _ _ _ _ hshown rfl
    obtain ⟨hcode, hafter⟩ := hfails Nat.one_ne_zero
    exact ⟨_, Prod.ext rfl hafter, hcode⟩

end CommandLine

end Flowscript
