import Flowscript.Script.Basic
import Mathlib.Data.List.Nodup

/-!
# The lines of a script

The rules of a script stand behind lines that every script has: the variables of the layout, the
lists of files, and the targets that make all files, set up, clean and count.  The lines are given
here as they stand in the text.

* `Rule.lines` are the lines of a rule, `BuildScript.frame` those in front of all rules, and
  `BuildScript.allLines` all of them.  `BuildScript.text_eq` says that a script is its lines.
* `BuildScript.Prints` says that a line of a recipe writes a file, and `BuildScript.argumentLine_inj`
  that such a line tells the file and the text.
* `BuildScript.exists_setupRecipe_eq` says that the setup writes each of its files on one line.
-/

set_option autoImplicit false

namespace Flowscript

/-! ## Lines -/

/-- Lines with their ends. -/
def unlines (lines : List String) : String := String.join (lines.map (· ++ "\n"))

@[simp]
theorem unlines_nil : unlines [] = "" := rfl

@[simp]
theorem unlines_cons (line : String) (lines : List String) :
    unlines (line :: lines) = line ++ ("\n" ++ unlines lines) := by
  rw [unlines, List.map_cons, String.join_cons, String.append_assoc]
  rfl

@[simp]
theorem unlines_append (front back : List String) :
    unlines (front ++ back) = unlines front ++ unlines back := by
  rw [unlines, List.map_append, String.join_append]
  rfl

/-- A line with others in front of it has the end of a line before it. -/
theorem exists_unlines_eq {front : List String} (h : front ≠ []) (line : String)
    (back : List String) : ∃ before after,
      unlines (front ++ ("\t" ++ line) :: back) = before ++ "\n\t" ++ line ++ "\n" ++ after := by
  have hbreak : "\n\t" = "\n" ++ "\t" := by decide
  obtain ⟨initial, last, rfl⟩ : ∃ initial last, front = initial ++ [last] :=
    ⟨front.dropLast, front.getLast h, (List.dropLast_append_getLast h).symm⟩
  refine ⟨unlines initial ++ last, unlines back, ?_⟩
  rw [hbreak]
  simp only [unlines_append, unlines_cons, unlines_nil, String.append_assoc, String.append_empty]

/-! ## The lines of a rule -/

namespace Rule

/-- The line of a module's command.  A command that fails leaves a marker, and it stops the build
unless that keeps going. -/
def caught (keepGoing : Bool) (row : String) (block : BlockId) (command : String) : String :=
  if keepGoing then "\t(" ++ command ++ ") || mkdir -p $(ERRORS)" ++ row ++ "/" ++ block.text
  else "\t(" ++ command ++ ") || \x7b mkdir -p $(ERRORS)" ++ row ++ "/" ++ block.text
    ++ "; exit 1; \x7d"

/-- The lines of a rule, with an empty one at the end. -/
def lines (keepGoing : Bool) : Rule → List String
  | directory row => ["# row " ++ row, "$(PROCESSING)" ++ row ++ ":", "\tmkdir -p $@", ""]
  | copy target prerequisite =>
    [target ++ ": " ++ prerequisite, "\tmkdir -p $(@D)",
      if keepGoing then "\ttest ! -e $< || cp $< $@" else "\tcp $< $@", ""]
  | run row block name targets prerequisites command =>
    ["# " ++ name ++ " (block " ++ block.text ++ ")",
      " ".intercalate targets ++ (if 1 < targets.length then " &: " else ": ")
        ++ " ".intercalate prerequisites ++ " | $(PROCESSING)" ++ row,
      caught keepGoing row block command, ""]

theorem catching_true (row : String) (block : BlockId) (command : String) :
    catching true row block command =
      "(" ++ command ++ ") || mkdir -p $(ERRORS)" ++ row ++ "/" ++ block.text := by
  simp [catching, Layout.marker, Layout.rowErrors, String.ext_iff]

theorem catching_false (row : String) (block : BlockId) (command : String) :
    catching false row block command =
      "(" ++ command ++ ") || \x7b mkdir -p $(ERRORS)" ++ row ++ "/" ++ block.text
        ++ "; exit 1; \x7d" := by
  simp [catching, Layout.marker, Layout.rowErrors, String.ext_iff]

theorem header_run (row : String) (block : BlockId) (name : String)
    (targets prerequisites : List String) (command : String) :
    (run row block name targets prerequisites command).header =
      " ".intercalate targets ++ (if 1 < targets.length then " &: " else ": ")
        ++ " ".intercalate prerequisites ++ " | $(PROCESSING)" ++ row := by
  simp [header, spaced, Layout.rowDirectory, String.ext_iff]

theorem tab_catching (keepGoing : Bool) (row : String) (block : BlockId) (command : String) :
    "\t" ++ catching keepGoing row block command = caught keepGoing row block command := by
  cases keepGoing
  · simp [catching_false, caught, String.ext_iff]
  · simp [catching_true, caught, String.ext_iff]

/-- **A rule is its lines.** -/
theorem text_eq (keepGoing : Bool) (r : Rule) : r.text keepGoing = unlines (r.lines keepGoing) := by
  cases r with
  | directory row =>
    simp [text, lines, comment?, header, recipe, Layout.rowDirectory, String.ext_iff]
  | copy target prerequisite =>
    cases keepGoing <;>
      simp [text, lines, comment?, header, recipe, copying, String.ext_iff]
  | run row block name targets prerequisites command =>
    simp [text, lines, comment?, header_run, recipe, ← tab_catching, String.ext_iff]

end Rule

namespace BuildScript

/-! ## The lines of the frame -/

/-- The definition of a list: it goes on with one line for each item. -/
def listed (name : String) (items : List String) : String :=
  name ++ " :=" ++ String.join (items.map (" \\\n\t" ++ ·))

/-- The line of a recipe that makes directories, if there are any to make. -/
def making (directories : List String) : List String :=
  if directories = [] then [] else ["\tmkdir -p " ++ " ".intercalate directories]

/-- The command that writes the file of an argument. -/
def argumentLine (argument : String × String) : String :=
  "printf '%s' " ++ shellQuote argument.2 ++ " > " ++ argument.1

/-- The lines that make the directories of the rows and take old markers away. -/
def clearing (s : BuildScript) : List String :=
  making (s.rows.map ("$(PROCESSING)" ++ ·)) ++ ["\trm -rf $(ERRORS)"]
    ++ making (s.rows.map ("$(ERRORS)" ++ ·))

/-- The lines that make the logs empty. -/
def emptyLogs : List String := ["\t: > $(OUTPUT)STDOUT.txt", "\t: > $(OUTPUT)STDERR.txt"]

/-- The recipe of the setup. -/
def setupRecipe (s : BuildScript) : List String :=
  s.clearing ++ s.arguments.map ("\t" ++ argumentLine ·) ++ emptyLogs

/-- The comments, the variables and the lists. -/
def opening (s : BuildScript) : List String :=
  ["# Build script for pipeline '" ++ s.name ++ "', generated by pipeforge.",
    "# Run `make setupall` before building `all`.",
    "",
    "SHELL := " ++ s.options.shell,
    "OUTPUT := " ++ Path.trimSlashes s.outputRoot ++ "/",
    "PROCESSING := $(OUTPUT)processing/",
    "ERRORS := $(OUTPUT)errors/",
    "",
    listed "TARGETS" s.targets,
    listed "INTERMEDIATES" s.intermediates,
    listed "ARGS" s.argumentPaths,
    ""]

/-- The targets that are no files, and the one that makes all files. -/
def goals : List String :=
  [".PHONY: all setupall cleanall target_ratio intermediate_ratio",
    ".DEFAULT_GOAL := all",
    "",
    "all: $(TARGETS)",
    ""]

/-- The targets that clean and count. -/
def upkeep : List String :=
  ["cleanall:",
    "\trm -f $(TARGETS) $(INTERMEDIATES) $(ARGS)",
    "\trm -rf $(ERRORS)",
    "",
    "target_ratio:",
    "\t@echo \"$(words $(wildcard $(TARGETS))) / $(words $(TARGETS))\"",
    "",
    "intermediate_ratio:",
    "\t@echo \"$(words $(wildcard $(TARGETS) $(INTERMEDIATES))) / "
      ++ "$(words $(TARGETS) $(INTERMEDIATES))\"",
    ""]

/-- All lines in front of the rules. -/
def frame (s : BuildScript) : List String :=
  s.opening ++ goals ++ ("setupall:" :: s.setupRecipe ++ [""]) ++ upkeep

/-- All lines of a script. -/
def allLines (s : BuildScript) : List String :=
  s.frame ++ s.rules.flatMap (Rule.lines s.options.keepGoing)

/-! ## The text of a script -/

theorem listVariable_eq (name : String) (items : List String) :
    listVariable name items = unlines [listed name items] := by
  rw [listVariable, unlines_cons, unlines_nil, String.append_empty, listed]

theorem makeDirectories_eq (directories : List String) :
    makeDirectories directories = unlines (making directories) := by
  cases directories with
  | nil => rfl
  | cons directory rest =>
    rw [making, if_neg (List.cons_ne_nil _ _), unlines_cons, unlines_nil, String.append_empty]
    rfl

theorem writeArgument_eq (argument : String × String) :
    writeArgument argument = "\t" ++ argumentLine argument ++ "\n" := by
  have hstart : "\tprintf '%s' " = "\t" ++ "printf '%s' " := by decide
  unfold writeArgument argumentLine
  rw [hstart]
  simp only [String.append_assoc]

theorem writeArguments_eq (arguments : List (String × String)) :
    String.join (arguments.map writeArgument) =
      unlines (arguments.map ("\t" ++ argumentLine ·)) := by
  rw [unlines, List.map_map]
  exact congrArg _ (List.map_congr_left fun argument _ => writeArgument_eq argument)

theorem opening_eq (s : BuildScript) : s.title ++ s.preamble ++ "\n" = unlines s.opening := by
  have hliterals : "', generated by pipeforge.\n" = "', generated by pipeforge." ++ "\n" ∧
      "# Run `make setupall` before building `all`.\n\n" =
        "# Run `make setupall` before building `all`." ++ ("\n" ++ "\n") ∧
      "PROCESSING := $(OUTPUT)processing/" =
        "PROCESSING := $(OUTPUT)" ++ (Layout.processingDirectory ++ "/") ∧
      "ERRORS := $(OUTPUT)errors/" = "ERRORS := $(OUTPUT)" ++ (Layout.errorsDirectory ++ "/") ∧
      "/\n" = "/" ++ "\n" ∧ "/\n\n" = "/" ++ ("\n" ++ "\n") := by
    simp [Layout.processingDirectory, Layout.errorsDirectory]
  obtain ⟨htitle, hrun, hprocessing, herrors, hroot, hend⟩ := hliterals
  unfold title preamble opening
  rw [listVariable_eq, listVariable_eq, listVariable_eq, htitle, hrun, hprocessing, herrors, hroot,
    hend]
  simp only [unlines_cons, unlines_nil, String.append_assoc, String.append_empty,
    String.empty_append]

theorem goals_eq : "\n" ++ unlines goals =
    "\n.PHONY: all setupall cleanall target_ratio intermediate_ratio\n"
      ++ ".DEFAULT_GOAL := all\n\n" ++ "all: $(TARGETS)\n\n" := by
  simp [goals]

theorem setupTarget_eq (s : BuildScript) :
    s.setupTarget = unlines ("setupall:" :: s.setupRecipe ++ [""]) := by
  have hliterals : "setupall:\n" = "setupall:" ++ "\n" ∧
      "\trm -rf $(ERRORS)\n" = "\trm -rf $(ERRORS)" ++ "\n" ∧
      "\t: > $(OUTPUT)STDOUT.txt" = "\t: > " ++ Layout.inOutput Layout.outputLog ∧
      "\t: > $(OUTPUT)STDERR.txt" = "\t: > " ++ Layout.inOutput Layout.errorLog ∧
      "\n\n" = "\n" ++ "\n" := by decide
  obtain ⟨hname, hremove, houtput, herrors, hend⟩ := hliterals
  unfold setupTarget setupRecipe clearing emptyLogs
  rw [makeDirectories_eq, makeDirectories_eq, writeArguments_eq, hname, hremove, houtput, herrors,
    hend]
  simp only [unlines_append, unlines_cons, unlines_nil, List.cons_append, List.append_assoc,
    String.append_assoc, String.append_empty, String.empty_append]
  rfl

theorem fixedTargets_eq : fixedTargets = unlines upkeep := by
  unfold fixedTargets upkeep
  simp

theorem rules_eq (keepGoing : Bool) (rules : List Rule) :
    String.join (rules.map (·.text keepGoing)) = unlines (rules.flatMap (Rule.lines keepGoing)) := by
  induction rules with
  | nil => rfl
  | cons rule rest ih =>
    rw [List.map_cons, String.join_cons, ih, Rule.text_eq, List.flatMap_cons, unlines_append]

/-- **A script is its lines.** -/
theorem text_eq (s : BuildScript) : s.text = unlines s.allLines := by
  have hparts : s.text = s.title ++ s.preamble
      ++ ("\n.PHONY: all setupall cleanall target_ratio intermediate_ratio\n"
        ++ ".DEFAULT_GOAL := all\n\n" ++ "all: $(TARGETS)\n\n")
      ++ s.setupTarget ++ fixedTargets
      ++ String.join (s.rules.map (·.text s.options.keepGoing)) := by
    simp only [text, body, String.append_assoc]
  rw [allLines, unlines_append, frame, unlines_append, unlines_append, unlines_append, ← rules_eq,
    ← setupTarget_eq, ← fixedTargets_eq, ← opening_eq, hparts, ← goals_eq]
  simp only [String.append_assoc]

/-! ## The lines that write files -/

/-- What the quoting of a character adds to it. -/
def quotedRest : Char → List Char
  | '\x27' => ['\\', '\x27', '\x27']
  | '$' => ['$']
  | _ => []

theorem quotedChar_eq (c : Char) : quotedChar c = c :: quotedRest c := by
  unfold quotedChar
  split
  · rfl
  · rfl
  · simp [quotedRest]

/-- A quoted text ends at the first quote with a blank behind it. -/
theorem flatMap_quotedChar_inj {cs cs' rest rest' : List Char}
    (h : cs.flatMap quotedChar ++ '\x27' :: ' ' :: rest =
      cs'.flatMap quotedChar ++ '\x27' :: ' ' :: rest') : cs = cs' ∧ rest = rest' := by
  -- A quote inside the text has a backslash behind it.
  have hend : ∀ (c : Char) (back more : List Char),
      c :: (quotedRest c ++ back) ≠ '\x27' :: ' ' :: more := by
    intro c back more heq
    obtain ⟨rfl, hback⟩ := List.cons.inj heq
    cases hback
  induction cs generalizing cs' with
  | nil =>
    cases cs' with
    | nil => simpa using h
    | cons c' cs' =>
      rw [List.flatMap_cons, quotedChar_eq, List.append_assoc, List.cons_append] at h
      exact absurd h.symm (hend _ _ _)
  | cons c cs ih =>
    rw [List.flatMap_cons, quotedChar_eq, List.append_assoc, List.cons_append] at h
    cases cs' with
    | nil => exact absurd h (hend _ _ _)
    | cons c' cs' =>
      rw [List.flatMap_cons, quotedChar_eq, List.append_assoc, List.cons_append] at h
      obtain ⟨rfl, hback⟩ := List.cons.inj h
      obtain ⟨rfl, hrest⟩ := ih (List.append_cancel_left hback)
      exact ⟨rfl, hrest⟩

/-- **The line for an argument tells the file and the text.** -/
theorem argumentLine_inj {argument argument' : String × String}
    (h : argumentLine argument = argumentLine argument') : argument = argument' := by
  obtain ⟨path, text⟩ := argument
  obtain ⟨path', text'⟩ := argument'
  have hlist : ∀ path text : String, (argumentLine (path, text)).toList =
      "printf '%s' '".toList ++ (text.toList.flatMap quotedChar
        ++ '\x27' :: ' ' :: ('>' :: ' ' :: path.toList)) := by
    intro path text
    unfold argumentLine shellQuote
    simp
  have hlists := congrArg String.toList h
  rw [hlist, hlist] at hlists
  obtain ⟨htext, hpath⟩ := flatMap_quotedChar_inj (List.append_cancel_left hlists)
  rw [List.cons.injEq, List.cons.injEq] at hpath
  exact Prod.ext (String.toList_inj.1 hpath.2.2) (String.toList_inj.1 htext)

/-- A line of a recipe that writes a text into a file. -/
def Prints (path line : String) : Prop :=
  ∃ text, line = "\t" ++ argumentLine (path, text)

theorem prints_argument_iff {path : String} {argument : String × String} :
    Prints path ("\t" ++ argumentLine argument) ↔ argument.1 = path := by
  constructor
  · rintro ⟨text, h⟩
    rw [argumentLine_inj ((String.append_right_inj _).1 h)]
  · rintro rfl
    exact ⟨argument.2, rfl⟩

/-- The other lines of the setup write no file in this way. -/
theorem not_prints {path line : String} (h : line.toList[1]? ≠ some 'p') : ¬Prints path line := by
  rintro ⟨text, rfl⟩
  refine h ?_
  unfold argumentLine
  simp

theorem not_prints_of_mem_making {directories : List String} {path line : String}
    (h : line ∈ making directories) : ¬Prints path line := by
  unfold making at h
  split at h
  · cases h
  · rw [List.mem_singleton.1 h]
    exact not_prints (by simp)

theorem not_prints_of_mem_clearing {s : BuildScript} {path line : String} (h : line ∈ s.clearing) :
    ¬Prints path line := by
  rw [clearing, List.mem_append, List.mem_append] at h
  rcases h with (h | h) | h
  · exact not_prints_of_mem_making h
  · exact not_prints (by rw [List.mem_singleton.1 h]; decide)
  · exact not_prints_of_mem_making h

theorem not_prints_of_mem_emptyLogs {path line : String} (h : line ∈ emptyLogs) :
    ¬Prints path line := by
  have hlogs : ∀ log ∈ emptyLogs, log.toList[1]? ≠ some 'p' := by decide
  exact not_prints (hlogs line h)

/-- What a line of the setup writes is the file of an argument. -/
theorem mem_argumentPaths_of_prints {s : BuildScript} {path line : String}
    (hline : line ∈ s.setupRecipe) (h : Prints path line) : path ∈ s.argumentPaths := by
  rw [setupRecipe, List.mem_append, List.mem_append] at hline
  rcases hline with (hline | hline) | hline
  · exact absurd h (not_prints_of_mem_clearing hline)
  · obtain ⟨argument, hargument, rfl⟩ := List.mem_map.1 hline
    exact prints_argument_iff.1 h ▸ List.mem_map_of_mem hargument
  · exact absurd h (not_prints_of_mem_emptyLogs hline)

/-- **The setup writes the file of an argument on one line**, if no two arguments have one file. -/
theorem exists_setupRecipe_eq {s : BuildScript} (hnodup : s.argumentPaths.Nodup) {path : String}
    (h : path ∈ s.argumentPaths) :
    ∃ before line after, s.setupRecipe = before ++ line :: after ∧ Prints path line ∧
      ∀ other ∈ before ++ after, ¬Prints path other := by
  obtain ⟨argument, hargument, rfl⟩ := List.mem_map.1 h
  obtain ⟨front, back, harguments⟩ := List.append_of_mem hargument
  rw [argumentPaths, harguments, List.map_append, List.map_cons, List.nodup_middle,
    List.nodup_cons, ← List.map_append] at hnodup
  refine ⟨s.clearing ++ front.map ("\t" ++ argumentLine ·), "\t" ++ argumentLine argument,
    back.map ("\t" ++ argumentLine ·) ++ emptyLogs, ?_, prints_argument_iff.2 rfl, ?_⟩
  · rw [setupRecipe, harguments]
    simp only [List.map_append, List.map_cons, List.append_assoc, List.cons_append]
  · have hothers : ∀ other ∈ (front ++ back).map ("\t" ++ argumentLine ·),
        ¬Prints argument.1 other := by
      refine List.forall_mem_map.2 fun other hother hprints => hnodup.1 ?_
      exact prints_argument_iff.1 hprints ▸ List.mem_map_of_mem hother
    rw [List.map_append, List.forall_mem_append] at hothers
    simp only [List.forall_mem_append]
    exact ⟨⟨fun line => not_prints_of_mem_clearing, hothers.1⟩, hothers.2,
      fun line => not_prints_of_mem_emptyLogs⟩

/-- Every argument has a line of the setup to itself. -/
theorem exists_setupTarget_eq {s : BuildScript} {argument : String × String}
    (h : argument ∈ s.arguments) :
    ∃ before after, s.setupTarget =
      before ++ "\n\t" ++ argumentLine argument ++ "\n" ++ after := by
  obtain ⟨front, back, harguments⟩ := List.append_of_mem h
  have hrecipe : "setupall:" :: s.setupRecipe ++ [""] =
      ("setupall:" :: s.clearing ++ front.map ("\t" ++ argumentLine ·)) ++
        ("\t" ++ argumentLine argument) ::
          (back.map ("\t" ++ argumentLine ·) ++ emptyLogs ++ [""]) := by
    rw [setupRecipe, harguments]
    simp only [List.map_append, List.map_cons, List.append_assoc, List.cons_append]
  rw [setupTarget_eq, hrecipe]
  exact exists_unlines_eq (List.cons_ne_nil _ _) _ _

end BuildScript

end Flowscript
