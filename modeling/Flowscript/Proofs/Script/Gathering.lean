import Flowscript.Proofs.Pipeline.FirstWays
import Flowscript.Proofs.Script.Rules
import Flowscript.Proofs.Table

/-!
# Scripts turn by turn

Row by row, each sink has its turn.  A turn copies a result to the file that the sink names for the
row, unless an earlier turn has had the same file, and adds the modules upstream of the sink that
the row has no rule for yet.

* `Turn` is a row and a sink, and `Compilation.turns` is the order of turns.
* `Emits` says that a turn is the first of its target.
* `Compilation.Gathered` is the invariant: what a draft holds when some rows are begun and some
  turns are past.
* `Compilation.Gathered.addSink` is the step, and `Compilation.gathered_draft` the whole run.
-/

set_option autoImplicit false

namespace Flowscript

/-! ## Turns -/

/-- A row and a sink. -/
structure Turn where
  row : Row
  sink : Block
  deriving DecidableEq, Repr

/-- The target that the sink names for the row. -/
def Turn.target? (turn : Turn) : Option String :=
  match turn.sink.kind with
  | .sink column _ => (turn.row.resolved? column).map Compilation.sinkTarget
  | _ => none

/-- A turn has the target, and no turn before it has. -/
def Emits (turns : List Turn) (turn : Turn) (target : String) : Prop :=
  ∃ before after, turns = before ++ turn :: after ∧ turn.target? = some target ∧
    ∀ earlier ∈ before, earlier.target? ≠ some target

theorem Emits.mem {turns : List Turn} {turn : Turn} {target : String}
    (h : Emits turns turn target) : turn ∈ turns := by
  obtain ⟨before, after, rfl, -⟩ := h
  simp

theorem Emits.target?_eq {turns : List Turn} {turn : Turn} {target : String}
    (h : Emits turns turn target) : turn.target? = some target := by
  obtain ⟨before, after, -, htarget, -⟩ := h
  exact htarget

/-- One turn more emits its own target, unless it has been had. -/
theorem emits_append {past : List Turn} {last turn : Turn} {target : String} :
    Emits (past ++ [last]) turn target ↔ Emits past turn target ∨
      turn = last ∧ last.target? = some target ∧ ∀ earlier ∈ past, earlier.target? ≠ some target := by
  constructor
  · rintro ⟨before, after, heq, htarget, hfirst⟩
    rcases List.eq_nil_or_concat after with rfl | ⟨after, x, rfl⟩
    · obtain ⟨rfl, hlast⟩ := List.append_inj' heq rfl
      obtain rfl : last = turn := by simpa using hlast
      exact .inr ⟨rfl, htarget, hfirst⟩
    · rw [List.concat_eq_append, ← List.cons_append, ← List.append_assoc] at heq
      obtain ⟨rfl, -⟩ := List.append_inj' heq rfl
      exact .inl ⟨before, after, rfl, htarget, hfirst⟩
  · rintro (⟨before, after, rfl, htarget, hfirst⟩ | ⟨rfl, htarget, hfirst⟩)
    · exact ⟨before, after ++ [last], by simp, htarget, hfirst⟩
    · exact ⟨past, [], rfl, htarget, hfirst⟩

/-- A turn whose target has been had emits nothing. -/
theorem emits_append_of_mem {past : List Turn} {last turn : Turn} {target other : String}
    (hlast : last.target? = some target) (hpast : ∃ earlier ∈ past, earlier.target? = some target) :
    Emits (past ++ [last]) turn other ↔ Emits past turn other := by
  rw [emits_append, or_iff_left]
  rintro ⟨-, hother, hfirst⟩
  obtain ⟨earlier, hmem, htarget⟩ := hpast
  exact hfirst earlier hmem (htarget.trans (hlast.symm.trans hother))

theorem exists_target_append {past : List Turn} {last : Turn} {target : String}
    (hlast : last.target? = some target) (t : String) :
    (∃ turn ∈ past ++ [last], turn.target? = some t) ↔
      (∃ turn ∈ past, turn.target? = some t) ∨ t = target := by
  constructor
  · rintro ⟨turn, hturn, ht⟩
    rcases List.mem_append.1 hturn with hturn | hturn
    · exact .inl ⟨turn, hturn, ht⟩
    · rw [List.mem_singleton.1 hturn, hlast] at ht
      exact .inr (Option.some.inj ht).symm
  · rintro (⟨turn, hturn, ht⟩ | rfl)
    · exact ⟨turn, List.mem_append_left _ hturn, ht⟩
    · exact ⟨last, by simp, hlast⟩

theorem forall_row_append {past : List Turn} {last : Turn} {begun : List Row}
    (h : ∀ turn ∈ past, turn.row ∈ begun) (hlast : last.row ∈ begun) :
    ∀ turn ∈ past ++ [last], turn.row ∈ begun := by
  intro turn hturn
  rcases List.mem_append.1 hturn with hturn | hturn
  · exact h turn hturn
  · rw [List.mem_singleton.1 hturn]
    exact hlast

/-- The row and the block of every rule that runs a module. -/
def Rule.tasks (rules : List Rule) : List (String × BlockId) := rules.filterMap Rule.task?

theorem Rule.mem_tasks {rules : List Rule} {task : String × BlockId} :
    task ∈ tasks rules ↔ ∃ rule ∈ rules, rule.task? = some task := by
  rw [tasks, List.mem_filterMap]

/-- What occurs once tells where it comes from. -/
theorem eq_of_nodup_filterMap {α β : Type} {f : α → Option β} {l : List α}
    (h : (l.filterMap f).Nodup) {a b : α} (ha : a ∈ l) (hb : b ∈ l) {x : β} (hfa : f a = some x)
    (hfb : f b = some x) : a = b := by
  induction l with
  | nil => cases ha
  | cons y rest ih =>
    have hrest : (rest.filterMap f).Nodup :=
      h.sublist ((List.sublist_cons_self y rest).filterMap f)
    have hfirst : ∀ z ∈ rest, f z = some x → f y ≠ some x := by
      intro z hz hfz hfy
      rw [List.filterMap_cons, hfy, List.nodup_cons] at h
      exact h.1 (List.mem_filterMap.2 ⟨z, hz, hfz⟩)
    rcases List.mem_cons.1 ha with rfl | harest
    · rcases List.mem_cons.1 hb with rfl | hbrest
      · rfl
      · exact absurd hfa (hfirst b hbrest hfb)
    · rcases List.mem_cons.1 hb with rfl | hbrest
      · exact absurd hfb (hfirst a harest hfa)
      · exact ih hrest harest hbrest

namespace Compilation

/-- The turns in their order: row by row, and in each row the sinks by number. -/
def turns (c : Compilation) : List Turn :=
  c.table.rows.flatMap fun row => c.sortedSinks.map (Turn.mk row)

theorem mem_turns {c : Compilation} {turn : Turn} :
    turn ∈ c.turns ↔ turn.row ∈ c.table.rows ∧ turn.sink ∈ c.pipeline.sinks := by
  simp only [turns, sortedSinks, List.mem_flatMap, List.mem_map, List.mem_mergeSort]
  constructor
  · rintro ⟨row, hrow, sink, hsink, rfl⟩
    exact ⟨hrow, hsink⟩
  · rintro ⟨hrow, hsink⟩
    exact ⟨turn.row, hrow, turn.sink, hsink, rfl⟩

/-- The file that feeds the sink of a turn. -/
def Feed (c : Compilation) (written : List String) (turn : Turn) (path : String) : Prop :=
  ∃ source, c.pipeline.feeder? (.input turn.sink.id 0) = some source ∧
    c.Supplied written turn.row source path

theorem Feed.mono {c : Compilation} {written written' : List String} {turn : Turn} {path : String}
    (h : c.Feed written turn path) (hsub : ∀ path ∈ written, path ∈ written') :
    c.Feed written' turn path := by
  obtain ⟨source, hsource, hsupplied⟩ := h
  exact ⟨source, hsource, hsupplied.mono hsub⟩

/-! ## The invariant -/

/-- What a draft holds when some rows are begun and some turns are past. -/
structure Gathered (c : Compilation) (begun : List Row) (past : List Turn) (d : ScriptDraft) :
    Prop where
  tidy : d.Tidy
  opened : d.rules.filterMap Rule.opened? = begun.map (·.id)
  row_mem : ∀ turn ∈ past, turn.row ∈ begun
  mem_targets : ∀ target, target ∈ d.targets ↔ ∃ turn ∈ past, turn.target? = some target
  copies : ∀ target path, .copy target path ∈ d.rules →
    ∃ turn, Emits past turn target ∧ c.Feed d.written turn path
  emitted : ∀ turn target, Emits past turn target →
    ∃ path, .copy target path ∈ d.rules ∧ c.Feed d.written turn path
  runs : ∀ rule ∈ d.rules, ∀ task, rule.task? = some task →
    ∃ row ∈ begun, row.id = task.1 ∧ c.Runs d.written row task.2 rule
  nodup_tasks : (Rule.tasks d.rules).Nodup
  mem_tasks : ∀ name id, (name, id) ∈ Rule.tasks d.rules ↔
    ∃ turn target, Emits past turn target ∧ turn.row.id = name ∧ c.pipeline.IsModule id ∧
      c.pipeline.Upstream id turn.sink.id
  grounded : ∀ task ∈ Rule.tasks d.rules, Acc c.pipeline.Feeds task.2

/-- The modules entered for a row are those that it has rules for. -/
def Memo (row : Row) (d : ScriptDraft) (seen : List BlockId) : Prop :=
  ∀ id, id ∈ seen ↔ (row.id, id) ∈ Rule.tasks d.rules

variable {c : Compilation} {begun : List Row} {past : List Turn} {d d' : ScriptDraft} {row : Row}
  {seen seen' : List BlockId}

theorem Gathered.empty (c : Compilation) : c.Gathered [] [] .empty where
  tidy := .empty
  opened := rfl
  row_mem := by simp
  mem_targets := by simp [ScriptDraft.empty]
  copies := by simp [ScriptDraft.empty]
  emitted := by
    rintro turn target h
    cases h.mem
  runs := by simp [ScriptDraft.empty]
  nodup_tasks := List.nodup_nil
  mem_tasks := by
    intro name id
    constructor
    · rintro ⟨⟩
    · rintro ⟨turn, target, h, -⟩
      cases h.mem
  grounded := by rintro task ⟨⟩

/-- **A row begins with its directory and without rules for modules.** -/
theorem Gathered.addDirectory (h : c.Gathered begun past d) (hrow : row.id ∉ begun.map (·.id)) :
    c.Gathered (begun ++ [row]) past (d.addRule (.directory row.id)) ∧
      Memo row (d.addRule (.directory row.id)) [] := by
  have htasks : Rule.tasks (d.addRule (.directory row.id)).rules = Rule.tasks d.rules := by
    simp [Rule.tasks, ScriptDraft.addRule, Rule.task?]
  refine ⟨⟨h.tidy.addDirectory row.id, ?_, ?_, h.mem_targets, ?_, ?_, ?_, ?_, ?_, ?_⟩, ?_⟩
  · rw [ScriptDraft.addRule, List.filterMap_append, h.opened, List.map_append]
    rfl
  · exact fun turn hturn => List.mem_append_left _ (h.row_mem turn hturn)
  · intro target path hmem
    exact h.copies target path (by simpa [ScriptDraft.addRule] using hmem)
  · intro turn target hemits
    obtain ⟨path, hpath, hfeed⟩ := h.emitted turn target hemits
    exact ⟨path, List.mem_append_left _ hpath, hfeed⟩
  · intro rule hrule task htask
    rcases List.mem_append.1 hrule with hrule | hrule
    · obtain ⟨row', hrow', hruns⟩ := h.runs rule hrule task htask
      exact ⟨row', List.mem_append_left _ hrow', hruns⟩
    · rw [List.mem_singleton.1 hrule] at htask
      cases htask
  · rw [htasks]
    exact h.nodup_tasks
  · rw [htasks]
    exact h.mem_tasks
  · rw [htasks]
    exact h.grounded
  · intro id
    rw [htasks]
    refine ⟨by simp, fun hmem => ?_⟩
    obtain ⟨turn, target, hemits, hname, -⟩ := (h.mem_tasks _ _).1 hmem
    exact absurd (hname ▸ List.mem_map_of_mem (h.row_mem turn hemits.mem)) hrow

/-- What the setup writes does not bear on rules. -/
theorem Gathered.noted (h : c.Gathered begun past d) (hn : ScriptDraft.Noted d d') :
    c.Gathered begun past d' where
  tidy := h.tidy.noted hn
  opened := hn.rules ▸ h.opened
  row_mem := h.row_mem
  mem_targets := hn.targets ▸ h.mem_targets
  copies := by
    rw [hn.rules]
    intro target path hmem
    obtain ⟨turn, hemits, hfeed⟩ := h.copies target path hmem
    exact ⟨turn, hemits, hfeed.mono hn.written⟩
  emitted := by
    rw [hn.rules]
    intro turn target hemits
    obtain ⟨path, hpath, hfeed⟩ := h.emitted turn target hemits
    exact ⟨path, hpath, hfeed.mono hn.written⟩
  runs := by
    rw [hn.rules]
    intro rule hrule task htask
    obtain ⟨row, hrow, hname, hruns⟩ := h.runs rule hrule task htask
    exact ⟨row, hrow, hname, hruns.mono hn.written⟩
  nodup_tasks := hn.rules ▸ h.nodup_tasks
  mem_tasks := hn.rules ▸ h.mem_tasks
  grounded := hn.rules ▸ h.grounded

/-- A turn whose target has been had leaves the draft as it is. -/
theorem Gathered.skip (h : c.Gathered begun past d) {turn : Turn} (hrow : turn.row ∈ begun)
    {target : String} (htarget : turn.target? = some target) (hmem : target ∈ d.targets) :
    c.Gathered begun (past ++ [turn]) d := by
  have hpast := (h.mem_targets target).1 hmem
  have hemits : ∀ other t, Emits (past ++ [turn]) other t ↔ Emits past other t :=
    fun other t => emits_append_of_mem htarget hpast
  refine ⟨h.tidy, h.opened, forall_row_append h.row_mem hrow, ?_, ?_, ?_, h.runs, h.nodup_tasks,
    ?_, h.grounded⟩
  · intro t
    rw [h.mem_targets, exists_target_append htarget, or_iff_left_of_imp]
    rintro rfl
    exact hpast
  · simp only [hemits]
    exact h.copies
  · simp only [hemits]
    exact h.emitted
  · simp only [hemits]
    exact h.mem_tasks

/-- The draft with the rule of a sink in addition. -/
def withCopy (d : ScriptDraft) (target path : String) : ScriptDraft :=
  { d.addRule (.copy target path) with targets := d.targets ++ [target] }

theorem Gained.tasks_eq {target path : String} {ids : List BlockId} {rules : List Rule}
    (h : c.Gained row (withCopy d target path) ids rules d') :
    Rule.tasks d'.rules = Rule.tasks d.rules ++ ids.map (row.id, ·) := by
  have hrules : ∀ {ids rules}, List.Forall₂ (c.Runs d'.written row) ids rules →
      Rule.tasks rules = ids.map (row.id, ·) := by
    intro ids rules hruns
    induction hruns with
    | nil => rfl
    | cons hrun _ ih =>
      rw [Rule.tasks, List.filterMap_cons, hrun.task?_eq, List.map_cons, ← ih]
      rfl
  rw [Rule.tasks, h.rules_eq, List.filterMap_append, ← Rule.tasks, ← Rule.tasks, hrules h.runs]
  simp [Rule.tasks, withCopy, ScriptDraft.addRule, Rule.task?]

theorem Gained.opened_eq {target path : String} {ids : List BlockId} {rules : List Rule}
    (h : c.Gained row (withCopy d target path) ids rules d') :
    d'.rules.filterMap Rule.opened? = d.rules.filterMap Rule.opened? := by
  have hruns : rules.filterMap Rule.opened? = [] := by
    rw [List.filterMap_eq_nil_iff]
    intro rule hrule
    obtain ⟨id, -, b, files, -, hruleOf, -⟩ := h.exists_of_mem hrule
    cases hruleOf
    rfl
  rw [h.rules_eq, List.filterMap_append, hruns, List.append_nil, withCopy, ScriptDraft.addRule,
    List.filterMap_append]
  exact List.append_nil _

theorem Gained.cases_rule {target path : String} {ids : List BlockId} {rules : List Rule}
    (h : c.Gained row (withCopy d target path) ids rules d') {rule : Rule} (hrule : rule ∈ d'.rules) :
    rule ∈ d.rules ∨ rule = .copy target path ∨ ∃ id ∈ ids, c.Runs d'.written row id rule := by
  rw [h.rules_eq, withCopy, ScriptDraft.addRule, List.mem_append, List.mem_append,
    List.mem_singleton] at hrule
  rcases hrule with (hold | hcopy) | hnew
  · exact .inl hold
  · exact .inr (.inl hcopy)
  · exact .inr (.inr (h.exists_of_mem hnew))

/-- **A turn with a target of its own adds the rule of the sink and those of the modules upstream of
it that the row has no rule for.** -/
theorem Gathered.emit (h : c.Gathered begun past d) {turn : Turn} (hrow : turn.row ∈ begun)
    {target path : String} (htarget : turn.target? = some target) (hnew : target ∉ d.targets)
    (hfeed : c.Feed d.written turn path) {ids : List BlockId} {rules : List Rule}
    (hgained : c.Gained turn.row (withCopy d target path) ids rules d') (hids : ids.Nodup)
    (hfresh : ∀ id ∈ ids, (turn.row.id, id) ∉ Rule.tasks d.rules)
    (hground : ∀ id ∈ ids, Acc c.pipeline.Feeds id)
    (hsound : ∀ id ∈ ids, c.pipeline.IsModule id ∧ c.pipeline.Upstream id turn.sink.id)
    (hall : ∀ id, c.pipeline.IsModule id → c.pipeline.Upstream id turn.sink.id →
      (turn.row.id, id) ∈ Rule.tasks d.rules ∨ id ∈ ids) :
    c.Gathered begun (past ++ [turn]) d' := by
  have hwritten : ∀ file ∈ d.written, file ∈ d'.written := hgained.written
  have hfirst : ∀ earlier ∈ past, earlier.target? ≠ some target := by
    intro earlier hmem ht
    exact hnew ((h.mem_targets target).2 ⟨earlier, hmem, ht⟩)
  have htasks := hgained.tasks_eq
  refine ⟨hgained.tidy (h.tidy.addCopy path hnew), ?_, forall_row_append h.row_mem hrow, ?_, ?_, ?_,
    ?_, ?_, ?_, ?_⟩
  · rw [hgained.opened_eq]
    exact h.opened
  · intro t
    rw [hgained.targets, withCopy, List.mem_append, h.mem_targets, List.mem_singleton,
      exists_target_append htarget]
  · intro t file hcopy
    rcases hgained.cases_rule hcopy with hold | heq | ⟨id, -, hrun⟩
    · obtain ⟨other, hemits, hother⟩ := h.copies t file hold
      exact ⟨other, emits_append.2 (.inl hemits), hother.mono hwritten⟩
    · cases heq
      exact ⟨turn, emits_append.2 (.inr ⟨rfl, htarget, hfirst⟩), hfeed.mono hwritten⟩
    · cases hrun.task?_eq
  · intro other t hemits
    rw [hgained.rules_eq]
    rcases emits_append.1 hemits with hold | ⟨rfl, ht, -⟩
    · obtain ⟨file, hcopy, hother⟩ := h.emitted other t hold
      exact ⟨file, List.mem_append_left _ (List.mem_append_left _ hcopy), hother.mono hwritten⟩
    · obtain rfl : target = t := Option.some.inj (htarget.symm.trans ht)
      exact ⟨path, by simp [withCopy, ScriptDraft.addRule], hfeed.mono hwritten⟩
  · intro rule hrule task htask
    rcases hgained.cases_rule hrule with hold | rfl | ⟨id, -, hrun⟩
    · obtain ⟨other, hother, hname, hruns⟩ := h.runs rule hold task htask
      exact ⟨other, hother, hname, hruns.mono hwritten⟩
    · cases htask
    · obtain rfl := Option.some.inj (hrun.task?_eq.symm.trans htask)
      exact ⟨turn.row, hrow, rfl, hrun⟩
  · rw [htasks]
    refine List.nodup_append.2 ⟨h.nodup_tasks, hids.map fun a b hab => (Prod.mk.inj hab).2, ?_⟩
    rintro task htask _ hmem rfl
    obtain ⟨id, hid, rfl⟩ := List.mem_map.1 hmem
    exact hfresh id hid htask
  · intro name id
    rw [htasks, List.mem_append, h.mem_tasks]
    constructor
    · rintro (⟨other, t, hemits, hrest⟩ | hmem)
      · exact ⟨other, t, emits_append.2 (.inl hemits), hrest⟩
      · obtain ⟨new, hnew, heq⟩ := List.mem_map.1 hmem
        cases heq
        exact ⟨turn, target, emits_append.2 (.inr ⟨rfl, htarget, hfirst⟩), rfl, hsound _ hnew⟩
    · rintro ⟨other, t, hemits, hname, hmodule, hup⟩
      rcases emits_append.1 hemits with hold | ⟨rfl, -, -⟩
      · exact .inl ⟨other, t, hold, hname, hmodule, hup⟩
      · subst hname
        rcases hall id hmodule hup with hold | hid
        · exact .inl ((h.mem_tasks _ _).1 hold)
        · exact .inr (List.mem_map_of_mem hid)
  · intro task htask
    rw [htasks, List.mem_append] at htask
    rcases htask with hold | hmem
    · exact h.grounded task hold
    · obtain ⟨id, hid, rfl⟩ := List.mem_map.1 hmem
      exact hground id hid

/-! ## The run -/

/-- What a turn does: it is the first of its target, or all it leaves behind is what the setup
writes. -/
theorem addSink_eq_ok {b : Block} {column : String} {input : Port}
    (hkind : b.kind = .sink column input)
    (hd : c.addSink row (d, seen) b = .ok (d', seen')) :
    ∃ source target origin, c.pipeline.feeder? (.input b.id 0) = some source ∧
      (Turn.mk row b).target? = some target ∧ c.originOf row source = .ok origin ∧
      (target ∈ d.targets ∧ d' = addArguments d [origin] ∧ seen' = seen ∨
        target ∉ d.targets ∧ seen' = (c.pipeline.walk [] seen source.block).2 ∧
        (c.pipeline.walk [] seen source.block).1.foldlM (c.follow row)
          (withCopy (addArguments d [origin]) target origin.path) = .ok d') := by
  rw [addSink] at hd
  simp only [hkind] at hd
  cases hsource : c.pipeline.feeder? (.input b.id 0) with
  | none =>
    rw [hsource] at hd
    cases hd
  | some source =>
    simp only [hsource] at hd
    obtain ⟨file, hfile, hd⟩ := bind_eq_ok_iff.1 hd
    obtain ⟨origin, horigin, hd⟩ := bind_eq_ok_iff.1 hd
    have htarget : (Turn.mk row b).target? = some (sinkTarget file) := by
      simp [Turn.target?, hkind, fileCell_eq_ok hfile]
    refine ⟨source, sinkTarget file, origin, rfl, htarget, horigin, ?_⟩
    have htargets : (addArguments d [origin]).targets = d.targets :=
      (noted_addArguments d [origin]).1.targets
    split at hd
    · rename_i hmem
      cases hd
      exact .inl ⟨by simpa [htargets] using hmem, rfl, rfl⟩
    · rename_i hnew
      obtain ⟨d₁, hfollow, hd⟩ := bind_eq_ok_iff.1 hd
      cases hd
      exact .inr ⟨by simpa [htargets] using hnew, rfl, hfollow⟩

/-- A sink has one input. -/
theorem eq_of_feeds_sink {p : Pipeline} (h : p.Consistent) {b : Block} (hb : b ∈ p.blocks)
    {column : String} {input : Port} (hkind : b.kind = .sink column input) {source : PortRef}
    (hsource : p.feeder? (.input b.id 0) = some source) {a : BlockId} (ha : p.Feeds a b.id) :
    a = source.block := by
  obtain ⟨i, other, hother, rfl⟩ := ha
  obtain ⟨-, b', port, hb', hport⟩ := h.feeder_ends hother
  obtain rfl : b = b' :=
    Option.some.inj ((Pipeline.block?_of_mem h.nodup_ids hb).symm.trans hb')
  rw [Block.inputs, hkind] at hport
  cases i with
  | zero => rw [Option.some.inj (hsource.symm.trans hother)]
  | succ i => cases hport

/-- What was entered for a row is settled. -/
theorem Gathered.tracked (h : c.Gathered begun past d) (hmemo : Memo row d seen) :
    c.pipeline.Tracked [] seen := by
  intro id hid
  have htask := (hmemo id).1 hid
  refine .inr ⟨h.grounded _ htask, fun a hfeed hmodule => ?_⟩
  obtain ⟨turn, target, hemits, hname, -, hup⟩ := (h.mem_tasks _ _).1 htask
  exact (hmemo a).2 ((h.mem_tasks _ _).2 ⟨turn, target, hemits, hname, hmodule, .head hfeed hup⟩)

/-- **A turn keeps the invariant.** -/
theorem Gathered.addSink (h : c.Gathered begun past d) (hc : c.pipeline.Consistent)
    (ht : c.pipeline.toolbox.Built) (hrow : row ∈ begun) (hmemo : Memo row d seen) {b : Block}
    (hb : b ∈ c.pipeline.blocks) (hsink : b.isSink = true)
    (hd : c.addSink row (d, seen) b = .ok (d', seen')) :
    c.Gathered begun (past ++ [⟨row, b⟩]) d' ∧ Memo row d' seen' := by
  obtain ⟨column, input, hkind⟩ := Block.exists_kind_of_isSink hsink
  obtain ⟨source, target, origin, hsource, htarget, horigin, hcase⟩ := addSink_eq_ok hkind hd
  obtain ⟨hn, hwritten⟩ := noted_addArguments d [origin]
  have hnoted := h.noted hn
  rcases hcase with ⟨hmem, rfl, rfl⟩ | ⟨hnew, rfl, hfollow⟩
  · refine ⟨hnoted.skip hrow htarget (hn.targets ▸ hmem), fun id => ?_⟩
    rw [hn.rules]
    exact hmemo id
  · have hfeed : c.Feed (addArguments d [origin]).written ⟨row, b⟩ origin.path := by
      refine ⟨source, hsource, origin, horigin, rfl, fun htext => ?_⟩
      obtain ⟨text, htext⟩ := Option.isSome_iff_exists.1 htext
      exact hwritten origin List.mem_cons_self text htext
    obtain ⟨new, hex, -⟩ := hc.walk_inOrder ht [] seen source.block (h.tracked hmemo)
      (fun a ha => absurd ha List.not_mem_nil) ⟨b.id, 0, source, hsource, rfl⟩
      (loop_not_mem_of_follow hfollow)
    rw [hex.visits] at hfollow
    obtain ⟨rules, hgained⟩ := foldlM_follow hc ht hex.modules hfollow
    have htasks := hgained.tasks_eq
    rw [hn.rules] at htasks
    refine ⟨hnoted.emit hrow htarget (hn.targets ▸ hnew) hfeed hgained hex.nodup ?_ ?_ ?_ ?_, ?_⟩
    · intro id hid htask
      rw [hn.rules] at htask
      exact hex.fresh id hid ((hmemo id).2 htask)
    · intro id hid
      have hmem := (hex.mem_seen id).2 (.inr hid)
      exact ((hex.tracked id hmem).resolve_left List.not_mem_nil).grounded
    · intro id hid
      obtain ⟨root, hroot, hup⟩ := hex.above id hid
      rw [List.mem_singleton.1 hroot] at hup
      exact ⟨hex.modules id hid, .tail' hup ⟨0, source, hsource, rfl⟩⟩
    · intro id hmodule hup
      obtain ⟨last, hway, hlast⟩ := Relation.TransGen.tail'_iff.1 hup
      obtain rfl := eq_of_feeds_sink hc hb hkind hsource hlast
      rw [hn.rules]
      rcases (hex.mem_seen id).1 (hex.mem_of_upstream hc hmodule hway hlast) with hold | hid
      · exact .inl ((hmemo id).1 hold)
      · exact .inr hid
    · intro id
      rw [htasks, hex.mem_seen, List.mem_append, hmemo]
      refine or_congr_right ?_
      simp

/-- **The turns of a row keep the invariant.** -/
theorem Gathered.foldlM_addSink (h : c.Gathered begun past d) (hc : c.pipeline.Consistent)
    (ht : c.pipeline.toolbox.Built) (hrow : row ∈ begun) (hmemo : Memo row d seen)
    {sinks : List Block} (hsinks : ∀ b ∈ sinks, b ∈ c.pipeline.blocks ∧ b.isSink = true)
    (hd : sinks.foldlM (c.addSink row) (d, seen) = .ok (d', seen')) :
    c.Gathered begun (past ++ sinks.map (Turn.mk row)) d' := by
  induction sinks generalizing past d seen with
  | nil =>
    cases hd
    rw [List.map_nil, List.append_nil]
    exact h
  | cons b rest ih =>
    rw [List.foldlM_cons, bind_eq_ok_iff] at hd
    obtain ⟨⟨d₁, seen₁⟩, hone, hrest⟩ := hd
    obtain ⟨hb, hsink⟩ := hsinks b List.mem_cons_self
    obtain ⟨hgathered, hmemo₁⟩ := h.addSink hc ht hrow hmemo hb hsink hone
    have hall := ih hgathered hmemo₁ (fun b' hb' => hsinks b' (List.mem_cons_of_mem _ hb')) hrest
    rw [List.append_assoc] at hall
    exact hall

theorem mem_sortedSinks {b : Block} (hb : b ∈ c.sortedSinks) :
    b ∈ c.pipeline.blocks ∧ b.isSink = true := by
  rw [sortedSinks, List.mem_mergeSort, Pipeline.sinks, List.mem_filter] at hb
  exact hb

/-- **The rows keep the invariant.** -/
theorem Gathered.foldlM_addRow (h : c.Gathered begun past d) (hc : c.pipeline.Consistent)
    (ht : c.pipeline.toolbox.Built) {rows : List Row}
    (hnodup : ((begun ++ rows).map (·.id)).Nodup) (hd : rows.foldlM c.addRow d = .ok d') :
    c.Gathered (begun ++ rows)
      (past ++ rows.flatMap fun row => c.sortedSinks.map (Turn.mk row)) d' := by
  induction rows generalizing begun past d with
  | nil =>
    cases hd
    rw [List.flatMap_nil, List.append_nil, List.append_nil]
    exact h
  | cons row rest ih =>
    rw [List.foldlM_cons, bind_eq_ok_iff] at hd
    obtain ⟨d₁, hone, hrest⟩ := hd
    rw [addRow, bind_eq_ok_iff] at hone
    obtain ⟨⟨d₂, seen⟩, hsinks, hone⟩ := hone
    cases hone
    have hnew : row.id ∉ begun.map (·.id) := by
      rw [List.map_append, List.map_cons, List.nodup_append] at hnodup
      exact fun hmem => hnodup.2.2 _ hmem _ List.mem_cons_self rfl
    obtain ⟨hbegun, hmemo⟩ := h.addDirectory hnew
    have hturns := hbegun.foldlM_addSink hc ht (by simp) hmemo (fun b => mem_sortedSinks) hsinks
    rw [List.append_cons] at hnodup
    have hall := ih hturns hnodup hrest
    rw [← List.append_cons, List.append_assoc] at hall
    rw [List.flatMap_cons]
    exact hall

/-- **What is in a draft when all rows are done.** -/
theorem gathered_draft (hc : c.pipeline.Consistent) (ht : c.pipeline.toolbox.Built)
    (hrows : c.table.Sound) (hd : c.draft = .ok d) : c.Gathered c.table.rows c.turns d :=
  (Gathered.empty c).foldlM_addRow hc ht hrows.nodup_ids hd

end Compilation

end Flowscript
