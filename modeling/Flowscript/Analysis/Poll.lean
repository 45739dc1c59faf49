import Flowscript.Analysis.Ratio
import Flowscript.Analysis.Settings
import Flowscript.Host.Process

/-!
# Asking for ratios

A query for a ratio runs a program and may not take longer than the settings say.  A poll is a query
for each ratio, both at the same time.

* `Query` is a query that is in flight or over.
* `Poll` is a poll, and `Host.poll` waits for all of one.
* `Monitor` polls again and again while something else goes on.
-/

set_option autoImplicit false

namespace Flowscript

/-- A query for a ratio: one that is over, or a program and the time up to which it may answer. -/
inductive Query where
  | over (reading : RatioReading)
  | inFlight (program : Captured) (deadline : Nat)

namespace Query

/-- The reading that a program answers with. -/
def readingOf (r : ProcessResult) : RatioReading :=
  if r.exitCode ≠ 0 then .unknown (.exitCode r.exitCode) else .ofOutput r.outputText

/-- Asks for a ratio in a directory. -/
def start (s : RunSettings) (directory target : String) (h : Host) : Query × Host :=
  match h.capture? directory (s.phaseCommand target) with
  | none => (.over (.unknown (.notStarted s.makeProgram)), h)
  | some (program, h) => (.inFlight program (h.now + s.pollTimeout.nanoseconds), h)

/-- Whether a program has answered that nobody has heard yet. -/
def hasAnswer (k : Kernel) : Query → Bool
  | .over _ => false
  | .inFlight program _ => program.isDone k

/-- The time up to which a program may answer. -/
def deadline? : Query → Option Nat
  | .over _ => none
  | .inFlight _ deadline => some deadline

/-- Hears an answer, or ends a program that has taken too long. -/
def settle (h : Host) : Query → Query × Host
  | .over reading => (.over reading, h)
  | .inFlight program deadline =>
    if program.isDone h.machine.kernel then
      let (result, h) := h.takeResult program
      (.over (readingOf result), h)
    else if deadline ≤ h.now then (.over (.unknown .timedOut), h.kill program.process)
    else (.inFlight program deadline, h)

end Query

/-- The earlier of two times, where none is later than all. -/
def earlier : Option Nat → Option Nat → Option Nat
  | none, b => b
  | a, none => a
  | some a, some b => some (min a b)

/-- A poll: a query for each ratio. -/
structure Poll where
  target : Query
  intermediate : Query

namespace Poll

/-- Asks for both ratios. -/
def start (s : RunSettings) (directory : String) (h : Host) : Poll × Host :=
  let (target, h) := Query.start s directory "target_ratio" h
  let (intermediate, h) := Query.start s directory "intermediate_ratio" h
  (⟨target, intermediate⟩, h)

/-- Whether there is an answer that nobody has heard yet. -/
def hasAnswer (k : Kernel) (p : Poll) : Bool := p.target.hasAnswer k || p.intermediate.hasAnswer k

/-- The first time at which a query has taken too long. -/
def deadline? (p : Poll) : Option Nat := earlier p.target.deadline? p.intermediate.deadline?

/-- Hears answers, and ends what has taken too long. -/
def settle (h : Host) (p : Poll) : Poll × Host :=
  let (target, h) := p.target.settle h
  let (intermediate, h) := p.intermediate.settle h
  (⟨target, intermediate⟩, h)

/-- What was read, if both queries are over. -/
def readings? (p : Poll) : Option (RatioReading × RatioReading) :=
  match p.target, p.intermediate with
  | .over target, .over intermediate => some (target, intermediate)
  | _, _ => none

/-- Waits for both queries, each of which is heard once. -/
def finish (fuel : Nat) (h : Host) (p : Poll) : (RatioReading × RatioReading) × Host :=
  match p.readings?, fuel with
  | some readings, _ => (readings, h)
  | none, 0 => ((.unknown .notPolled, .unknown .notPolled), h)
  | none, fuel + 1 =>
    let (p, h) := p.settle (h.advance p.hasAnswer p.deadline?)
    p.finish fuel h

/-- How often one listens at most while one waits for a poll. -/
def mostRounds : Nat := 4

end Poll

/-- Asks for both ratios and waits for the readings. -/
def Host.poll (h : Host) (s : RunSettings) (directory : String) :
    (RatioReading × RatioReading) × Host :=
  let (p, h) := Poll.start s directory h
  p.finish Poll.mostRounds h

/-! ## Polling beside something else -/

/-- A monitor polls in a directory whenever it is time.  A poll that takes long puts the next one
off. -/
structure Monitor where
  settings : RunSettings
  directory : String
  due : Nat
  poll? : Option Poll

namespace Monitor

/-- The shortest time between two polls. -/
def leastInterval : Nat := 1000000

/-- How much later than planned a poll may be before the next one is put off. -/
def tolerance : Nat := 5000000

/-- A monitor that polls at once. -/
def start (s : RunSettings) (directory : String) (h : Host) : Monitor := ⟨s, directory, h.now, none⟩

/-- When the monitor has something to do, if nothing happens before. -/
def nextTime (m : Monitor) : Option Nat :=
  match m.poll? with
  | some p => p.deadline?
  | none => some m.due

/-- Whether the monitor has something to do now. -/
def isBusy (m : Monitor) (k : Kernel) : Bool :=
  match m.poll? with
  | some p => p.hasAnswer k || p.deadline?.any (· ≤ k.now)
  | none => m.due ≤ k.now

/-- Does what there is to do. -/
def step (m : Monitor) (h : Host) : Monitor × Host :=
  match m.poll? with
  | some p =>
    let (p, h) := p.settle h
    ({ m with poll? := if p.readings?.isSome then none else some p }, h)
  | none =>
    let interval := max leastInterval m.settings.pollInterval.nanoseconds
    let base := if m.due + tolerance < h.now then h.now else m.due
    let (p, h) := Poll.start m.settings m.directory h
    ({ m with due := base + interval, poll? := some p }, h)

/-- Goes on until something is so or time is up, with polls in between. -/
def advance (fuel : Nat) (isDone : Kernel → Bool) (limit : Option Nat) (m : Monitor) (h : Host) :
    Monitor × Host :=
  match fuel with
  | 0 => (m, h)
  | fuel + 1 =>
    let k := h.machine.kernel
    if isDone k || limit.any (· ≤ k.now) then (m, h)
    else if m.isBusy k then
      let (m, h) := m.step h
      advance fuel isDone limit m h
    else
      let stop (k : Kernel) : Bool := isDone k || m.isBusy k
      advance fuel isDone limit m (h.advance stop (earlier limit m.nextTime))

/-- Waits for a poll that is in flight. -/
def finish (m : Monitor) (h : Host) : Host :=
  match m.poll? with
  | some p => (p.finish Poll.mostRounds h).2
  | none => h

end Monitor

end Flowscript
