import Flowscript.Instances

/-!
# Differences of two sequences

What differs is marked first and gathered into changes afterwards.

* `Marks` says of each line of two files whether it has no counterpart in the other one.
* `marksOf` finds as few such lines as it can: lines that occur in one file only are left aside,
  the others are compared from both ends at once, and then runs of marked lines are moved to where
  they look best.
* `Change` is a run of lines in one file in whose place the other file has other lines.
* `changesOf` finds the changes between two files that are lists of numbers.
* `hunksOf` joins changes that are close to one another.
-/

set_option autoImplicit false

namespace Flowscript.Difference

/-! ## Lines without a counterpart

Two files are compared as lists of numbers, equal lines having equal numbers. -/

/-- Which lines of two files have no counterpart. -/
structure Marks where
  first : Array Bool
  second : Array Bool

/-! ### The middle of a shortest way -/

/-- Two lists that are compared, and the parts of them in question. -/
structure Region where
  first : Array Nat
  second : Array Nat
  firstStart : Nat
  firstStop : Nat
  secondStart : Nat
  secondStop : Nat

namespace Region

/-- Whether two lines are the same. -/
def same (r : Region) (x y : Nat) : Bool := r.first.getD x 0 == r.second.getD y 0

/-- Goes forward past lines that are the same, and gives where it came to in the first list. -/
def slideForward (r : Region) (fuel x y : Nat) : Nat :=
  match fuel with
  | 0 => x
  | fuel + 1 =>
    if x < r.firstStop && y < r.secondStop && r.same x y then slideForward r fuel (x + 1) (y + 1)
    else x

/-- Goes back past lines that are the same, and gives where it came to in the first list. -/
def slideBack (r : Region) (fuel x y : Nat) : Nat :=
  match fuel with
  | 0 => x
  | fuel + 1 =>
    if r.firstStart < x && r.secondStart < y && r.same (x - 1) (y - 1) then
      slideBack r fuel (x - 1) (y - 1)
    else x

/-- How many lines there are in all. -/
def size (r : Region) : Nat := (r.firstStop - r.firstStart) + (r.secondStop - r.secondStart)

/-- How far one has come on each diagonal of some, which are numbered from a least one on. -/
structure Reach where
  low : Int
  high : Int
  places : Array Int
  offset : Int

/-- How far one has come on a diagonal. -/
def Reach.at? (s : Reach) (d : Int) : Int := s.places.getD (d + s.offset).toNat 0

/-- Says how far one has come on a diagonal. -/
def Reach.set (s : Reach) (d value : Int) : Reach :=
  { s with places := s.places.setIfInBounds (d + s.offset).toNat value }

/-- Takes one more diagonal on each side, or one less where there are no more. -/
def Reach.widen (s : Reach) (least most outside : Int) : Reach :=
  let s := if least < s.low then { s.set (s.low - 2) outside with low := s.low - 1 }
    else { s with low := s.low + 1 }
  if s.high < most then { s.set (s.high + 2) outside with high := s.high + 1 }
  else { s with high := s.high - 1 }

/-- Goes one line further on each diagonal from the start, the highest first, up to one where the
way from the stop is met. -/
def stepForward (r : Region) (isOdd : Bool) (back : Reach) (fuel : Nat) (d : Int) (s : Reach) :
    Reach × Option (Nat × Nat) :=
  match fuel with
  | 0 => (s, none)
  | fuel + 1 =>
    if d < s.low then (s, none)
    else
      let below := s.at? (d - 1)
      let above := s.at? (d + 1)
      let start := if below < above then above else below + 1
      let x := r.slideForward (r.size + 1) start.toNat (start - d).toNat
      let s := s.set d x
      if isOdd && back.low ≤ d && d ≤ back.high && back.at? d ≤ x then
        (s, some (x, ((x : Int) - d).toNat))
      else stepForward r isOdd back fuel (d - 2) s

/-- Goes one line further back on each diagonal from the stop. -/
def stepBack (r : Region) (isOdd : Bool) (ahead : Reach) (fuel : Nat) (d : Int) (s : Reach) :
    Reach × Option (Nat × Nat) :=
  match fuel with
  | 0 => (s, none)
  | fuel + 1 =>
    if d < s.low then (s, none)
    else
      let below := s.at? (d - 1)
      let above := s.at? (d + 1)
      let start := if below < above then below else above - 1
      let x := r.slideBack (r.size + 1) start.toNat (start - d).toNat
      let s := s.set d x
      if !isOdd && ahead.low ≤ d && d ≤ ahead.high && (x : Int) ≤ ahead.at? d then
        (s, some (x, ((x : Int) - d).toNat))
      else stepBack r isOdd ahead fuel (d - 2) s

/-- Looks for a place in the middle of a shortest way. -/
def middleFrom (r : Region) (isOdd : Bool) (fuel : Nat) (ahead back : Reach) : Nat × Nat :=
  let least : Int := (r.firstStart : Int) - r.secondStop
  let most : Int := (r.firstStop : Int) - r.secondStart
  match fuel with
  | 0 => (r.firstStop, r.secondStart)
  | fuel + 1 =>
    let ahead := ahead.widen least most (-1)
    match r.stepForward isOdd back (r.size + 3) ahead.high ahead with
    | (_, some place) => place
    | (ahead, none) =>
      let back := back.widen least most (r.firstStop + r.secondStop + 2)
      match r.stepBack isOdd ahead (r.size + 3) back.high back with
      | (_, some place) => place
      | (back, none) => middleFrom r isOdd fuel ahead back

/-- A place in the middle of a shortest way from the starts to the stops. -/
def middle (r : Region) : Nat × Nat :=
  let offset : Int := (r.secondStop : Int) + 2
  let places : Array Int := Array.replicate (r.firstStop + r.secondStop + 5) 0
  let center : Int := (r.firstStart : Int) - r.secondStart
  let corner : Int := (r.firstStop : Int) - r.secondStop
  let ahead : Reach := (⟨center, center, places, offset⟩ : Reach).set center r.firstStart
  let back : Reach := (⟨corner, corner, places, offset⟩ : Reach).set corner r.firstStop
  r.middleFrom ((center - corner) % 2 != 0) (r.size + 2) ahead back

/-- Marks the lines of a region that have no counterpart, given the real places of lines. -/
def mark (fuel : Nat) (real : Array Nat × Array Nat) (r : Region) (m : Marks) : Marks :=
  match fuel with
  | 0 => m
  | fuel + 1 =>
    let ahead := r.slideForward (r.size + 1) r.firstStart r.secondStart - r.firstStart
    let r := { r with
      firstStart := r.firstStart + ahead
      secondStart := r.secondStart + ahead }
    let back := r.firstStop - r.slideBack (r.size + 1) r.firstStop r.secondStop
    let r := { r with
      firstStop := r.firstStop - back
      secondStop := r.secondStop - back }
    let markRange (real : Array Nat) (start stop : Nat) (marks : Array Bool) : Array Bool :=
      (List.range (stop - start)).foldl (fun marks i =>
        marks.setIfInBounds (real.getD (start + i) 0) true) marks
    if r.firstStart == r.firstStop then
      { m with second := markRange real.2 r.secondStart r.secondStop m.second }
    else if r.secondStart == r.secondStop then
      { m with first := markRange real.1 r.firstStart r.firstStop m.first }
    else
      let (x, y) := r.middle
      let m := mark fuel real { r with firstStop := x, secondStop := y } m
      mark fuel real { r with firstStart := x, secondStart := y } m

end Region

/-! ### Lines that are left aside -/

/-- Why a line is left aside: it has no counterpart at all, or too many. -/
inductive Aside where
  | kept
  | alone
  | common
  deriving DecidableEq, Repr

/-- How often a number halves twice before nothing is left, as a power of two. -/
def halfPower (fuel n power : Nat) : Nat :=
  match fuel with
  | 0 => power
  | fuel + 1 => if n / 4 = 0 then power else halfPower fuel (n / 4) (2 * power)

/-- Lines by how often they occur in the other file. -/
def asideOf (lines other : Array Nat) : Array Aside :=
  let counts := other.foldl (fun (counts : Array Nat) n =>
    counts.modify n (· + 1)) (Array.replicate ((lines ++ other).foldl max 0 + 1) 0)
  let many := 5 * halfPower 64 (lines.size / 64) 1
  lines.map fun n =>
    let count := counts.getD n 0
    if count == 0 then .alone else if many < count then .common else .kept

/-- Keeps common lines at places of a run until there are three in a row that are alone, or one
that is alone after eight. -/
def keepFrom (place : Nat → Nat) (length : Nat) (fuel j alone : Nat) (a : Array Aside) :
    Array Aside :=
  match fuel with
  | 0 => a
  | fuel + 1 =>
    if length ≤ j then a
    else
      match a.getD (place j) .kept with
      | .alone =>
        if 8 ≤ j || alone == 2 then a else keepFrom place length fuel (j + 1) (alone + 1) a
      | .common =>
        keepFrom place length fuel (j + 1) 0 (a.setIfInBounds (place j) .kept)
      | .kept => keepFrom place length fuel (j + 1) 0 a

/-- Keeps common lines of a run where there are some number or more in a row. -/
def keepRows (start stop least : Nat) (a : Array Aside) : Array Aside :=
  let flush (row : List Nat) (a : Array Aside) : Array Aside :=
    if least ≤ row.length then row.foldl (fun a i => a.setIfInBounds i .kept) a else a
  let (row, a) := (List.range (stop - start)).foldl (fun (row, a) j =>
    let i := start + j
    if a.getD i .kept == .common then (i :: row, a) else ([], flush row a)) (([] : List Nat), a)
  flush row a

/-- Decides which common lines of a run stay aside; the run starts with a line that is alone. -/
def settleRun (start stop : Nat) (a : Array Aside) : Array Aside :=
  let length := stop - start
  let commons := (List.range length).filter fun j => a.getD (start + j) .kept == .common
  if length < 4 * commons.length then
    commons.foldl (fun a j => a.setIfInBounds (start + j) .kept) a
  else
    let a := keepRows start stop (halfPower 64 (length / 4) 1 + 1) a
    let a := keepFrom (start + ·) length (length + 1) 0 0 a
    keepFrom (stop - 1 - ·) length (length + 1) 0 0 a

/-- Decides which common lines are really left aside: those in the midst of others. -/
def settle (fuel i : Nat) (a : Array Aside) : Array Aside :=
  match fuel with
  | 0 => a
  | fuel + 1 =>
    match a[i]? with
    | none => a
    | some .common => settle fuel (i + 1) (a.setIfInBounds i .kept)
    | some .kept => settle fuel (i + 1) a
    | some .alone =>
      let run := (a.toList.drop i).takeWhile (· != .kept)
      let tail := (run.reverse.takeWhile (· == .common)).length
      let stop := i + run.length - tail
      let a := (List.range tail).foldl (fun a j => a.setIfInBounds (stop + j) .kept) a
      settle fuel stop (settleRun i stop a)

/-- The lines that are compared, with their places; the others are marked. -/
def keptLines (isMinimal : Bool) (lines other : Array Nat) :
    Array Nat × Array Nat × Array Bool :=
  let aside := if isMinimal then lines.map fun _ => Aside.kept
    else settle (lines.size + 1) 0 (asideOf lines other)
  let places := (Array.range lines.size).filter fun i => aside.getD i .kept == .kept
  (places.map fun i => lines.getD i 0, places, aside.map (· != .kept))

/-! ### Runs that are moved -/

/-- The marks of a file whose runs are moved, those of the other one, where a run starts and stops,
and where one is in the other file. -/
structure Moving where
  marks : Array Bool
  other : Array Bool
  start : Nat
  stop : Nat
  place : Nat

namespace Moving

/-- Whether a line is marked. -/
def isMarked (marks : Array Bool) (i : Nat) : Bool := marks.getD i false

/-- The first line from some line on that is not marked. -/
def unmarkedFrom (marks : Array Bool) (fuel i : Nat) : Nat :=
  match fuel with
  | 0 => i
  | fuel + 1 => if isMarked marks i then unmarkedFrom marks fuel (i + 1) else i

/-- The first line of the marked ones that end before some line. -/
def runBefore (marks : Array Bool) (fuel i : Nat) : Nat :=
  match fuel with
  | 0 => i
  | fuel + 1 => if 0 < i && isMarked marks (i - 1) then runBefore marks fuel (i - 1) else i

/-- Moves a run back by one line, and joins it with one before it. -/
def back (s : Moving) (joins : Bool) : Moving :=
  let start := s.start - 1
  let stop := s.stop - 1
  let marks := (s.marks.setIfInBounds start true).setIfInBounds stop false
  let start := if joins then runBefore marks (start + 1) start else start
  -- The place before is found past marked lines of the other file.
  let rec before (fuel j : Nat) : Nat :=
    match fuel with
    | 0 => j
    | fuel + 1 => if isMarked s.other j then before fuel (j - 1) else j
  { s with marks := marks, start := start, stop := stop, place := before (s.place + 1) (s.place - 1) }

/-- Moves a run back as long as the line before it is the same as its last one. -/
def backAll (lines : Array Nat) (fuel : Nat) (s : Moving) : Moving :=
  match fuel with
  | 0 => s
  | fuel + 1 =>
    if 0 < s.start && lines.getD (s.start - 1) 0 == lines.getD (s.stop - 1) 0 then
      backAll lines fuel (s.back true)
    else s

/-- Moves a run forward as long as the line after it is the same as its first one; `corresponding`
is the last stop at which a run of the other file stands beside it. -/
def forwardAll (lines : Array Nat) (fuel : Nat) (s : Moving) (corresponding : Nat) :
    Moving × Nat :=
  match fuel with
  | 0 => (s, corresponding)
  | fuel + 1 =>
    if s.stop < lines.size && lines.getD s.start 0 == lines.getD s.stop 0 then
      let marks := (s.marks.setIfInBounds s.start false).setIfInBounds s.stop true
      let stop := unmarkedFrom marks (lines.size + 1) (s.stop + 1)
      let place := unmarkedFrom s.other (s.other.size + 1) (s.place + 1)
      let corresponding := if place != s.place + 1 then stop else corresponding
      forwardAll lines fuel { s with marks := marks, start := s.start + 1, stop := stop, place := place }
        corresponding
    else (s, corresponding)

/-- Moves a run back and forward until it does not grow any more. -/
def merge (lines : Array Nat) (fuel : Nat) (s : Moving) : Moving × Nat :=
  match fuel with
  | 0 => (s, lines.size)
  | fuel + 1 =>
    let length := s.stop - s.start
    let s := s.backAll lines (lines.size + 1)
    let corresponding := if 0 < s.place && isMarked s.other (s.place - 1) then s.stop else lines.size
    let (s, corresponding) := s.forwardAll lines (lines.size + 1) corresponding
    if s.stop - s.start == length then (s, corresponding) else merge lines fuel s

/-- Moves a run back to where it stands beside one of the other file. -/
def align (fuel corresponding : Nat) (s : Moving) : Moving :=
  match fuel with
  | 0 => s
  | fuel + 1 => if corresponding < s.stop then align fuel corresponding (s.back false) else s

/-- The next run from a line on, and where one is then in the other file. -/
def nextRun? (marks other : Array Bool) (size fuel i j : Nat) : Option (Nat × Nat) :=
  match fuel with
  | 0 => none
  | fuel + 1 =>
    if size ≤ i then none
    else if isMarked marks i then some (i, j)
    else nextRun? marks other size fuel (i + 1) (unmarkedFrom other (other.size + 1) j + 1)

/-- Moves all runs of a file from a line on. -/
def moveRuns (lines : Array Nat) (other : Array Bool) (fuel i j : Nat) (marks : Array Bool) :
    Array Bool :=
  match fuel with
  | 0 => marks
  | fuel + 1 =>
    match nextRun? marks other lines.size (lines.size + 1) i j with
    | none => marks
    | some (start, j) =>
      let stop := unmarkedFrom marks (lines.size + 1) (start + 1)
      let place := unmarkedFrom other (other.size + 1) j
      let (s, corresponding) := (⟨marks, other, start, stop, place⟩ : Moving).merge lines
        (lines.size + 2)
      let s := s.align (lines.size + 1) corresponding
      moveRuns lines other fuel s.stop s.place s.marks

end Moving

/-! ### All of it -/

/-- The lines of two files that have no counterpart. -/
def marksOf (isMinimal : Bool) (first second : Array Nat) : Marks :=
  let (a, places, marks) := keptLines isMinimal first second
  let (b, others, otherMarks) := keptLines isMinimal second first
  let region : Region := ⟨a, b, 0, a.size, 0, b.size⟩
  let m := region.mark (region.size + 2) (places, others) ⟨marks, otherMarks⟩
  let moved := Moving.moveRuns first m.second (first.size + 1) 0 0 m.first
  ⟨moved, Moving.moveRuns second moved (second.size + 1) 0 0 m.second⟩

/-! ## Changes from one file to another -/

/-- Lines that are taken out of the first file, and lines of the second one that are put in; the
places are where they start. -/
structure Change where
  first : Nat
  deleted : Nat
  second : Nat
  inserted : Nat
  /-- Whether nobody wants to know. -/
  isIgnored : Bool
  deriving DecidableEq, Repr

namespace Change

/-- The first line after those that are taken out. -/
def firstStop (c : Change) : Nat := c.first + c.deleted

/-- The first line after those that are put in. -/
def secondStop (c : Change) : Nat := c.second + c.inserted

end Change

/-- The changes that marks tell, from some places on. -/
def changesFrom (m : Marks) (fuel i j : Nat) : List Change :=
  match fuel with
  | 0 => []
  | fuel + 1 =>
    if m.first.size ≤ i && m.second.size ≤ j then []
    else
      let stop := Moving.unmarkedFrom m.first (m.first.size + 1) i
      let otherStop := Moving.unmarkedFrom m.second (m.second.size + 1) j
      let rest := changesFrom m fuel (stop + 1) (otherStop + 1)
      if stop == i && otherStop == j then rest
      else ⟨i, stop - i, j, otherStop - j, false⟩ :: rest

/-- The number of items that two lists have in common at their start. -/
def commonStart {α : Type} [BEq α] : List α → List α → Nat
  | a :: r, b :: s => if a == b then commonStart r s + 1 else 0
  | _, _ => 0

/-- The changes between two files.  Of the lines that both have at their start only some are looked
at, and of those at their end too. -/
def changesOf (isMinimal : Bool) (skipped : Nat) (first second : Array Nat) : List Change :=
  let m := marksOf isMinimal first second
  (changesFrom m (first.size + second.size + 2) 0 0).map fun c =>
    { c with first := c.first + skipped, second := c.second + skipped }

/-- Joins changes up to one that is far enough from the next; one that is ignored is far away
sooner. -/
def hunksOf (context : Nat) : List Change → List (List Change)
  | [] => []
  | c :: rest =>
    match rest, hunksOf context rest with
    | next :: _, hunk :: hunks =>
      let near := if next.isIgnored then context else 2 * context + 1
      if next.first - c.firstStop < near then (c :: hunk) :: hunks else [c] :: hunk :: hunks
    | _, hunks => [c] :: hunks

end Flowscript.Difference
