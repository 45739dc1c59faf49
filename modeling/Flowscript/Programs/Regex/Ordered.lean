import Flowscript.Programs.Regex.Basic

/-!
# Regular expressions whose ways to match have an order

* `OrderedRegex` is a regular expression that tries its alternatives one after the other; it can look
  ahead and behind.
* `OrderedRegex.ends` are all the ways in which one can match from some place on, in their order.
* `OrderedRegex.search?` finds the first place where one matches, and there the first match.
-/

set_option autoImplicit false

namespace Flowscript

/-- How repetitions are tried: as many as possible first, as few as possible first, or only as many
as possible. -/
inductive RepeatManner where
  | most
  | least
  | only
  deriving DecidableEq, Repr

/-- A place that an ordered regular expression can ask for. -/
inductive OrderedPlace where
  | lineStart
  | lineEnd
  | textStart
  | textEnd
  /-- The end, or an end of line there. -/
  | lastEnd
  | wordEdge
  | wordInside
  | wordStart
  | wordEnd
  deriving DecidableEq, Repr

/-- A regular expression whose ways to match have an order. -/
inductive OrderedRegex where
  | empty
  | char (c : Char) (foldsCase : Bool)
  | any (takesNewlines : Bool)
  | oneOf (complement : Bool) (items : List RegexItem) (foldsCase : Bool)
  | place (p : OrderedPlace)
  | join (first second : OrderedRegex)
  | either (first second : OrderedRegex)
  | repeated (body : OrderedRegex) (least : Nat) (most : Option Nat) (manner : RepeatManner)
  | group (number : Nat) (body : OrderedRegex)
  | recall (number : Nat) (foldsCase : Bool)
  /-- What follows, or comes before, matches or does not. -/
  | look (isBehind isNegated : Bool) (body : OrderedRegex)
  /-- Only the first way to match counts. -/
  | firstOnly (body : OrderedRegex)
  /-- The match starts here. -/
  | startHere
  /-- What a group matches, or the whole regular expression if the number is zero. -/
  | call (number : Nat)
  /-- One or another, depending on whether a group has matched. -/
  | ifGroup (number : Nat) (yes no : OrderedRegex)
  /-- One or another, depending on what follows or comes before. -/
  | ifLook (test yes no : OrderedRegex)

namespace OrderedRegex

/-- The number under which the start of a match is kept. -/
def startNumber : Nat := 0

/-- Whether a place is one of a kind. -/
def isAt (s : RegexState) : OrderedPlace → Bool
  | .lineStart => s.previous.all (· == '\n')
  | .lineEnd => s.rest.head?.all (· == '\n')
  | .textStart => s.previous.isNone
  | .textEnd => s.rest.isEmpty
  | .lastEnd => s.rest.isEmpty || s.rest == ['\n']
  | .wordEdge => s.previous.any isWordChar != s.rest.head?.any isWordChar
  | .wordInside => s.previous.any isWordChar == s.rest.head?.any isWordChar
  | .wordStart => !s.previous.any isWordChar && s.rest.head?.any isWordChar
  | .wordEnd => s.previous.any isWordChar && !s.rest.head?.any isWordChar

/-- Goes past a text that is as one that was remembered. -/
def stepText (foldsCase : Bool) (text : List Char) (s : RegexState) : List RegexState :=
  let found := s.rest.take text.length
  let mode : RegexMode := ⟨foldsCase, false⟩
  if found.length == text.length && (found.zip text).all fun p => Regex.sameChar mode p.1 p.2 then
    [Regex.RegexState.skip s text.length]
  else []

/-- Repeats a match as often as possible, or as seldom, from each of some states on; no position is
tried twice. -/
def repeatAll (body : RegexState → List RegexState) (prefersMost : Bool) (fuel : Nat)
    (seen : List Nat) (states : List RegexState) : List RegexState × List Nat :=
  match fuel with
  | 0 => ([], seen)
  | fuel + 1 =>
    states.foldl (fun ((found, seen) : List RegexState × List Nat) s =>
      if seen.contains s.position then (found, seen)
      else
        let next := (body s).filter fun t => t.position != s.position
        let (more, seen) := repeatAll body prefersMost fuel (s.position :: seen) next
        (found ++ if prefersMost then more ++ [s] else s :: more, seen)) ([], seen)

/-- Repeats a match at most some number of times. -/
def repeatAtMost (body : RegexState → List RegexState) (keepsAll prefersMost : Bool)
    (count : Nat) (s : RegexState) : List RegexState :=
  match count with
  | 0 => [s]
  | count + 1 =>
    let more := (body s).flatMap fun t =>
      if t.position == s.position then [t] else repeatAtMost body keepsAll prefersMost count t
    Regex.distinct keepsAll (if prefersMost then more ++ [s] else s :: more)

/-- Whether it asks for what was remembered. -/
def recalls : OrderedRegex → Bool
  | .recall .. | .ifGroup .. => true
  | .join first second => first.recalls || second.recalls
  | .either first second => first.recalls || second.recalls
  | .repeated body _ _ _ => body.recalls
  | .group _ body => body.recalls
  | .look _ _ body => body.recalls
  | .firstOnly body => body.recalls
  | .ifLook test yes no => test.recalls || yes.recalls || no.recalls
  | _ => false

/-- The groups in it, by their numbers. -/
def groupBodies : OrderedRegex → List (Nat × OrderedRegex)
  | .join first second => first.groupBodies ++ second.groupBodies
  | .either first second => first.groupBodies ++ second.groupBodies
  | .repeated body _ _ _ => body.groupBodies
  | .group number body => (number, .group number body) :: body.groupBodies
  | .look _ _ body => body.groupBodies
  | .firstOnly body => body.groupBodies
  | .ifGroup _ yes no => yes.groupBodies ++ no.groupBodies
  | .ifLook test yes no => test.groupBodies ++ yes.groupBodies ++ no.groupBodies
  | _ => []

/-- A text, what groups mean there, and whether states that differ only in what groups matched are
told apart. -/
structure Scene where
  whole : List Char
  bodies : List (Nat × OrderedRegex)
  keepsAll : Bool

/-- All states after a match from a state on, in their order.  Groups call one another so many
times at most. -/
def ends (scene : Scene) (depth : Nat) (r : OrderedRegex) (s : RegexState) : List RegexState :=
  match r with
  | .empty => [s]
  | .char c foldsCase => Regex.step (Regex.sameChar ⟨foldsCase, false⟩ c) s
  | .any takesNewlines => Regex.step (fun c => takesNewlines || c != '\n') s
  | .oneOf complement items foldsCase =>
    Regex.step (Regex.classAccepts ⟨foldsCase, false⟩ complement items) s
  | .place p => if isAt s p then [s] else []
  | .join first second =>
    Regex.distinct scene.keepsAll ((first.ends scene depth s).flatMap fun s =>
      second.ends scene depth s)
  | .either first second =>
    Regex.distinct scene.keepsAll (first.ends scene depth s ++ second.ends scene depth s)
  | .repeated body least most manner =>
    let once (s : RegexState) : List RegexState := body.ends scene depth s
    let prefersMost := manner != .least
    let start := Regex.times once scene.keepsAll least [s]
    let found := match most with
      | some most => start.flatMap (repeatAtMost once scene.keepsAll prefersMost (most - least))
      | none =>
        if scene.keepsAll then
          start.flatMap (repeatAtMost once scene.keepsAll prefersMost (s.rest.length + 1))
        else (repeatAll once prefersMost (s.rest.length + 2) [] start).1
    if manner == .only then found.take 1 else Regex.distinct scene.keepsAll found
  | .group number body =>
    (body.ends scene depth s).map fun t =>
      { t with groups := (number, s.position, t.position) ::
          t.groups.filter fun g => g.1 != number }
  | .recall number foldsCase =>
    match Regex.remembered scene.whole s number with
    | none => []
    | some text => stepText foldsCase text s
  | .look isBehind isNegated body =>
    let found :=
      if isBehind then
        (List.range (s.position + 1)).any fun n =>
          let start := Regex.RegexState.skip ⟨0, none, scene.whole, s.groups⟩ n
          (body.ends scene depth start).any (·.position == s.position)
      else !(body.ends scene depth s).isEmpty
    let groups := if isBehind then s.groups
      else match body.ends scene depth s with
        | t :: _ => t.groups
        | [] => s.groups
    if found == isNegated then [] else [if isNegated then s else { s with groups := groups }]
  | .firstOnly body => (body.ends scene depth s).take 1
  | .startHere =>
    [{ s with groups := (startNumber, s.position, s.position) ::
        s.groups.filter fun g => g.1 != startNumber }]
  | .call number =>
    match depth, scene.bodies.lookup number with
    | depth + 1, some body =>
      (body.ends scene depth s).map fun t => { t with groups := s.groups }
    | _, _ => []
  | .ifGroup number yes no =>
    if (s.groups.lookup number).isSome then yes.ends scene depth s else no.ends scene depth s
  | .ifLook test yes no =>
    if (test.ends scene depth s).isEmpty then no.ends scene depth s else yes.ends scene depth s
termination_by (depth, r)

/-- The first match from a state on. -/
def matchAt? (r : OrderedRegex) (scene : Scene) (s : RegexState) : Option RegexMatch :=
  (r.ends scene (scene.whole.length + 1) s).head?.map fun t =>
    let start := ((t.groups.lookup startNumber).map (·.1)).getD s.position
    ⟨start, t.position, t.groups⟩

/-- Looks for a match from a state on. -/
def searchFrom? (r : OrderedRegex) (scene : Scene) (fuel : Nat) (s : RegexState) :
    Option RegexMatch :=
  match r.matchAt? scene s with
  | some m => some m
  | none =>
    match fuel with
    | 0 => none
    | fuel + 1 =>
      if s.rest.isEmpty then none else searchFrom? r scene fuel (Regex.RegexState.skip s 1)

/-- The first match that starts at some position or later. -/
def search? (r : OrderedRegex) (text : List Char) (start : Nat) : Option RegexMatch :=
  let scene : Scene := ⟨text, (0, r) :: r.groupBodies, r.recalls⟩
  if text.length < start then none
  else r.searchFrom? scene (text.length + 1) (Regex.RegexState.skip ⟨0, none, text, []⟩ start)

end OrderedRegex

end Flowscript
