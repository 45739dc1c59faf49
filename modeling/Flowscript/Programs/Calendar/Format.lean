import Flowscript.Programs.Calendar.Date

/-!
# Times in text

* `Moment` is a point of time by the clocks of a zone.
* `Moment.format` writes one as a format says.
-/

set_option autoImplicit false

namespace Flowscript

/-- A point of time by the clocks of a zone. -/
structure Moment where
  date : Date
  hour : Nat
  minute : Nat
  second : Nat
  nanosecond : Nat
  clock : Clock
  /-- The seconds since the start of 1970. -/
  epoch : Int

namespace Moment

/-- The moment at a second from the start of 1970 on. -/
def ofEpoch (zone : Zone) (epoch : Int) (nanosecond : Nat) : Moment :=
  let clock := zone.clockAt epoch
  let shown := epoch + clock.ahead
  let seconds := (shown % 86400).toNat
  ⟨Date.ofDays (Int.fdiv shown 86400), seconds / 3600, seconds / 60 % 60, seconds % 60, nanosecond,
    clock, epoch⟩

/-- The moment at a number of nanoseconds from the start of 1970 on. -/
def ofTime (zone : Zone) (time : Nat) : Moment :=
  ofEpoch zone (time / 1000000000 : Nat) (time % 1000000000)

/-- How something is written: what fills it up and to which width, and whether letters are made
large or are changed. -/
structure Style where
  fill : Option Char
  width : Option Nat
  isLarge : Bool
  isChanged : Bool

/-- Nothing special. -/
def Style.plain : Style := ⟨none, none, false, false⟩

namespace Style

/-- Writes a text. -/
def text (s : Style) (o : Octets) : Octets :=
  let o := if s.isLarge then o.map Char.toUpper else o
  let width := if s.fill == some '-' then 0 else s.width.getD 0
  let c := if s.fill == some '0' || s.fill == some '+' then '0' else ' '
  List.replicate (width - o.length) c ++ o

/-- Writes digits with a sign or none, filled up with something if nothing else is said. -/
def signed (s : Style) (usual : Char) (least : Nat) (sign : Octets) (digits : Octets) : Octets :=
  let fill := s.fill.getD usual
  let width := s.width.getD least
  let gap := if fill == '-' then 0 else width - sign.length - digits.length
  if fill == '_' then List.replicate gap ' ' ++ sign ++ digits
  else sign ++ List.replicate gap '0' ++ digits

/-- Writes a number. -/
def number (s : Style) (usual : Char) (least : Nat) (n : Int) : Octets :=
  s.signed usual least (if n < 0 then ['-'] else []) (Nat.toDigits 10 n.natAbs)

/-- Writes a year or a part of one, with a plus if it is wanted and the number is a large one. -/
def yearly (s : Style) (least : Nat) (n : Int) : Octets :=
  let isLong := (if least == 2 then 99 else 9999) < n || least < s.width.getD least
  let sign := if n < 0 then ['-'] else if s.fill == some '+' && isLong then ['+'] else []
  s.signed '0' least sign (Nat.toDigits 10 n.natAbs)

/-- Writes the distance from universal time, where as many colons as given stand in between. -/
def distance (s : Style) (colons : Nat) (ahead : Int) : Octets :=
  let n := ahead.natAbs
  let (hours, minutes, seconds) := (n / 3600, n / 60 % 60, n % 60)
  let sign := [if ahead < 0 then '-' else '+']
  let two (n : Nat) : Octets := [Char.ofNat (48 + n / 10), Char.ofNat (48 + n % 10)]
  let digits := Nat.toDigits 10
  let toMinutes : Octets := digits hours ++ ':' :: two minutes
  let toSeconds : Octets := toMinutes ++ ':' :: two seconds
  match colons with
  | 0 => s.signed '0' 5 sign (digits (hours * 100 + minutes))
  | 1 => s.signed '0' 6 sign toMinutes
  | 2 => s.signed '0' 9 sign toSeconds
  | _ =>
    if seconds != 0 then s.signed '0' 9 sign toSeconds
    else if minutes != 0 then s.signed '0' 6 sign toMinutes
    else s.signed '0' 3 sign (digits hours)

end Style

/-- The digits of the nanoseconds, as many as wanted. -/
def fraction (m : Moment) (s : Style) : Octets :=
  let digits := Nat.toDigits 10 m.nanosecond
  let all := List.replicate (9 - digits.length) '0' ++ digits
  let width := match s.width with
    | none => 9
    | some 0 => 9
    | some n => n
  let kept := (all.take width).reverse
  let count := max 1 (kept.dropWhile (· == '0')).length
  let shown := all.take count
  match s.fill with
  | some '_' => shown ++ List.replicate (width - count) ' '
  | some '-' => shown
  | _ => shown ++ List.replicate (width - count) '0'

/-- What a letter of a format stands for, if it stands for anything by itself. -/
def directive? (m : Moment) (s : Style) (modifier : Option Char) (c : Char) : Option Octets :=
  let d := m.date
  let name (names : List String) (n : Nat) : Octets := Octets.ofText ((names[n]?).getD "")
  let word (o : Octets) : Option Octets :=
    some ({ s with isLarge := s.isLarge || s.isChanged }.text o)
  let halfHour := if m.hour % 12 == 0 then 12 else m.hour % 12
  let half := Octets.ofText (if m.hour < 12 then "AM" else "PM")
  let small (o : Octets) : Octets := o.map Char.toLower
  let noEra := modifier != some 'E'
  let plainOnly (o : Octets) : Option Octets := if modifier.isNone then some o else none
  let counted (o : Octets) : Option Octets := if noEra then some o else none
  match c with
  | '%' => plainOnly ['%']
  | 'a' => if modifier.isNone then word ((name Calendar.dayNames d.weekday).take 3) else none
  | 'A' => if modifier.isNone then word (name Calendar.dayNames d.weekday) else none
  | 'b' | 'h' => if noEra then word ((name Calendar.monthNames (d.month - 1)).take 3) else none
  | 'B' => if noEra then word (name Calendar.monthNames (d.month - 1)) else none
  | 'C' => some (s.yearly 2 (Int.fdiv d.year 100))
  | 'd' => counted (s.number '0' 2 d.day)
  | 'e' => counted (s.number '_' 2 d.day)
  | 'g' => counted (s.yearly 2 (d.isoWeek.1 % 100))
  | 'G' => counted (s.yearly 4 d.isoWeek.1)
  | 'H' => counted (s.number '0' 2 m.hour)
  | 'I' => counted (s.number '0' 2 halfHour)
  | 'j' => counted (s.number '0' 3 (d.dayOfYear + 1 : Nat))
  | 'k' => counted (s.number '_' 2 m.hour)
  | 'l' => counted (s.number '_' 2 halfHour)
  | 'm' => counted (s.number '0' 2 d.month)
  | 'M' => counted (s.number '0' 2 m.minute)
  | 'n' => some ({ s with isLarge := false }.text ['\n'])
  | 'N' => counted (m.fraction s)
  | 'p' => some (s.text (if s.isChanged then small half else half))
  | 'P' => some ({ s with isLarge := false }.text (small half))
  | 'q' => some (s.number '0' 1 ((d.month + 2) / 3 : Nat))
  | 's' => some (s.number '0' 1 m.epoch)
  | 'S' => counted (s.number '0' 2 m.second)
  | 't' => some ({ s with isLarge := false }.text ['\t'])
  | 'u' => some (s.number '0' 1 (if d.weekday == 0 then 7 else d.weekday : Nat))
  | 'U' => counted (s.number '0' 2 (d.weekFrom 0))
  | 'V' => counted (s.number '0' 2 d.isoWeek.2)
  | 'w' => counted (s.number '0' 1 d.weekday)
  | 'W' => counted (s.number '0' 2 (d.weekFrom 1))
  | 'y' => some (s.yearly 2 (d.year % 100))
  | 'Y' => if modifier == some 'O' then none else some (s.yearly 4 d.year)
  | 'z' => counted (s.distance 0 m.clock.ahead)
  | 'Z' => plainOnly (s.text (if s.isChanged then small m.clock.name else m.clock.name))
  | _ => none

/-- The parts of which some letters are short for. -/
def parts? (modifier : Option Char) (c : Char) : Option String :=
  match c, modifier with
  | 'c', some 'O' | 'x', some 'O' | 'X', some 'O' => none
  | 'c', _ => some "%a %b %e %H:%M:%S %-Y"
  | 'x', _ => some "%m/%d/%y"
  | 'X', _ => some "%H:%M:%S"
  | 'D', none => some "%m/%d/%y"
  | 'r', _ => some "%I:%M:%S %p"
  | 'R', _ => some "%H:%M"
  | 'T', _ => some "%H:%M:%S"
  | _, _ => none

/-- Writes parts that have no special style, or are not filled up. -/
def simple (m : Moment) (isLarge : Bool) : Octets → Octets
  | '%' :: '-' :: c :: r =>
    let style : Style := { Style.plain with fill := some '-', isLarge := isLarge }
    ((m.directive? style none c).getD []) ++ m.simple isLarge r
  | '%' :: c :: r =>
    ((m.directive? { Style.plain with isLarge := isLarge } none c).getD []) ++ m.simple isLarge r
  | c :: r => c :: m.simple isLarge r
  | [] => []

/-- The style at the start of a directive, and what follows it. -/
def scanStyle (s : Style) : Octets → Style × Octets
  | '^' :: r => scanStyle { s with isLarge := true } r
  | '#' :: r => scanStyle { s with isChanged := true } r
  | c :: r =>
    if c == '_' || c == '-' || c == '+' || c == '0' then scanStyle { s with fill := some c } r
    else
      let digits := (c :: r).takeWhile Char.isDigit
      ({ s with width := if digits.isEmpty then none else Octets.natural? digits },
        (c :: r).drop digits.length)
  | [] => (s, [])

/-- A year, month and day in numbers. -/
def dateText (m : Moment) (s : Style) : Octets :=
  let yearStyle : Style :=
    if s.fill.isNone && s.width.isNone then { s with fill := some '+', width := some 4 }
    else { s with width := some (s.width.getD 0 - 6) }
  let two := Style.plain.number '0' 2
  let date := m.date
  s.text (yearStyle.yearly 4 date.year ++ '-' :: two date.month ++ '-' :: two date.day)

/-- Writes a directive, without its percent sign, and gives what follows it. -/
def directive (m : Moment) (o : Octets) : Octets × Octets :=
  let (s, rest) := scanStyle Style.plain o
  let wrong (rest : Octets) : Octets × Octets :=
    (s.text ('%' :: o.take (o.length - rest.length)), rest)
  let (modifier, r) := match rest with
    | 'E' :: r => (some 'E', r)
    | 'O' :: r => (some 'O', r)
    | _ => (none, rest)
  match r with
  | [] => wrong []
  | ':' :: more =>
    let colons := more.takeWhile (· == ':')
    match more.drop colons.length with
    | 'z' :: after =>
      if colons.length < 3 then (s.distance (colons.length + 1) m.clock.ahead, after)
      else wrong more
    | _ => wrong more
  | c :: after =>
    if c == '%' && rest.length != o.length then wrong r
    else if c == 'F' && modifier.isNone then (m.dateText s, after)
    else
      match parts? modifier c with
      | some parts => (s.text (m.simple s.isLarge (Octets.ofText parts)), after)
      | none =>
        match m.directive? s modifier c with
        | some shown => (shown, after)
        | none => wrong after

/-- Writes a moment as a format says. -/
def formatFrom (m : Moment) (fuel : Nat) (o : Octets) : Octets :=
  match fuel, o with
  | 0, _ | _, [] => []
  | fuel + 1, '%' :: r =>
    let (shown, rest) := m.directive r
    shown ++ m.formatFrom fuel rest
  | fuel + 1, c :: r => c :: m.formatFrom fuel r

/-- Writes a moment as a format says. -/
def format (m : Moment) (o : Octets) : Octets := m.formatFrom (o.length + 1) o

end Moment

end Flowscript
