import Flowscript.Text.Octets

/-!
# Dates and zones

Days of the calendar, and the time of day in a zone.

* `Calendar.daysTo` counts the days from the first day of 1970 to a date, and `Date.ofDays` is the
  date after so many days.
* `Date.weekday`, `Date.dayOfYear` and `Date.isoWeek` place a date in its week and year.
* `Zone` is the time of a place: its distance from universal time, in summer another one perhaps.
* `Zone.read` reads a zone as variables have it, by its rules or by the name of a place.
* `Zone.clockAt` tells which time there is, and `Zone.secondsOf` when a time is.
-/

set_option autoImplicit false

namespace Flowscript

/-! ## Dates -/

namespace Calendar

/-- The number of days from the first day of 1970 to a date.  Months start in March for it, so that
the day that only leap years have is the last one. -/
def daysTo (year : Int) (month day : Int) : Int :=
  let y := if month ≤ 2 then year - 1 else year
  let m := (month + 9) % 12
  let era := Int.fdiv y 400
  let yearOfEra := y - era * 400
  let dayOfYear := (153 * m + 2) / 5 + day - 1
  let dayOfEra := yearOfEra * 365 + yearOfEra / 4 - yearOfEra / 100 + dayOfYear
  era * 146097 + dayOfEra - 719468

/-- Whether a year has a day more. -/
def isLeap (year : Int) : Bool := year % 4 == 0 && (year % 100 != 0 || year % 400 == 0)

/-- The number of days of a month. -/
def daysIn (year : Int) (month : Nat) : Nat :=
  match month with
  | 2 => if isLeap year then 29 else 28
  | 4 | 6 | 9 | 11 => 30
  | _ => 31

/-- The names of the days of the week, from Sunday on. -/
def dayNames : List String :=
  ["Sunday", "Monday", "Tuesday", "Wednesday", "Thursday", "Friday", "Saturday"]

/-- The names of the months. -/
def monthNames : List String :=
  ["January", "February", "March", "April", "May", "June", "July", "August", "September",
    "October", "November", "December"]

end Calendar

/-- A day of a year, with the number of days since the first day of 1970. -/
structure Date where
  year : Int
  month : Nat
  day : Nat
  days : Int
  deriving DecidableEq, Repr

namespace Date

/-- The date some days after the first day of 1970. -/
def ofDays (days : Int) : Date :=
  let z := days + 719468
  let era := Int.fdiv z 146097
  let dayOfEra := z - era * 146097
  let yearOfEra := (dayOfEra - dayOfEra / 1460 + dayOfEra / 36524 - dayOfEra / 146096) / 365
  let dayOfYear := dayOfEra - (365 * yearOfEra + yearOfEra / 4 - yearOfEra / 100)
  let shifted := (5 * dayOfYear + 2) / 153
  let day := dayOfYear - (153 * shifted + 2) / 5 + 1
  let month := if shifted < 10 then shifted + 3 else shifted - 9
  ⟨yearOfEra + era * 400 + (if month ≤ 2 then 1 else 0), month.toNat, day.toNat, days⟩

/-- The day of the week, from Sunday on. -/
def weekday (d : Date) : Nat := ((d.days + 4) % 7).toNat

/-- The day of the year, from zero on. -/
def dayOfYear (d : Date) : Nat := (d.days - Calendar.daysTo d.year 1 1).toNat

/-- The number of a week in the year, where weeks start with some day of the week, and the days
before the first such day are in week zero. -/
def weekFrom (first : Nat) (d : Date) : Nat :=
  (d.dayOfYear + 7 - (d.weekday + 7 - first) % 7) / 7

/-- The days of the first week of a year, which has its first Thursday, up to its Monday. -/
def firstMonday (year : Int) : Int :=
  let fourth := Calendar.daysTo year 1 4
  fourth - (fourth + 3) % 7

/-- The year and the number of the week in which a date is, where weeks start with Monday and belong
to the year that has their Thursday. -/
def isoWeek (d : Date) : Int × Nat :=
  let year := if d.days < firstMonday d.year then d.year - 1
    else if firstMonday (d.year + 1) ≤ d.days then d.year + 1
    else d.year
  (year, ((d.days - firstMonday year) / 7).toNat + 1)

end Date

/-! ## Time zones -/

/-- The day of a year on which clocks change. -/
inductive ChangeDay where
  /-- A weekday of a month: which one of them, where the fifth is the last one. -/
  | weekday (month which weekday : Nat)
  /-- A day of the year that is never the one that only leap years have. -/
  | fixed (day : Nat)
  | counted (day : Nat)
  deriving DecidableEq, Repr

/-- When clocks change: on which day, and at which second by the clock. -/
structure ClockChange where
  day : ChangeDay
  second : Int
  deriving DecidableEq, Repr

/-- What clocks show: how many seconds they are ahead of universal time, and the name for it. -/
structure Clock where
  name : Octets
  ahead : Int
  deriving DecidableEq, Repr

/-- The time of a place, with a summer time and its start and end if there is one. -/
structure Zone where
  standard : Clock
  summer : Option (Clock × ClockChange × ClockChange)
  deriving DecidableEq, Repr

namespace ChangeDay

/-- The days from the first day of 1970 to the one that is meant in a year. -/
def daysIn (year : Int) : ChangeDay → Int
  | .weekday month which dayOfWeek =>
    let first := Calendar.daysTo year month 1
    let start := first + (dayOfWeek - (first + 4)) % 7
    let day := start + 7 * ((which : Int) - 1)
    if day < first + Calendar.daysIn year month then day else day - 7
  | .fixed day =>
    let isAfter := Calendar.isLeap year && 60 ≤ day
    Calendar.daysTo year 1 1 + day - (if isAfter then 0 else 1)
  | .counted day => Calendar.daysTo year 1 1 + day

end ChangeDay

namespace Zone

/-- Universal time. -/
def universal : Zone := ⟨⟨['U', 'T', 'C'], 0⟩, none⟩

/-- The second at which clocks change in a year, by clocks that are ahead as given. -/
def changeIn (year : Int) (ahead : Int) (c : ClockChange) : Int :=
  c.day.daysIn year * 86400 + c.second - ahead

/-- What clocks show at a second from the start of 1970 on. -/
def clockAt (z : Zone) (second : Int) : Clock :=
  match z.summer with
  | none => z.standard
  | some (clock, start, stop) =>
    let year := (Date.ofDays (Int.fdiv (second + z.standard.ahead) 86400)).year
    let first := changeIn year z.standard.ahead start
    let last := changeIn year clock.ahead stop
    let isSummer := if first < last then first ≤ second && second < last
      else !(last ≤ second && second < first)
    if isSummer then clock else z.standard

/-- The second at which clocks show a number of seconds since the start of 1970, if they ever do.
What they show twice is taken for summer time unless standard time is wanted. -/
def secondsOf? (z : Zone) (wanted : Option Bool) (shown : Int) : Option Int :=
  let clocks := z.standard :: (z.summer.map (·.1)).toList
  let clocks := if wanted == some false then clocks else clocks.reverse
  (clocks.find? fun c => z.clockAt (shown - c.ahead) == c).map fun c => shown - c.ahead

/-- The second at which clocks show a number of seconds since the start of 1970, or would show it if
they did not change. -/
def secondsOf (z : Zone) (shown : Int) : Int :=
  (z.secondsOf? none shown).getD (shown - z.standard.ahead)

/-! ### Reading -/

/-- A name of at least three letters, or between angle brackets. -/
def readName? (o : Octets) : Option (Octets × Octets) :=
  match o with
  | '<' :: r =>
    let name := r.takeWhile (· != '>')
    if 3 ≤ name.length && name.length < r.length then some (name, r.drop (name.length + 1))
    else none
  | _ =>
    let name := o.takeWhile Char.isAlpha
    if 3 ≤ name.length then some (name, o.drop name.length) else none

/-- A number of hours, with minutes and seconds after colons. -/
def readTime? (o : Octets) : Option (Int × Octets) :=
  let (sign, o) : Int × Octets := match o with
    | '-' :: r => (-1, r)
    | '+' :: r => (1, r)
    | _ => (1, o)
  let number (o : Octets) : Option (Int × Octets) :=
    let digits := o.takeWhile Char.isDigit
    (Octets.natural? digits).map fun n => ((n : Int), o.drop digits.length)
  let after (scale : Int) (o : Octets) : Int × Octets × Bool := match o with
    | ':' :: r =>
      match number r with
      | some (n, r) => (n * scale, r, true)
      | none => (0, o, false)
    | _ => (0, o, false)
  (number o).map fun (hours, o) =>
    let (minutes, o, goesOn) := after 60 o
    let (seconds, o) := if goesOn then let (s, o, _) := after 1 o; (s, o) else (0, o)
    (sign * (hours * 3600 + minutes + seconds), o)

/-- When clocks change, after a comma. -/
def readChange? (o : Octets) : Option (ClockChange × Octets) := do
  let number (o : Octets) : Option (Nat × Octets) :=
    let digits := o.takeWhile Char.isDigit
    (Octets.natural? digits).map (·, o.drop digits.length)
  let dotted (o : Octets) : Option (Nat × Octets) := match o with
    | '.' :: r => number r
    | _ => none
  let (day, rest) ← match o with
    | ',' :: 'M' :: r =>
      let (month, r) ← number r
      let (which, r) ← dotted r
      let (weekday, r) ← dotted r
      if 1 ≤ month && month ≤ 12 && 1 ≤ which && which ≤ 5 && weekday ≤ 6 then
        some (ChangeDay.weekday month which weekday, r)
      else none
    | ',' :: 'J' :: r => (number r).map fun (n, r) => (.fixed n, r)
    | ',' :: r => (number r).map fun (n, r) => (.counted n, r)
    | _ => none
  match rest with
  | '/' :: r => (readTime? r).map fun (second, r) => (⟨day, second⟩, r)
  | _ => some (⟨day, 7200⟩, rest)

/-- The days on which clocks change if nothing is said of them. -/
def usualChanges : ClockChange × ClockChange :=
  (⟨.weekday 3 2 0, 7200⟩, ⟨.weekday 11 1 0, 7200⟩)

/-- A zone that is given by its rules: the name of its time and how far it is behind universal time,
and the same for summer with the days on which clocks change. -/
def readRules? (o : Octets) : Option Zone := do
  let (name, rest) ← readName? o
  let (behind, rest) ← readTime? rest
  let standard : Clock := ⟨name, -behind⟩
  if rest.isEmpty then return ⟨standard, none⟩
  let (summer, rest) ← readName? rest
  let (ahead, rest) := match readTime? rest with
    | some (behind, rest) => (-behind, rest)
    | none => (standard.ahead + 3600, rest)
  let clock : Clock := ⟨summer, ahead⟩
  match readChange? rest with
  | none => return ⟨standard, some (clock, usualChanges)⟩
  | some (start, rest) =>
    let (stop, _) ← readChange? rest
    return ⟨standard, some (clock, start, stop)⟩

/-- The rules of places. -/
def places : List (String × List String) :=
  [("CET-1CEST,M3.5.0,M10.5.0/3", ["CET", "MET", "Europe/Amsterdam", "Europe/Belgrade",
      "Europe/Berlin", "Europe/Brussels", "Europe/Budapest", "Europe/Copenhagen",
      "Europe/Ljubljana", "Europe/Luxembourg", "Europe/Madrid", "Europe/Malta", "Europe/Monaco",
      "Europe/Oslo", "Europe/Paris", "Europe/Prague", "Europe/Rome", "Europe/Sarajevo",
      "Europe/Stockholm", "Europe/Tirane", "Europe/Vaduz", "Europe/Vienna", "Europe/Warsaw",
      "Europe/Zagreb", "Europe/Zurich", "Poland"]),
    ("EET-2EEST,M3.5.0/3,M10.5.0/4", ["EET", "Europe/Athens", "Europe/Bucharest",
      "Europe/Helsinki", "Europe/Kiev", "Europe/Kyiv", "Europe/Riga", "Europe/Sofia",
      "Europe/Tallinn", "Europe/Vilnius"]),
    ("GMT0BST,M3.5.0/1,M10.5.0", ["Europe/London", "GB", "Europe/Belfast"]),
    ("IST-1GMT0,M10.5.0,M3.5.0/1", ["Europe/Dublin"]),
    ("WET0WEST,M3.5.0/1,M10.5.0", ["WET", "Europe/Lisbon", "Portugal", "Atlantic/Canary"]),
    ("MSK-3", ["Europe/Moscow", "W-SU"]), ("<+03>-3", ["Europe/Istanbul", "Turkey",
      "Asia/Istanbul", "Europe/Minsk", "Asia/Baghdad", "Asia/Riyadh", "Asia/Kuwait"]),
    ("EST5EDT,M3.2.0,M11.1.0", ["EST5EDT", "America/New_York", "America/Toronto",
      "America/Detroit", "US/Eastern", "America/Montreal"]),
    ("CST6CDT,M3.2.0,M11.1.0", ["CST6CDT", "America/Chicago", "US/Central", "America/Winnipeg"]),
    ("MST7MDT,M3.2.0,M11.1.0", ["MST7MDT", "America/Denver", "US/Mountain", "America/Edmonton"]),
    ("PST8PDT,M3.2.0,M11.1.0", ["PST8PDT", "America/Los_Angeles", "US/Pacific",
      "America/Vancouver", "America/Tijuana"]),
    ("AKST9AKDT,M3.2.0,M11.1.0", ["America/Anchorage", "US/Alaska"]),
    ("AST4ADT,M3.2.0,M11.1.0", ["America/Halifax"]),
    ("NST3:30NDT,M3.2.0,M11.1.0", ["America/St_Johns"]),
    ("EST5", ["EST", "America/Jamaica", "America/Panama"]),
    ("MST7", ["MST", "America/Phoenix", "US/Arizona"]),
    ("HST10", ["HST", "Pacific/Honolulu", "US/Hawaii"]),
    ("CST6", ["America/Mexico_City", "America/Costa_Rica"]),
    ("<-03>3", ["America/Sao_Paulo", "America/Argentina/Buenos_Aires", "America/Buenos_Aires",
      "America/Montevideo"]),
    ("<-05>5", ["America/Bogota", "America/Lima"]), ("<-04>4", ["America/Caracas"]),
    ("<-04>4<-03>,M9.1.6/24,M4.1.6/24", ["America/Santiago"]),
    ("JST-9", ["Asia/Tokyo", "Japan"]), ("KST-9", ["Asia/Seoul", "ROK"]),
    ("CST-8", ["Asia/Shanghai", "PRC", "Asia/Taipei", "Asia/Chongqing"]),
    ("HKT-8", ["Asia/Hong_Kong", "Hongkong"]), ("<+08>-8", ["Asia/Singapore", "Singapore",
      "Asia/Kuala_Lumpur", "Asia/Irkutsk"]), ("PST-8", ["Asia/Manila"]),
    ("WIB-7", ["Asia/Jakarta"]), ("<+07>-7", ["Asia/Bangkok", "Asia/Ho_Chi_Minh"]),
    ("IST-5:30", ["Asia/Kolkata", "Asia/Calcutta"]), ("<+0545>-5:45", ["Asia/Kathmandu"]),
    ("PKT-5", ["Asia/Karachi"]), ("<+06>-6", ["Asia/Dhaka"]), ("<+04>-4", ["Asia/Dubai"]),
    ("<+0330>-3:30", ["Asia/Tehran"]), ("IST-2IDT,M3.4.4/26,M10.5.0", ["Asia/Jerusalem"]),
    ("AEST-10AEDT,M10.1.0,M4.1.0/3", ["Australia/Sydney", "Australia/Melbourne"]),
    ("AEST-10", ["Australia/Brisbane"]),
    ("ACST-9:30ACDT,M10.1.0,M4.1.0/3", ["Australia/Adelaide"]),
    ("ACST-9:30", ["Australia/Darwin"]), ("AWST-8", ["Australia/Perth"]),
    ("NZST-12NZDT,M9.5.0,M4.1.0/3", ["Pacific/Auckland", "NZ"]),
    ("SAST-2", ["Africa/Johannesburg"]), ("WAT-1", ["Africa/Lagos"]),
    ("EAT-3", ["Africa/Nairobi"]), ("CET-1", ["Africa/Algiers", "Africa/Tunis"]),
    ("EET-2EEST,M4.5.5/0,M10.5.4/24", ["Africa/Cairo"]),
    ("GMT0", ["GMT", "Etc/GMT", "Africa/Abidjan", "Africa/Accra", "Atlantic/Reykjavik", "Iceland",
      "GMT0", "Greenwich", "Etc/Greenwich"]),
    ("UTC0", ["UTC", "Etc/UTC", "UCT", "Etc/UCT", "Zulu", "Etc/Zulu", "Universal"])]

/-- The zone of a place with a fixed distance, which has the wrong sign in its name. -/
def fixedPlace? (o : Octets) : Option Zone := do
  let lead := Octets.ofText "Etc/GMT"
  if !Octets.starts lead o then none
  else
    let (behind, rest) ← readTime? (o.drop lead.length)
    let hours := behind / 3600
    let digits := Nat.toDigits 10 hours.natAbs
    let name := (if hours < 0 then '+' else '-')
      :: List.replicate (2 - digits.length) '0' ++ digits
    if rest.isEmpty then some ⟨⟨if hours == 0 then ['G', 'M', 'T'] else name, -behind⟩, none⟩
    else none

/-- The zone that a variable means.  One that cannot be made out is universal time, under the name
that is there, if it is one. -/
def read (o : Octets) : Zone :=
  let o := if o.head? == some ':' then o.drop 1 else o
  let isPlace (p : String × List String) : Bool := p.2.any fun name => Octets.ofText name == o
  match (places.find? isPlace).bind fun p => readRules? (Octets.ofText p.1) with
  | some zone => zone
  | none =>
    match fixedPlace? o with
    | some zone => zone
    | none =>
      match readRules? o with
      | some zone => zone
      | none =>
        match readName? o with
        | some (name, _) => ⟨⟨name, 0⟩, none⟩
        | none => if o.isEmpty then universal else ⟨⟨[], 0⟩, none⟩

end Zone

end Flowscript
