import Flowscript.Programs.Calendar.Format
import Flowscript.Programs.Text.CharClass

/-!
# Times that people write

* `Lexeme.scanAll` takes a text apart into numbers, words and signs.
* `TimeParts` collects what they say, item by item.
* `TimeText.read?` is the time that a text means, with some moment as the present.
* `TimeText.stamp?` reads a time of digits only.
-/

set_option autoImplicit false

namespace Flowscript

/-- A unit of time. -/
inductive TimeUnit where
  | year
  | month
  | day
  | hour
  | minute
  | second
  deriving DecidableEq, Repr

/-- A piece of a text about a time. -/
inductive Lexeme where
  /-- An integer, whether it has a sign, whether that is a minus, and how many characters it has. -/
  | number (isSigned isNegative : Bool) (value : Int) (digits : Nat)
  /-- A number with a point: its whole seconds, rounded down, and the nanoseconds. -/
  | decimal (isSigned : Bool) (second : Int) (nanosecond : Nat)
  | half (isAfternoon : Bool)
  | month (n : Nat)
  | weekday (n : Nat)
  /-- A zone that is ahead of universal time by some seconds, and one in summer. -/
  | zone (ahead : Int)
  | summerZone (ahead : Int)
  | localZone (isSummer : Bool)
  | summer
  | unit (u : TimeUnit) (count : Int)
  | shift (days : Int)
  | ordinal (n : Int)
  /-- Something is before or after now. -/
  | direction (sign : Int)
  | letter (c : Char)
  | mark (c : Char)
  | wrong
  deriving DecidableEq, Repr

namespace Lexeme

/-- The names of months and of days of the week, with the short ones that do not just leave out
letters. -/
def named : List (String × Lexeme) :=
  (Calendar.monthNames.zipIdx 1).map (fun (name, n) => (name.toUpper, .month n))
    ++ [("SEPT", .month 9)]
    ++ (Calendar.dayNames.zipIdx).map (fun (name, n) => (name.toUpper, .weekday n))
    ++ [("TUES", .weekday 2), ("WEDNES", .weekday 3), ("THUR", .weekday 4), ("THURS", .weekday 4)]

/-- Zones that mean the same everywhere. -/
def universalZones : List (String × Lexeme) := [("GMT", .zone 0), ("UT", .zone 0), ("UTC", .zone 0)]

/-- Other zones, by how many minutes they are ahead, in summer an hour more. -/
def otherZones : List (String × Lexeme) :=
  let standard (name : String) (minutes : Int) : String × Lexeme := (name, .zone (minutes * 60))
  let summer (name : String) (minutes : Int) : String × Lexeme := (name, .summerZone (minutes * 60))
  [standard "WET" 0, summer "WEST" 0, summer "BST" 0, standard "ART" (-180),
    standard "BRT" (-180), summer "BRST" (-180), standard "NST" (-210), summer "NDT" (-210),
    standard "AST" (-240), summer "ADT" (-240), standard "CLT" (-240), summer "CLST" (-240),
    standard "EST" (-300), summer "EDT" (-300), standard "CST" (-360), summer "CDT" (-360),
    standard "MST" (-420), summer "MDT" (-420), standard "PST" (-480), summer "PDT" (-480),
    standard "AKST" (-540), summer "AKDT" (-540), standard "HST" (-600), standard "HAST" (-600),
    summer "HADT" (-600), standard "SST" (-720), standard "WAT" 60, standard "CET" 60,
    summer "CEST" 60, standard "MET" 60, standard "MEZ" 60, summer "MEST" 60, summer "MESZ" 60,
    standard "EET" 120, summer "EEST" 120, standard "CAT" 120, standard "SAST" 120,
    standard "EAT" 180, standard "MSK" 180, summer "MSD" 180, standard "IST" 330,
    standard "SGT" 480, standard "KST" 540, standard "JST" 540, standard "GST" 600,
    standard "NZST" 720, summer "NZDT" 720]

/-- The units. -/
def units : List (String × Lexeme) :=
  [("YEAR", .unit .year 1), ("MONTH", .unit .month 1), ("FORTNIGHT", .unit .day 14),
    ("WEEK", .unit .day 7), ("DAY", .unit .day 1), ("HOUR", .unit .hour 1),
    ("MINUTE", .unit .minute 1), ("MIN", .unit .minute 1), ("SECOND", .unit .second 1),
    ("SEC", .unit .second 1)]

/-- Words for a place in time or in an order. -/
def relations : List (String × Lexeme) :=
  [("TOMORROW", .shift 1), ("YESTERDAY", .shift (-1)), ("TODAY", .shift 0), ("NOW", .shift 0),
    ("LAST", .ordinal (-1)), ("THIS", .ordinal 0), ("NEXT", .ordinal 1), ("FIRST", .ordinal 1),
    ("THIRD", .ordinal 3), ("FOURTH", .ordinal 4), ("FIFTH", .ordinal 5), ("SIXTH", .ordinal 6),
    ("SEVENTH", .ordinal 7), ("EIGHTH", .ordinal 8), ("NINTH", .ordinal 9),
    ("TENTH", .ordinal 10), ("ELEVENTH", .ordinal 11), ("TWELFTH", .ordinal 12),
    ("AGO", .direction (-1)), ("HENCE", .direction 1)]

/-- The zone of a single letter. -/
def ofLetter (c : Char) : Lexeme :=
  let n : Int := (c.toNat : Int) - 'A'.toNat
  if c == 'T' || c == 'J' then .letter c
  else if c == 'Z' then .zone 0
  else if n < 9 then .zone ((n + 1) * 3600)
  else if n ≤ 12 then .zone (n * 3600)
  else .zone ((12 - n) * 3600)

/-- The zone with a name, among those of a place too. -/
def zoneNamed? (place : Zone) (word : String) : Option Lexeme :=
  match universalZones.lookup word with
  | some found => some found
  | none =>
    let isHere (c : Clock) : Bool := String.ofList (c.name.map Char.toUpper) == word
    if isHere place.standard then some (.localZone false)
    else if place.summer.any (isHere ·.1) then some (.localZone true)
    else otherZones.lookup word

/-- What a word in capital letters means. -/
def ofWord (place : Zone) (word : String) : Lexeme :=
  let cs := word.toList
  let first := String.ofList (cs.take 3)
  let isShort := cs.length == 3 || (cs.length == 4 && cs.getLast? == some '.')
  let isName (entry : String × Lexeme) : Bool :=
    if isShort then entry.1.startsWith first else entry.1 == word
  let single := String.ofList cs.dropLast
  let without := String.ofList (cs.filter (· != '.'))
  if word == "AM" || word == "A.M." then .half false
  else if word == "PM" || word == "P.M." then .half true
  else
    let found : List (Option Lexeme) :=
      [(named.find? isName).map (·.2), zoneNamed? place word,
        if word == "DST" then some .summer else none, units.lookup word,
        if cs.getLast? == some 'S' then units.lookup single else none, relations.lookup word,
        if cs.length == 1 then some (ofLetter (cs.headD ' ')) else none,
        if without != word then zoneNamed? place without else none]
    (found.findSome? id).getD .wrong

/-- The longest word that is looked at. -/
def longestWord : Nat := 19

/-- What a number of digits means, after a sign if there is one, and what follows it. -/
def scanNumber (isSigned isNegative : Bool) (o : Octets) : Lexeme × Octets :=
  let digits := o.takeWhile Char.isDigit
  let rest := o.drop digits.length
  let n : Int := ((Octets.natural? digits).getD 0 : Nat)
  let value := if isNegative then -n else n
  if value < -2 ^ 63 || 2 ^ 63 ≤ value then (.wrong, rest)
  else
    match rest with
    | c :: d :: r =>
      if (c == '.' || c == ',') && d.isDigit then
        let places := (d :: r).takeWhile Char.isDigit
        let kept := (places ++ List.replicate 9 '0').take 9
        let part := (Octets.natural? kept).getD 0
        let isMore := (places.drop 9).any (· != '0')
        let part := if isNegative && isMore then part + 1 else part
        let after := (d :: r).drop places.length
        if isNegative && part != 0 then (.decimal isSigned (value - 1) (1000000000 - part), after)
        else (.decimal isSigned value part, after)
      else (.number isSigned isNegative value digits.length, rest)
    | _ => (.number isSigned isNegative value digits.length, rest)

/-- What follows a remark between parentheses, if it ends. -/
def skipRemark (fuel depth : Nat) : Octets → Option Octets
  | [] => none
  | c :: r =>
    match fuel with
    | 0 => none
    | fuel + 1 =>
      let depth := if c == '(' then depth + 1 else if c == ')' then depth - 1 else depth
      if depth == 0 then some r else skipRemark fuel depth r

/-- Takes a text apart. -/
def scanAll (place : Zone) (fuel : Nat) (o : Octets) : List Lexeme :=
  match fuel, o.dropWhile Text.isSpace with
  | 0, _ | _, [] => []
  | fuel + 1, c :: r =>
    if c == '-' || c == '+' then
      let digits := r.dropWhile Text.isSpace
      if digits.head?.any Char.isDigit then
        let (lexeme, rest) := scanNumber true (c == '-') digits
        lexeme :: scanAll place fuel rest
      else scanAll place fuel digits
    else if c.isDigit then
      let (lexeme, rest) := scanNumber false false (c :: r)
      lexeme :: scanAll place fuel rest
    else if c.isAlpha then
      let word := (c :: r).takeWhile fun c => c.isAlpha || c == '.'
      let known := String.ofList ((word.take longestWord).map Char.toUpper)
      ofWord place known :: scanAll place fuel ((c :: r).drop word.length)
    else if c == '(' then
      match skipRemark (r.length + 1) 1 r with
      | some rest => scanAll place fuel rest
      | none => []
    else .mark c :: scanAll place fuel r

end Lexeme

/-- A span of time. -/
structure TimeSpan where
  year : Int
  month : Int
  day : Int
  hour : Int
  minute : Int
  second : Int
  nanosecond : Int

namespace TimeSpan

/-- No time at all. -/
def zero : TimeSpan := ⟨0, 0, 0, 0, 0, 0, 0⟩

/-- Two spans, the second one some times. -/
def add (a b : TimeSpan) (n : Int) : TimeSpan :=
  ⟨a.year + n * b.year, a.month + n * b.month, a.day + n * b.day, a.hour + n * b.hour,
    a.minute + n * b.minute, a.second + n * b.second, a.nanosecond + n * b.nanosecond⟩

/-- Some units of time. -/
def ofUnits (u : TimeUnit) (n : Int) : TimeSpan :=
  match u with
  | .year => { zero with year := n }
  | .month => { zero with month := n }
  | .day => { zero with day := n }
  | .hour => { zero with hour := n }
  | .minute => { zero with minute := n }
  | .second => { zero with second := n }

end TimeSpan

/-- What a text has said about a time so far. -/
structure TimeParts where
  year : Int
  /-- The number of digits of the year; zero is for a year that was not said. -/
  yearDigits : Nat
  month : Int
  day : Int
  hour : Int
  minute : Int
  second : Int
  nanosecond : Nat
  half : Option Bool
  /-- How many seconds the zone is ahead of universal time. -/
  ahead : Int
  isSummer : Option Bool
  dayOrdinal : Int
  weekday : Nat
  span : TimeSpan
  hasSpan : Bool
  dates : Nat
  days : Nat
  times : Nat
  zones : Nat
  localZones : Nat
  summers : Nat

namespace TimeParts

/-- What is so if nothing is said: the present. -/
def ofMoment (m : Moment) : TimeParts :=
  { year := m.date.year, yearDigits := 0, month := m.date.month
    day := m.date.day, hour := m.hour, minute := m.minute, second := m.second
    nanosecond := m.nanosecond, half := none, ahead := 0, isSummer := none, dayOrdinal := 0
    weekday := 0, span := .zero, hasSpan := false, dates := 0, days := 0, times := 0, zones := 0
    localZones := 0, summers := 0 }

/-- With a time of the day. -/
def withTime (p : TimeParts) (hour minute second : Int) (nanosecond : Nat) (half : Option Bool) :
    TimeParts :=
  { p with
    hour := hour, minute := minute, second := second, nanosecond := nanosecond, half := half
    times := p.times + 1 }

/-- With a month and a day. -/
def withDay (p : TimeParts) (month day : Int) : TimeParts :=
  { p with month := month, day := day, dates := p.dates + 1 }

/-- With a year. -/
def withYear (p : TimeParts) (year : Int) (digits : Nat) : TimeParts :=
  { p with year := year, yearDigits := digits }

/-- With a span of time after it. -/
def withSpan (p : TimeParts) (s : TimeSpan) (n : Int) : TimeParts :=
  { p with span := p.span.add s n, hasSpan := true }

/-- With a weekday. -/
def withWeekday (p : TimeParts) (ordinal : Int) (weekday : Nat) : TimeParts :=
  { p with dayOrdinal := ordinal, weekday := weekday, days := p.days + 1 }

/-- With a zone of the given hours, or hours and minutes, and minutes after a colon if there are
some.  There is nothing if it is more than a day. -/
def withDistance? (p : TimeParts) (isNegative : Bool) (value : Int) (digits : Nat)
    (minutes : Option Int) : Option TimeParts :=
  let total : Int := match minutes with
    | none =>
      let value := if digits ≤ 2 then value * 100 else value
      value.tdiv 100 * 60 + value.tmod 100
    | some m => if isNegative then value * 60 - m else value * 60 + m
  if -1440 ≤ total && total ≤ 1440 then
    some { p with ahead := total * 60, zones := p.zones + 1 }
  else none

/-- What a number by itself says: a year, a date, or a time of the day. -/
def withNumber (p : TimeParts) (value : Int) (digits : Nat) : TimeParts :=
  if p.dates != 0 && p.yearDigits == 0 && !p.hasSpan && (p.times != 0 || 2 < digits) then
    p.withYear value digits
  else if 4 < digits then
    (p.withDay (value.tdiv 100 % 100) (value % 100)).withYear (value.tdiv 10000) (digits - 4)
  else if digits ≤ 2 then p.withTime value 0 0 0 none
  else p.withTime (value.tdiv 100) (value % 100) 0 0 none

/-- Takes a zone after a time of the day, if there is one. -/
def takeDistance? (p : TimeParts) (isNegative : Bool) (value : Int) (digits : Nat)
    (rest : List Lexeme) : Option (TimeParts × List Lexeme) :=
  match rest with
  | .mark ':' :: .number false _ minutes _ :: rest =>
    (p.withDistance? isNegative value digits (some minutes)).map (·, rest)
  | .mark ':' :: _ => none
  | rest => (p.withDistance? isNegative value digits none).map (·, rest)

/-- Takes what can follow a time of the day: its half of the day, or a zone. -/
def takeAfterTime? (p : TimeParts) (canHalve : Bool) (rest : List Lexeme) :
    Option (TimeParts × List Lexeme) :=
  match rest with
  | .half isAfternoon :: rest =>
    if canHalve then some ({ p with half := some isAfternoon }, rest)
    else some (p, .half isAfternoon :: rest)
  | .number true isNegative value digits :: rest => p.takeDistance? isNegative value digits rest
  | rest => some (p, rest)

/-- Takes the minutes and seconds of a time of the day whose hour has been read. -/
def takeTime? (p : TimeParts) (canHalve : Bool) (hour : Int) (rest : List Lexeme) :
    Option (TimeParts × List Lexeme) :=
  match rest with
  | .number false _ minute _ :: .mark ':' :: .number false _ second _ :: rest =>
    (p.withTime hour minute second 0 none).takeAfterTime? canHalve rest
  | .number false _ minute _ :: .mark ':' :: .decimal false second nanosecond :: rest =>
    (p.withTime hour minute second nanosecond none).takeAfterTime? canHalve rest
  | .number false _ _ _ :: .mark ':' :: _ => none
  | .number false _ minute _ :: rest =>
    (p.withTime hour minute 0 0 none).takeAfterTime? canHalve rest
  | _ => none

/-- Takes a span of time, which can be one before now. -/
def takeSpan (p : TimeParts) (s : TimeSpan) (rest : List Lexeme) : TimeParts × List Lexeme :=
  match rest with
  | .direction sign :: rest => (p.withSpan s sign, rest)
  | rest => (p.withSpan s 1, rest)

/-- Takes what follows a number without a sign. -/
def takeAfterNumber? (p : TimeParts) (value : Int) (digits : Nat) (rest : List Lexeme) :
    Option (TimeParts × List Lexeme) :=
  match rest with
  | .half isAfternoon :: rest => some (p.withTime value 0 0 0 (some isAfternoon), rest)
  | .mark ':' :: rest => p.takeTime? true value rest
  | .mark '/' :: .number false _ second _ :: .mark '/' :: .number false _ third count :: rest =>
    if 4 ≤ digits then some ((p.withDay second third).withYear value digits, rest)
    else some ((p.withDay value second).withYear third count, rest)
  | .mark '/' :: .number false _ _ _ :: .mark '/' :: _ => none
  | .mark '/' :: .number false _ second _ :: rest => some (p.withDay value second, rest)
  | .mark '/' :: _ => none
  | .month month :: .number true _ year count :: rest =>
    some ((p.withDay month value).withYear (-year) count, rest)
  | .month month :: .number false _ year count :: rest =>
    some ((p.withDay month value).withYear year count, rest)
  | .month month :: rest => some (p.withDay month value, rest)
  | .weekday day :: rest => some (p.withWeekday value day, rest)
  | .unit u count :: rest => some (p.takeSpan (.ofUnits u (value * count)) rest)
  | .number true _ month _ :: .number true _ day _ :: rest =>
    let p := (p.withDay (-month) (-day)).withYear value digits
    match rest with
    | .letter 'T' :: .number false _ hour _ :: .mark ':' :: rest => p.takeTime? false hour rest
    | .letter 'T' :: .number false _ hour _ :: .number true isNegative value digits :: rest =>
      (p.withTime hour 0 0 0 none).takeDistance? isNegative value digits rest
    | .letter 'T' :: _ => none
    | rest => some (p, rest)
  | .number true _ count _ :: .unit u scale :: rest =>
    some ((p.withNumber value digits).withSpan (.ofUnits u (count * scale)) 1, rest)
  | .number true isNegative distance count :: rest =>
    (p.withTime value 0 0 0 none).takeDistance? isNegative distance count rest
  | rest => some (p.withNumber value digits, rest)

/-- Takes what follows a zone. -/
def takeAfterZone? (p : TimeParts) (ahead : Int) (rest : List Lexeme) :
    Option (TimeParts × List Lexeme) :=
  let seen := { p with ahead := ahead, zones := p.zones + 1 }
  match rest with
  | .number true _ count _ :: .unit u scale :: rest =>
    some (seen.withSpan (.ofUnits u (count * scale)) 1, rest)
  | .number true isNegative value digits :: rest =>
    (p.takeDistance? isNegative value digits rest).map fun (q, rest) =>
      ({ q with ahead := q.ahead + ahead }, rest)
  | .summer :: rest => some ({ seen with ahead := ahead + 3600 }, rest)
  | rest => some (seen, rest)

/-- Takes an item. -/
def takeItem? (p : TimeParts) : List Lexeme → Option (TimeParts × List Lexeme)
  | .number false _ value digits :: rest => p.takeAfterNumber? value digits rest
  | .number true _ value _ :: .unit u count :: rest =>
    some (p.takeSpan (.ofUnits u (value * count)) rest)
  | .decimal _ second nanosecond :: .unit .second _ :: rest =>
    some (p.takeSpan { TimeSpan.zero with second := second, nanosecond := nanosecond } rest)
  | .month month :: .number true _ day _ :: .number true _ year count :: rest =>
    some ((p.withDay month (-day)).withYear (-year) count, rest)
  | .month month :: .number false _ day _ :: .mark ',' :: .number false _ year count :: rest =>
    some ((p.withDay month day).withYear year count, rest)
  | .month _ :: .number false _ _ _ :: .mark ',' :: _ => none
  | .month month :: .number false _ day _ :: rest => some (p.withDay month day, rest)
  | .weekday day :: .mark ',' :: rest => some (p.withWeekday 0 day, rest)
  | .weekday day :: rest => some (p.withWeekday 0 day, rest)
  | .ordinal n :: .weekday day :: rest => some (p.withWeekday n day, rest)
  | .ordinal n :: .unit u count :: rest => some (p.takeSpan (.ofUnits u (n * count)) rest)
  | .unit u count :: rest => some (p.takeSpan (.ofUnits u count) rest)
  | .shift days :: rest => some (p.withSpan (.ofUnits .day days) 1, rest)
  | .zone ahead :: rest => p.takeAfterZone? ahead rest
  | .letter 'T' :: .number true _ count _ :: .unit u scale :: rest =>
    some ({ p with ahead := -25200, zones := p.zones + 1 }.withSpan (.ofUnits u (count * scale)) 1,
      rest)
  | .letter 'T' :: rest => some ({ p with ahead := -25200, zones := p.zones + 1 }, rest)
  | .summerZone ahead :: rest =>
    some ({ p with ahead := ahead + 3600, zones := p.zones + 1 }, rest)
  | .localZone isSummer :: .summer :: rest =>
    some ({ p with
      isSummer := some true, localZones := p.localZones + 1
      summers := p.summers + (if isSummer then 1 else 0) }, rest)
  | .localZone isSummer :: rest =>
    some ({ p with isSummer := some isSummer, localZones := p.localZones + 1 }, rest)
  | .letter _ :: rest => some ({ p with localZones := p.localZones + 1 }, rest)
  | _ => none

/-- Takes all items. -/
def takeAll? (fuel : Nat) (p : TimeParts) (lexemes : List Lexeme) : Option TimeParts :=
  match fuel, lexemes with
  | _, [] => some p
  | 0, _ => none
  | fuel + 1, lexemes =>
    match p.takeItem? lexemes with
    | some (p, rest) => takeAll? fuel p rest
    | none => none

/-- The year that is meant: two digits are a year near the turn of the century. -/
def fullYear (p : TimeParts) : Int :=
  if p.year < 0 then -p.year
  else if p.yearDigits == 2 then p.year + (if p.year < 69 then 2000 else 1900)
  else p.year

/-- The hour from midnight on, if it is one. -/
def fullHour? (p : TimeParts) : Option Int :=
  match p.half with
  | none => if 0 ≤ p.hour && p.hour < 24 then some p.hour else none
  | some isAfternoon =>
    if 0 < p.hour && p.hour < 12 then some (if isAfternoon then p.hour + 12 else p.hour)
    else if p.hour == 12 then some (if isAfternoon then 12 else 0)
    else none

/-- The seconds that clocks show at a day and time. -/
def shown (days hour minute second : Int) : Int := days * 86400 + hour * 3600 + minute * 60 + second

/-- The second that is meant, and the nanoseconds. -/
def resolve? (p : TimeParts) (zone : Zone) : Option (Int × Nat) := do
  let isOnce (n : Nat) : Bool := n ≤ 1
  if !(isOnce p.times && isOnce p.dates && isOnce p.days && isOnce p.summers
      && isOnce (p.zones + p.localZones)) then none
  let year := p.fullYear
  let keepsTime := p.times != 0 || (p.hasSpan && p.dates == 0 && p.days == 0)
  let (hour, minute, second, nanosecond) ←
    if keepsTime then (p.fullHour?).map (·, p.minute, p.second, p.nanosecond)
    else some (0, 0, 0, 0)
  if !(1 ≤ p.month && p.month ≤ 12 && 1 ≤ p.day && p.day ≤ Calendar.daysIn year p.month.toNat
      && 0 ≤ minute && minute < 60 && 0 ≤ second && second < 60) then none
  let wanted := if p.localZones != 0 then p.isSummer else none
  let days := Calendar.daysTo year p.month p.day
  let start ←
    if p.zones != 0 then some (zone.secondsOf (shown days hour minute second))
    else zone.secondsOf? wanted (shown days hour minute second)
  let (year, month, day) := (year, p.month, p.day)
  let weekday : Int := (Date.ofDays days).weekday
  let more : Int :=
    if p.days != 0 && p.dates == 0 then
      let skipped := if 0 < p.dayOrdinal && weekday != p.weekday then 1 else 0
      (p.dayOrdinal - skipped) * 7 + (p.weekday - weekday + 7) % 7
    else 0
  let months := year * 12 + (month - 1) + p.span.year * 12 + p.span.month
  let moved := Calendar.daysTo (Int.fdiv months 12) (months % 12 + 1) 1
    + (day - 1) + more + p.span.day
  let isMoved := more != 0 || p.span.year != 0 || p.span.month != 0 || p.span.day != 0
  let final := shown moved hour minute second
  let start := if isMoved then zone.secondsOf final else start
  let start := if p.zones != 0 then start + (zone.clockAt start).ahead - p.ahead else start
  let nanoseconds := (nanosecond : Int) + p.span.nanosecond
  let result := start + p.span.hour * 3600 + p.span.minute * 60 + p.span.second
    + Int.fdiv nanoseconds 1000000000
  let isFar (n : Int) : Bool := n < -2 ^ 31 || 2 ^ 31 ≤ n
  if isFar (year + p.span.year) || isFar (month - 1 + p.span.month)
      || isFar (day + more + p.span.day) then none
  if result < -2 ^ 63 || 2 ^ 63 ≤ result then none
  some (result, (nanoseconds % 1000000000).toNat)

end TimeParts

namespace TimeText

/-- The zone that a text names at its start, and what follows that. -/
def zone? (o : Octets) : Option (Octets × Octets) :=
  let lead := Octets.ofText "TZ=\""
  if !Octets.starts lead o then none
  else
    let rec value (fuel : Nat) (o : Octets) : Option (Octets × Octets) :=
      match fuel, o with
      | _, '"' :: r => some ([], r)
      | fuel + 1, '\\' :: c :: r =>
        if c == '\\' || c == '"' then (value fuel r).map fun (o, r) => (c :: o, r) else none
      | fuel + 1, c :: r => (value fuel r).map fun (o, r) => (c :: o, r)
      | _, _ => none
    value (o.length + 1) (o.drop lead.length)

/-- The second that a text means, and the nanoseconds. -/
def read? (zone : Zone) (now : Nat) (o : Octets) : Option (Int × Nat) :=
  let o := o.dropWhile Text.isSpace
  let (zone, o) := match zone? o with
    | some (name, rest) => (Zone.read name, rest.dropWhile Text.isSpace)
    | none => (zone, o)
  let o := if o.isEmpty then ['0'] else o
  let moment := Moment.ofTime zone now
  match Lexeme.scanAll zone (o.length + 1) o with
  | [.mark '@', .number _ _ value _] => some (value, 0)
  | [.mark '@', .decimal _ second nanosecond] => some (second, nanosecond)
  | lexemes =>
    ((TimeParts.ofMoment moment).takeAll? (lexemes.length + 1) lexemes).bind (·.resolve? zone)

/-- The second that digits mean: month, day, hour and minute, with a year before or after them, and
seconds after a point. -/
def stamp? (zone : Zone) (now : Nat) (isYearLast : Bool) (o : Octets) : Option Int := do
  let digits := o.takeWhile (· != '.')
  let count := digits.length
  let second ← match o.drop count with
    | [] => some 0
    | ['.', a, b] => if a.isDigit && b.isDigit then Octets.natural? [a, b] else none
    | _ => none
  if !(digits.all Char.isDigit && 8 ≤ count && count ≤ 12 && count % 2 == 0) then none
  let yearSize := count - 8
  let year := if isYearLast then digits.drop 8 else digits.take yearSize
  let rest := if isYearLast then digits.take 8 else digits.drop yearSize
  let field (n : Nat) : Int := ((Octets.natural? ((rest.drop (2 * n)).take 2)).getD 0 : Nat)
  let year : Int := match Octets.natural? year with
    | none => (Moment.ofTime zone now).date.year
    | some n => if yearSize == 2 then (if n < 69 then 2000 + n else 1900 + n : Nat) else n
  let (month, day, hour, minute) := (field 0, field 1, field 2, field 3)
  if !(1 ≤ month && month ≤ 12 && 1 ≤ day && day ≤ Calendar.daysIn year month.toNat && hour < 24
      && minute < 60 && second ≤ 60) then none
  zone.secondsOf? none (TimeParts.shown (Calendar.daysTo year month day) hour minute second)

end TimeText

end Flowscript
