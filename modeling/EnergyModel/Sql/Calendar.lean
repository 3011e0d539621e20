import EnergyModel.Sql.Printf

/-!
# Dates and times

The calendar behind `date`, `time`, `datetime`, `julianday`, `unixepoch`, `strftime` and
`timediff`.

A moment is carried in up to two forms at once: a count of milliseconds since noon of the
first julian day (November 24, 4714 BC in the proleptic Gregorian calendar), and a calendar
date with a clock time and a zone offset. Each form is computed from the other when it is
needed, and a flag says which forms are current, so that a modifier that changes one form
simply marks the other as stale. A date read from text keeps its fields as written: the
second of March written as the thirty-first of February stays so until the millisecond form
is computed, which is what lets the `floor` modifier step back to the end of February.

The arithmetic is that of machine integers and doubles: integer division truncates toward
zero, a double becomes an integer by truncation, and the julian day conversions use the
constants 365.25 and 30.6001 of the classical algorithm. A millisecond count is valid from
the first julian day up to the end of the year 9999.

The text forms read are `YYYY-MM-DD`, optionally followed by a blank or `T` and a time;
`HH:MM`, `HH:MM:SS` and `HH:MM:SS.SSS`, each optionally followed by `Z` or an offset
`±HH:MM`; `now`; and a number, a julian day or, with the `unixepoch` or `auto` modifiers, a
count of seconds since 1970. The clock is fixed: `now` is always the same moment, and local
time is universal time.

Where only deterministic values may be computed (a `CHECK` constraint, a generated column,
an index), reading the clock is an error that names the function and the place.
-/

namespace EnergyModel.Sql

/-- A moment in one or both of its forms, with the flags that say which are current. -/
structure Moment where
  /-- Milliseconds since noon of the first julian day. -/
  millis : Int := 0
  year : Int := 0
  month : Int := 0
  day : Int := 0
  hour : Int := 0
  minute : Int := 0
  second : Float := 0.0
  /-- The zone offset, in minutes east of universal time. -/
  zone : Int := 0
  /-- How far the day of the month runs past the month's last day. -/
  overflow : Int := 0
  hasMillis : Bool := false
  /-- Whether the moment is a bare number, still to be read as a julian day or in seconds. -/
  raw : Bool := false
  hasDate : Bool := false
  hasClock : Bool := false
  broken : Bool := false
  /-- Whether seconds are shown with their milliseconds. -/
  subsecond : Bool := false
  isUtc : Bool := false
  isLocal : Bool := false
  deriving Inhabited

/-- A double from an integer. -/
def realOf (n : Int) : Float := Float.ofInt n

/-- The moment of a failed computation: nothing is current. -/
def Moment.failed : Moment := { broken := true }

/-- The largest valid millisecond count: the last millisecond of the year 9999. -/
def lastMillis : Int := 464269060799999

/-- Whether a millisecond count lies in the calendar's range. -/
def validMillis (ms : Int) : Bool := 0 ≤ ms && ms ≤ lastMillis

/-- The moment with its millisecond form computed from the date and time (the first of
January 2000 standing for a missing date), the zone offset applied. A year outside
-4713 to 9999, or a bare number, makes the moment fail. -/
def Moment.withMillis (p : Moment) : Moment :=
  if p.hasMillis then p
  else
    let (y, m, d) := if p.hasDate then (p.year, p.month, p.day) else (2000, 1, 1)
    if y < -4713 || y > 9999 || p.raw then Moment.failed
    else
      let (y, m) := if m ≤ 2 then (y - 1, m + 12) else (y, m)
      let a := y.tdiv 100
      let b := 2 - a + a.tdiv 4
      let x1 := (36525 * (y + 4716)).tdiv 100
      let x2 := (306001 * (m + 1)).tdiv 10000
      let base := (x1 + x2 + d + b) * 86400000 - 131716800000
      let p := { p with millis := base, hasMillis := true }
      if !p.hasClock then p
      else
        let millis := base + p.hour * 3600000 + p.minute * 60000 +
          truncateReal (p.second * 1000.0 + 0.5)
        if p.zone != 0 then
          { p with millis := millis - p.zone * 60000, hasDate := false, hasClock := false,
                   zone := 0, isUtc := true, isLocal := false }
        else { p with millis }

/-- The moment with its calendar date computed from the millisecond form (the first of
January 2000 when there is none). -/
def Moment.withDate (p : Moment) : Moment :=
  if p.hasDate then p
  else if !p.hasMillis then { p with year := 2000, month := 1, day := 1, hasDate := true }
  else if !validMillis p.millis then Moment.failed
  else
    let z := (p.millis + 43200000).tdiv 86400000
    let alpha := truncateReal ((realOf z + 32044.75) / 36524.25) - 52
    let a := z + 1 + alpha - (alpha + 100).tdiv 4 + 25
    let b := a + 1524
    let c := truncateReal ((realOf b - 122.1) / 365.25)
    let d := (36525 * (c % 32768)).tdiv 100
    let e := truncateReal (realOf (b - d) / 30.6001)
    let x1 := truncateReal (30.6001 * realOf e)
    let month := if e < 14 then e - 1 else e - 13
    { p with day := b - d - x1, month, year := if month > 2 then c - 4716 else c - 4715,
             hasDate := true }

/-- The moment with its clock time computed from the millisecond form. -/
def Moment.withClock (p : Moment) : Moment :=
  if p.hasClock then p
  else
    let p := p.withMillis
    let dayMillis := (p.millis + 43200000).tmod 86400000
    let dayMinutes := dayMillis.tdiv 60000
    { p with second := realOf (dayMillis.tmod 60000) / 1000.0, minute := dayMinutes.tmod 60,
             hour := dayMinutes.tdiv 60, raw := false, hasClock := true }

/-- The moment with its date and its clock time current. -/
def Moment.withFields (p : Moment) : Moment := p.withDate.withClock

/-- The moment with only its millisecond form current. -/
def Moment.cleared (p : Moment) : Moment :=
  { p with hasDate := false, hasClock := false, zone := 0 }

/-- The moment with its overflow set: how many days the day of the month runs past the end of
the month. -/
def Moment.withOverflow (p : Moment) : Moment :=
  let overflow :=
    if p.day ≤ 28 then 0
    else if [1, 3, 5, 7, 8, 10, 12].contains p.month then 0
    else if p.month != 2 then (if p.day == 31 then 1 else 0)
    else if p.year % 4 != 0 || (p.year % 100 == 0 && p.year % 400 != 0) then p.day - 28
    else p.day - 29
  { p with overflow }

/-- The moment the clock reads. The clock is fixed: every reading gives the start of
November 13, 2026, universal time. -/
def clockMoment : Moment := { millis := 212661288000000, hasMillis := true, isUtc := true }

/-- A field of fixed width in a date or time: its number of digits, its least and greatest
value, and the character that must follow it when another field does. -/
structure DigitField where
  width : Nat
  least : Int
  most : Int
  next : Option Char

/-- The number in exactly so many leading digits, and what follows them. -/
def takeDigits : Nat → List Char → Int → Option (Int × List Char)
  | 0, cs, acc => some (acc, cs)
  | n + 1, c :: cs, acc => if c.isDigit then takeDigits n cs (acc * 10 + digitOf c) else none
  | _ + 1, [], _ => none

/-- The values of fields read one after another, as many as are well formed and in range. -/
def readFields : List DigitField → List Char → List Int
  | [], _ => []
  | f :: fs, cs =>
    match takeDigits f.width cs 0 with
    | none => []
    | some (v, rest) =>
      if v < f.least || v > f.most then []
      else
        match f.next with
        | none => [v]
        | some c => if rest.head? == some c then v :: readFields fs (rest.drop 1) else []

/-- Hours and minutes, `HH:MM`. -/
def clockFields : List DigitField := [⟨2, 0, 24, some ':'⟩, ⟨2, 0, 59, none⟩]

/-- A date, `YYYY-MM-DD`. -/
def dateFields : List DigitField := [⟨4, 0, 14712, some '-'⟩, ⟨2, 1, 12, some '-'⟩, ⟨2, 1, 31, none⟩]

/-- Reads what may follow a time: blanks, then `Z`, an offset `±HH:MM`, or nothing, then
blanks to the end. -/
def readZone (cs : List Char) (p : Moment) : Option Moment :=
  let cs := cs.dropWhile isSpace
  let p := { p with zone := 0 }
  let atEnd (rest : List Char) := (rest.dropWhile isSpace).isEmpty
  match cs with
  | [] => some p
  | c :: rest =>
    if c == 'Z' || c == 'z' then
      if atEnd rest then some { p with isLocal := false, isUtc := true } else none
    else if c == '-' || c == '+' then
      match readFields [⟨2, 0, 14, some ':'⟩, ⟨2, 0, 59, none⟩] rest with
      | [h, m] =>
        if atEnd (rest.drop 5) then some { p with zone := (if c == '-' then -1 else 1) * (m + h * 60) }
        else none
      | _ => none
    else none

/-- The fraction in the digits after a decimal point, read digit by digit as a double. -/
def readFraction : List Char → Float → Float → Float × List Char
  | c :: cs, value, scale =>
    if c.isDigit then readFraction cs (value * 10.0 + realOf (digitOf c)) (scale * 10.0)
    else (value / scale, c :: cs)
  | [], value, scale => (value / scale, [])

/-- Reads a time `HH:MM`, `HH:MM:SS` or `HH:MM:SS.SSS` with what may follow it. -/
def readClock (cs : List Char) (p : Moment) : Option Moment :=
  match readFields clockFields cs with
  | [h, m] =>
    let cs := cs.drop 5
    let seconds : Option (Float × List Char) :=
      match cs with
      | ':' :: rest =>
        match readFields [⟨2, 0, 59, none⟩] rest with
        | [s] =>
          let rest := rest.drop 2
          match rest with
          | '.' :: d :: more =>
            if d.isDigit then
              let (fraction, after) := readFraction (d :: more) 0.0 1.0
              -- kept below a whole second, so that rounding to milliseconds stays in it
              some (realOf s + (if fraction > 0.999 then 0.999 else fraction), after)
            else some (realOf s, rest)
          | _ => some (realOf s, rest)
        | _ => none
      | _ => some (0.0, cs)
    match seconds with
    | none => none
    | some (second, rest) =>
      readZone rest
        { p with hasMillis := false, raw := false, hasClock := true, hour := h, minute := m, second }
  | _ => none

/-- Reads a date `YYYY-MM-DD` (a leading `-` for years before the era), optionally followed
by blanks or a `T` and a time. -/
def readCalendarDate (cs : List Char) (p : Moment) : Option Moment :=
  let (negative, cs) := match cs with
    | '-' :: rest => (true, rest)
    | _ => (false, cs)
  match readFields dateFields cs with
  | [y, m, d] =>
    let rest := (cs.drop 10).dropWhile fun c => isSpace c || c == 'T'
    let timed : Option Moment := match readClock rest p with
      | some q => some q
      | none => if rest.isEmpty then some { p with hasClock := false } else none
    match timed with
    | none => none
    | some q =>
      let q := ({ q with hasMillis := false, hasDate := true, year := if negative then -y else y,
                         month := m, day := d } : Moment).withOverflow
      some (if q.zone != 0 then q.withMillis else q)
  | _ => none

/-- The double a whole text is, blanks around it aside, if it is a number. -/
def wholeNumber? (cs : List Char) : Option Float :=
  let (value, shape) := readRealChars cs
  if shape.isWhole then some value else none

/-- A bare number as a moment: a julian day when it is one, to be reread by a modifier
otherwise. -/
def rawNumber (r : Float) : Moment :=
  let p : Moment := { second := r, raw := true }
  if r ≥ 0.0 && r < 5373484.5 then
    { p with millis := truncateReal (r * 86400000.0 + 0.5), hasMillis := true }
  else p

/-- The moment a text names, none when it names none; reading the clock where it is banned
is the ban's error. -/
def readMoment (ban : Option String) (text : String) : Except String (Option Moment) :=
  let cs := text.toList
  match readCalendarDate cs {} with
  | some p => .ok (some p)
  | none =>
    match readClock cs {} with
    | some p => .ok (some p)
    | none =>
      if text.toLower == "now" then
        match ban with
        | some m => .error m
        | none => .ok (some clockMoment)
      else
        match wholeNumber? cs with
        | some r => .ok (some (rawNumber r))
        | none =>
          if text.toLower == "subsec" || text.toLower == "subsecond" then
            match ban with
            | some m => .error m
            | none => .ok (some { clockMoment with subsecond := true })
          else .ok none

/-- The moment in local time, which is universal time: its date and time fields recomputed
from the millisecond form, the seconds whole plus the milliseconds. -/
def Moment.toLocal (p : Moment) : Moment :=
  let q := p.withMillis
  let b := ({ millis := q.millis, hasMillis := true } : Moment).withFields
  { p with year := b.year, month := b.month, day := b.day, hour := b.hour, minute := b.minute,
           second := realOf (truncateReal b.second) + realOf (q.millis.tmod 1000) * 0.001,
           hasDate := true, hasClock := true, hasMillis := false, raw := false, zone := 0,
           broken := false }

/-- A unit of the `±NNN unit` modifiers: its name, the magnitude it allows, and its length in
seconds. The limits are those of single-precision constants. -/
structure ShiftUnit where
  name : String
  limit : Float
  seconds : Float

/-- The units a moment may be shifted by. -/
def shiftUnits : List ShiftUnit :=
  [⟨"second", 464269992787968.0, 1.0⟩, ⟨"minute", 7737900007424.0, 60.0⟩,
   ⟨"hour", 128969998336.0, 3600.0⟩, ⟨"day", 5373485.0, 86400.0⟩,
   ⟨"month", 176546.0, 2592000.0⟩, ⟨"year", 14713.0, 31536000.0⟩]

/-- Months carried into years so that the month lies from 1 to 12. -/
def Moment.carryMonths (p : Moment) : Moment :=
  let x := if p.month > 0 then (p.month - 1).tdiv 12 else (p.month - 12).tdiv 12
  { p with year := p.year + x, month := p.month - x * 12 }

/-- Shifts a moment by a time of day `HH:MM[:SS[.SSS]]`, forward or back as the sign says. -/
def shiftByClock (sign : Char) (text : List Char) (p : Moment) : Option Moment :=
  let text := if (text.head?.map Char.isDigit) == some true then text else text.drop 1
  match readClock text {} with
  | none => none
  | some tx =>
    let t := tx.withMillis.millis - 43200000
    let t := t - t.tdiv 86400000 * 86400000
    let t := if sign == '-' then -t else t
    let q := p.withMillis.cleared
    some { q with millis := q.millis + t }

/-- Where the number at the front of a numeric modifier ends: at a colon, a blank, or the dash
after four or five leading digits of a date. -/
def numberEnd (z : Array Char) : Nat → Nat → Nat
  | 0, n => n
  | fuel + 1, n =>
    match z[n]? with
    | none => n
    | some c =>
      let digitsBefore (k : Nat) := (z.toList.drop 1).take k |>.all Char.isDigit
      if c == ':' || isSpace c then n
      else if c == '-' && ((n == 5 && digitsBefore 4) || (n == 6 && digitsBefore 5)) then n
      else numberEnd z fuel (n + 1)

/-- Applies a `±YYYY-MM-DD[ HH:MM[:SS[.SSS]]]` modifier, whose number ends after `n`
characters. -/
def shiftByDate (z : List Char) (n : Nat) (p : Moment) : Option Moment :=
  let sign := z.headD ' '
  if sign != '+' && sign != '-' then none
  else
    -- months from 0 to 12 and days from 0 to 31, after a year of four or five digits
    let fields : List DigitField :=
      [⟨if n == 5 then 4 else 5, 0, 14712, some '-'⟩, ⟨2, 0, 12, some '-'⟩, ⟨2, 0, 31, none⟩]
    let read := readFields fields (z.drop 1)
    -- a five-digit year moves what follows one place on
    let z := if n == 5 then z else z.drop 1
    match read with
    | [y, m, d] =>
      if m ≥ 12 || d ≥ 31 then none
      else
        let q := { p.withFields with hasMillis := false }
        let (year, month, days) :=
          if sign == '-' then (q.year - y, q.month - m, -d) else (q.year + y, q.month + m, d)
        let q := ({ q with year, month } : Moment).carryMonths.withOverflow.withMillis
        let q := { q with hasClock := false, hasDate := false, millis := q.millis + days * 86400000 }
        match z.drop 11 with
        | [] => some q
        | c :: rest =>
          if isSpace c && (readFields clockFields rest).length == 2 then shiftByClock sign rest q
          else none
    | _ => none

/-- Applies a `±NNN unit` modifier: months and years move the calendar date and then any
fraction is added as days of thirty days and years of 365 days; other units add their
length. -/
def shiftByUnits (r : Float) (unitText : List Char) (p : Moment) : Option Moment :=
  let unitText := unitText.dropWhile isSpace
  let count := unitText.length
  if count < 3 || count > 10 then none
  else
    let unitText := if (unitText.getLastD ' ').toLower == 's' then unitText.dropLast else unitText
    let word := (String.ofList unitText).toLower
    let q := { p.withMillis with overflow := 0 }
    let rounder := if r < 0.0 then -0.5 else 0.5
    match shiftUnits.find? fun u => u.name == word && r > -u.limit && r < u.limit with
    | none => none
    | some u =>
      let whole := truncateReal r
      let (q, r) :=
        if u.name == "month" then
          let q := q.withFields
          (({ q with month := q.month + whole } : Moment).carryMonths.withOverflow, r - realOf whole)
        else if u.name == "year" then
          let q := q.withFields
          (({ q with year := q.year + whole } : Moment).withOverflow, r - realOf whole)
        else (q, r)
      let q := if u.name == "month" || u.name == "year" then { q with hasMillis := false } else q
      let q := q.withMillis
      some { q with millis := q.millis + truncateReal (r * 1000.0 * u.seconds + rounder) }.cleared

/-- Applies a modifier starting with a sign or a digit: a date shift, a time-of-day shift, or
a shift by a count of units. -/
def shiftBy (z : List Char) (p : Moment) : Option Moment :=
  let n := numberEnd z.toArray z.length 1
  match wholeNumber? (z.take n) with
  | none => none
  | some r =>
    match z.drop n with
    | '-' :: _ => shiftByDate z n p
    | ':' :: _ => shiftByClock (z.headD ' ') z p
    | rest => shiftByUnits r rest p

/-- Applies the modifier at a position (1 for the first) to a moment; none when the modifier is
not one or does not apply, which makes the function's value null. -/
def applyModifier (ban : Option String) (text : String) (position : Nat) (p : Moment) :
    Except String (Option Moment) :=
  let lower := text.toLower
  let banned {α : Type} (ok : Except String α) : Except String α :=
    match ban with
    | some m => .error m
    | none => ok
  match lower.toList with
  | 'a' :: _ =>
    if lower != "auto" || position > 1 then .ok none
    else if !p.raw || p.hasMillis then .ok (some { p with raw := false })
    else if p.second ≥ -210866760000.0 && p.second ≤ 253402300799.0 then
      let r := p.second * 1000.0 + 210866760000000.0
      .ok (some { p.cleared with millis := truncateReal (r + 0.5), hasMillis := true, raw := false })
    else .ok none
  | 'c' :: _ =>
    if lower == "ceiling" then .ok (some { p.withMillis.cleared with overflow := 0 }) else .ok none
  | 'f' :: _ =>
    if lower == "floor" then
      let q := p.withMillis
      .ok (some { q with millis := q.millis - q.overflow * 86400000 }.cleared)
    else .ok none
  | 'j' :: _ =>
    if lower != "julianday" || position > 1 then .ok none
    else if p.hasMillis && p.raw then .ok (some { p with raw := false })
    else .ok none
  | 'l' :: _ =>
    if lower != "localtime" then .ok none
    else banned (.ok (some { (if p.isLocal then p else p.toLocal) with isUtc := false, isLocal := true }))
  | 'u' :: _ =>
    if lower == "unixepoch" && p.raw then
      if position > 1 then .ok none
      else
        let r := p.second * 1000.0 + 210866760000000.0
        if r ≥ 0.0 && r < 464269060800000.0 then
          .ok (some { p.cleared with millis := truncateReal (r + 0.5), hasMillis := true, raw := false })
        else .ok none
    else if lower == "utc" then
      banned (.ok (some (if p.isUtc then p
        else { millis := p.withMillis.millis, hasMillis := true, isUtc := true })))
    else .ok none
  | 'w' :: _ =>
    if String.ofList (lower.toList.take 8) != "weekday " then .ok none
    else
      match wholeNumber? (text.toList.drop 8) with
      | some r =>
        let n := truncateReal r
        if r ≥ 0.0 && r < 7.0 && realOf n == r then
          let q := ({ p.withFields with zone := 0, hasMillis := false } : Moment).withMillis
          let z := ((q.millis + 129600000).tdiv 86400000).tmod 7
          let z := if z > n then z - 7 else z
          .ok (some { q with millis := q.millis + (n - z) * 86400000 }.cleared)
        else .ok none
      | none => .ok none
  | 's' :: _ =>
    if String.ofList (lower.toList.take 9) != "start of " then
      .ok (if lower == "subsec" || lower == "subsecond" then some { p with subsecond := true } else none)
    else if !p.hasMillis && !p.hasDate && !p.hasClock then .ok none
    else
      let q := { p.withDate with hasClock := true, hour := 0, minute := 0, second := 0.0,
                                 raw := false, zone := 0, hasMillis := false }
      match String.ofList (lower.toList.drop 9) with
      | "month" => .ok (some { q with day := 1 })
      | "year" => .ok (some { q with month := 1, day := 1 })
      | "day" => .ok (some q)
      | _ => .ok none
  | c :: _ =>
    if c == '+' || c == '-' || c.isDigit then .ok (shiftBy text.toList p) else .ok none
  | [] => .ok none

/-- Applies modifiers in order from a position; none as soon as one fails. -/
def applyModifiers (ban : Option String) : List Value → Nat → Moment →
    Except String (Option Moment)
  | [], _, p => .ok (some p)
  | m :: ms, position, p =>
    match m.text? with
    | none => .ok none
    | some text => do
      match ← applyModifier ban text position p with
      | none => pure none
      | some q => applyModifiers ban ms (position + 1) q

/-- The moment named by a function's arguments: a time value and modifiers, or the clock when
there are none. A moment out of the calendar's range is none. -/
def momentOf (ban : Option String) (args : List Value) : Except String (Option Moment) := do
  match args with
  | [] =>
    match ban with
    | some m => throw m
    | none => pure (some clockMoment)
  | first :: modifiers =>
    let start ← match first with
      | .integer n => pure (some (rawNumber (realOf n)))
      | .real x => pure (some (rawNumber x))
      | .null => pure none
      | v => readMoment ban v.asText
    let some p := start | return none
    let some p ← applyModifiers ban modifiers 1 p | return none
    let p := p.withMillis
    if p.broken || !validMillis p.millis then return none
    -- a date read alone is shown as its millisecond form says: the 31st of February is March
    if args.length == 1 && p.hasDate && p.day > 28 then return some { p with hasDate := false }
    return some p

/-- The last digits of a number, so many of them, as text. -/
def lastDigits (n : Int) (count : Nat) : String :=
  String.ofList ((List.range count).reverse.map fun k =>
    digitChar ((n.natAbs / Nat.pow 10 k) % 10))

/-- A date as `YYYY-MM-DD`, with a `-` before years before the era. -/
def Moment.dateText (p : Moment) : String :=
  let q := p.withDate
  (if q.year < 0 then "-" else "") ++ lastDigits q.year 4 ++ "-" ++ lastDigits q.month 2 ++ "-" ++
    lastDigits q.day 2

/-- A time as `HH:MM:SS`, or `HH:MM:SS.SSS` when seconds are shown with their milliseconds. -/
def Moment.clockText (p : Moment) : String :=
  let q := p.withClock
  let seconds :=
    if q.subsecond then
      let s := truncateReal (1000.0 * q.second + 0.5)
      lastDigits (s / 1000) 2 ++ "." ++ lastDigits s 3
    else lastDigits (truncateReal q.second) 2
  lastDigits q.hour 2 ++ ":" ++ lastDigits q.minute 2 ++ ":" ++ seconds

/-- Whole days from the first of January of the moment's year to the moment. -/
def Moment.daysIntoYear (p : Moment) : Int :=
  let jan := ({ p with hasMillis := false, month := 1, day := 1 } : Moment).withMillis
  (p.millis - jan.millis + 43200000).tdiv 86400000

/-- Days since the last Monday: 0 on a Monday. -/
def Moment.daysAfterMonday (p : Moment) : Int := ((p.millis + 43200000).tdiv 86400000).tmod 7

/-- Days since the last Sunday: 0 on a Sunday. -/
def Moment.daysAfterSunday (p : Moment) : Int := ((p.millis + 129600000).tdiv 86400000).tmod 7

/-- The Thursday of the moment's week, which names the week's year in the ISO calendar. -/
def Moment.thursday (p : Moment) : Moment :=
  ({ p with millis := p.millis + (3 - p.daysAfterMonday) * 86400000, hasDate := false } : Moment).withDate

/-- A number through a `printf` format. -/
def formatted (format : String) (n : Int) : String := printfText format [.integer n]

/-- The text a `strftime` conversion character stands for, none for an unknown one. -/
def Moment.conversion (x : Moment) (c : Char) : Option String :=
  let twelve := if x.hour > 12 then x.hour - 12 else if x.hour == 0 then 12 else x.hour
  match c with
  | 'd' => some (formatted "%02d" x.day)
  | 'e' => some (formatted "%2d" x.day)
  | 'f' => some (printfText "%06.3f" [.real (if x.second > 59.999 then 59.999 else x.second)])
  | 'F' => some (printfText "%04d-%02d-%02d" [.integer x.year, .integer x.month, .integer x.day])
  | 'G' => some (formatted "%04d" x.thursday.year)
  | 'g' => some (formatted "%02d" (x.thursday.year.tmod 100))
  | 'H' => some (formatted "%02d" x.hour)
  | 'k' => some (formatted "%2d" x.hour)
  | 'I' => some (formatted "%02d" twelve)
  | 'l' => some (formatted "%2d" twelve)
  | 'j' => some (formatted "%03d" (x.daysIntoYear + 1))
  | 'J' => some (printfText "%.16g" [.real (realOf x.millis / 86400000.0)])
  | 'm' => some (formatted "%02d" x.month)
  | 'M' => some (formatted "%02d" x.minute)
  | 'p' => some (if x.hour ≥ 12 then "PM" else "AM")
  | 'P' => some (if x.hour ≥ 12 then "pm" else "am")
  | 'R' => some (printfText "%02d:%02d" [.integer x.hour, .integer x.minute])
  | 's' =>
    if x.subsecond then some (printfText "%.3f" [.real (realOf (x.millis - 210866760000000) / 1000.0)])
    else some (toString (x.millis.tdiv 1000 - 210866760000))
  | 'S' => some (formatted "%02d" (truncateReal x.second))
  | 'T' =>
    some (printfText "%02d:%02d:%02d" [.integer x.hour, .integer x.minute, .integer (truncateReal x.second)])
  | 'u' => some (toString (if x.daysAfterSunday == 0 then 7 else x.daysAfterSunday))
  | 'w' => some (toString x.daysAfterSunday)
  | 'U' => some (formatted "%02d" ((x.daysIntoYear - x.daysAfterSunday + 7).tdiv 7))
  | 'V' => some (formatted "%02d" (x.thursday.daysIntoYear.tdiv 7 + 1))
  | 'W' => some (formatted "%02d" ((x.daysIntoYear - x.daysAfterMonday + 7).tdiv 7))
  | 'Y' => some (formatted "%04d" x.year)
  | '%' => some "%"
  | _ => none

/-- A format with its conversions replaced; none when one is unknown or the format ends in a
lone `%`. -/
def Moment.formatWith (x : Moment) : List Char → String → Option String
  | [], out => some out
  | '%' :: c :: rest, out =>
    match x.conversion c with
    | some s => Moment.formatWith x rest (out ++ s)
    | none => none
  | ['%'], _ => none
  | c :: rest, out => Moment.formatWith x rest (out.push c)

/-- Steps the second moment of a difference a month at a time, back or forth as `forward`
says, until it passes the first; the months and years counted go down as it does. -/
def stepMonths (forward : Bool) (d1 : Int) : Nat → Moment → Int → Int → Moment × Int × Int
  | 0, d2, y, m => (d2, y, m)
  | fuel + 1, d2, y, m =>
    let behind := if forward then d1 > d2.millis else d1 < d2.millis
    if !behind then (d2, y, m)
    else
      let (m, y) := if m - 1 < 0 then (11, y - 1) else (m - 1, y)
      let month := if forward then d2.month + 1 else d2.month - 1
      let (month, year) :=
        if month > 12 then (1, d2.year + 1)
        else if month < 1 then (12, d2.year - 1)
        else (month, d2.year)
      stepMonths forward d1 fuel ({ d2 with month, year, hasMillis := false } : Moment).withMillis y m

/-- The difference of two moments as `±YYYY-MM-DD HH:MM:SS.SSS`: whole years and months
counted on the calendar, then the days and time left over. -/
def timeDifference (a b : Moment) : String :=
  let d1 := a.withFields
  let d2 := b.withFields
  let later := d1.millis ≥ d2.millis
  let y := if later then d1.year - d2.year else d2.year - d1.year
  let d2 := if y != 0 then ({ d2 with year := d1.year, hasMillis := false } : Moment).withMillis else d2
  let m := if later then d1.month - d2.month else d2.month - d1.month
  let (y, m) := if m < 0 then (y - 1, m + 12) else (y, m)
  let d2 := if m != 0 then ({ d2 with month := d1.month, hasMillis := false } : Moment).withMillis else d2
  let (d2, y, m) := stepMonths (!later) d1.millis 24 d2 y m
  let span := if later then d1.millis - d2.millis else d2.millis - d1.millis
  let r := ({ millis := span + 148699540800000, hasMillis := true } : Moment).withFields
  printfText "%c%04d-%02d-%02d %02d:%02d:%06.3f"
    [.text (if later then "+" else "-"), .integer y, .integer m, .integer (r.day - 1),
     .integer r.hour, .integer r.minute, .real r.second]

/-- The names of the date and time functions. -/
def calendarFunctions : List String :=
  ["date", "time", "datetime", "julianday", "unixepoch", "strftime", "timediff",
   "current_date", "current_time", "current_timestamp"]

/-- Calls a date and time function. `pureUse` names the place when only deterministic values
may be computed there, where reading the clock is an error. -/
def calendarCall (name : String) (args : List Value) (pureUse : Option String) :
    Except String Value := do
  let ban := pureUse.map fun place => "non-deterministic use of " ++ name ++ "() in " ++ place
  let text (f : Moment → String) (m : Option Moment) : Value := match m with
    | some p => .text (f p)
    | none => .null
  match name with
  | "date" => return text Moment.dateText (← momentOf ban args)
  | "time" => return text Moment.clockText (← momentOf ban args)
  | "datetime" => return text (fun p => p.dateText ++ " " ++ p.clockText) (← momentOf ban args)
  | "julianday" =>
    return match ← momentOf ban args with
      | some p => .real (realOf p.millis / 86400000.0)
      | none => .null
  | "unixepoch" =>
    return match ← momentOf ban args with
      | some p =>
        if p.subsecond then .real (realOf (p.millis - 210866760000000) / 1000.0)
        else .integer (p.millis.tdiv 1000 - 210866760000)
      | none => .null
  | "strftime" =>
    match args with
    | [] => return .null
    | f :: rest =>
      match f.text? with
      | none => return .null
      | some format =>
        match ← momentOf ban rest with
        | none => return .null
        | some p =>
          match p.withFields.formatWith format.toList "" with
          | some s => return .text s
          | none => return .null
  | "timediff" =>
    match args with
    | [a, b] =>
      match ← momentOf ban [a], ← momentOf ban [b] with
      | some x, some y => return .text (timeDifference x y)
      | _, _ => return .null
    | _ => return .null
  | "current_date" => return .text clockMoment.dateText
  | "current_time" => return .text clockMoment.clockText
  | "current_timestamp" => return .text (clockMoment.dateText ++ " " ++ clockMoment.clockText)
  | _ => return .null

end EnergyModel.Sql
