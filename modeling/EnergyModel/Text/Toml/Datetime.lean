/-!
# Dates and times in settings documents

A date-time value is a date `YYYY-MM-DD`, a time `HH:MM` with optional seconds `:SS` and a
fraction after the seconds, or a date and a time joined by `T`, `t` or a space, perhaps with an
offset: `Z`, `z` or a signed `HH:MM`.

`Datetime.check` says whether a text is such a value, and if not, what is wrong: the first thing
that does not fit, read from the left. Parts must have their full number of digits (four for the
year, two for all others) and lie in their ranges: months 01 to 12, days up to the length of the
month (February has 29 days in leap years), hours 00 to 23, minutes 00 to 59 and seconds 00 to
60. A problem names what it was reading (a date, a time, a date-time or an offset) and what it
expected there, as in "invalid date, expected day between 01 and 29".
-/

namespace EnergyModel.Toml.Datetime

/-- A piece of a date-time text. -/
inductive Piece where
  | digits (text : String)
  | dash
  | colon
  | dot
  | separator
  | space
  | zulu
  | plus
  | other
  deriving BEq, Inhabited

/-- The pieces of a date-time text: runs of digits, and single signs. -/
def pieces : List Char → List Piece
  | [] => []
  | c :: rest =>
    if c.isDigit then
      .digits (String.ofList (c :: rest.takeWhile Char.isDigit)) :: pieces (rest.dropWhile Char.isDigit)
    else
      let p : Piece :=
        if c == '-' then .dash else if c == ':' then .colon else if c == '.' then .dot
        else if c == 'T' || c == 't' then .separator else if c == ' ' then .space
        else if c == 'Z' || c == 'z' then .zulu else if c == '+' then .plus else .other
      p :: pieces rest
termination_by cs => cs.length
decreasing_by
  all_goals simp only [List.length_cons]
  all_goals
    have := (@List.dropWhile_suffix _ rest Char.isDigit).length_le
    omega

/-- What is wrong with a date-time text: what was being read, and what was expected. -/
structure Problem where
  what : Option String
  expected : Option String
  deriving BEq, Inhabited

/-- The message of a problem. -/
def Problem.message (p : Problem) : String :=
  match p.what, p.expected with
  | some w, some e => "invalid " ++ w ++ ", expected " ++ e
  | some w, none => "invalid " ++ w
  | none, some e => "invalid datetime, expected " ++ e
  | none, none => "invalid datetime"

/-- A problem while reading a part. -/
def fault (what expected : String) : Problem := ⟨some what, some expected⟩

/-- The digits at the front, or the problem of their absence. -/
def takeDigits (what expected : String) : List Piece → Except Problem (String × List Piece)
  | .digits d :: rest => .ok (d, rest)
  | _ => .error (fault what expected)

/-- A piece that must come next. -/
def takePiece (p : Piece) (what expected : String) : List Piece → Except Problem (List Piece)
  | q :: rest => if q == p then .ok rest else .error (fault what expected)
  | [] => .error (fault what expected)

/-- The number a run of digits spells. -/
def valueOf (d : String) : Nat := d.toList.foldl (fun n c => 10 * n + (c.toNat - '0'.toNat)) 0

/-- Whether a year is a leap year. -/
def isLeap (year : Nat) : Bool := year % 4 == 0 && (year % 100 != 0 || year % 400 == 0)

/-- Reads a time: hours and minutes, then perhaps seconds and a fraction of them. Gives the
pieces after it. -/
def time (ps : List Piece) : Except Problem (List Piece) := do
  let (hour, rest) ← takeDigits "time" "hour" ps
  let rest ← takePiece .colon "time" "`:` (HH:MM)" rest
  let (minute, rest) ← takeDigits "time" "minute" rest
  let (second, rest) ← match rest with
    | .colon :: more => do
      let (s, more) ← takeDigits "time" "second" more
      pure (some s, more)
    | _ => pure (none, rest)
  let rest ← match second, rest with
    | some _, .dot :: more => do
      let (_, more) ← takeDigits "time" "nanosecond" more
      pure more
    | _, _ => pure rest
  if hour.length != 2 then throw (fault "time" "a two-digit hour (HH)")
  if minute.length != 2 then throw (fault "time" "a two-digit minute (MM)")
  if (second.map String.length).any (· != 2) then throw (fault "time" "a two-digit second (SS)")
  if valueOf hour > 23 then throw (fault "time" "hour between 00 and 23")
  if valueOf minute > 59 then throw (fault "time" "minute between 00 and 59")
  if (second.map valueOf).any (· > 60) then throw (fault "time" "second between 00 and 60")
  pure rest

/-- Reads the offset after a date and a time, and checks that nothing follows. -/
def offset (ps : List Piece) : Except Problem Unit :=
  match ps with
  | [] => .ok ()
  | .zulu :: rest => if rest.isEmpty then .ok () else .error ⟨none, none⟩
  | sign :: rest =>
    if sign == .plus || sign == .dash then do
      let (hours, rest) ← takeDigits "offset" "hour" rest
      let rest ← takePiece .colon "offset" "`:` (HH:MM)" rest
      let (minutes, rest) ← takeDigits "offset" "minute" rest
      if hours.length != 2 then throw (fault "offset" "a two-digit hour (HH)")
      if minutes.length != 2 then throw (fault "offset" "a two-digit minute (MM)")
      if valueOf hours > 23 then throw (fault "offset" "hours between 00 and 23")
      if valueOf minutes > 59 then throw (fault "offset" "minutes between 00 and 59")
      if !rest.isEmpty then throw ⟨none, none⟩
    else .error (fault "offset" "`Z`, +OFFSET, -OFFSET")

/-- The longest day of a month. -/
def monthLength (year month : Nat) : Nat :=
  if month == 2 then (if isLeap year then 29 else 28)
  else if month == 4 || month == 6 || month == 9 || month == 11 then 30
  else 31

/-- Reads a date after its year, then the time and offset that may follow. -/
def date (year : String) (ps : List Piece) : Except Problem Unit := do
  let (month, rest) ← takeDigits "date" "month" ps
  let rest ← takePiece .dash "date" "`-` (MM-DD)" rest
  let (day, rest) ← takeDigits "date" "day" rest
  if year.length != 4 then throw (fault "date" "a four-digit year (YYYY)")
  if month.length != 2 then throw (fault "date" "a two-digit month (MM)")
  if day.length != 2 then throw (fault "date" "a two-digit day (DD)")
  let m := valueOf month
  if m < 1 || m > 12 then throw (fault "date" "month between 01 and 12")
  let longest := monthLength (valueOf year) m
  if valueOf day < 1 || valueOf day > longest then
    throw (fault "date" ("day between 01 and " ++ toString longest))
  match rest with
  | [] => pure ()
  | p :: more =>
    if p == .separator || p == .space then do
      let more ← time more
      offset more
    else throw (fault "date-time" "`T` between date and time")

/-- Checks a date-time text. -/
def check (text : String) : Except Problem Unit :=
  match pieces text.toList with
  | .digits first :: rest =>
    match rest with
    | .dash :: more => date first more
    | .colon :: _ => do
      let more ← time (.digits first :: rest)
      if !more.isEmpty then throw ⟨none, none⟩
    | _ => .error ⟨none, some "`-` (YYYY-MM) or `:` (HH:MM)"⟩
  | _ => .error ⟨none, some "year or hour"⟩

end EnergyModel.Toml.Datetime
