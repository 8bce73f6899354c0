import SessionTokens.Text.Blank
import SessionTokens.Time.Calendar
import SessionTokens.Time.Instant
/-!
# Timestamps

A session record says when it was created, as calendar text of RFC 3339 in UTC. A timestamp can
stand in a leap second: it then has the second before and a whole second of nanoseconds or more.
Any second can have so many, but only the sixtieth of a minute is written as a leap second. On any
other second they read as the second after it.

`write` gives one spelling; `read?` accepts more: blanks around the numbers, one digit where two
are usual, other offsets than UTC, any number of fraction digits.
-/

namespace SessionTokens

/-- A moment of the calendar: whole seconds since 1970 and nanoseconds on top of them. A thousand
million of them or more stand for a leap second after the second. -/
structure Timestamp where
  seconds : Int
  nanos : Nat
deriving DecidableEq, Repr

namespace Timestamp

/-- The timestamp of an instant. -/
def ofInstant (t : Instant) : Timestamp :=
  ⟨t.nanos / 1000000000, (t.nanos % 1000000000).toNat⟩

/-- Whether the first timestamp is before the second. -/
def before (a b : Timestamp) : Bool :=
  a.seconds < b.seconds || (a.seconds == b.seconds && a.nanos < b.nanos)

/-- The seconds of a day. -/
def daySeconds : Int := 86400

/-- The seconds that a timestamp can have: the first second of year −262143 up to the last of
year 262142. -/
def inRange (seconds : Int) : Bool := -8334601228800 ≤ seconds && seconds ≤ 8210266876799

/-! ## Writing -/

/-- A number with zeros in front up to a width. -/
def padded (width n : Nat) : List Char := Text.asciiChars (Text.paddedDigits width n)

/-- A year: four digits, and a sign where it has more or is negative. -/
def yearText (year : Int) : List Char :=
  if 0 ≤ year && year ≤ 9999 then padded 4 year.natAbs
  else (if year < 0 then '-' else '+') :: padded 4 year.natAbs

/-- The fraction of a second with the fewest of 0, 3, 6 or 9 digits that hold it. -/
def fractionText (nanos : Nat) : List Char :=
  if nanos = 0 then []
  else if nanos % 1000000 = 0 then '.' :: padded 3 (nanos / 1000000)
  else if nanos % 1000 = 0 then '.' :: padded 6 (nanos / 1000)
  else '.' :: padded 9 nanos

/-- The written form, in UTC. -/
def write (t : Timestamp) : String :=
  let date := Calendar.ofDayNumber (t.seconds / daySeconds)
  let ofDay := (t.seconds % daySeconds).toNat
  let leap := t.nanos / 1000000000
  String.ofList <|
    yearText date.year ++ '-' :: padded 2 date.month ++ '-' :: padded 2 date.day
      ++ 'T' :: padded 2 (ofDay / 3600) ++ ':' :: padded 2 (ofDay / 60 % 60)
      ++ ':' :: padded 2 (ofDay % 60 + leap) ++ fractionText (t.nanos % 1000000000) ++ ['Z']

/-! ## Reading -/

/-- The number that digits denote. -/
def ofDigits (cs : List Char) : Nat := cs.foldl (fun n c => 10 * n + (c.toNat - 48)) 0

/-- The leading digits, one at least and not more than `most`, and the rest. -/
def number? (most : Nat) (cs : List Char) : Option (Nat × List Char) :=
  match (cs.take most).takeWhile Char.isDigit with
  | [] => none
  | ds => some (ofDigits ds, cs.drop ds.length)

/-- A number of one or two digits after blanks. -/
def field? (cs : List Char) : Option (Nat × List Char) := number? 2 (Text.trimStart cs)

/-- A year after blanks: up to four digits, or any number of them after a sign. -/
def year? (cs : List Char) : Option (Int × List Char) :=
  match Text.trimStart cs with
  | '-' :: rest => (number? rest.length rest).map fun p => (-(p.1 : Int), p.2)
  | '+' :: rest => (number? rest.length rest).map fun p => ((p.1 : Int), p.2)
  | rest => (number? 4 rest).map fun p => ((p.1 : Int), p.2)

/-- The rest after blanks and a given character. -/
def after? (c : Char) (cs : List Char) : Option (List Char) :=
  match Text.trimStart cs with
  | d :: rest => if d = c then some rest else none
  | [] => none

/-- The nanoseconds of a fraction, of which nine digits count and the others are skipped. -/
def fraction? : List Char → Option (Nat × List Char)
  | '.' :: rest =>
    match number? 9 rest with
    | none => none
    | some (n, _) =>
      let width := ((rest.take 9).takeWhile Char.isDigit).length
      some (n * Nat.pow 10 (9 - width), rest.dropWhile Char.isDigit)
  | cs => some (0, cs)

/-- The two digits of an offset's hours or minutes. -/
def twoDigits? : List Char → Option (Nat × List Char)
  | a :: b :: rest => if a.isDigit && b.isDigit then some (ofDigits [a, b], rest) else none
  | _ => none

/-- The offset from UTC in seconds: `Z`, `UTC`, or a sign with hours and minutes. -/
def offset? (cs : List Char) : Option (Int × List Char) :=
  match cs with
  | [] => none
  | c :: rest =>
    if (cs.take 3).map Char.toUpper = ['U', 'T', 'C'] then some (0, cs.drop 3)
    else if c = 'Z' || c = 'z' then some (0, rest)
    else if c = '+' || c = '-' || c = '\u2212' then do
      let (hours, rest) ← twoDigits? rest
      let rest := rest.dropWhile fun d => d = ':' || Text.isBlank d
      let (minutes, rest) ← twoDigits? rest
      let seconds : Int := hours * 3600 + minutes * 60
      if 60 ≤ minutes || daySeconds ≤ seconds then none
      else some (if c = '+' then seconds else -seconds, rest)
    else none

/-- The timestamp of a date, a time of day and an offset, if all exist. -/
def assemble? (date : Calendar.Date) (hour minute second nanos : Nat) (offset : Int) :
    Option Timestamp :=
  if date.isValid && hour ≤ 23 && minute ≤ 59 && second ≤ 60 then
    let leap := second / 60
    let clock : Int :=
      Calendar.dayNumber date * daySeconds + hour * 3600 + minute * 60 + second - leap
    if inRange clock && inRange (clock - offset) then
      some ⟨clock - offset, nanos + leap * 1000000000⟩
    else none
  else none

/-- Reads a timestamp. -/
def read? (s : String) : Option Timestamp := do
  let (year, cs) ← year? s.toList
  let (month, cs) ← field? (← after? '-' cs)
  let (day, cs) ← field? (← after? '-' cs)
  let cs ← match cs with
    | c :: rest => if c = 'T' || c = 't' || c = ' ' then some rest else none
    | [] => none
  let (hour, cs) ← field? cs
  let (minute, cs) ← field? (← after? ':' cs)
  let (second, cs) ← field? (← after? ':' cs)
  let (nanos, cs) ← fraction? cs
  let (offset, cs) ← offset? (Text.trimStart cs)
  if (Text.trimStart cs).isEmpty then
    assemble? ⟨year, month, day⟩ hour minute second nanos offset
  else none

end Timestamp

end SessionTokens
