import SessionTokens.Text.Blank
import SessionTokens.Time.Duration
/-!
# Lifetimes as text

Configuration files give lifetimes the way people write them: `2h`, `1day 12h`, `1.5 s`. A text is
a run of counts, each with its unit; the durations add up.

`write` splits a duration into years, months, days and so on, drops the zero parts and writes the
rest from the largest unit down. `read` accepts far more than `write` gives: any order, repeated
units, blanks between digits, decimal fractions that come out exact.
-/

namespace SessionTokens.Lifetime

/-- A unit: its names, its length in nanoseconds, the step in which whole counts add up, and the
step in which a fraction of it has to come out, if it may have one. -/
structure Unit where
  names : List String
  nanos : Nat
  step : Nat
  fractionStep? : Option Nat

/-- One second as a step. -/
def second : Nat := 1000000000

/-- The units, from the smallest to the largest. A month is a twelfth of a year of 365.25 days,
rounded to 30.44 days. -/
def units : List Unit :=
  [⟨["nanos", "nsec", "ns"], 1, 1, none⟩,
   ⟨["usec", "us", "µs"], 1000, 1, some 1⟩,
   ⟨["millis", "msec", "ms"], 1000000, 1, some 1⟩,
   ⟨["seconds", "second", "secs", "sec", "s"], second, second, some 1⟩,
   ⟨["minutes", "minute", "min", "mins", "m"], 60 * second, second, some 1⟩,
   ⟨["hours", "hour", "hrs", "hr", "h"], 3600 * second, second, some second⟩,
   ⟨["days", "day", "d"], 86400 * second, second, some second⟩,
   ⟨["weeks", "week", "wks", "wk", "w"], 604800 * second, second, some second⟩,
   ⟨["months", "month", "M"], 2630016 * second, second, some second⟩,
   ⟨["years", "year", "yrs", "yr", "y"], 31557600 * second, second, some second⟩]

/-- The unit of a given name. -/
def unit? (name : List Char) : Option Unit :=
  units.find? fun u => u.names.contains (String.ofList name)

/-! ## Writing -/

/-- A count of a unit, or nothing for zero. -/
def part (count : Nat) (name : String) : List String :=
  if count = 0 then [] else [Text.digitsText count ++ name]

/-- A count of a unit whose name takes an `s` from two on. -/
def pluralPart (count : Nat) (name : String) : List String :=
  part count (if 1 < count then name ++ "s" else name)

/-- The parts of a duration, from the largest unit down. -/
def parts (d : Duration) : List String :=
  let secs := d.seconds
  let yearSecs := secs % 31557600
  let monthSecs := yearSecs % 2630016
  let daySecs := monthSecs % 86400
  let nanos := d.subNanos
  pluralPart (secs / 31557600) "year" ++ pluralPart (yearSecs / 2630016) "month"
    ++ pluralPart (monthSecs / 86400) "day" ++ part (daySecs / 3600) "h"
    ++ part (daySecs % 3600 / 60) "m" ++ part (daySecs % 60) "s"
    ++ part (nanos / 1000000) "ms" ++ part (nanos / 1000 % 1000) "us" ++ part (nanos % 1000) "ns"

/-- A duration as text: its parts with a space between; the zero duration is `0s`. -/
def write (d : Duration) : String :=
  if d.nanos = 0 then "0s" else " ".intercalate (parts d)

/-! ## Reading -/

/-- The value of a digit. -/
def digitValue (c : Char) : Nat := c.toNat - '0'.toNat

/-- A character of a unit's name: an ASCII letter or the micro sign. -/
def isUnitChar (c : Char) : Bool := ('a' ≤ c && c ≤ 'z') || ('A' ≤ c && c ≤ 'Z') || c == 'µ'

/-- Counts and the parts of a fraction stay below 2⁶⁴. -/
def word? (n : Nat) : Option Nat := if n < Nat.pow 2 64 then some n else none

/-- The digits of a count with blanks among them, up to a unit, a point or the end. -/
def whole? (n : Nat) : List Char → Option (Nat × List Char)
  | [] => some (n, [])
  | c :: rest =>
    if c.isDigit then (word? (10 * n + digitValue c)).bind (whole? · rest)
    else if Text.isBlank c then whole? n rest
    else if isUnitChar c || c == '.' then some (n, c :: rest)
    else none

/-- The digits behind a point with blanks among them, up to a unit or the end: the fraction as
numerator and denominator. -/
def fraction? (num den : Nat) : List Char → Option ((Nat × Nat) × List Char)
  | [] => some ((num, den), [])
  | c :: rest =>
    if c.isDigit then
      (word? (10 * den)).bind fun den =>
        (word? (10 * num + digitValue c)).bind fun num => fraction? num den rest
    else if Text.isBlank c then fraction? num den rest
    else if isUnitChar c then some ((num, den), c :: rest)
    else none

/-- Why a text is no lifetime: it does not say one, or its parts add up to just the first duration
that is too long by the carry of their nanoseconds. -/
inductive Fault
  | malformed
  | overflow
deriving DecidableEq, Repr

/-- A value, or the fault of a text that does not give it. -/
def orMalformed {α : Type} : Option α → Except Fault α
  | some a => .ok a
  | none => .error .malformed

/-- A sum grown by a count of steps, if all stays below the limits. -/
def grow (sum count step : Nat) : Except Fault Nat := do
  let count ← orMalformed (word? count)
  let nanos := sum % second + count
  if step = 1 then
    let _ ← orMalformed (word? nanos)
  let grown := sum + count * step
  if grown < Nat.pow 2 64 * second then return grown
  else if step = 1 && nanos = second then throw .overflow
  else throw .malformed

/-- A sum grown by a count of a unit with an optional fraction. -/
def addUnit (sum count : Nat) (fraction : Option (Nat × Nat)) (u : Unit) : Except Fault Nat := do
  let sum ← grow sum (count * (u.nanos / u.step)) u.step
  match fraction with
  | none => return sum
  | some (num, den) =>
    let step ← orMalformed u.fractionStep?
    let scaled ← orMalformed (word? (num * (u.nanos / step)))
    if scaled % den = 0 then grow sum (scaled / den) step else throw .malformed

/-- A fraction if a point comes next; at least one digit has to follow the point. -/
def pointed? : List Char → Option (Option (Nat × Nat) × List Char)
  | '.' :: rest =>
    match fraction? 0 1 rest with
    | some ((num, den), rest) => if den = 1 then none else some (some (num, den), rest)
    | none => none
  | cs => some (none, cs)

/-- One count with its unit: the grown sum and the rest of the text. -/
def item (sum : Nat) (cs : List Char) : Except Fault (Nat × List Char) := do
  let (count, cs) ← orMalformed (whole? 0 cs)
  let (fraction, cs) ← orMalformed (pointed? cs)
  let u ← orMalformed (unit? (cs.takeWhile isUnitChar))
  let sum ← addUnit sum count fraction u
  return (sum, Text.trimStart (cs.dropWhile isUnitChar))

/-- Counts with their units to the end of the text, each of which begins with a digit. The first
argument bounds the number of items; the length of the text is enough. -/
def items : Nat → Nat → List Char → Except Fault Nat
  | 0, _, _ => .error .malformed
  | n + 1, sum, cs =>
    match cs with
    | [] => .error .malformed
    | c :: _ =>
      if c.isDigit then
        match item sum cs with
        | .error fault => .error fault
        | .ok (sum, []) => .ok sum
        | .ok (sum, rest) => items n sum rest
      else .error .malformed

/-- Reads a lifetime. A lone `0` needs no unit. -/
def read (s : String) : Except Fault Duration :=
  let cs := s.toList
  let nanos := if cs = ['0'] then .ok 0 else items (cs.length + 1) 0 (Text.trimStart cs)
  nanos.bind fun n => orMalformed (Duration.ofNanos? n)

end SessionTokens.Lifetime
