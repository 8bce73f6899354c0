import SessionTokens.Text.Decimal
/-!
# Durations

A duration is a whole number of nanoseconds below 2⁶⁴ seconds. Time to live, token lifetimes and
their limits are durations.
-/

namespace SessionTokens

/-- The nanoseconds of a second. -/
def nanosPerSecond : Nat := 1000000000

/-- A span of time below 2⁶⁴ seconds, counted in nanoseconds. -/
structure Duration where
  nanos : Nat
  bounded : nanos < Nat.pow 2 64 * 1000000000
deriving DecidableEq

namespace Duration

/-- A duration of so many nanoseconds, if there are durations so long. -/
def ofNanos? (n : Nat) : Option Duration :=
  if h : n < Nat.pow 2 64 * 1000000000 then some ⟨n, h⟩ else none

/-- The whole seconds of a duration. -/
def seconds (d : Duration) : Nat := d.nanos / nanosPerSecond

/-- The nanoseconds beyond the whole seconds. -/
def subNanos (d : Duration) : Nat := d.nanos % nanosPerSecond

@[simp]
theorem ofNanos?_nanos (d : Duration) : ofNanos? d.nanos = some d :=
  dif_pos d.bounded

/-- The digits behind the point: a part out of `10 ^ width`, without zeros at the end, and the
point only if a digit is left. -/
def fractionText (width part : Nat) : String :=
  let kept := ((Text.paddedDigits width part).reverse.dropWhile (· == 0x30)).reverse
  if kept.isEmpty then "" else "." ++ Text.ascii kept

/-- A duration as it stands in messages: in the largest of seconds, milli-, micro- and
nanoseconds whose whole part is not zero, with as many places as it needs. -/
def shown (d : Duration) : String :=
  let n := d.nanos
  if 1000000000 ≤ n then
    Text.digitsText (n / 1000000000) ++ fractionText 9 (n % 1000000000) ++ "s"
  else if 1000000 ≤ n then
    Text.digitsText (n / 1000000) ++ fractionText 6 (n % 1000000) ++ "ms"
  else if 1000 ≤ n then
    Text.digitsText (n / 1000) ++ fractionText 3 (n % 1000) ++ "µs"
  else Text.digitsText n ++ "ns"

end Duration

end SessionTokens
