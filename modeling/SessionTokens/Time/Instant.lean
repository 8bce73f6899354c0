import SessionTokens.Time.Duration
/-!
# Instants

The clock and the expiry of an entry are instants: nanoseconds since the first second of 1970, in
a range of some 262 000 years to either side. Whole seconds and milliseconds of an instant are
rounded down, also before 1970.

* `nanos_of_after?`: **an instant that `after?` gives lies exactly the duration later**.
-/

namespace SessionTokens

/-- A moment, in nanoseconds since 1970-01-01T00:00:00Z. -/
structure Instant where
  nanos : Int
deriving DecidableEq

namespace Instant

/-- The first instant that can be written: the start of year −262143. -/
def earliest : Instant := ⟨-8334601228800000000000⟩

/-- The last instant that can be written: the end of year 262142. -/
def latest : Instant := ⟨8210266876799999999999⟩

/-- Whether an instant lies in the range that can be written. -/
def inRange (t : Instant) : Bool := earliest.nanos ≤ t.nanos && t.nanos ≤ latest.nanos

/-- The instant of a count of milliseconds. -/
def ofMillis (ms : Int) : Instant := ⟨ms * 1000000⟩

/-- The instant of a count of milliseconds, if it is in range. -/
def ofMillis? (ms : Int) : Option Instant :=
  if (ofMillis ms).inRange then some (ofMillis ms) else none

/-- Whole milliseconds, rounded down. -/
def millis (t : Instant) : Int := t.nanos / 1000000

/-- Whole seconds, rounded down. -/
def seconds (t : Instant) : Int := t.nanos / 1000000000

/-- The longest time to live: 2⁶³ − 1 milliseconds. -/
def longestTtl : Nat := 9223372036854775807 * 1000000

/-- The instant a time to live later, if the time to live is not too long and the instant is in
range. -/
def after? (now : Instant) (ttl : Duration) : Option Instant :=
  if ttl.nanos ≤ longestTtl && inRange ⟨now.nanos + ttl.nanos⟩ then
    some ⟨now.nanos + ttl.nanos⟩
  else none

theorem nanos_of_after? {now t : Instant} {ttl : Duration} (h : now.after? ttl = some t) :
    t.nanos = now.nanos + ttl.nanos := by
  unfold after? at h
  split at h
  · cases h; rfl
  · cases h

end Instant

end SessionTokens
