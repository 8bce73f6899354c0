import SessionTokens.Halt
import SessionTokens.Time.Instant
/-!
# The clock

The clock may be set to any moment, but the calendar does not begin before 1970 for it and ends with
the last instant that can be written. An operation that asks for the instant of a clock outside of
that is broken off; one that does not ask goes on.

* `read_eq_ok_iff`: **a clock is read exactly if it stands within the calendar**.
* `second_of_read`: where the instant can be told, so can its second.
-/

namespace SessionTokens

/-- A clock: the nanoseconds since 1970-01-01T00:00:00Z that it shows. -/
structure Clock where
  nanos : Int
deriving DecidableEq

namespace Clock

/-- The clock that shows a count of milliseconds. -/
def ofMillis (ms : Int) : Clock := ⟨ms * 1000000⟩

/-- The instant that a clock shows. -/
def read (c : Clock) : Except Abort Instant :=
  if 0 ≤ c.nanos ∧ c.nanos ≤ Instant.latest.nanos then .ok ⟨c.nanos⟩ else .error .clock

/-- The whole seconds since 1970 that a clock shows, which may lie beyond the calendar. -/
def second (c : Clock) : Except Abort Int :=
  if 0 ≤ c.nanos then .ok (Instant.seconds ⟨c.nanos⟩) else .error .clock

theorem read_eq_ok_iff {c : Clock} {t : Instant} :
    c.read = .ok t ↔ t.nanos = c.nanos ∧ 0 ≤ t.nanos ∧ t.nanos ≤ Instant.latest.nanos := by
  obtain ⟨n⟩ := t
  unfold read
  split <;> simp <;> omega

/-- A clock that can be read shows its own nanoseconds. -/
theorem eq_of_read {c : Clock} {t : Instant} (h : c.read = .ok t) : t = ⟨c.nanos⟩ :=
  congrArg Instant.mk (read_eq_ok_iff.1 h).1

theorem second_of_read {c : Clock} {t : Instant} (h : c.read = .ok t) :
    c.second = .ok t.seconds := by
  obtain ⟨ht, h0, _⟩ := read_eq_ok_iff.1 h
  obtain ⟨n⟩ := t
  obtain rfl : n = c.nanos := ht
  simpa [second] using h0

end Clock

end SessionTokens
