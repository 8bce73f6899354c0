import SessionTokens.Store.Basic
import SessionTokens.Trace
/-!
# Sweeping

Dead entries are hidden from every operation, but they stay in memory until a sweep drops them.

**The sweeper.** It works in intervals. An interval in which the sweeper still has to be started
does only that; each later one ends with a sweep, until the store is closed. A sweeper is also
started when something else pauses. One that cannot read the clock is broken off for good.
-/

namespace SessionTokens.Store

/-- The store without its dead entries, unless it is closed. -/
def sweep (s : Store) (now : Instant) : Store :=
  if s.isClosed then s else { s with entries := s.entries.live now }

/-- The number of entries that a sweep drops. -/
def swept (s : Store) (now : Instant) : Nat := s.entries.size - (s.sweep now).entries.size

/-- The store with its sweeper started. -/
def startSweeper (s : Store) : Store :=
  if s.sweeper = .waiting then { s with sweeper := .working } else s

/-- The store at the end of an interval, and what the sweeper reports. -/
def tick (s : Store) (clock : Clock) : Store × List Event :=
  match s.sweeper, clock.read with
  | .waiting, _ => (s.startSweeper, [])
  | .broken, _ => (s, [])
  | .working, .error _ => ({ s with sweeper := .broken }, [])
  | .working, .ok now =>
    let removed := s.swept now
    (s.sweep now,
      if removed = 0 then []
      else [.noted .debug "swept expired entries" [("removed", .count removed)]])

/-- A sweeper leaves the writer's turn as it was. -/
theorem phase_tick (s : Store) (clock : Clock) : (s.tick clock).1.phase = s.phase := by
  unfold tick
  split
  · unfold startSweeper
    split <;> rfl
  · rfl
  · rfl
  · dsimp only [sweep]
    split <;> rfl

theorem readingTime_of_isClosed {s : Store} (h : s.isClosed = true) (clock : Clock) :
    s.readingTime clock = .error (.failed .closed) := by
  simp only [readingTime, ensureOpen, h]
  rfl

theorem readingTime_of_read {s : Store} {clock : Clock} {now : Instant} (h : s.isClosed = false)
    (hc : clock.read = .ok now) : s.readingTime clock = .ok now := by
  simp only [readingTime, ensureOpen, h, hc]
  rfl

theorem readingTime_eq_ok {s : Store} {clock : Clock} {now : Instant}
    (h : s.readingTime clock = .ok now) : s.isClosed = false ∧ clock.read = .ok now := by
  unfold readingTime ensureOpen at h
  cases hclosed : s.isClosed with
  | true => simp [hclosed, Halt.ofError, bind, Except.bind] at h
  | false => exact ⟨rfl, by simpa [hclosed, bind, Except.bind, Halt.ofAbort_eq_ok] using h⟩

end SessionTokens.Store
