import SessionTokens.Store.KeyMap
import SessionTokens.Store.Range
import SessionTokens.Time.Instant
/-!
# Entries

An entry is a value with an optional expiry. From the instant of its expiry on it is dead: no
operation sees it, although it may stay in memory until the next sweep.

* `value?_live`, `within_live`: **reading sees the same whether dead entries are kept or not**.
-/

namespace SessionTokens

/-- A value and the instant at which it lapses, if it does. -/
structure Entry where
  value : Bytes
  expiry : Option Instant
deriving DecidableEq

/-- Whether an entry has not lapsed yet. -/
def Entry.isLive (now : Instant) (e : Entry) : Bool :=
  match e.expiry with
  | none => true
  | some t => now.nanos < t.nanos

/-- Entries under their keys. -/
abbrev Entries := KeyMap Entry

namespace Entries

/-- The live entries. -/
def live (es : Entries) (now : Instant) : Entries := es.filter fun _ e => e.isLive now

/-- The value of the live entry under a key. -/
def value? (es : Entries) (now : Instant) (key : Bytes) : Option Bytes :=
  ((es.find? key).filter (Entry.isLive now)).map (·.value)

/-- The live entries of a range, in ascending order of their keys. -/
def within (es : Entries) (now : Instant) (b : Bounds) : KeyMap Bytes :=
  ((es.live now).filter fun k _ => b.contains k).map (·.value)

theorem live_live (es : Entries) (now : Instant) : (es.live now).live now = es.live now :=
  KeyMap.ext_find? fun k => by
    rw [live, KeyMap.find?_filter, live, KeyMap.find?_filter, Option.filter_filter]
    simp

theorem value?_live (es : Entries) (now : Instant) (key : Bytes) :
    (es.live now).value? now key = es.value? now key := by
  rw [value?, live, KeyMap.find?_filter, Option.filter_filter]
  simp [value?]

theorem within_live (es : Entries) (now : Instant) (b : Bounds) :
    (es.live now).within now b = es.within now b := by
  rw [within, live_live, within]

end Entries

end SessionTokens
