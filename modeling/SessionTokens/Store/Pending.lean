import SessionTokens.Store.Entry
import SessionTokens.Store.Limits
/-!
# Buffered writes

A transaction buffers its writes and applies them together. Of several writes to one key the last
one counts, so the buffer is a map from keys to writes.

**Reading ahead.** A transaction sees its own buffered writes over the committed entries. A
buffered value is seen whatever its time to live.

**Settling.** When the writes are applied, each value is checked against the size limits and its
time to live turned into an expiry. If one of them fails, none is applied.
-/

namespace SessionTokens

/-- A write to one key. -/
inductive Write
  | put (value : Bytes) (ttl : Option Duration)
  | delete
deriving DecidableEq

/-- What a key holds after a write. -/
def Write.value? : Write → Option Bytes
  | put value _ => some value
  | delete => none

/-- Buffered writes under their keys. -/
abbrev Pending := KeyMap Write

namespace Pending

/-! ## Reading ahead -/

/-- The value that a transaction sees under a key. -/
def value? (p : Pending) (es : Entries) (now : Instant) (key : Bytes) : Option Bytes :=
  match p.find? key with
  | some w => w.value?
  | none => es.value? now key

/-- The values that a transaction sees under the keys that begin with a byte string. -/
def beginning (p : Pending) (es : Entries) (now : Instant) (start : Bytes) : KeyMap Bytes :=
  (p.filter fun k _ => (Bounds.ofPrefix start).contains k).pairs.foldl
    (fun m w => m.alter w.1 w.2.value?) (es.within now (Bounds.ofPrefix start))

/-! ## Settling -/

/-- The instant at which a time to live ends. -/
def expiryAfter (now : Instant) (ttl : Duration) : Except StorageError Instant :=
  match now.after? ttl with
  | some t => .ok t
  | none => .error (.internal (.ttl ttl) none)

/-- The entry that a write leaves under a key, or `none` if it leaves nothing. -/
def settleOne (limits : Limits) (now : Instant) (key : Bytes) :
    Write → Except StorageError (Option Entry)
  | .delete => .ok none
  | .put value none => do
    limits.check key value
    return some ⟨value, none⟩
  | .put value (some ttl) => do
    limits.check key value
    return some ⟨value, some (← expiryAfter now ttl)⟩

/-- What the writes of a list leave under their keys, or the first error among them. -/
def settleAll (limits : Limits) (now : Instant) :
    List (Bytes × Write) → Except StorageError (List (Bytes × Option Entry))
  | [] => .ok []
  | (key, w) :: rest => do
    let e ← settleOne limits now key w
    return (key, e) :: (← settleAll limits now rest)

/-- What buffered writes leave under their keys, in ascending order of the keys. -/
def settle (p : Pending) (limits : Limits) (now : Instant) :
    Except StorageError (List (Bytes × Option Entry)) :=
  settleAll limits now p.pairs

end Pending

/-- Entries with settled writes applied. -/
def Entries.apply (es : Entries) (settled : List (Bytes × Option Entry)) : Entries :=
  settled.foldl (fun es w => es.alter w.1 w.2) es

end SessionTokens
