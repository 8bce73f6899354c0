import SessionTokens.Text.Utf8
/-!
# Ranges of keys

A scan asks for the keys between two bounds. Bounds in the wrong order, and a key that is excluded
from both sides, enclose no range, and such a scan is refused.

The keys that begin with a given byte string lie in a range of their own: it starts at that string
and ends below `prefixEnd?`, the least string above all of them.

* `lt_prefixEnd?`: **the range of a byte string is not empty**, so its bounds are in order.
-/

namespace SessionTokens

/-- One end of a range. -/
inductive Bound
  | included (key : Bytes)
  | excluded (key : Bytes)
  | unbounded
deriving DecidableEq, Repr

/-- The two ends of a range. -/
structure Bounds where
  lower : Bound
  upper : Bound
deriving DecidableEq, Repr

namespace Bounds

/-- Whether a key is not below the lower end. -/
def admitsFrom (b : Bounds) (k : Bytes) : Bool :=
  match b.lower with
  | .included l => !decide (k < l)
  | .excluded l => decide (l < k)
  | .unbounded => true

/-- Whether a key is not above the upper end. -/
def admitsTo (b : Bounds) (k : Bytes) : Bool :=
  match b.upper with
  | .included u => !decide (u < k)
  | .excluded u => decide (k < u)
  | .unbounded => true

/-- Whether a key is in the range. -/
def contains (b : Bounds) (k : Bytes) : Bool := b.admitsFrom k && b.admitsTo k

/-- Whether the bounds enclose a range. -/
def isRange (b : Bounds) : Bool :=
  match b.lower, b.upper with
  | .unbounded, _ => true
  | _, .unbounded => true
  | .excluded l, .excluded u => decide (l < u)
  | .included l, .included u => !decide (u < l)
  | .included l, .excluded u => !decide (u < l)
  | .excluded l, .included u => !decide (u < l)

/-- All keys. -/
def all : Bounds := ⟨.unbounded, .unbounded⟩

/-- The least byte string above every one that begins with the given one: the last byte that is
not the largest counts one up, and what follows it is dropped. -/
def prefixEnd? : Bytes → Option Bytes
  | [] => none
  | b :: rest =>
    match prefixEnd? rest with
    | some e => some (b :: e)
    | none => if b < 0xFF then some [b + 1] else none

/-- The range of the keys that begin with a byte string. -/
def ofPrefix (start : Bytes) : Bounds :=
  ⟨.included start, match prefixEnd? start with
    | some e => .excluded e
    | none => .unbounded⟩

theorem lt_prefixEnd? {bs e : Bytes} (h : prefixEnd? bs = some e) : bs < e := by
  induction bs generalizing e with
  | nil => simp [prefixEnd?] at h
  | cons b rest ih =>
    unfold prefixEnd? at h
    split at h
    · rename_i e' he
      cases h
      exact List.cons_lt_cons_iff.2 (.inr ⟨rfl, ih he⟩)
    · split at h
      · rename_i hb
        cases h
        refine List.cons_lt_cons_iff.2 (.inl ?_)
        rw [UInt8.lt_iff_toNat_lt] at hb ⊢
        rw [UInt8.toNat_add]
        simp at hb ⊢
        omega
      · cases h

end Bounds

end SessionTokens
