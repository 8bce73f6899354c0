import SessionTokens.Store.Error
import SessionTokens.Text.Utf8
/-!
# Size limits

The largest key and the largest value that a store accepts, in bytes. Both are at least one.
Limits are checked when an entry is committed; a key is checked before its value.

* `check_eq_ok_iff`: **an entry passes exactly if both parts are within their limits**.
-/

namespace SessionTokens

/-- The largest sizes of keys and values. -/
structure Limits where
  key : Nat
  value : Nat
  key_pos : 0 < key
  value_pos : 0 < value
deriving DecidableEq

namespace Limits

/-- The usual limits: a key of 1 KiB and a value of 64 KiB. -/
def default : Limits := ⟨1024, 65536, by decide, by decide⟩

/-- A limit that is zero. -/
inductive Fault
  | zeroKey
  | zeroValue
deriving DecidableEq, Repr

/-- The wording of a limit that is zero. -/
def Fault.message : Fault → String
  | zeroKey => "max_key_size must be at least 1, got 0"
  | zeroValue => "max_value_size must be at least 1, got 0"

/-- The limits of given sizes. -/
def of (key value : Nat) : Except Fault Limits :=
  if hk : 0 < key then
    if hv : 0 < value then .ok ⟨key, value, hk, hv⟩ else .error .zeroValue
  else .error .zeroKey

/-- Checks one part of an entry. -/
def checkPart (part : Part) (size limit : Nat) : Except StorageError Unit :=
  if limit < size then .error (.tooLarge part size limit) else .ok ()

/-- Checks the size of a key. -/
def checkKeySize (l : Limits) (key : Nat) : Except StorageError Unit := checkPart .key key l.key

/-- Checks the sizes of a key and its value. -/
def checkSizes (l : Limits) (key value : Nat) : Except StorageError Unit := do
  l.checkKeySize key
  checkPart .value value l.value

/-- Checks a key and its value. -/
def check (l : Limits) (key value : Bytes) : Except StorageError Unit :=
  l.checkSizes key.length value.length

theorem checkPart_eq_ok_iff {part : Part} {size limit : Nat} :
    checkPart part size limit = .ok () ↔ size ≤ limit := by
  unfold checkPart
  split <;> simp <;> omega

theorem checkSizes_eq_ok_iff {l : Limits} {key value : Nat} :
    l.checkSizes key value = .ok () ↔ key ≤ l.key ∧ value ≤ l.value := by
  have hk : l.checkKeySize key = .ok () ↔ key ≤ l.key := checkPart_eq_ok_iff
  unfold checkSizes
  cases h : l.checkKeySize key with
  | error e =>
    simp only [bind, Except.bind, reduceCtorEq, false_iff, not_and]
    intro hle
    rw [hk.2 hle] at h
    cases h
  | ok u => simp only [bind, Except.bind, checkPart_eq_ok_iff, hk.1 h, true_and]

theorem check_eq_ok_iff {l : Limits} {key value : Bytes} :
    l.check key value = .ok () ↔ key.length ≤ l.key ∧ value.length ≤ l.value :=
  checkSizes_eq_ok_iff

end Limits

end SessionTokens
