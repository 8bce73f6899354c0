import Mathlib.Tactic.Common
import SessionTokens.Base64
/-!
# Base64 has one spelling

**Theorem (`decode?_eq_some_iff`).** A text is read as bytes exactly if it is what these bytes are
written as. So reading is strict: foreign symbols, wrong padding and bits that are left over are
refused, whatever the length.

The proof follows the reader. A symbol that is read is the one that is written for its value, so
each group of symbols is the one that is written for the bytes it is read as.
-/

namespace SessionTokens.Base64

variable {a : Base64}

/-- A symbol that is read is the one that is written for its value. -/
theorem eq_symbol_of_value? {b : UInt8} {n : Nat} (h : a.value? b = some n) :
    n < 64 ∧ b = a.symbol n := by
  have hall : ∀ k < 256, (a.value? (UInt8.ofNat k)).all
      (fun n => decide (n < 64) && UInt8.ofNat k == a.symbol n) = true := by
    cases a <;> decide +kernel
  have hb := hall b.toNat b.toNat_lt
  rw [UInt8.ofNat_toNat, h] at hb
  simpa using hb

theorem toNat_ofNat_lt {n : Nat} (h : n < 256) : (UInt8.ofNat n).toNat = n :=
  UInt8.toNat_ofNat_of_lt' h

/-! ## Last groups -/

theorem lastTwo?_eq_some {p q : UInt8} {bs : Bytes} (h : a.lastTwo? p q = some bs) :
    ∃ x : UInt8, bs = [x] ∧ p = a.symbol (x.toNat / 4) ∧ q = a.symbol (x.toNat % 4 * 16) := by
  unfold lastTwo? at h
  split at h
  · next m n hp hq =>
    obtain ⟨hm, rfl⟩ := eq_symbol_of_value? hp
    obtain ⟨hn, rfl⟩ := eq_symbol_of_value? hq
    split at h
    · next hrest =>
      cases h
      have hx : (UInt8.ofNat (m * 4 + n / 16)).toNat = m * 4 + n / 16 :=
        toNat_ofNat_lt (by omega)
      refine ⟨_, rfl, congrArg a.symbol ?_, congrArg a.symbol ?_⟩ <;> omega
    · cases h
  · cases h

theorem lastThree?_eq_some {p q r : UInt8} {bs : Bytes} (h : a.lastThree? p q r = some bs) :
    ∃ x y : UInt8, bs = [x, y] ∧ p = a.symbol (x.toNat / 4) ∧
      q = a.symbol (x.toNat % 4 * 16 + y.toNat / 16) ∧ r = a.symbol (y.toNat % 16 * 4) := by
  unfold lastThree? at h
  split at h
  · next l m n hp hq hr =>
    obtain ⟨hl, rfl⟩ := eq_symbol_of_value? hp
    obtain ⟨hm, rfl⟩ := eq_symbol_of_value? hq
    obtain ⟨hn, rfl⟩ := eq_symbol_of_value? hr
    split at h
    · next hrest =>
      cases h
      have hx : (UInt8.ofNat (l * 4 + m / 16)).toNat = l * 4 + m / 16 :=
        toNat_ofNat_lt (by omega)
      have hy : (UInt8.ofNat (m % 16 * 16 + n / 4)).toNat = m % 16 * 16 + n / 4 :=
        toNat_ofNat_lt (by omega)
      refine ⟨_, _, rfl, congrArg a.symbol ?_, congrArg a.symbol ?_, congrArg a.symbol ?_⟩ <;>
        omega
    · cases h
  · cases h

/-! ## Whole texts -/

/-- **What is read is what is written.** -/
theorem eq_encode_of_decode? {text bs : Bytes} (h : a.decode? text = some bs) :
    text = a.encode bs := by
  fun_induction decode? a text generalizing bs with
  | case1 =>
    cases h
    rfl
  | case2 => cases h
  | case3 => cases h
  | case4 p q hpadded =>
    obtain ⟨x, rfl, rfl, rfl⟩ := lastTwo?_eq_some h
    simp [encode, filler, hpadded]
  | case5 => cases h
  | case6 p q r hpadded =>
    obtain ⟨x, y, rfl, rfl, rfl, rfl⟩ := lastThree?_eq_some h
    simp [encode, filler, hpadded]
  | case7 => cases h
  | case8 p q r s rest hpad hrest hr =>
    obtain ⟨x, rfl, rfl, rfl⟩ := lastTwo?_eq_some h
    obtain ⟨hpadded, hs⟩ := Bool.and_eq_true_iff.1 hpad
    rw [eq_of_beq hs, eq_of_beq hr]
    simpa [encode, filler, hpadded] using hrest
  | case9 p q r s rest hpad hrest hr =>
    obtain ⟨x, y, rfl, rfl, rfl, rfl⟩ := lastThree?_eq_some h
    obtain ⟨hpadded, hs⟩ := Bool.and_eq_true_iff.1 hpad
    rw [eq_of_beq hs]
    simpa [encode, filler, hpadded] using hrest
  | case10 _ _ _ _ _ _ k l m n tail htail hs hr hq hp ih =>
    obtain ⟨hk, rfl⟩ := eq_symbol_of_value? hp
    obtain ⟨hl, rfl⟩ := eq_symbol_of_value? hq
    obtain ⟨hm, rfl⟩ := eq_symbol_of_value? hr
    obtain ⟨hn, rfl⟩ := eq_symbol_of_value? hs
    cases h
    have hx : (UInt8.ofNat (k * 4 + l / 16)).toNat = k * 4 + l / 16 :=
      toNat_ofNat_lt (by omega)
    have hy : (UInt8.ofNat (l % 16 * 16 + m / 4)).toNat = l % 16 * 16 + m / 4 :=
      toNat_ofNat_lt (by omega)
    have hz : (UInt8.ofNat (m % 4 * 64 + n)).toNat = m % 4 * 64 + n :=
      toNat_ofNat_lt (by omega)
    have hfirst : (k * 4 + l / 16) / 4 = k := by omega
    have hsecond : (k * 4 + l / 16) % 4 * 16 + (l % 16 * 16 + m / 4) / 16 = l := by omega
    have hthird : (l % 16 * 16 + m / 4) % 16 * 4 + (m % 4 * 64 + n) / 64 = m := by omega
    have hfourth : (m % 4 * 64 + n) % 64 = n := by omega
    rw [encode, hx, hy, hz, hfirst, hsecond, hthird, hfourth, ih htail]
  | case11 => cases h

/-- **A text is read as bytes exactly if it is what they are written as.** -/
theorem decode?_eq_some_iff {text bs : Bytes} :
    a.decode? text = some bs ↔ text = a.encode bs := by
  constructor
  · exact eq_encode_of_decode?
  · rintro rfl
    exact decode?_encode a bs

end SessionTokens.Base64
