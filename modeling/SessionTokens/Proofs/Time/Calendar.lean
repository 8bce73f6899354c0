import Mathlib.Tactic.Common
import SessionTokens.Time.Calendar
/-!
# Days and dates

**Theorem (`dayNumber_ofDayNumber`).** The date of a day leads back to its number.

**Theorem (`isValid_ofDayNumber`).** The date of a day exists.

Within an era of 400 years the year of a day is found by one division. The division is right because
the dividend grows with the day and passes a multiple of 365 at the first day of each year; that is
checked for each of the 400 years.
-/

namespace SessionTokens.Calendar

/-- The days of an era before a year of it. -/
def yearStart (y : Int) : Int := 365 * y + y / 4 - y / 100 + y / 400

/-- The days of an era up to a day, without the leap days before it. -/
def plainDays (d : Int) : Int := d - d / 1460 + d / 36524 - d / 146096

theorem plainDays_mono {a b : Int} (h : a ≤ b) : plainDays a ≤ plainDays b := by
  have hc : a / 36524 ≤ b / 36524 := Int.ediv_le_ediv (by decide) h
  unfold plainDays
  omega

theorem le_plainDays_yearStart :
    ∀ y : Nat, y < 400 → 365 * (y : Int) ≤ plainDays (yearStart y) := by
  decide +kernel

theorem plainDays_yearEnd_lt :
    ∀ y : Nat, y < 400 → plainDays (yearStart (y + 1 : Nat) - 1) < 365 * (y + 1) := by
  decide +kernel

/-- The year of a day in its era. -/
def yearOfEra (d : Int) : Int := plainDays d / 365

theorem yearOfEra_bounds {d : Int} (h0 : 0 ≤ d) (h1 : d < eraDays) :
    0 ≤ yearOfEra d ∧ yearOfEra d < 400 := by
  unfold eraDays at h1
  unfold yearOfEra plainDays
  omega

/-- **A day lies in its year.** -/
theorem yearStart_le {d : Int} (h0 : 0 ≤ d) (h1 : d < eraDays) :
    yearStart (yearOfEra d) ≤ d ∧ d < yearStart (yearOfEra d + 1) := by
  obtain ⟨hy0, hy1⟩ := yearOfEra_bounds h0 h1
  obtain ⟨y, hy⟩ := Int.eq_ofNat_of_zero_le hy0
  have hdiv : 365 * (y : Int) ≤ plainDays d ∧ plainDays d < 365 * (y + 1) := by
    unfold yearOfEra at hy
    omega
  rw [hy]
  constructor
  · by_contra hlt
    cases y with
    | zero =>
      unfold yearStart at hlt
      omega
    | succ y =>
      have hend := plainDays_yearEnd_lt y (by omega)
      have hmono := plainDays_mono (show d ≤ yearStart (y + 1 : Nat) - 1 by omega)
      push_cast at hdiv
      omega
  · by_contra hle
    by_cases hlast : y + 1 < 400
    · have hstart := le_plainDays_yearStart (y + 1) hlast
      have hmono := plainDays_mono (show yearStart (y + 1 : Nat) ≤ d by push_cast; omega)
      push_cast at hstart hmono
      omega
    · have hlen : yearStart ((y : Int) + 1) = eraDays := by
        rw [show (y : Int) + 1 = 400 by omega]
        rfl
      omega

/-- A year with 366 days ends with a leap day. -/
theorem isLeap_of_yearStart {y : Int} (h : yearStart y + 365 < yearStart (y + 1)) (era : Int) :
    isLeap (y + era * 400 + 1) = true := by
  unfold yearStart at h
  simp only [isLeap, Bool.and_eq_true, Bool.or_eq_true, beq_iff_eq, bne_iff_ne]
  omega

/-- The parts of a day's date: the era, the year in it and the day of that year. -/
theorem ofDayNumber_eq (n : Int) :
    ∃ era y doy : Int, 0 ≤ y ∧ y < 400 ∧ 0 ≤ doy ∧ doy ≤ 365 ∧
      (doy = 365 → isLeap (y + era * 400 + 1) = true) ∧
      n = era * eraDays + (yearStart y + doy) - epochDays ∧
      ofDayNumber n =
        { year := if (5 * doy + 2) / 153 < 10 then y + era * 400 else y + era * 400 + 1
          month := (if (5 * doy + 2) / 153 < 10 then (5 * doy + 2) / 153 + 3
            else (5 * doy + 2) / 153 - 9).toNat
          day := (doy - (153 * ((5 * doy + 2) / 153) + 2) / 5 + 1).toNat } := by
  have hera : (0 : Int) < eraDays := by decide
  have h0 := Int.emod_nonneg (n + epochDays) (Int.ne_of_gt hera)
  have h1 := Int.emod_lt_of_pos (n + epochDays) hera
  have hn := Int.mul_ediv_add_emod (n + epochDays) eraDays
  obtain ⟨hy0, hy1⟩ := yearOfEra_bounds h0 h1
  obtain ⟨hs, he⟩ := yearStart_le h0 h1
  have hstart : yearStart (yearOfEra ((n + epochDays) % eraDays)) =
      365 * yearOfEra ((n + epochDays) % eraDays) + yearOfEra ((n + epochDays) % eraDays) / 4
        - yearOfEra ((n + epochDays) % eraDays) / 100 := by
    unfold yearStart
    omega
  refine ⟨(n + epochDays) / eraDays, yearOfEra ((n + epochDays) % eraDays),
    (n + epochDays) % eraDays - yearStart (yearOfEra ((n + epochDays) % eraDays)),
    hy0, hy1, by omega, ?_, ?_, ?_, by rw [hstart]; rfl⟩
  · have : yearStart (yearOfEra ((n + epochDays) % eraDays) + 1) ≤
        yearStart (yearOfEra ((n + epochDays) % eraDays)) + 366 := by
      unfold yearStart
      omega
    omega
  · intro hday
    exact isLeap_of_yearStart (by omega) _
  · rw [Int.mul_comm] at hn
    omega

/-- **The date of a day leads back to its number.** -/
theorem dayNumber_ofDayNumber (n : Int) : dayNumber (ofDayNumber n) = n := by
  obtain ⟨era, y, doy, hy0, hy1, hd0, hd1, -, hn, heq⟩ := ofDayNumber_eq n
  have hday : 0 ≤ doy - (153 * ((5 * doy + 2) / 153) + 2) / 5 := by omega
  have hy : (y + era * 400) % 400 = y := by omega
  have hera : (y + era * 400) / 400 = era := by omega
  rw [heq, hn]
  unfold dayNumber yearStart
  dsimp only
  by_cases hmp : (5 * doy + 2) / 153 < 10
  · rw [if_pos hmp, if_pos hmp, if_neg (by omega), if_neg (by omega), hy, hera]
    omega
  · rw [if_neg hmp, if_neg hmp, if_pos (by omega), if_pos (by omega), Int.add_sub_cancel, hy, hera]
    omega

/-- The day of a month is at most the month's length, where the year begins in March and its last
month is left out. -/
theorem day_le {doy mp : Int} (h : (5 * doy + 2) / 153 = mp) (h0 : 0 ≤ doy) (h1 : mp < 11) :
    doy - (153 * mp + 2) / 5 + 1 ≤ if mp = 1 ∨ mp = 3 ∨ mp = 6 ∨ mp = 8 then 30 else 31 := by
  have hm : mp = 0 ∨ mp = 1 ∨ mp = 2 ∨ mp = 3 ∨ mp = 4 ∨ mp = 5 ∨ mp = 6 ∨ mp = 7 ∨ mp = 8 ∨
      mp = 9 ∨ mp = 10 := by omega
  rcases hm with rfl | rfl | rfl | rfl | rfl | rfl | rfl | rfl | rfl | rfl | rfl <;> simp <;> omega

/-- **The date of a day exists.** -/
theorem isValid_ofDayNumber (n : Int) : (ofDayNumber n).isValid = true := by
  obtain ⟨era, y, doy, hy0, hy1, hd0, hd1, hleap, -, heq⟩ := ofDayNumber_eq n
  rw [heq]
  simp only [Date.isValid, Bool.and_eq_true, decide_eq_true_eq]
  generalize hmp : (5 * doy + 2) / 153 = mp
  by_cases h10 : mp < 10
  · rw [if_pos h10, if_pos h10]
    have hday := day_le hmp hd0 (by omega)
    refine ⟨⟨⟨by omega, by omega⟩, by omega⟩, ?_⟩
    unfold daysInMonth
    rw [if_neg (by omega)]
    simp only [Bool.or_eq_true, decide_eq_true_eq]
    split at hday <;> split <;> omega
  · rw [if_neg h10, if_neg h10]
    refine ⟨⟨⟨by omega, by omega⟩, by omega⟩, ?_⟩
    unfold daysInMonth
    -- January is the last month but one, and February the last.
    by_cases h11 : mp = 10
    · subst h11
      have hday := day_le hmp hd0 (by omega)
      simp at hday ⊢
      omega
    · obtain rfl : mp = 11 := by omega
      by_cases hlast : doy = 365
      · simp [hleap hlast, hlast]
      · simp only [show ((11 : Int) - 9).toNat = 2 from rfl, if_true]
        split <;> omega

end SessionTokens.Calendar
