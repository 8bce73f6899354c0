import SessionTokens.Proofs.Text.Ascii
import SessionTokens.Proofs.Text.Trim
import SessionTokens.Proofs.Time.Calendar
import SessionTokens.Time.Timestamp
/-!
# Timestamps that were written

**Theorem (`read?_write`).** A timestamp is read back from its written form, years of more than four
digits included, and leap seconds too if they end a minute.

**Theorem (`read?_write_iff`).** No other leap second is read back: it is written like the second
after it (`write_of_leap`).

The written form is taken apart from the left. Each number is followed by a character that is no
digit, or has as many digits as are read at most.
-/

namespace SessionTokens.Timestamp

open Text

/-- Whether a timestamp can be represented: its second is one of the calendar, and it has less than
two whole seconds of nanoseconds. -/
structure Representable (t : Timestamp) : Prop where
  inRange : inRange t.seconds = true
  nanos_lt : t.nanos < 2000000000

/-- Whether a timestamp can be represented and, if it stands in a leap second, does so at the end of
a minute. Timestamps in other leap seconds can be represented too, but not written. -/
structure Valid (t : Timestamp) : Prop extends Representable t where
  leap : 1000000000 ≤ t.nanos → t.seconds % 60 = 59

theorem inRange_iff {seconds : Int} :
    inRange seconds = true ↔ -8334601228800 ≤ seconds ∧ seconds ≤ 8210266876799 := by
  simp [inRange]

theorem valid_ofInstant {t : Instant} (h : t.inRange = true) : (ofInstant t).Valid := by
  have hn : (t.nanos % 1000000000).toNat < 1000000000 := by omega
  simp only [Instant.inRange, Bool.and_eq_true, decide_eq_true_eq] at h
  simp only [Instant.earliest, Instant.latest] at h
  refine ⟨⟨inRange_iff.2 ⟨?_, ?_⟩, ?_⟩, ?_⟩ <;> simp only [ofInstant] <;> omega

/-! ## Digits -/

theorem toNat_ofNat_of_lt : ∀ n < 0x80, (Char.ofNat n).toNat = n := by decide +kernel

theorem isDigit_ofNat : ∀ n < 0x80, 0x30 ≤ n → n ≤ 0x39 → (Char.ofNat n).isDigit = true := by
  decide +kernel

theorem bounds_of_isDigit {b : UInt8} (h : Text.isDigit b = true) :
    0x30 ≤ b.toNat ∧ b.toNat ≤ 0x39 := by
  simpa [Text.isDigit, UInt8.le_iff_toNat_le] using h

theorem all_isDigit_paddedDigits (width n : Nat) :
    (paddedDigits width n).all Text.isDigit = true := by
  simp only [paddedDigits, List.all_append, all_isDigit_digits, Bool.and_true, List.all_eq_true]
  intro b hb
  rw [List.eq_of_mem_replicate hb]
  decide

theorem isDigit_of_mem_padded {width n : Nat} {c : Char} (h : c ∈ padded width n) :
    c.isDigit = true := by
  obtain ⟨b, hb, rfl⟩ := List.mem_map.1 h
  have hd := bounds_of_isDigit (List.all_eq_true.1 (all_isDigit_paddedDigits width n) b hb)
  exact isDigit_ofNat _ (by omega) hd.1 hd.2

theorem ofDigits_asciiChars {bs : Bytes} (h : bs.all Text.isDigit = true) :
    ofDigits (asciiChars bs) = Text.ofDigits bs := by
  have hfold : ∀ n, (asciiChars bs).foldl (fun n c => 10 * n + (c.toNat - 48)) n =
      bs.foldl (fun n b => 10 * n + (b.toNat - 0x30)) n := by
    induction bs with
    | nil => exact fun _ => rfl
    | cons b rest ih =>
      intro n
      rw [List.all_cons, Bool.and_eq_true] at h
      have hb := bounds_of_isDigit h.1
      rw [asciiChars, List.map_cons, List.foldl_cons, List.foldl_cons,
        toNat_ofNat_of_lt _ (by omega)]
      exact ih h.2 _
  exact hfold 0

theorem ofDigits_padded (width n : Nat) : ofDigits (padded width n) = n := by
  have hzero : ∀ k, (List.replicate k (0x30 : UInt8)).foldl
      (fun n b => 10 * n + (b.toNat - 0x30)) 0 = 0 := by
    intro k
    induction k with
    | zero => rfl
    | succ k ih => exact ih
  rw [padded, ofDigits_asciiChars (all_isDigit_paddedDigits width n), paddedDigits, Text.ofDigits,
    List.foldl_append, hzero]
  exact ofDigits_digits n

theorem length_digits_le {width n : Nat} (hw : 0 < width) (h : n < Nat.pow 10 width) :
    (digits n).length ≤ width := by
  induction width generalizing n with
  | zero => omega
  | succ w ih =>
    unfold digits
    split
    · simp
    · next hn =>
      cases w with
      | zero =>
        have hn' : n < 10 := h
        omega
      | succ w =>
        have hdiv : n / 10 < Nat.pow 10 (w + 1) := (Nat.div_lt_iff_lt_mul (by decide)).2 h
        have := ih (by omega) hdiv
        simp only [List.length_append, List.length_singleton]
        omega

theorem length_padded {width n : Nat} (hw : 0 < width) (h : n < Nat.pow 10 width) :
    (padded width n).length = width := by
  have := length_digits_le hw h
  simp only [padded, asciiChars, paddedDigits, List.length_map, List.length_append,
    List.length_replicate]
  omega

theorem padded_ne_nil (width n : Nat) : padded width n ≠ [] := by
  simp [padded, asciiChars, paddedDigits, digits_ne_nil]

/-! ## Numbers -/

/-- A text that does not go on with a digit. -/
def EndsDigits (rest : List Char) : Prop := ∀ c ∈ rest.head?, c.isDigit = false

theorem takeWhile_padded (width n : Nat) {rest : List Char} (h : EndsDigits rest) :
    (padded width n ++ rest).takeWhile Char.isDigit = padded width n :=
  takeWhile_run (fun _ hc => isDigit_of_mem_padded hc) h

theorem dropWhile_padded (width n : Nat) {rest : List Char} (h : EndsDigits rest) :
    (padded width n ++ rest).dropWhile Char.isDigit = rest :=
  dropWhile_run (fun _ hc => isDigit_of_mem_padded hc) h

theorem number?_padded {most width n : Nat} (hl : (padded width n).length ≤ most)
    {rest : List Char} (h : EndsDigits rest) :
    number? most (padded width n ++ rest) = some (n, rest) := by
  have hends : EndsDigits (rest.take (most - (padded width n).length)) := by
    intro c hc
    refine h c ?_
    cases hm : most - (padded width n).length with
    | zero => simp [hm] at hc
    | succ m => cases rest <;> simp_all
  unfold number?
  rw [List.take_append, List.take_of_length_le hl, takeWhile_padded width n hends]
  split
  · next hnil => exact absurd hnil (padded_ne_nil width n)
  · rw [ofDigits_padded, List.drop_left]

theorem isBlank_of_isDigit {c : Char} (h : c.isDigit = true) : isBlank c = false := by
  have hall : ∀ n < 0x80, (Char.ofNat n).isDigit = true → isBlank (Char.ofNat n) = false := by
    decide +kernel
  have hc : c.toNat ≤ 57 := by
    simp only [Char.isDigit, Bool.and_eq_true, decide_eq_true_eq] at h
    exact h.2
  have := hall c.toNat (by omega)
  rw [Char.ofNat_toNat] at this
  exact this h

theorem trimStart_padded (width n : Nat) (rest : List Char) :
    trimStart (padded width n ++ rest) = padded width n ++ rest := by
  cases hp : padded width n with
  | nil => exact absurd hp (padded_ne_nil width n)
  | cons c cs =>
    have hc : c.isDigit = true := isDigit_of_mem_padded (hp ▸ List.mem_cons_self)
    simp [trimStart, isBlank_of_isDigit hc]

theorem field?_padded {n : Nat} (h : n < 100) {rest : List Char} (hr : EndsDigits rest) :
    field? (padded 2 n ++ rest) = some (n, rest) := by
  rw [field?, trimStart_padded]
  exact number?_padded (Nat.le_of_eq (length_padded (by omega) h)) hr

theorem after?_cons {c : Char} (h : isBlank c = false) (rest : List Char) :
    after? c (c :: rest) = some rest := by
  simp [after?, trimStart, h]

theorem endsDigits_cons {c : Char} (h : c.isDigit = false) (rest : List Char) :
    EndsDigits (c :: rest) := by
  intro d hd
  obtain rfl : c = d := by simpa using hd
  exact h

/-! ## Years and fractions -/

theorem year?_yearText (year : Int) {rest : List Char} (h : EndsDigits rest) :
    year? (yearText year ++ rest) = some (year, rest) := by
  unfold yearText
  split
  · next hy =>
    simp only [Bool.and_eq_true, decide_eq_true_eq] at hy
    have hyear : year.natAbs < 10000 := by omega
    have hlen : (padded 4 year.natAbs).length = 4 := length_padded (by omega) hyear
    have hn := number?_padded (Nat.le_of_eq hlen) h
    unfold year?
    rw [trimStart_padded]
    split
    · next heq =>
      cases hp : padded 4 year.natAbs with
      | nil => exact absurd hp (padded_ne_nil _ _)
      | cons c cs =>
        rw [hp, List.cons_append] at heq
        have hc : c.isDigit = true := isDigit_of_mem_padded (hp ▸ List.mem_cons_self)
        rw [(List.cons.inj heq).1] at hc
        exact absurd hc (by decide)
    · next heq =>
      cases hp : padded 4 year.natAbs with
      | nil => exact absurd hp (padded_ne_nil _ _)
      | cons c cs =>
        rw [hp, List.cons_append] at heq
        have hc : c.isDigit = true := isDigit_of_mem_padded (hp ▸ List.mem_cons_self)
        rw [(List.cons.inj heq).1] at hc
        exact absurd hc (by decide)
    · rw [hn, Option.map_some, Int.natAbs_of_nonneg hy.1]
  · have hlen : (padded 4 year.natAbs).length ≤ (padded 4 year.natAbs ++ rest).length := by simp
    have hn := number?_padded hlen h
    have hminus : trimStart ('-' :: (padded 4 year.natAbs ++ rest)) =
      '-' :: (padded 4 year.natAbs ++ rest) := rfl
    have hplus : trimStart ('+' :: (padded 4 year.natAbs ++ rest)) =
      '+' :: (padded 4 year.natAbs ++ rest) := rfl
    rw [List.cons_append]
    split
    · rw [year?, hminus]
      simp only [hn, Option.map_some, Option.some.injEq, Prod.mk.injEq, and_true]
      omega
    · rw [year?, hplus]
      simp only [hn, Option.map_some, Option.some.injEq, Prod.mk.injEq, and_true]
      omega

theorem fraction?_dot {width n : Nat} (hw : 0 < width) (hw9 : width ≤ 9) (h : n < Nat.pow 10 width)
    {rest : List Char} (hr : EndsDigits rest) :
    fraction? ('.' :: (padded width n ++ rest)) = some (n * Nat.pow 10 (9 - width), rest) := by
  have hlen := length_padded hw h
  have hends : EndsDigits (rest.take (9 - width)) := by
    intro c hc
    refine hr c ?_
    cases hm : 9 - width with
    | zero => simp [hm] at hc
    | succ m => cases rest <;> simp_all
  have htake : ((padded width n ++ rest).take 9).takeWhile Char.isDigit = padded width n := by
    rw [List.take_append, List.take_of_length_le (by omega), hlen, takeWhile_padded width n hends]
  simp only [fraction?, number?_padded (show (padded width n).length ≤ 9 by omega) hr, htake,
    dropWhile_padded width n hr, hlen]

theorem fraction?_fractionText {n : Nat} (h : n < 1000000000) {rest : List Char}
    (hr : ∀ c ∈ rest.head?, c.isDigit = false ∧ c ≠ '.') :
    fraction? (fractionText n ++ rest) = some (n, rest) := by
  have hends : EndsDigits rest := fun c hc => (hr c hc).1
  unfold fractionText
  split
  · next hn =>
    subst hn
    unfold fraction?
    split
    · exact absurd rfl (hr '.' (by simp_all)).2
    · rfl
  split
  · next hms =>
    have hwidth : n / 1000000 < 1000 := by omega
    have hvalue : n / 1000000 * 1000000 = n := by omega
    rw [List.cons_append, fraction?_dot (by omega) (by omega) hwidth hends]
    exact congrArg (fun n => some (n, rest)) hvalue
  split
  · next hus =>
    have hwidth : n / 1000 < 1000000 := by omega
    have hvalue : n / 1000 * 1000 = n := by omega
    rw [List.cons_append, fraction?_dot (by omega) (by omega) hwidth hends]
    exact congrArg (fun n => some (n, rest)) hvalue
  · rw [List.cons_append, fraction?_dot (by omega) (by omega) h hends]
    exact congrArg (fun n => some (n, rest)) (Nat.mul_one n)

/-! ## Timestamps -/

theorem trimStart_cons {c : Char} (h : isBlank c = false) (rest : List Char) :
    trimStart (c :: rest) = c :: rest := by
  simp [trimStart, h]

theorem read?_fields (date : Calendar.Date) {hour minute second nanos : Nat}
    (hmonth : date.month < 100) (hday : date.day < 100) (hhour : hour < 100)
    (hminute : minute < 100) (hsecond : second < 100) (hnanos : nanos < 1000000000) :
    read? (String.ofList (yearText date.year ++ '-' :: padded 2 date.month ++ '-' ::
      padded 2 date.day ++ 'T' :: padded 2 hour ++ ':' :: padded 2 minute ++ ':' ::
      padded 2 second ++ fractionText nanos ++ ['Z'])) =
      assemble? date hour minute second nanos 0 := by
  have hZ : ∀ c ∈ (['Z'] : List Char).head?, c.isDigit = false ∧ c ≠ '.' := by
    intro c hc
    cases hc
    decide
  have hfrac : EndsDigits (fractionText nanos ++ ['Z']) := by
    unfold fractionText
    split
    · exact endsDigits_cons (by decide) _
    split
    · exact endsDigits_cons (by decide) _
    split
    · exact endsDigits_cons (by decide) _
    · exact endsDigits_cons (by decide) _
  have hoffset : offset? ['Z'] = some (0, []) := by decide
  simp only [List.append_assoc, List.cons_append]
  unfold read?
  rw [String.toList_ofList, year?_yearText _ (endsDigits_cons (by decide) _)]
  simp only [Option.bind_eq_bind]
  simp only [Option.bind_some, after?_cons (show isBlank '-' = false by decide),
    field?_padded hmonth (endsDigits_cons (show '-'.isDigit = false by decide) _),
    field?_padded hday (endsDigits_cons (show 'T'.isDigit = false by decide) _),
    field?_padded hhour (endsDigits_cons (show ':'.isDigit = false by decide) _),
    after?_cons (show isBlank ':' = false by decide),
    field?_padded hminute (endsDigits_cons (show ':'.isDigit = false by decide) _),
    field?_padded hsecond hfrac, fraction?_fractionText hnanos hZ,
    trimStart_cons (show isBlank 'Z' = false by decide), hoffset]
  rfl

theorem daysInMonth_le (year : Int) (month : Nat) : Calendar.daysInMonth year month ≤ 31 := by
  unfold Calendar.daysInMonth
  split
  · split <;> omega
  · split <;> omega

/-- **A written timestamp reads back.** -/
theorem read?_write {t : Timestamp} (h : t.Valid) : read? t.write = some t := by
  obtain ⟨seconds, nanos⟩ := t
  obtain ⟨⟨hrange, hnanos⟩, hleap⟩ := h
  simp only at hrange hnanos hleap
  have hvalid := Calendar.isValid_ofDayNumber (seconds / daySeconds)
  have hnumber := Calendar.dayNumber_ofDayNumber (seconds / daySeconds)
  have hbounds := hvalid
  simp only [Calendar.Date.isValid, Bool.and_eq_true, decide_eq_true_eq] at hbounds
  have hdays := daysInMonth_le (Calendar.ofDayNumber (seconds / daySeconds)).year
    (Calendar.ofDayNumber (seconds / daySeconds)).month
  have hday : seconds = seconds / daySeconds * daySeconds + seconds % daySeconds := by
    rw [Int.mul_comm, Int.mul_ediv_add_emod]
  obtain ⟨ofDay, hofDay⟩ : ∃ n : Nat, seconds % daySeconds = n :=
    Int.eq_ofNat_of_zero_le (Int.emod_nonneg _ (by decide))
  have hlt : ofDay < 86400 := by
    have := Int.emod_lt_of_pos seconds (show 0 < daySeconds by decide)
    unfold daySeconds at this hofDay
    omega
  have hminute : seconds % 60 = (ofDay % 60 : Nat) := by
    unfold daySeconds at hday hofDay
    omega
  -- A second of nanoseconds on top stands for the sixtieth second of its minute.
  have hsixty : (ofDay % 60 + nanos / 1000000000) / 60 = nanos / 1000000000 := by omega
  rw [write]
  simp only [hofDay, Int.toNat_natCast]
  rw [read?_fields _ (by omega) (by omega) (by omega) (by omega) (by omega) (by omega)]
  simp only [assemble?, hvalid, Bool.true_and, hsixty, hnumber]
  have hclock : seconds / daySeconds * daySeconds + (ofDay / 3600 : Nat) * 3600 +
      (ofDay / 60 % 60 : Nat) * 60 + (ofDay % 60 + nanos / 1000000000 : Nat) -
      (nanos / 1000000000 : Nat) = seconds := by
    omega
  rw [hclock, if_pos (by simp; omega), Int.sub_zero, if_pos (by simp [hrange])]
  congr 2
  omega

/-- **A leap second that does not end a minute is written like the second after it.** -/
theorem write_of_leap {t : Timestamp} (ht : t.Representable) (hnanos : 1000000000 ≤ t.nanos)
    (hmid : t.seconds % 60 ≠ 59) :
    t.write = write ⟨t.seconds + 1, t.nanos - 1000000000⟩ := by
  obtain ⟨seconds, nanos⟩ := t
  have hlt : nanos < 2000000000 := ht.nanos_lt
  simp only at hnanos hmid
  -- Both seconds belong to one minute, so date, hour and minute are the same.
  have hday : (seconds + 1) / daySeconds = seconds / daySeconds := by
    unfold daySeconds
    omega
  obtain ⟨ofDay, hofDay⟩ : ∃ n : Nat, seconds % daySeconds = n :=
    Int.eq_ofNat_of_zero_le (Int.emod_nonneg _ (by decide))
  have hnext : (seconds + 1) % daySeconds = (ofDay + 1 : Nat) := by
    unfold daySeconds at hofDay ⊢
    omega
  have hminute : ofDay % 60 ≠ 59 := by
    unfold daySeconds at hofDay
    omega
  have hhour : (ofDay + 1) / 3600 = ofDay / 3600 := by omega
  have hminutes : (ofDay + 1) / 60 % 60 = ofDay / 60 % 60 := by omega
  have hsecond : (ofDay + 1) % 60 + (nanos - 1000000000) / 1000000000 =
      ofDay % 60 + nanos / 1000000000 := by omega
  have hfraction : (nanos - 1000000000) % 1000000000 = nanos % 1000000000 := by omega
  simp only [write, hday, hofDay, hnext, Int.toNat_natCast, hhour, hminutes, hsecond, hfraction]

/-- **A timestamp that can be represented is read back exactly if it is valid.** -/
theorem read?_write_iff {t : Timestamp} (ht : t.Representable) :
    read? t.write = some t ↔ t.Valid := by
  refine ⟨fun h => ⟨ht, fun hnanos => ?_⟩, read?_write⟩
  by_contra hmid
  have hrange := inRange_iff.1 ht.inRange
  have hlt := ht.nanos_lt
  have hvalid : Valid ⟨t.seconds + 1, t.nanos - 1000000000⟩ := by
    refine ⟨⟨inRange_iff.2 ⟨?_, ?_⟩, ?_⟩, ?_⟩ <;> simp only <;> omega
  rw [write_of_leap ht hnanos hmid, read?_write hvalid, Option.some.injEq] at h
  have hseconds := congrArg seconds h
  simp only at hseconds
  omega

end SessionTokens.Timestamp
