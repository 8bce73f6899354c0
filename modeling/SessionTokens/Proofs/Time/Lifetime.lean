import SessionTokens.Proofs.Time.Timestamp
import SessionTokens.Time.Lifetime
/-!
# Lifetimes that were written

**Theorem (`read_write`).** A duration of any length is read back from its written form, to the
nanosecond.

A written form is a run of parts with spaces between. Each part *says* a number of nanoseconds: a
count and the name of a unit. The parts of a duration *spell* it: what they say adds up to it,
whichever of them are left out for being zero.

The reader adds up what the parts say, one after another, and gives up as soon as a sum or a count
leaves its limits. The induction is on the parts, for any sum that has been read before. No sum on
the way exceeds the duration itself, so the reader stays within its limits up to the longest one.
-/

namespace SessionTokens.Lifetime

open Text Timestamp

/-! ## Characters -/

theorem bounds_of_isUnitChar {c : Char} (h : isUnitChar c = true) :
    65 ≤ c.toNat ∧ c.toNat ≤ 90 ∨ 97 ≤ c.toNat ∧ c.toNat ≤ 122 ∨ c.toNat = 181 := by
  simp only [isUnitChar, Bool.or_eq_true, Bool.and_eq_true, decide_eq_true_eq, beq_iff_eq] at h
  rcases h with (h | h) | rfl
  · exact .inr (.inl h)
  · exact .inl h
  · exact .inr (.inr rfl)

theorem isDigit_of_isUnitChar {c : Char} (h : isUnitChar c = true) : c.isDigit = false := by
  have hbounds := bounds_of_isUnitChar h
  rw [Bool.eq_false_iff]
  intro hdigit
  simp only [Char.isDigit, Bool.and_eq_true, decide_eq_true_eq] at hdigit
  have hle : c.toNat ≤ 57 := hdigit.2
  omega

theorem isBlank_of_isUnitChar {c : Char} (h : isUnitChar c = true) : isBlank c = false := by
  have hall : ∀ n < 0xC0, isUnitChar (Char.ofNat n) = true → isBlank (Char.ofNat n) = false := by
    decide +kernel
  have hbounds := bounds_of_isUnitChar h
  have hblank := hall c.toNat (by omega)
  rw [Char.ofNat_toNat] at hblank
  exact hblank h

theorem ne_point_of_isUnitChar {c : Char} (h : isUnitChar c = true) : c ≠ '.' := by
  rintro rfl
  exact absurd h (by decide)

/-! ## Counts -/

/-- The count before a unit: its digits are all read if it is a word. -/
theorem whole?_asciiChars {ds : Bytes} (hds : ds.all Text.isDigit = true) {n : Nat}
    (h : ds.foldl (fun n b => 10 * n + (b.toNat - 0x30)) n < Nat.pow 2 64) (rest : List Char) :
    whole? n (asciiChars ds ++ rest) =
      whole? (ds.foldl (fun n b => 10 * n + (b.toNat - 0x30)) n) rest := by
  induction ds generalizing n with
  | nil => rfl
  | cons b ds ih =>
    rw [List.all_cons, Bool.and_eq_true] at hds
    rw [List.foldl_cons] at h ⊢
    have hb := bounds_of_isDigit hds.1
    have hvalue : digitValue (Char.ofNat b.toNat) = b.toNat - 0x30 := by
      rw [digitValue, toNat_ofNat_of_lt _ (by omega)]
      rfl
    have hword : word? (10 * n + (b.toNat - 0x30)) = some (10 * n + (b.toNat - 0x30)) :=
      if_pos (Nat.lt_of_le_of_lt (le_foldl_digits ds _) h)
    rw [← ih hds.2 h, asciiChars, List.map_cons, List.cons_append, whole?,
      if_pos (isDigit_ofNat _ (by omega) hb.1 hb.2), hvalue, hword, Option.bind_some]
    rfl

/-- A text that goes on with the name of a unit. -/
def BeginsUnit (cs : List Char) : Prop := ∃ c rest, cs = c :: rest ∧ isUnitChar c = true

theorem whole?_count {n : Nat} (h : n < Nat.pow 2 64) {cs : List Char} (hcs : BeginsUnit cs) :
    whole? 0 ((digitsText n).toList ++ cs) = some (n, cs) := by
  obtain ⟨c, rest, rfl, hc⟩ := hcs
  have hvalue : (digits n).foldl (fun n b => 10 * n + (b.toNat - 0x30)) 0 = n := ofDigits_digits n
  rw [digitsText, ascii, String.toList_ofList,
    whole?_asciiChars (all_isDigit_digits n) (by rwa [hvalue]), hvalue, whole?,
    if_neg (by simp [isDigit_of_isUnitChar hc]), if_neg (by simp [isBlank_of_isUnitChar hc]),
    if_pos (by simp [hc])]

theorem pointed?_of_beginsUnit {cs : List Char} (hcs : BeginsUnit cs) :
    pointed? cs = some (none, cs) := by
  obtain ⟨c, rest, rfl, hc⟩ := hcs
  unfold pointed?
  split
  · next heq => exact absurd (List.cons.inj heq).1 (ne_point_of_isUnitChar hc)
  · rfl

/-! ## Units -/

/-- A unit is a whole number of its steps, which are nanoseconds or seconds. -/
theorem steps_of_mem_units : ∀ u ∈ units, 0 < u.nanos / u.step ∧
    u.nanos / u.step * u.step = u.nanos ∧ (u.step = 1 ∨ u.step = second) := by
  decide

theorem names_of_mem_units : ∀ u ∈ units, ∀ name ∈ u.names,
    name.toList ≠ [] ∧ name.toList.all isUnitChar = true := by
  decide +kernel

theorem chars_of_unit? {name : List Char} {u : Unit} (h : unit? name = some u) :
    name ≠ [] ∧ ∀ c ∈ name, isUnitChar c = true := by
  have hname : String.ofList name ∈ u.names := by simpa using List.find?_some h
  have hchars := names_of_mem_units u (List.mem_of_find?_eq_some h) _ hname
  rw [String.toList_ofList, List.all_eq_true] at hchars
  exact hchars

theorem grow_eq_ok {sum count step : Nat} (hcount : count < Nat.pow 2 64)
    (hnanos : step = 1 → count < second) (h : sum + count * step < Nat.pow 2 64 * second) :
    grow sum count step = .ok (sum + count * step) := by
  have hword : word? count = some count := if_pos hcount
  by_cases hstep : step = 1
  · have hsmall : sum % second + count < Nat.pow 2 64 := by
      have hrem : sum % second < second := Nat.mod_lt _ (by decide)
      have hlt := hnanos hstep
      have hlimit : second + second < Nat.pow 2 64 := by decide
      omega
    have hcarry : word? (sum % second + count) = some (sum % second + count) := if_pos hsmall
    simp only [grow, hword, orMalformed, bind, Except.bind, if_pos hstep, hcarry, if_pos h, pure,
      Except.pure]
  · simp only [grow, hword, orMalformed, bind, Except.bind, if_neg hstep, if_pos h, pure,
      Except.pure]

/-- A count of a unit is few enough steps: of seconds because durations are bounded, of nanoseconds
because they make less than a second. -/
theorem steps_lt {count : Nat} {u : Unit} (hu : u ∈ units)
    (hsmall : u.step = 1 → count * u.nanos < second)
    (h : count * u.nanos < Nat.pow 2 64 * second) :
    count * (u.nanos / u.step) < Nat.pow 2 64 := by
  obtain ⟨-, hsteps, hstep | hstep⟩ := steps_of_mem_units u hu
  · have hlt := hsmall hstep
    have hlimit : second < Nat.pow 2 64 := by decide
    rw [hstep, Nat.div_one]
    omega
  · rw [← hsteps, ← Nat.mul_assoc, hstep] at h
    rw [hstep]
    exact Nat.lt_of_mul_lt_mul_right h

/-- A sum grows by a count of a unit if that stays below the limits. -/
theorem addUnit_eq_ok {sum count : Nat} {u : Unit} (hu : u ∈ units)
    (hsmall : u.step = 1 → count * u.nanos < second)
    (h : sum + count * u.nanos < Nat.pow 2 64 * second) :
    addUnit sum count none u = .ok (sum + count * u.nanos) := by
  obtain ⟨-, hsteps, -⟩ := steps_of_mem_units u hu
  have hnanos : count * (u.nanos / u.step) * u.step = count * u.nanos := by
    rw [Nat.mul_assoc, hsteps]
  have hfine (hstep : u.step = 1) : count * (u.nanos / u.step) < second := by
    rw [hstep, Nat.div_one]
    exact hsmall hstep
  rw [addUnit, grow_eq_ok (steps_lt hu hsmall (by omega)) hfine (by rwa [hnanos]), hnanos]
  rfl

/-! ## Parts -/

/-- Whether a part says so many nanoseconds: it is a count and the name of a unit, and says less
than a second if the unit is counted in nanoseconds. -/
inductive Says : String → Nat → Prop
  | intro (count : Nat) {name : String} {u : Unit} (hu : unit? name.toList = some u)
    (hsmall : u.step = 1 → count * u.nanos < second) :
    Says (digitsText count ++ name) (count * u.nanos)

/-- A text that goes on with a space, if at all. -/
def EndsPart (rest : List Char) : Prop := ∀ c ∈ rest.head?, c = ' '

theorem EndsPart.isUnitChar {rest : List Char} (h : EndsPart rest) :
    ∀ c ∈ rest.head?, isUnitChar c = false := by
  intro c hc
  rw [h c hc]
  decide

/-- **The reader adds what a part says.** -/
theorem item_part {p : String} {n sum : Nat} (hp : Says p n)
    (h : sum + n < Nat.pow 2 64 * second) {rest : List Char} (hr : EndsPart rest) :
    item sum (p.toList ++ rest) = .ok (sum + n, trimStart rest) := by
  obtain @⟨count, name, u, hu, hsmall⟩ := hp
  obtain ⟨hne, hchars⟩ := chars_of_unit? hu
  have hunit : u ∈ units := List.mem_of_find?_eq_some hu
  have hbegins : BeginsUnit (name.toList ++ rest) := by
    obtain ⟨c, cs, hname⟩ := List.exists_cons_of_ne_nil hne
    exact ⟨c, cs ++ rest, by rw [hname, List.cons_append], hchars c (by simp [hname])⟩
  have hcount : count < Nat.pow 2 64 :=
    Nat.lt_of_le_of_lt (Nat.le_mul_of_pos_right count (steps_of_mem_units u hunit).1)
      (steps_lt hunit hsmall (by omega))
  rw [String.toList_append, List.append_assoc, item, whole?_count hcount hbegins]
  simp only [orMalformed, bind, Except.bind, pointed?_of_beginsUnit hbegins,
    takeWhile_run hchars hr.isUnitChar, hu, addUnit_eq_ok hunit hsmall h,
    dropWhile_run hchars hr.isUnitChar, pure, Except.pure]

theorem Says.exists_digit {p : String} {n : Nat} (hp : Says p n) :
    ∃ c cs, p.toList = c :: cs ∧ c.isDigit = true := by
  obtain @⟨count, name, u, hu, hsmall⟩ := hp
  obtain ⟨c, cs, hc⟩ := List.exists_cons_of_ne_nil (padded_ne_nil 0 count)
  have hdigits : (digitsText count).toList = padded 0 count := by
    simp [digitsText, ascii, padded, paddedDigits]
  refine ⟨c, cs ++ name.toList, ?_, isDigit_of_mem_padded (hc ▸ List.mem_cons_self)⟩
  rw [String.toList_append, hdigits, hc, List.cons_append]

/-- One step of the reader: a part is added, and the reader goes on behind the spaces if there is
something left. -/
theorem items_part {p : String} {n sum : Nat} (hp : Says p n)
    (h : sum + n < Nat.pow 2 64 * second) {rest : List Char} (hr : EndsPart rest) (fuel : Nat) :
    items (fuel + 1) sum (p.toList ++ rest) =
      if trimStart rest = [] then .ok (sum + n) else items fuel (sum + n) (trimStart rest) := by
  have hitem := item_part hp h hr
  obtain ⟨c, cs, hp, hc⟩ := hp.exists_digit
  rw [hp, List.cons_append] at hitem ⊢
  rw [items, if_pos hc, hitem]
  cases trimStart rest <;> rfl

/-! ## Texts -/

/-- Whether parts spell a number of nanoseconds: what they say adds up to it. -/
inductive Spells : List String → Nat → Prop
  | nil : Spells [] 0
  | cons {p : String} {ps : List String} {n m : Nat} (hp : Says p n) (hps : Spells ps m) :
    Spells (p :: ps) (n + m)

theorem Spells.of_eq {ps : List String} {n m : Nat} (hps : Spells ps n) (h : n = m) :
    Spells ps m :=
  h ▸ hps

theorem Spells.append {ps qs : List String} {n m : Nat} (hps : Spells ps n) (hqs : Spells qs m) :
    Spells (ps ++ qs) (n + m) := by
  induction hps with
  | nil =>
    rw [Nat.zero_add]
    exact hqs
  | cons hp hps ih =>
    rw [Nat.add_assoc]
    exact .cons hp ih

theorem toList_intercalate_cons (p q : String) (qs : List String) :
    (" ".intercalate (p :: q :: qs)).toList =
      p.toList ++ ' ' :: (" ".intercalate (q :: qs)).toList := by
  rw [String.intercalate_cons_cons, String.toList_append, String.toList_append, List.append_assoc]
  rfl

theorem Spells.exists_digit {ps : List String} {m : Nat} (hps : Spells ps m) (hne : ps ≠ []) :
    ∃ c cs, (" ".intercalate ps).toList = c :: cs ∧ c.isDigit = true := by
  cases hps with
  | nil => exact absurd rfl hne
  | @cons p ps n m hp hps =>
    obtain ⟨c, cs, hcs, hc⟩ := hp.exists_digit
    cases ps with
    | nil => exact ⟨c, cs, by rw [String.intercalate_singleton, hcs], hc⟩
    | cons q qs => exact ⟨c, _, by rw [toList_intercalate_cons, hcs, List.cons_append], hc⟩

/-- The reader adds what the parts of a text spell to any sum that leaves room for it. -/
theorem items_spells {ps : List String} {m : Nat} (hps : Spells ps m) (hne : ps ≠ [])
    {fuel sum : Nat} (h : sum + m < Nat.pow 2 64 * second)
    (hfuel : (" ".intercalate ps).toList.length < fuel) :
    items fuel sum (" ".intercalate ps).toList = .ok (sum + m) := by
  induction hps generalizing fuel sum with
  | nil => exact absurd rfl hne
  | @cons p ps n m hp hps ih =>
    obtain ⟨fuel, rfl⟩ : ∃ k, fuel = k + 1 := ⟨fuel - 1, by omega⟩
    cases ps with
    | nil =>
      cases hps
      have hend : EndsPart [] := by simp [EndsPart]
      have hitems := items_part hp h hend fuel
      rw [List.append_nil] at hitems
      rw [String.intercalate_singleton, hitems]
      rfl
    | cons q qs =>
      obtain ⟨c, cs, hcs, hc⟩ := hps.exists_digit (by simp)
      have hend : EndsPart (' ' :: (" ".intercalate (q :: qs)).toList) := by simp [EndsPart]
      have htrim : trimStart (' ' :: (" ".intercalate (q :: qs)).toList) =
          (" ".intercalate (q :: qs)).toList := by
        rw [hcs]
        exact trimStart_cons (isBlank_of_isDigit hc) cs
      rw [toList_intercalate_cons] at hfuel ⊢
      rw [List.length_append, List.length_cons] at hfuel
      rw [items_part hp (by omega) hend, htrim, if_neg (by simp [hcs]),
        ih (by simp) (by omega) (by omega), Nat.add_assoc]

/-! ## Durations -/

/-- A count of a unit spells what it says, also when it is zero and left out. -/
theorem spells_part {n : Nat} {name : String} {u : Unit} (hu : unit? name.toList = some u)
    (hsmall : u.step = 1 → n * u.nanos < second) : Spells (part n name) (n * u.nanos) := by
  unfold part
  split
  · next hzero =>
    rw [hzero, Nat.zero_mul]
    exact .nil
  · exact .cons (.intro n hu hsmall) .nil

/-- Both forms of a name have to be names of the unit. -/
theorem spells_pluralPart {n : Nat} {name : String} {u : Unit}
    (hone : unit? name.toList = some u) (hmany : unit? (name ++ "s").toList = some u)
    (hsmall : u.step = 1 → n * u.nanos < second) :
    Spells (pluralPart n name) (n * u.nanos) := by
  refine spells_part ?_ hsmall
  split
  · exact hmany
  · exact hone

/-- Seconds and nanoseconds are the sum of what they split into. -/
theorem split_add (s n : Nat) :
    s / 31557600 * 31557600000000000 + s % 31557600 / 2630016 * 2630016000000000 +
      s % 31557600 % 2630016 / 86400 * 86400000000000 +
      s % 31557600 % 2630016 % 86400 / 3600 * 3600000000000 +
      s % 31557600 % 2630016 % 86400 % 3600 / 60 * 60000000000 +
      s % 31557600 % 2630016 % 86400 % 60 * 1000000000 +
      n / 1000000 * 1000000 + n / 1000 % 1000 * 1000 + n % 1000 * 1 = s * 1000000000 + n := by
  omega

theorem spells_parts (d : Duration) : Spells (parts d) d.nanos := by
  have hnanos : d.subNanos < second := Nat.mod_lt _ (by decide)
  have hsplit : d.seconds * second + d.subNanos = d.nanos := Nat.div_add_mod' _ _
  unfold second at hnanos hsplit
  have hyear (n : Nat) : Spells (pluralPart n "year") (n * 31557600000000000) :=
    spells_pluralPart (u := units[9]) rfl rfl fun h => absurd h (by decide)
  have hmonth (n : Nat) : Spells (pluralPart n "month") (n * 2630016000000000) :=
    spells_pluralPart (u := units[8]) rfl rfl fun h => absurd h (by decide)
  have hday (n : Nat) : Spells (pluralPart n "day") (n * 86400000000000) :=
    spells_pluralPart (u := units[6]) rfl rfl fun h => absurd h (by decide)
  have hhour (n : Nat) : Spells (part n "h") (n * 3600000000000) :=
    spells_part (u := units[5]) rfl fun h => absurd h (by decide)
  have hminute (n : Nat) : Spells (part n "m") (n * 60000000000) :=
    spells_part (u := units[4]) rfl fun h => absurd h (by decide)
  have hsecond (n : Nat) : Spells (part n "s") (n * 1000000000) :=
    spells_part (u := units[3]) rfl fun h => absurd h (by decide)
  have hmilli (n : Nat) (hn : n < 1000) : Spells (part n "ms") (n * 1000000) :=
    spells_part (u := units[2]) rfl fun _ => Nat.mul_lt_mul_of_pos_right hn (by decide)
  have hmicro (n : Nat) (hn : n < 1000) : Spells (part n "us") (n * 1000) :=
    spells_part (u := units[1]) rfl fun _ =>
      Nat.lt_trans (Nat.mul_lt_mul_of_pos_right hn (by decide)) (by decide)
  have hnano (n : Nat) (hn : n < 1000) : Spells (part n "ns") (n * 1) :=
    spells_part (u := units[0]) rfl fun _ =>
      Nat.lt_trans (Nat.mul_lt_mul_of_pos_right hn (by decide)) (by decide)
  have hparts := (hyear (d.seconds / 31557600)).append
    (hmonth (d.seconds % 31557600 / 2630016)) |>.append
    (hday (d.seconds % 31557600 % 2630016 / 86400)) |>.append
    (hhour (d.seconds % 31557600 % 2630016 % 86400 / 3600)) |>.append
    (hminute (d.seconds % 31557600 % 2630016 % 86400 % 3600 / 60)) |>.append
    (hsecond (d.seconds % 31557600 % 2630016 % 86400 % 60)) |>.append
    (hmilli (d.subNanos / 1000000) (by omega)) |>.append
    (hmicro (d.subNanos / 1000 % 1000) (by omega)) |>.append
    (hnano (d.subNanos % 1000) (by omega))
  exact hparts.of_eq ((split_add _ _).trans hsplit)

theorem digitsText_zero : digitsText 0 = "0" := by
  rw [digitsText, digits]
  rfl

/-- What is written is a text of parts that spell the duration. -/
theorem exists_spells (d : Duration) :
    ∃ ps, ps ≠ [] ∧ Spells ps d.nanos ∧ write d = " ".intercalate ps := by
  unfold write
  split
  · next hzero =>
    have hsays : Says (digitsText 0 ++ "s") (0 * second) :=
      .intro 0 (u := units[3]) rfl fun h => absurd h (by decide)
    refine ⟨[digitsText 0 ++ "s"], List.cons_ne_nil _ _, ?_, ?_⟩
    · rw [hzero]
      exact .cons hsays .nil
    · rw [String.intercalate_singleton, digitsText_zero]
      rfl
  · next hpos =>
    refine ⟨parts d, fun hnil => hpos ?_, spells_parts d, rfl⟩
    have hps := spells_parts d
    rw [hnil] at hps
    generalize d.nanos = n at hps
    cases hps
    rfl

/-- **A written lifetime reads back**, to the nanosecond. -/
theorem read_write (d : Duration) : read (write d) = .ok d := by
  obtain ⟨ps, hne, hps, hwrite⟩ := exists_spells d
  obtain ⟨c, cs, hcs, hc⟩ := hps.exists_digit hne
  have hitems : items ((write d).toList.length + 1) 0 (write d).toList = .ok d.nanos := by
    rw [hwrite, items_spells hps hne (by rw [Nat.zero_add]; exact d.bounded) (Nat.lt_succ_self _),
      Nat.zero_add]
  have htrim : trimStart (write d).toList = (write d).toList := by
    rw [hwrite, hcs]
    exact trimStart_cons (isBlank_of_isDigit hc) cs
  have hunit : (write d).toList ≠ ['0'] := by
    intro hzero
    rw [hzero] at hitems
    exact absurd hitems (by simp [show items 2 0 ['0'] = .error .malformed from rfl])
  rw [read, if_neg hunit, htrim, hitems]
  simp [Except.bind, orMalformed]

/-- No days and no microseconds are written, and the months are more than one. -/
example : write ⟨36832338007000009, by decide⟩ = "1year 2months 4h 5m 6s 7ms 9ns" := by
  decide +kernel

end SessionTokens.Lifetime
