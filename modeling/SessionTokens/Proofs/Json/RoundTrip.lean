import SessionTokens.Json.Read
import SessionTokens.Proofs.Text.Ascii
import SessionTokens.Proofs.Text.Trim
/-!
# Reading what was written

**Theorem (`parse?_render`).** A value whose strings are escaped bytes and whose numbers are whole
is read back from its written form.

The reader works with a bound on its depth, the writer does not. The induction is therefore over the
value, for every bound of at least twice the length of the written form and for every text behind it
that does not go on with a number.
-/

namespace SessionTokens.Json

open Text

/-! ## Strings -/

theorem stringEnd?_unicode {a b c d : UInt8} (h : (unit? a b c d).isSome = true) (rest : Bytes) :
    stringEnd? (0x5C :: 0x75 :: a :: b :: c :: d :: rest) =
      (stringEnd? rest).map fun p => (0x5C :: 0x75 :: a :: b :: c :: d :: p.1, p.2) := by
  rw [stringEnd?, if_pos h]

theorem stringEnd?_short {b : UInt8} (h : (shortEscape? b).isSome = true) (rest : Bytes) :
    stringEnd? (0x5C :: b :: rest) =
      (stringEnd? rest).map fun p => (0x5C :: b :: p.1, p.2) := by
  have hb : b ≠ 0x75 := by
    rintro rfl
    exact absurd h (by decide)
  rw [stringEnd?]
  · simp [h]
  · intro _ _ _ _ _ h' _
    exact hb h'

theorem stringEnd?_plain {b : UInt8} (hq : b ≠ quote) (hb : b ≠ backslash)
    (hc : isControl b = false) (rest : Bytes) :
    stringEnd? (b :: rest) = (stringEnd? rest).map fun p => (b :: p.1, p.2) := by
  rw [stringEnd?]
  · simp [hb, hc]
  · intro h
    exact hq h
  · intro _ _ _ _ _ h
    exact absurd h hb
  · intro _ _ h
    exact absurd h hb

theorem stringEnd?_escapeByte (b : UInt8) (rest : Bytes) :
    stringEnd? (escapeByte b ++ rest) =
      (stringEnd? rest).map fun p => (escapeByte b ++ p.1, p.2) := by
  unfold escapeByte
  split
  · exact stringEnd?_short (by decide) rest
  split
  · exact stringEnd?_short (by decide) rest
  split
  · exact stringEnd?_short (by decide) rest
  split
  · exact stringEnd?_short (by decide) rest
  split
  · exact stringEnd?_short (by decide) rest
  split
  · exact stringEnd?_short (by decide) rest
  split
  · exact stringEnd?_short (by decide) rest
  split
  · have hu : (unit? 0x30 0x30 (hexDigit (b.toNat / 16)) (hexDigit (b.toNat % 16))).isSome := by
      rw [unit?_hex]
      rfl
    exact stringEnd?_unicode hu rest
  · next hq hb _ _ _ _ _ hc =>
    exact stringEnd?_plain (by simpa [quote] using hq) (by simpa [backslash] using hb)
      (by simpa using hc) rest

theorem stringEnd?_escape (bs rest : Bytes) :
    stringEnd? (escape bs ++ quote :: rest) = some (escape bs, rest) := by
  induction bs with
  | nil => rfl
  | cons b bs ih =>
    rw [show escape (b :: bs) = escapeByte b ++ escape bs from rfl, List.append_assoc,
      stringEnd?_escapeByte, ih]
    rfl

/-! ## Numbers -/

/-- A byte that may stand behind a whole number without becoming part of it. -/
def endsNumber (b : UInt8) : Bool := !isDigit b && b != 0x2E && b != 0x65 && b != 0x45

/-- A text that does not go on with a number. -/
def EndsNumber (rest : Bytes) : Prop := ∀ b ∈ rest.head?, endsNumber b = true

theorem digits_eq_zero_cons {n : Nat} {rest : Bytes} (h : digits n = 0x30 :: rest) : rest = [] := by
  induction n using Nat.strongRecOn generalizing rest with
  | _ n ih =>
    unfold digits at h
    split at h
    · simpa using (List.cons.inj h).2.symm
    · next hn =>
      -- The first digit of a longer number is that of its tenth, so a zero leads down to zero.
      cases hd : digits (n / 10) with
      | nil => exact absurd hd (digits_ne_nil _)
      | cons d ds =>
        rw [hd, List.cons_append] at h
        obtain ⟨rfl, -⟩ := List.cons.inj h
        have hds := ih (n / 10) (by omega) hd
        subst hds
        have hz := ofDigits_digits (n / 10)
        rw [hd] at hz
        have : n / 10 = 0 := by
          rw [← hz]
          decide
        omega

theorem digitRun?_digits (n : Nat) {rest : Bytes} (h : ∀ b ∈ rest.head?, isDigit b = false) :
    digitRun? (digits n ++ rest) = some (digits n, rest) := by
  have hall : ∀ b ∈ digits n, isDigit b = true := by
    simpa using all_isDigit_digits n
  unfold digitRun?
  rw [takeWhile_run hall h, dropWhile_run hall h]
  cases hd : digits n with
  | nil => exact absurd hd (digits_ne_nil n)
  | cons d ds => rfl

theorem wholeRun?_digits (n : Nat) {rest : Bytes} (h : ∀ b ∈ rest.head?, isDigit b = false) :
    wholeRun? (digits n ++ rest) = some (digits n, rest) := by
  unfold wholeRun?
  split
  · next heq =>
    cases hd : digits n with
    | nil => exact absurd hd (digits_ne_nil n)
    | cons d ds =>
      rw [hd, List.cons_append] at heq
      obtain ⟨rfl, rfl⟩ := List.cons.inj heq
      rw [digits_eq_zero_cons hd]
      rfl
  · exact digitRun?_digits n h

theorem EndsNumber.isDigit {rest : Bytes} (h : EndsNumber rest) :
    ∀ b ∈ rest.head?, isDigit b = false := by
  intro b hb
  have := h b hb
  simp only [endsNumber, Bool.and_eq_true, Bool.not_eq_true'] at this
  exact this.1.1.1

theorem fractionRun?_of_endsNumber {rest : Bytes} (h : EndsNumber rest) :
    fractionRun? rest = some ([], rest) := by
  unfold fractionRun?
  split
  · next tail =>
    exact absurd (h 0x2E (by simp)) (by decide)
  · rfl

theorem exponentRun?_of_endsNumber {rest : Bytes} (h : EndsNumber rest) :
    exponentRun? rest = some ([], rest) := by
  cases rest with
  | nil => rfl
  | cons b rest =>
    have hb := h b (by simp)
    simp only [endsNumber, Bool.and_eq_true, bne_iff_ne] at hb
    simp [exponentRun?, hb.1.2, hb.2]

/-- The written form of a whole number. -/
def literal (n : Int) : Bytes :=
  if n < 0 then 0x2D :: digits n.natAbs else digits n.natAbs

theorem numberRun?_literal (n : Int) {rest : Bytes} (h : EndsNumber rest) :
    numberRun? (literal n ++ rest) = some (literal n, rest) := by
  have hw := wholeRun?_digits n.natAbs h.isDigit
  have hf := fractionRun?_of_endsNumber h
  have he := exponentRun?_of_endsNumber h
  unfold literal
  split
  · simp [numberRun?, minusRun, hw, hf, he]
  · have hm : minusRun (digits n.natAbs ++ rest) = ([], digits n.natAbs ++ rest) := by
      unfold minusRun
      split
      · next heq =>
        cases hd : digits n.natAbs with
        | nil => exact absurd hd (digits_ne_nil _)
        | cons d ds =>
          rw [hd, List.cons_append] at heq
          obtain ⟨rfl, -⟩ := List.cons.inj heq
          have := all_isDigit_digits n.natAbs
          rw [hd, List.all_cons, Bool.and_eq_true] at this
          exact absurd rfl (ne_minus_of_isDigit this.1)
      · rfl
    simp [numberRun?, hm, hw, hf, he]

theorem literal_eq_cons (n : Int) :
    ∃ b rest, literal n = b :: rest ∧ (b = 0x2D ∨ isDigit b = true) := by
  unfold literal
  split
  · exact ⟨_, _, rfl, .inl rfl⟩
  · cases hd : digits n.natAbs with
    | nil => exact absurd hd (digits_ne_nil _)
    | cons d ds =>
      have := all_isDigit_digits n.natAbs
      rw [hd, List.all_cons, Bool.and_eq_true] at this
      exact ⟨d, ds, rfl, .inr this.1⟩

/-! ## Values -/

mutual

/-- Whether all strings in a value are escaped bytes and all numbers are whole. -/
def Regular : Json → Prop
  | .null => True
  | .bool _ => True
  | .number l => ∃ n, l = literal n
  | .string raw => ∃ bs, raw = escape bs
  | .array vs => RegularItems vs
  | .object ms => RegularMembers ms

/-- Whether all elements are regular. -/
def RegularItems : List Json → Prop
  | [] => True
  | v :: vs => Regular v ∧ RegularItems vs

/-- Whether all members are regular, and their names escaped bytes. -/
def RegularMembers : List (Bytes × Json) → Prop
  | [] => True
  | (k, v) :: ms => (∃ bs, k = escape bs) ∧ Regular v ∧ RegularMembers ms

end

theorem skip_cons {b : UInt8} (h : isBlank b = false) (rest : Bytes) :
    skip (b :: rest) = b :: rest := by
  simp [skip, h]

/-- The bytes that can stand at the start of a written value. -/
def startsValue (b : UInt8) : Bool :=
  isDigit b || [0x22, 0x5B, 0x7B, 0x6E, 0x74, 0x66, 0x2D].contains b

theorem isBlank_of_startsValue {b : UInt8} (h : startsValue b = true) : isBlank b = false := by
  have hall : ∀ n < 256, startsValue (UInt8.ofNat n) = true → isBlank (UInt8.ofNat n) = false := by
    decide +kernel
  have := hall b.toNat b.toNat_lt
  rw [UInt8.ofNat_toNat] at this
  exact this h

theorem render_eq_cons {v : Json} (h : v.Regular) :
    ∃ b rest, v.render = b :: rest ∧ startsValue b = true := by
  cases v with
  | null => exact ⟨_, _, rfl, by decide⟩
  | bool b => cases b <;> exact ⟨_, _, rfl, by decide⟩
  | string raw => exact ⟨_, _, rfl, by decide⟩
  | array vs => exact ⟨_, _, rfl, by decide⟩
  | object ms => exact ⟨_, _, rfl, by decide⟩
  | number l =>
    obtain ⟨n, rfl⟩ := h
    obtain ⟨b, rest, hl, hb⟩ := literal_eq_cons n
    refine ⟨b, rest, hl, ?_⟩
    rcases hb with rfl | hb
    · decide
    · simp [startsValue, hb]

theorem renderItems_eq_cons {v : Json} {vs : List Json} (hv : RegularItems (v :: vs)) :
    ∃ b rest, renderItems (v :: vs) = b :: rest ∧ startsValue b = true := by
  obtain ⟨b, rest, hb, hs⟩ := render_eq_cons hv.1
  cases vs with
  | nil => exact ⟨b, rest, hb, hs⟩
  | cons w ws =>
    refine ⟨b, rest ++ 0x2C :: renderItems (w :: ws), ?_, hs⟩
    rw [renderItems, hb, List.cons_append]
    exact List.cons_ne_nil w ws

theorem renderMembers_eq_cons (m : Bytes × Json) (ms : List (Bytes × Json)) :
    ∃ rest, renderMembers (m :: ms) = quote :: rest := by
  obtain ⟨k, v⟩ := m
  cases ms with
  | nil => exact ⟨_, rfl⟩
  | cons m ms => exact ⟨_, rfl⟩

theorem valueAt?_number {b : UInt8} (hb : b = 0x2D ∨ isDigit b = true) (n : Nat) (rest : Bytes) :
    valueAt? (n + 1) (b :: rest) = (numberRun? (b :: rest)).map fun p => (.number p.1, p.2) := by
  have hs : startsValue b = true := by
    rcases hb with rfl | hb
    · decide
    · simp [startsValue, hb]
  have hne : ∀ c, isDigit c = false → c ≠ 0x2D → b ≠ c := by
    rintro c hc hm rfl
    rcases hb with rfl | hb
    · exact hm rfl
    · rw [hc] at hb
      cases hb
  have h1 := hne 0x22 (by decide) (by decide)
  have h2 := hne 0x5B (by decide) (by decide)
  have h3 := hne 0x7B (by decide) (by decide)
  have h4 := hne 0x6E (by decide) (by decide)
  have h5 := hne 0x74 (by decide) (by decide)
  have h6 := hne 0x66 (by decide) (by decide)
  unfold valueAt?
  rw [skip_cons (isBlank_of_startsValue hs)]
  split <;> simp_all

theorem valueAt?_array {b : UInt8} (hb : startsValue b = true) (n : Nat) (text : Bytes) :
    valueAt? (n + 1) (0x5B :: b :: text) =
      (itemsAt? n (b :: text)).map fun p => (.array p.1, p.2) := by
  have hne : b ≠ 0x5D := by
    rintro rfl
    exact absurd hb (by decide)
  rw [valueAt?, skip_cons (by decide)]
  simp only [skip_cons (isBlank_of_startsValue hb)]
  split
  · next h => exact absurd (List.cons.inj h).1 hne
  · rfl

theorem valueAt?_object (n : Nat) (text : Bytes) :
    valueAt? (n + 1) (0x7B :: quote :: text) =
      (membersAt? n (quote :: text)).map fun p => (.object p.1, p.2) := rfl

theorem itemsAt?_one {n : Nat} {text rest : Bytes} {v : Json}
    (h : valueAt? n text = some (v, 0x5D :: rest)) : itemsAt? (n + 1) text = some ([v], rest) := by
  rw [itemsAt?, h]
  rfl

theorem itemsAt?_more {n : Nat} {text rest : Bytes} {v : Json}
    (h : valueAt? n text = some (v, 0x2C :: rest)) :
    itemsAt? (n + 1) text = (itemsAt? n rest).map fun p => (v :: p.1, p.2) := by
  rw [itemsAt?, h]
  rfl

theorem membersAt?_one {n : Nat} {text text' rest : Bytes} {k : Bytes} {v : Json}
    (hk : stringEnd? text = some (k, 0x3A :: text'))
    (hv : valueAt? n text' = some (v, 0x7D :: rest)) :
    membersAt? (n + 1) (quote :: text) = some ([(k, v)], rest) := by
  rw [quote, membersAt?, skip_cons (by decide)]
  simp only [hk, skip_cons (show isBlank 0x3A = false by decide), hv,
    skip_cons (show isBlank 0x7D = false by decide)]

theorem membersAt?_more {n : Nat} {text text' rest : Bytes} {k : Bytes} {v : Json}
    (hk : stringEnd? text = some (k, 0x3A :: text'))
    (hv : valueAt? n text' = some (v, 0x2C :: rest)) :
    membersAt? (n + 1) (quote :: text) =
      (membersAt? n rest).map fun p => ((k, v) :: p.1, p.2) := by
  rw [quote, membersAt?, skip_cons (by decide)]
  simp only [hk, skip_cons (show isBlank 0x3A = false by decide), hv,
    skip_cons (show isBlank 0x2C = false by decide)]

theorem endsNumber_cons {b : UInt8} (h : endsNumber b = true) (rest : Bytes) :
    EndsNumber (b :: rest) := by
  intro c hc
  obtain rfl : b = c := by simpa using hc
  exact h

mutual

theorem valueAt?_render {v : Json} (hv : v.Regular) {n : Nat} (hn : 2 * v.render.length ≤ n)
    {rest : Bytes} (hr : EndsNumber rest) : valueAt? n (v.render ++ rest) = some (v, rest) := by
  match v, n with
  | v, 0 =>
    obtain ⟨b, tail, hb, -⟩ := render_eq_cons hv
    simp [hb] at hn
  | .null, n + 1 => rfl
  | .bool true, n + 1 => rfl
  | .bool false, n + 1 => rfl
  | .number l, n + 1 =>
    obtain ⟨k, rfl⟩ := hv
    obtain ⟨b, tail, hl, hb⟩ := literal_eq_cons k
    have hk := numberRun?_literal k hr
    rw [render]
    rw [hl, List.cons_append] at hk ⊢
    rw [valueAt?_number hb, hk, Option.map_some]
  | .string raw, n + 1 =>
    obtain ⟨bs, rfl⟩ := hv
    have hs := stringEnd?_escape bs rest
    rw [render, List.cons_append, List.cons_append, List.append_assoc, List.singleton_append]
    unfold quote at hs ⊢
    rw [valueAt?, skip_cons (by decide)]
    simp only [hs, Option.map_some]
  | .array [], n + 1 => rfl
  | .array (w :: ws), n + 1 =>
    obtain ⟨b, tail, hb, hs⟩ := renderItems_eq_cons hv
    have hi := itemsAt?_render hv (List.cons_ne_nil w ws) (n := n)
      (by simp [render] at hn; omega) rest
    rw [render, List.cons_append, List.cons_append, List.append_assoc, List.singleton_append]
    rw [hb, List.cons_append] at hi ⊢
    rw [valueAt?_array hs, hi, Option.map_some]
  | .object [], n + 1 => rfl
  | .object ((k, w) :: ms), n + 1 =>
    have hm := membersAt?_render hv (List.cons_ne_nil (k, w) ms) (n := n)
      (by simp [render] at hn; omega) rest
    obtain ⟨tail, ht⟩ := renderMembers_eq_cons (k, w) ms
    rw [render, List.cons_append, List.cons_append, List.append_assoc, List.singleton_append]
    rw [ht, List.cons_append] at hm ⊢
    rw [valueAt?_object, hm, Option.map_some]

theorem itemsAt?_render {vs : List Json} (hv : RegularItems vs) (hne : vs ≠ []) {n : Nat}
    (hn : 2 * (renderItems vs).length + 1 ≤ n) (rest : Bytes) :
    itemsAt? n (renderItems vs ++ 0x5D :: rest) = some (vs, rest) := by
  match vs, n with
  | [], _ => exact absurd rfl hne
  | [v], n + 1 =>
    exact itemsAt?_one (valueAt?_render hv.1 (by simp [renderItems] at hn; omega)
      (endsNumber_cons (by decide) rest))
  | v :: w :: ws, n + 1 =>
    have hlen : (renderItems (v :: w :: ws)).length =
        v.render.length + 1 + (renderItems (w :: ws)).length := by
      simp [renderItems]
      omega
    have h1 := valueAt?_render hv.1 (n := n) (by omega)
      (endsNumber_cons (b := 0x2C) (by decide) (renderItems (w :: ws) ++ 0x5D :: rest))
    have h2 := itemsAt?_render hv.2 (List.cons_ne_nil w ws) (n := n) (by omega) rest
    rw [renderItems, List.append_assoc, List.cons_append]
    · rw [itemsAt?_more h1, h2, Option.map_some]
    · exact List.cons_ne_nil w ws

theorem membersAt?_render {ms : List (Bytes × Json)} (hm : RegularMembers ms) (hne : ms ≠ [])
    {n : Nat} (hn : 2 * (renderMembers ms).length + 1 ≤ n) (rest : Bytes) :
    membersAt? n (renderMembers ms ++ 0x7D :: rest) = some (ms, rest) := by
  match ms, n with
  | [], _ => exact absurd rfl hne
  | [(k, v)], n + 1 =>
    obtain ⟨⟨bs, rfl⟩, hv, -⟩ := hm
    have h1 := valueAt?_render hv (n := n) (by simp [renderMembers] at hn; omega)
      (endsNumber_cons (b := 0x7D) (by decide) rest)
    have hs := stringEnd?_escape bs (0x3A :: (v.render ++ 0x7D :: rest))
    simp only [renderMembers, List.cons_append, List.append_assoc]
    exact membersAt?_one hs h1
  | (k, v) :: m :: ms, n + 1 =>
    obtain ⟨⟨bs, rfl⟩, hv, hms⟩ := hm
    have hlen : (renderMembers ((escape bs, v) :: m :: ms)).length =
        (escape bs).length + v.render.length + 4 + (renderMembers (m :: ms)).length := by
      simp [renderMembers]
      omega
    have h1 := valueAt?_render hv (n := n) (by omega)
      (endsNumber_cons (b := 0x2C) (by decide) (renderMembers (m :: ms) ++ 0x7D :: rest))
    have h2 := membersAt?_render hms (List.cons_ne_nil m ms) (n := n) (by omega) rest
    have hs := stringEnd?_escape bs (0x3A :: (v.render ++ 0x2C :: (renderMembers (m :: ms)
      ++ 0x7D :: rest)))
    simp only [renderMembers, List.cons_append, List.append_assoc]
    rw [membersAt?_more hs h1, h2, Option.map_some]

end

/-- **A written value reads back.** -/
theorem parse?_render {v : Json} (hv : v.Regular) : parse? v.render = some v := by
  have hr : EndsNumber [] := by simp [EndsNumber]
  have h := valueAt?_render hv (n := 2 * v.render.length + 1) (by omega) hr
  rw [List.append_nil] at h
  rw [parse?, h]
  rfl

/-! ## What is written -/

theorem regular_text (s : String) : (text s).Regular := ⟨_, rfl⟩

theorem regular_int (n : Int) : (int n).Regular := ⟨n, rfl⟩

theorem regularItems_iff {vs : List Json} : RegularItems vs ↔ ∀ v ∈ vs, v.Regular := by
  induction vs with
  | nil => simp [RegularItems]
  | cons v vs ih => simp [RegularItems, ih]

theorem regular_array {vs : List Json} (h : ∀ v ∈ vs, v.Regular) : (array vs).Regular :=
  regularItems_iff.2 h

theorem regular_ofFields {fields : List (String × Json)} (h : ∀ f ∈ fields, f.2.Regular) :
    (ofFields fields).Regular := by
  show RegularMembers _
  induction fields with
  | nil => trivial
  | cons f fields ih =>
    exact ⟨⟨_, rfl⟩, h f List.mem_cons_self, ih fun g hg => h g (List.mem_cons_of_mem _ hg)⟩

theorem regular_optional {α : Type} {f : α → Json} (h : ∀ a, (f a).Regular) (o : Option α) :
    (optional f o).Regular := by
  cases o with
  | none => trivial
  | some a => exact h a

end SessionTokens.Json
