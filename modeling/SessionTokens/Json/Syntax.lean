import SessionTokens.Text.Decimal
import SessionTokens.Text.Hex
/-!
# JSON syntax

A JSON text is read in two steps. This module does the first: it finds the structure of the text
and leaves the insides of strings and numbers as they are written. A value that nobody asks for
is never looked at more closely, so an ignored member may hold any well-formed value.

* `parse?` reads a whole text, `render` writes one without blanks.
* `escape` and `unescape?` lead from the bytes of a string to its written form and back;
  `unescape?_escape`: **an escaped string unescapes to itself**.
-/

namespace SessionTokens

/-- A JSON value as written: numbers and strings keep their spelling. -/
inductive Json
  | null
  | bool (b : Bool)
  | number (literal : Bytes)
  | string (raw : Bytes)
  | array (items : List Json)
  | object (members : List (Bytes × Json))

namespace Json

/-! ## Strings -/

/-- The quotation mark. -/
def quote : UInt8 := 0x22

/-- The backslash, which begins an escape. -/
def backslash : UInt8 := 0x5C

/-- A control character, which no string may hold unescaped. -/
def isControl (b : UInt8) : Bool := b < 0x20

/-- The written form of one byte inside a string. -/
def escapeByte (b : UInt8) : Bytes :=
  if b == 0x22 then [0x5C, 0x22]
  else if b == 0x5C then [0x5C, 0x5C]
  else if b == 0x08 then [0x5C, 0x62]
  else if b == 0x09 then [0x5C, 0x74]
  else if b == 0x0A then [0x5C, 0x6E]
  else if b == 0x0C then [0x5C, 0x66]
  else if b == 0x0D then [0x5C, 0x72]
  else if isControl b then [0x5C, 0x75, 0x30, 0x30] ++ Text.hex [b]
  else [b]

/-- The written form of a string: quotation marks, backslashes and control characters are
escaped, all else stands for itself. -/
def escape (bs : Bytes) : Bytes := bs.flatMap escapeByte

/-- The byte of an escape of one letter. -/
def shortEscape? (b : UInt8) : Option UInt8 :=
  if b == 0x22 || b == 0x5C || b == 0x2F then some b
  else if b == 0x62 then some 0x08
  else if b == 0x74 then some 0x09
  else if b == 0x6E then some 0x0A
  else if b == 0x66 then some 0x0C
  else if b == 0x72 then some 0x0D
  else none

/-- The number of four hexadecimal digits. -/
def unit? (a b c d : UInt8) : Option Nat :=
  match Text.hexValue? a, Text.hexValue? b, Text.hexValue? c, Text.hexValue? d with
  | some a, some b, some c, some d => some (((a * 16 + b) * 16 + c) * 16 + d)
  | _, _, _, _ => none

/-- The UTF-8 bytes of a code point. -/
def scalarBytes (n : Nat) : Bytes := Text.utf8 (Char.ofNat n).toString

/-- The bytes that a written string stands for; `none` if an escape is malformed or leaves half
of a surrogate pair alone. -/
def unescape? : Bytes → Option Bytes
  | [] => some []
  | 0x5C :: 0x75 :: a :: b :: c :: d :: 0x5C :: 0x75 :: e :: f :: g :: h :: rest =>
    match unit? a b c d with
    | none => none
    | some hi =>
      if 0xD800 ≤ hi && hi ≤ 0xDBFF then
        match unit? e f g h with
        | none => none
        | some lo =>
          if 0xDC00 ≤ lo && lo ≤ 0xDFFF then
            (unescape? rest).map
              (scalarBytes (0x10000 + (hi - 0xD800) * 0x400 + (lo - 0xDC00)) ++ ·)
          else none
      else if 0xDC00 ≤ hi && hi ≤ 0xDFFF then none
      else (unescape? (0x5C :: 0x75 :: e :: f :: g :: h :: rest)).map (scalarBytes hi ++ ·)
  | 0x5C :: 0x75 :: a :: b :: c :: d :: rest =>
    match unit? a b c d with
    | none => none
    | some n =>
      if 0xD800 ≤ n && n ≤ 0xDFFF then none
      else (unescape? rest).map (scalarBytes n ++ ·)
  | 0x5C :: b :: rest =>
    match shortEscape? b with
    | none => none
    | some c => (unescape? rest).map (c :: ·)
  | b :: rest => if b == backslash then none else (unescape? rest).map (b :: ·)

/-- The part of a text before a string's closing quotation mark, and the part after it; `none` if
the string is not closed, holds a control character or a malformed escape. -/
def stringEnd? : Bytes → Option (Bytes × Bytes)
  | [] => none
  | 0x22 :: rest => some ([], rest)
  | 0x5C :: 0x75 :: a :: b :: c :: d :: rest =>
    if (unit? a b c d).isSome then
      (stringEnd? rest).map fun p => (0x5C :: 0x75 :: a :: b :: c :: d :: p.1, p.2)
    else none
  | 0x5C :: b :: rest =>
    if (shortEscape? b).isSome then
      (stringEnd? rest).map fun p => (0x5C :: b :: p.1, p.2)
    else none
  | b :: rest =>
    if isControl b || b == backslash then none
    else (stringEnd? rest).map fun p => (b :: p.1, p.2)

/-! ### Escaping and unescaping -/

theorem unit?_hex (b : UInt8) :
    unit? 0x30 0x30 (Text.hexDigit (b.toNat / 16)) (Text.hexDigit (b.toNat % 16)) =
      some b.toNat := by
  have hb : b.toNat < 256 := b.toNat_lt
  have h : Text.hexValue? 0x30 = some 0 := by decide
  simp only [unit?, h, Text.hexValue?_hexDigit _ (show b.toNat / 16 < 16 by omega),
    Text.hexValue?_hexDigit _ (show b.toNat % 16 < 16 by omega)]
  congr 1
  omega

theorem scalarBytes_control : ∀ n < 0x20, scalarBytes n = [UInt8.ofNat n] := by
  decide +kernel

theorem unescape?_unicode {a b c d : UInt8} {n : Nat} (h : unit? a b c d = some n)
    (hn : n < 0xD800) (rest : Bytes) :
    unescape? (0x5C :: 0x75 :: a :: b :: c :: d :: rest) =
      (unescape? rest).map (scalarBytes n ++ ·) := by
  have h1 : ¬ 0xD800 ≤ n := by omega
  have h2 : ¬ 0xDC00 ≤ n := by omega
  by_cases hr : ∃ e f g i r, rest = 0x5C :: 0x75 :: e :: f :: g :: i :: r
  · obtain ⟨e, f, g, i, r, rfl⟩ := hr
    rw [unescape?]
    simp [h, h1, h2]
  · rw [unescape?]
    · simp [h, h1]
    · intro e f g i r hr'
      exact hr ⟨e, f, g, i, r, hr'⟩

theorem unescape?_short {b c : UInt8} (h : shortEscape? b = some c) (rest : Bytes) :
    unescape? (0x5C :: b :: rest) = (unescape? rest).map (c :: ·) := by
  have hb : b ≠ 0x75 := by
    rintro rfl
    simp [shortEscape?] at h
  rw [unescape?]
  · simp [h]
  · intro _ _ _ _ _ _ _ _ _ h' _
    exact hb h'
  · intro _ _ _ _ _ h' _
    exact hb h'

theorem unescape?_plain {b : UInt8} (h : b ≠ backslash) (rest : Bytes) :
    unescape? (b :: rest) = (unescape? rest).map (b :: ·) := by
  rw [unescape?]
  · simp [h]
  all_goals
    intros
    exact h (by assumption)

theorem unescape?_escapeByte (b : UInt8) (rest : Bytes) :
    unescape? (escapeByte b ++ rest) = (unescape? rest).map (b :: ·) := by
  unfold escapeByte
  split
  · next h => rw [eq_of_beq h]; exact unescape?_short (by decide) rest
  split
  · next h => rw [eq_of_beq h]; exact unescape?_short (by decide) rest
  split
  · next h => rw [eq_of_beq h]; exact unescape?_short (by decide) rest
  split
  · next h => rw [eq_of_beq h]; exact unescape?_short (by decide) rest
  split
  · next h => rw [eq_of_beq h]; exact unescape?_short (by decide) rest
  split
  · next h => rw [eq_of_beq h]; exact unescape?_short (by decide) rest
  split
  · next h => rw [eq_of_beq h]; exact unescape?_short (by decide) rest
  split
  · next h =>
    have hb : b.toNat < 0x20 := by simpa [isControl, UInt8.lt_iff_toNat_lt] using h
    have hu := unescape?_unicode (unit?_hex b) (by omega) rest
    rw [scalarBytes_control _ hb, UInt8.ofNat_toNat] at hu
    exact hu
  · next _ h _ _ _ _ _ _ => exact unescape?_plain (by simpa [backslash] using h) rest

theorem unescape?_escape (bs : Bytes) : unescape? (escape bs) = some bs := by
  induction bs with
  | nil => rfl
  | cons b bs ih =>
    rw [show escape (b :: bs) = escapeByte b ++ escape bs from rfl, unescape?_escapeByte, ih]
    rfl

/-! ## Numbers -/

/-- The leading digits, of which there has to be one, and the rest. -/
def digitRun? (bs : Bytes) : Option (Bytes × Bytes) :=
  match bs.takeWhile Text.isDigit with
  | [] => none
  | ds => some (ds, bs.dropWhile Text.isDigit)

/-- The digits of a number's whole part: a lone zero, or digits that begin with another. -/
def wholeRun? (bs : Bytes) : Option (Bytes × Bytes) :=
  match bs with
  | 0x30 :: rest => some ([0x30], rest)
  | _ => digitRun? bs

/-- The fraction of a number with its point, or nothing. -/
def fractionRun? (bs : Bytes) : Option (Bytes × Bytes) :=
  match bs with
  | 0x2E :: rest => (digitRun? rest).map fun p => (0x2E :: p.1, p.2)
  | _ => some ([], bs)

/-- The sign of an exponent, or nothing. -/
def exponentSign (bs : Bytes) : Bytes × Bytes :=
  match bs with
  | b :: rest => if b == 0x2B || b == 0x2D then ([b], rest) else ([], bs)
  | [] => ([], [])

/-- The exponent of a number with its letter, or nothing. -/
def exponentRun? (bs : Bytes) : Option (Bytes × Bytes) :=
  match bs with
  | b :: rest =>
    if b == 0x65 || b == 0x45 then
      let s := exponentSign rest
      (digitRun? s.2).map fun p => (b :: s.1 ++ p.1, p.2)
    else some ([], bs)
  | [] => some ([], [])

/-- The sign of a number, or nothing. -/
def minusRun (bs : Bytes) : Bytes × Bytes :=
  match bs with
  | 0x2D :: rest => ([0x2D], rest)
  | _ => ([], bs)

/-- The number at the start of a text, as written, and the rest. -/
def numberRun? (bs : Bytes) : Option (Bytes × Bytes) := do
  let s := minusRun bs
  let w ← wholeRun? s.2
  let f ← fractionRun? w.2
  let e ← exponentRun? f.2
  some (s.1 ++ w.1 ++ f.1 ++ e.1, e.2)

/-! ## Values -/

/-- The characters allowed between tokens: space, tab, line feed, carriage return. -/
def isBlank (b : UInt8) : Bool := b == 0x20 || b == 0x09 || b == 0x0A || b == 0x0D

/-- Without the blanks in front. -/
def skip (bs : Bytes) : Bytes := bs.dropWhile isBlank

/-- The rest of a text that begins with a given word. -/
def after? (word bs : Bytes) : Option Bytes :=
  if word.isPrefixOf bs then some (bs.drop word.length) else none

mutual

/-- The value at the start of a text, blanks in front skipped, and the rest. The first argument
bounds the depth of the recursion; the length of the text is enough. -/
def valueAt? : Nat → Bytes → Option (Json × Bytes)
  | 0, _ => none
  | n + 1, bs =>
    match skip bs with
    | [] => none
    | 0x22 :: rest => (stringEnd? rest).map fun p => (.string p.1, p.2)
    | 0x5B :: rest =>
      match skip rest with
      | 0x5D :: rest => some (.array [], rest)
      | rest => (itemsAt? n rest).map fun p => (.array p.1, p.2)
    | 0x7B :: rest =>
      match skip rest with
      | 0x7D :: rest => some (.object [], rest)
      | rest => (membersAt? n rest).map fun p => (.object p.1, p.2)
    | 0x6E :: rest => (after? [0x75, 0x6C, 0x6C] rest).map fun r => (.null, r)
    | 0x74 :: rest => (after? [0x72, 0x75, 0x65] rest).map fun r => (.bool true, r)
    | 0x66 :: rest => (after? [0x61, 0x6C, 0x73, 0x65] rest).map fun r => (.bool false, r)
    | b :: rest => (numberRun? (b :: rest)).map fun p => (.number p.1, p.2)

/-- The elements of an array up to its closing bracket, at least one. -/
def itemsAt? : Nat → Bytes → Option (List Json × Bytes)
  | 0, _ => none
  | n + 1, bs =>
    match valueAt? n bs with
    | none => none
    | some (v, rest) =>
      match skip rest with
      | 0x2C :: rest => (itemsAt? n rest).map fun p => (v :: p.1, p.2)
      | 0x5D :: rest => some ([v], rest)
      | _ => none

/-- The members of an object up to its closing brace, at least one. -/
def membersAt? : Nat → Bytes → Option (List (Bytes × Json) × Bytes)
  | 0, _ => none
  | n + 1, bs =>
    match skip bs with
    | 0x22 :: rest =>
      match stringEnd? rest with
      | none => none
      | some (k, rest) =>
        match skip rest with
        | 0x3A :: rest =>
          match valueAt? n rest with
          | none => none
          | some (v, rest) =>
            match skip rest with
            | 0x2C :: rest => (membersAt? n rest).map fun p => ((k, v) :: p.1, p.2)
            | 0x7D :: rest => some ([(k, v)], rest)
            | _ => none
        | _ => none
    | _ => none

end

/-- Reads a whole text: one value, with blanks around it and nothing else. -/
def parse? (bs : Bytes) : Option Json :=
  match valueAt? (2 * bs.length + 1) bs with
  | some (v, rest) => if (skip rest).isEmpty then some v else none
  | none => none

mutual

/-- The written form of a value, without blanks. -/
def render : Json → Bytes
  | .null => [0x6E, 0x75, 0x6C, 0x6C]
  | .bool true => [0x74, 0x72, 0x75, 0x65]
  | .bool false => [0x66, 0x61, 0x6C, 0x73, 0x65]
  | .number literal => literal
  | .string raw => quote :: raw ++ [quote]
  | .array vs => 0x5B :: renderItems vs ++ [0x5D]
  | .object ms => 0x7B :: renderMembers ms ++ [0x7D]

/-- The written forms of an array's elements, with commas between. -/
def renderItems : List Json → Bytes
  | [] => []
  | [v] => render v
  | v :: vs => render v ++ 0x2C :: renderItems vs

/-- The written forms of an object's members, with commas between. -/
def renderMembers : List (Bytes × Json) → Bytes
  | [] => []
  | [(k, v)] => quote :: k ++ quote :: 0x3A :: render v
  | (k, v) :: ms => quote :: k ++ quote :: 0x3A :: render v ++ 0x2C :: renderMembers ms

end

end Json

end SessionTokens
