import SessionTokens.Json.Number
import SessionTokens.Json.Syntax
/-!
# Reading JSON values

The second step of reading: a value that is asked for is taken as a text, a whole number, a flag,
a choice among names, or a structure with named fields. Here the spelling of strings and numbers
is looked at; values that nobody asks for stay unread.

A structure may be written as an object, its members in any order, or as an array of its fields
in their order. `fields?` finds the fields either way.

* `text?_text`, `int?_int`: **what is written as a text or a number reads back**.
-/

namespace SessionTokens.Json

/-! ## Writing -/

/-- A text as a JSON string. -/
def text (s : String) : Json := .string (escape (Text.utf8 s))

/-- A whole number, with a sign if it is negative. -/
def int (n : Int) : Json :=
  .number (if n < 0 then 0x2D :: Text.digits n.natAbs else Text.digits n.natAbs)

/-- An object from its members in order. -/
def ofFields (fields : List (String × Json)) : Json :=
  .object (fields.map fun f => (escape (Text.utf8 f.1), f.2))

/-- A value, or `null`. -/
def optional (f : α → Json) : Option α → Json
  | none => .null
  | some a => f a

/-! ## Single values -/

/-- The text of a written string, if its escapes and its UTF-8 are sound. -/
def rawText? (raw : Bytes) : Option String := (unescape? raw).bind Text.ofUtf8?

/-- The text that a value is. -/
def text? : Json → Option String
  | .string raw => rawText? raw
  | _ => none

/-- The flag that a value is. -/
def bool? : Json → Option Bool
  | .bool b => some b
  | _ => none

/-- The whole number that a value is: digits alone, or digits after a minus sign that are not a
lone zero. A point, an exponent or a string makes it no whole number. -/
def int? : Json → Option Int
  | .number (0x2D :: ds) =>
    match Text.ofDigits? ds with
    | some 0 => none
    | some n => some (-n)
    | none => none
  | .number ds => (Text.ofDigits? ds).map Int.ofNat
  | _ => none

/-- A whole number between two limits. -/
def intIn? (lo hi : Int) (v : Json) : Option Int :=
  match v.int? with
  | some n => if lo ≤ n && n ≤ hi then some n else none
  | none => none

/-- A whole number of sixty-four bits with a sign. -/
def int64? : Json → Option Int := intIn? (-0x8000000000000000) 0x7FFFFFFFFFFFFFFF

/-- The elements of an array. -/
def items? : Json → Option (List Json)
  | .array vs => some vs
  | _ => none

/-- A choice among names: the name as a string, or an object whose only member has that name and
the value `null`. -/
def choice? : Json → Option String
  | .string raw => rawText? raw
  | .object [(k, .null)] => rawText? k
  | _ => none

/-- A choice as `choice?` reads it, where an empty object may stand for the `null`. -/
def looseChoice? : Json → Option String
  | .object [(k, .object [])] => rawText? k
  | v => v.choice?

/-! ## What is written reads back -/

@[simp]
theorem rawText?_escape (s : String) : rawText? (escape (Text.utf8 s)) = some s := by
  simp [rawText?, unescape?_escape]

@[simp]
theorem text?_text (s : String) : (text s).text? = some s := rawText?_escape s

theorem ne_minus_of_isDigit {b : UInt8} (h : Text.isDigit b = true) : b ≠ 0x2D := by
  rintro rfl
  exact absurd h (by decide)

@[simp]
theorem int?_int (n : Int) : (int n).int? = some n := by
  have hd := Text.ofDigits?_digits n.natAbs
  unfold int
  split
  · next h =>
    have hn : n.natAbs ≠ 0 := by omega
    simp only [int?, hd]
    congr 1
    omega
  · next h =>
    have hm : ∀ ds, Text.digits n.natAbs ≠ 0x2D :: ds := by
      intro ds h'
      have := Text.all_isDigit_digits n.natAbs
      rw [h', List.all_cons, Bool.and_eq_true] at this
      exact ne_minus_of_isDigit this.1 rfl
    rw [int?]
    · rw [hd, Option.map_some]
      exact congrArg some (Int.natAbs_of_nonneg (by omega))
    · exact hm

/-! ## Structures -/

/-- The members of an object with their names read. -/
def named? (members : List (Bytes × Json)) : Option (List (String × Json)) :=
  members.mapM fun m => (rawText? m.1).map fun k => (k, m.2)

/-- The member of a given name: `some none` if there is none, `none` if there are two. -/
def only? (members : List (String × Json)) (name : String) : Option (Option Json) :=
  match members.filter fun m => m.1 == name with
  | [] => some none
  | [m] => some (some m.2)
  | _ => none

/-- The fields of a structure in the order of `names`, each with its value if it is given.

From an object: no known member may come twice, and with `sealed` no other member may occur.
From an array: as many values as there are names, or fewer down to `least`. -/
def fields? (names : List String) (sealed : Bool) (least : Nat) : Json → Option (List (Option Json))
  | .object ms => do
    let ms ← named? ms
    if sealed && !(ms.all fun m => names.contains m.1) then none
    else names.mapM (only? ms)
  | .array vs =>
    if least ≤ vs.length && vs.length ≤ names.length then
      some (vs.map some ++ List.replicate (names.length - vs.length) none)
    else none
  | _ => none

/-- A field that has to be given. -/
def needed? (read : Json → Option α) (field : Option Json) : Option α := field.bind read

/-- A field that may be missing or `null`. -/
def perhaps? (read : Json → Option α) : Option Json → Option (Option α)
  | none => some none
  | some .null => some none
  | some v => (read v).map some

/-- A field with a value of its own when it is missing. -/
def orElse? (fallback : α) (read : Json → Option α) : Option Json → Option α
  | none => some fallback
  | some v => read v

/-! ## Reading in full -/

mutual

/-- Whether a value can be read in full with a given number of nested arrays and objects to
spare: its strings are sound, its numbers fit a double, its nesting is bounded. -/
def readable (depth : Nat) : Json → Bool
  | .null => true
  | .bool _ => true
  | .number literal => !overflows literal
  | .string raw => (rawText? raw).isSome
  | .array vs =>
    match depth with
    | 0 => false
    | d + 1 => readableItems d vs
  | .object ms =>
    match depth with
    | 0 => false
    | d + 1 => readableMembers d ms

/-- Whether every element can be read in full. -/
def readableItems (depth : Nat) : List Json → Bool
  | [] => true
  | v :: vs => readable depth v && readableItems depth vs

/-- Whether every member can be read in full. -/
def readableMembers (depth : Nat) : List (Bytes × Json) → Bool
  | [] => true
  | (k, v) :: ms => (rawText? k).isSome && readable depth v && readableMembers depth ms

end

/-- How many arrays and objects may be nested in a value that is read in full. -/
def maxDepth : Nat := 127

/-- The members of an object whose values are all read in full. -/
def openMembers? (depth : Nat) : Json → Option (List (String × Json))
  | .object ms => if readable depth (.object ms) then named? ms else none
  | _ => none

end SessionTokens.Json
