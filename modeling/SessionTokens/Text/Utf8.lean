/-!
# Bytes and text

Keys, values and token parts are byte strings; user-supplied fields are texts. This module
joins the two by UTF-8.

* `ofUtf8?_utf8`: **reading the bytes of a text gives the text back**.
* `lossy_utf8`: the lenient reader agrees with the strict one on every text.
-/

namespace SessionTokens

/-- A byte string. Byte strings are compared lexicographically, as `List` compares them. -/
abbrev Bytes := List UInt8

namespace Text

/-- The UTF-8 bytes of a text. -/
def utf8 (s : String) : Bytes := s.toUTF8.data.toList

/-- The text that a byte string encodes, if it is valid UTF-8. -/
def ofUtf8? (bs : Bytes) : Option String := String.fromUTF8? ⟨bs.toArray⟩

@[simp]
theorem ofUtf8?_utf8 (s : String) : ofUtf8? (utf8 s) = some s := by
  have h : (ByteArray.mk s.toUTF8.data.toList.toArray).IsValidUTF8 := s.isValidUTF8
  simp [ofUtf8?, utf8, String.fromUTF8?, String.fromUTF8]
  exact h

/-- The characters of ASCII bytes. -/
def asciiChars (bs : Bytes) : List Char := bs.map fun b => Char.ofNat b.toNat

/-- The text of ASCII bytes. -/
def ascii (bs : Bytes) : String := String.ofList (asciiChars bs)

/-! ## Lenient reading -/

/-- A continuation byte. -/
def isTail (b : UInt8) : Bool := 0x80 ≤ b && b ≤ 0xBF

/-- For a lead byte, how many bytes follow it and the range of the first of them. -/
def lead? (b : UInt8) : Option (Nat × UInt8 × UInt8) :=
  if 0xC2 ≤ b && b ≤ 0xDF then some (1, 0x80, 0xBF)
  else if b == 0xE0 then some (2, 0xA0, 0xBF)
  else if b == 0xED then some (2, 0x80, 0x9F)
  else if 0xE1 ≤ b && b ≤ 0xEF then some (2, 0x80, 0xBF)
  else if b == 0xF0 then some (3, 0x90, 0xBF)
  else if 0xF1 ≤ b && b ≤ 0xF3 then some (3, 0x80, 0xBF)
  else if b == 0xF4 then some (3, 0x80, 0x8F)
  else none

/-- How many of the bytes after a lead byte belong to the character that it begins. -/
def tailLength (need : Nat) (lo hi : UInt8) (bs : Bytes) : Nat :=
  match bs with
  | [] => 0
  | b :: rest =>
    if lo ≤ b && b ≤ hi then 1 + ((rest.take (need - 1)).takeWhile isTail).length else 0

/-- The texts of a byte string's characters, with U+FFFD for each longest piece that begins no
character. -/
def lossyPieces : Bytes → List String
  | [] => []
  | b :: rest =>
    if b < 0x80 then
      (Char.ofNat b.toNat).toString :: lossyPieces rest
    else
      match lead? b with
      | none => "\ufffd" :: lossyPieces rest
      | some (need, lo, hi) =>
        let n := tailLength need lo hi rest
        (if n == need then (ofUtf8? (b :: rest.take n)).getD "\ufffd" else "\ufffd")
          :: lossyPieces (rest.drop n)
termination_by bs => bs.length
decreasing_by
  all_goals
    simp only [List.length_cons, List.length_drop]
    omega

/-- Reads bytes as text; where they are no valid UTF-8, U+FFFD stands for the broken piece. -/
def lossy (bs : Bytes) : String := (ofUtf8? bs).getD (String.join (lossyPieces bs))

@[simp]
theorem lossy_utf8 (s : String) : lossy (utf8 s) = s := by
  simp [lossy]

end Text

end SessionTokens
