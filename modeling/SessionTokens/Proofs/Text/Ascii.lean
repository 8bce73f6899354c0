import Mathlib.Tactic.Common
import SessionTokens.Base64
import SessionTokens.Text.Decimal
/-!
# ASCII texts

Base64 and decimal digits are written with ASCII bytes only. Such bytes and the text that they
spell are two forms of one thing.

* `utf8_ascii`: **the bytes of an ASCII text are the bytes that it was made from**.
* `all_encode`: **what holds of every base64 symbol holds of all base64**, so base64 is ASCII.
-/

namespace SessionTokens.Text

/-- A byte that is an ASCII character by itself. -/
def isAscii (b : UInt8) : Bool := b < 0x80

theorem utf8EncodeChar_ofNat :
    ∀ n < 0x80, String.utf8EncodeChar (Char.ofNat n) = [UInt8.ofNat n] := by
  decide +kernel

theorem utf8EncodeChar_of_isAscii {b : UInt8} (h : isAscii b = true) :
    String.utf8EncodeChar (Char.ofNat b.toNat) = [b] := by
  have hb : b.toNat < 0x80 := by simpa [isAscii, UInt8.lt_iff_toNat_lt] using h
  rw [utf8EncodeChar_ofNat _ hb, UInt8.ofNat_toNat]

theorem utf8_ofList (cs : List Char) :
    utf8 (String.ofList cs) = cs.flatMap String.utf8EncodeChar := by
  show (String.ofList cs).toByteArray.data.toList = _
  rw [String.toByteArray_ofList, List.utf8Encode, List.toList_data_toByteArray]

/-- **The bytes of an ASCII text are the bytes that it was made from.** -/
theorem utf8_ascii {bs : Bytes} (h : bs.all isAscii = true) : utf8 (ascii bs) = bs := by
  rw [ascii, utf8_ofList, asciiChars]
  induction bs with
  | nil => rfl
  | cons b rest ih =>
    rw [List.all_cons, Bool.and_eq_true] at h
    rw [List.map_cons, List.flatMap_cons, utf8EncodeChar_of_isAscii h.1, ih h.2]
    rfl

end SessionTokens.Text

namespace SessionTokens.Base64

open Text

/-- What holds of every symbol and of the padding holds of all that is written. -/
theorem all_encode {p : UInt8 → Bool} {a : Base64} (hs : ∀ n < 64, p (a.symbol n) = true)
    (hp : p pad = true) (bs : Bytes) : (a.encode bs).all p = true := by
  have hf : ∀ n, (a.filler n).all p = true := by
    intro n
    unfold filler
    split <;> simp [hp]
  fun_induction encode a bs with
  | case1 => rfl
  | case2 x =>
    have hx : x.toNat < 256 := x.toNat_lt
    simp only [List.all_cons, Bool.and_eq_true, hf, and_true]
    exact ⟨hs _ (by omega), hs _ (by omega)⟩
  | case3 x y =>
    have hx : x.toNat < 256 := x.toNat_lt
    have hy : y.toNat < 256 := y.toNat_lt
    simp only [List.all_cons, Bool.and_eq_true, hf, and_true]
    exact ⟨hs _ (by omega), hs _ (by omega), hs _ (by omega)⟩
  | case4 x y z rest ih =>
    have hx : x.toNat < 256 := x.toNat_lt
    have hy : y.toNat < 256 := y.toNat_lt
    have hz : z.toNat < 256 := z.toNat_lt
    simp only [List.all_cons, Bool.and_eq_true, ih, and_true]
    exact ⟨hs _ (by omega), hs _ (by omega), hs _ (by omega), hs _ (by omega)⟩

/-- Base64 is ASCII. -/
theorem all_isAscii_encode (a : Base64) (bs : Bytes) : (a.encode bs).all isAscii = true :=
  all_encode (by cases a <;> decide) (by decide) bs

end SessionTokens.Base64
