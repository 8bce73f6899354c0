import SessionTokens.Text.Utf8
/-!
# Decimal digits

* `ofDigits_digits`: **the digits of a number read back as that number**.
* `ofDigits?_digits`: the strict reader accepts what is written.
-/

namespace SessionTokens.Text

/-- An ASCII digit. -/
def isDigit (b : UInt8) : Bool := 0x30 ≤ b && b ≤ 0x39

/-- The ASCII code of a digit below ten. -/
def digit (n : Nat) : UInt8 := UInt8.ofNat (0x30 + n)

/-- The digits of a number, most significant first, without leading zeros. -/
def digits (n : Nat) : Bytes :=
  if n < 10 then [digit n] else digits (n / 10) ++ [digit (n % 10)]

/-- The number that a run of digits denotes. -/
def ofDigits (bs : Bytes) : Nat := bs.foldl (fun n b => 10 * n + (b.toNat - 0x30)) 0

/-- The number that a byte string denotes if it holds digits only, and at least one. -/
def ofDigits? (bs : Bytes) : Option Nat :=
  if !bs.isEmpty && bs.all isDigit then some (ofDigits bs) else none

/-- The digits of a number, with zeros in front up to a width. -/
def paddedDigits (width n : Nat) : Bytes :=
  List.replicate (width - (digits n).length) 0x30 ++ digits n

/-- The digits of a number as text. -/
def digitsText (n : Nat) : String := ascii (digits n)

theorem toNat_digit {n : Nat} (h : n < 10) : (digit n).toNat = 0x30 + n := by
  simp only [digit, UInt8.toNat_ofNat']
  omega

theorem isDigit_digit : ∀ n < 10, isDigit (digit n) = true := by decide

theorem ofDigits_digits (n : Nat) : ofDigits (digits n) = n := by
  fun_induction digits n with
  | case1 n h => simp [ofDigits, toNat_digit h]
  | case2 n h ih =>
    have h' : n % 10 < 10 := by omega
    rw [ofDigits, List.foldl_append, List.foldl_cons, List.foldl_nil, toNat_digit h']
    unfold ofDigits at ih
    rw [ih]
    omega

/-- Reading on never lowers the number that has been read. -/
theorem le_foldl_digits (ds : Bytes) (n : Nat) :
    n ≤ ds.foldl (fun n b => 10 * n + (b.toNat - 0x30)) n := by
  induction ds generalizing n with
  | nil => exact Nat.le_refl n
  | cons d ds ih =>
    have hgrown := ih (10 * n + (d.toNat - 0x30))
    rw [List.foldl_cons]
    omega

theorem all_isDigit_digits (n : Nat) : (digits n).all isDigit = true := by
  fun_induction digits n with
  | case1 n h => simp [isDigit_digit n h]
  | case2 n h ih => simp [List.all_append, ih, isDigit_digit (n % 10) (by omega)]

theorem digits_ne_nil (n : Nat) : digits n ≠ [] := by
  unfold digits
  split <;> simp

theorem ofDigits?_digits (n : Nat) : ofDigits? (digits n) = some n := by
  have h : (digits n).isEmpty = false := by simp [digits_ne_nil n]
  simp [ofDigits?, h, all_isDigit_digits n, ofDigits_digits n]

end SessionTokens.Text
