import SessionTokens.Text.Decimal
/-!
# Sizes of JSON numbers

A number that is read in full has to fit a double of sixty-four bits. Whether it does is found in
doubles: as many of its digits are taken as stay below 2⁶⁴, they are multiplied with a power of
ten, and the product must not be infinite. Each factor is rounded before, so this differs from the
exact size at the very limit.
-/

namespace SessionTokens.Json

/-- A whole number with all but its first 53 bits rounded off; a half goes to the even neighbour. -/
def roundToDouble (n : Nat) : Nat :=
  if n < Nat.pow 2 53 then n
  else
    let unit := Nat.pow 2 (Nat.log2 n - 52)
    let kept := n / unit
    let doubled := 2 * (n % unit)
    if unit < doubled || (unit = doubled && kept % 2 = 1) then (kept + 1) * unit else kept * unit

/-- The least number that is rounded to infinity. -/
def doubleLimit : Nat := Nat.pow 2 1024 - Nat.pow 2 970

/-- The largest power of ten that a double can hold. -/
def maxTenPower : Int := 308

/-- A number grown by digits as long as it stays below 2⁶⁴, and the digits that are left. -/
def takeDigits (n : Nat) : Bytes → Nat × Bytes
  | [] => (n, [])
  | d :: rest =>
    let grown := 10 * n + (d.toNat - 0x30)
    if grown < Nat.pow 2 64 then takeDigits grown rest else (n, d :: rest)

/-- The exponent that is written behind a number. -/
def exponentOf : Bytes → Int
  | 0x2D :: ds => -(Text.ofDigits ds : Int)
  | 0x2B :: ds => Text.ofDigits ds
  | ds => Text.ofDigits ds

/-- The digits of a number that are taken, as one number, and the power of ten that they are
multiplied with. Digits before the point that are not taken count in the power, digits behind it
are dropped. -/
def decimal (literal : Bytes) : Nat × Int :=
  let isMark (b : UInt8) : Bool := b == 0x65 || b == 0x45
  let unsigned := literal.dropWhile (· == 0x2D)
  let mantissa := unsigned.takeWhile fun b => !isMark b
  let whole := mantissa.takeWhile Text.isDigit
  let fraction := mantissa.drop (whole.length + 1)
  let (n, skipped) := takeDigits 0 whole
  let (n, dropped) := takeDigits n fraction
  let taken := fraction.length - dropped.length
  (n, exponentOf ((unsigned.dropWhile fun b => !isMark b).drop 1) + skipped.length - taken)

/-- Whether a number is too large for a double. -/
def overflows (literal : Bytes) : Bool :=
  let (n, power) := decimal literal
  if n = 0 || power < 0 then false
  else if maxTenPower < power then true
  else doubleLimit ≤ roundToDouble n * roundToDouble (Nat.pow 10 power.toNat)

end SessionTokens.Json
