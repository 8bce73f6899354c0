import SessionTokens.Text.Utf8
/-!
# Base64

Grant lists and snapshot entries are written in the standard alphabet with padding; token parts
and bare public keys in the URL alphabet without padding. Reading is strict: no other symbol, the
exact padding, and no bits left over.

* `decode?_encode`: **what is written reads back**, in either alphabet and for every length.
-/

namespace SessionTokens

/-- The two alphabets of RFC 4648: `standard` pads to groups of four, `url` does not pad. -/
inductive Base64
  | standard
  | url
deriving DecidableEq, Repr

namespace Base64

/-- The padding symbol. -/
def pad : UInt8 := 0x3D

/-- Whether the last group is filled up to four symbols. -/
def padded : Base64 → Bool
  | standard => true
  | url => false

/-- The symbol of a value below sixty-four. -/
def symbol (a : Base64) (n : Nat) : UInt8 :=
  if n < 26 then UInt8.ofNat (0x41 + n)
  else if n < 52 then UInt8.ofNat (0x61 + (n - 26))
  else if n < 62 then UInt8.ofNat (0x30 + (n - 52))
  else match a, n == 62 with
    | standard, true => 0x2B
    | standard, false => 0x2F
    | url, true => 0x2D
    | url, false => 0x5F

/-- The value of a symbol. -/
def value? (a : Base64) (b : UInt8) : Option Nat :=
  if 0x41 ≤ b && b ≤ 0x5A then some (b.toNat - 0x41)
  else if 0x61 ≤ b && b ≤ 0x7A then some (b.toNat - 0x61 + 26)
  else if 0x30 ≤ b && b ≤ 0x39 then some (b.toNat - 0x30 + 52)
  else match a with
    | standard => if b == 0x2B then some 62 else if b == 0x2F then some 63 else none
    | url => if b == 0x2D then some 62 else if b == 0x5F then some 63 else none

theorem value?_symbol (a : Base64) : ∀ n < 64, value? a (symbol a n) = some n := by
  cases a <;> decide

theorem symbol_ne_pad (a : Base64) : ∀ n < 64, symbol a n ≠ pad := by
  cases a <;> decide

/-- The padding after a last group of one or two bytes. -/
def filler (a : Base64) (n : Nat) : Bytes := if a.padded then List.replicate n pad else []

/-- Writes bytes in groups of three, four symbols for each. -/
def encode (a : Base64) : Bytes → Bytes
  | [] => []
  | [x] =>
    a.symbol (x.toNat / 4) :: a.symbol (x.toNat % 4 * 16) :: a.filler 2
  | [x, y] =>
    a.symbol (x.toNat / 4) :: a.symbol (x.toNat % 4 * 16 + y.toNat / 16)
      :: a.symbol (y.toNat % 16 * 4) :: a.filler 1
  | x :: y :: z :: rest =>
    a.symbol (x.toNat / 4) :: a.symbol (x.toNat % 4 * 16 + y.toNat / 16)
      :: a.symbol (y.toNat % 16 * 4 + z.toNat / 64) :: a.symbol (z.toNat % 64)
      :: encode a rest

/-- The byte of a last group of two symbols. -/
def lastTwo? (a : Base64) (p q : UInt8) : Option Bytes :=
  match a.value? p, a.value? q with
  | some p, some q => if q % 16 = 0 then some [UInt8.ofNat (p * 4 + q / 16)] else none
  | _, _ => none

/-- The bytes of a last group of three symbols. -/
def lastThree? (a : Base64) (p q r : UInt8) : Option Bytes :=
  match a.value? p, a.value? q, a.value? r with
  | some p, some q, some r =>
    if r % 4 = 0 then some [UInt8.ofNat (p * 4 + q / 16), UInt8.ofNat (q % 16 * 16 + r / 4)]
    else none
  | _, _, _ => none

/-- Reads symbols, refusing every spelling that `encode` does not write. -/
def decode? (a : Base64) : Bytes → Option Bytes
  | [] => some []
  | [_] => none
  | [p, q] => if a.padded then none else a.lastTwo? p q
  | [p, q, r] => if a.padded then none else a.lastThree? p q r
  | p :: q :: r :: s :: rest =>
    if a.padded && s == pad then
      if !rest.isEmpty then none
      else if r == pad then a.lastTwo? p q else a.lastThree? p q r
    else
      match a.value? p, a.value? q, a.value? r, a.value? s, decode? a rest with
      | some p, some q, some r, some s, some bs =>
        some (UInt8.ofNat (p * 4 + q / 16) :: UInt8.ofNat (q % 16 * 16 + r / 4)
          :: UInt8.ofNat (r % 4 * 64 + s) :: bs)
      | _, _, _, _, _ => none

theorem lastTwo?_symbols (a : Base64) (x : UInt8) :
    a.lastTwo? (a.symbol (x.toNat / 4)) (a.symbol (x.toNat % 4 * 16)) = some [x] := by
  have hx : x.toNat < 256 := x.toNat_lt
  have h : x.toNat / 4 * 4 + x.toNat % 4 * 16 / 16 = x.toNat := by omega
  have h' : x.toNat % 4 * 16 % 16 = 0 := by omega
  rw [lastTwo?, value?_symbol a _ (by omega), value?_symbol a _ (by omega)]
  simp only [h, h', if_true, UInt8.ofNat_toNat]

theorem lastThree?_symbols (a : Base64) (x y : UInt8) :
    a.lastThree? (a.symbol (x.toNat / 4)) (a.symbol (x.toNat % 4 * 16 + y.toNat / 16))
      (a.symbol (y.toNat % 16 * 4)) = some [x, y] := by
  have hx : x.toNat < 256 := x.toNat_lt
  have hy : y.toNat < 256 := y.toNat_lt
  have h1 : x.toNat / 4 * 4 + (x.toNat % 4 * 16 + y.toNat / 16) / 16 = x.toNat := by omega
  have h2 : (x.toNat % 4 * 16 + y.toNat / 16) % 16 * 16 + y.toNat % 16 * 4 / 4 = y.toNat := by
    omega
  have h3 : y.toNat % 16 * 4 % 4 = 0 := by omega
  rw [lastThree?, value?_symbol a _ (by omega), value?_symbol a _ (by omega),
    value?_symbol a _ (by omega)]
  simp only [h1, h2, h3, if_true, UInt8.ofNat_toNat]

theorem decode?_encode (a : Base64) (bs : Bytes) : a.decode? (a.encode bs) = some bs := by
  fun_induction encode a bs with
  | case1 => rfl
  | case2 x =>
    cases a
    · exact lastTwo?_symbols .standard x
    · exact lastTwo?_symbols .url x
  | case3 x y =>
    cases a
    · have hy : y.toNat < 256 := y.toNat_lt
      have h := symbol_ne_pad .standard (y.toNat % 16 * 4) (by omega)
      have h' : (standard.symbol (y.toNat % 16 * 4) == pad) = false := by simpa using h
      have hd : ∀ p q r, standard.decode? [p, q, r, pad] =
          if r == pad then standard.lastTwo? p q else standard.lastThree? p q r := fun _ _ _ => rfl
      simp only [filler, padded, if_true, List.replicate, hd, h', Bool.false_eq_true, if_false,
        lastThree?_symbols]
    · exact lastThree?_symbols .url x y
  | case4 x y z rest ih =>
    have hx : x.toNat < 256 := x.toNat_lt
    have hy : y.toNat < 256 := y.toNat_lt
    have hz : z.toNat < 256 := z.toNat_lt
    have h := symbol_ne_pad a (z.toNat % 64) (by omega)
    have h' : (a.symbol (z.toNat % 64) == pad) = false := by simpa using h
    have h1 : x.toNat / 4 * 4 + (x.toNat % 4 * 16 + y.toNat / 16) / 16 = x.toNat := by omega
    have h2 : (x.toNat % 4 * 16 + y.toNat / 16) % 16 * 16 + (y.toNat % 16 * 4 + z.toNat / 64) / 4
        = y.toNat := by omega
    have h3 : (y.toNat % 16 * 4 + z.toNat / 64) % 4 * 64 + z.toNat % 64 = z.toNat := by omega
    simp only [decode?, h', Bool.and_false, Bool.false_eq_true, if_false, ih,
      value?_symbol a _ (show x.toNat / 4 < 64 by omega),
      value?_symbol a _ (show x.toNat % 4 * 16 + y.toNat / 16 < 64 by omega),
      value?_symbol a _ (show y.toNat % 16 * 4 + z.toNat / 64 < 64 by omega),
      value?_symbol a _ (show z.toNat % 64 < 64 by omega), h1, h2, h3, UInt8.ofNat_toNat]

end Base64

end SessionTokens
