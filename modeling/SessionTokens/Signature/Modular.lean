/-!
# Modular arithmetic

What the signature schemes share: powers, differences and inverses modulo a number.
-/

namespace SessionTokens.Modular

/-- The power of a base modulo `m`, by squaring. -/
def power (m b e : Nat) : Nat :=
  if e = 0 then 1 % m
  else
    let rest := power m (b * b % m) (e / 2)
    if e % 2 = 1 then b * rest % m else rest
termination_by e

/-- The difference of two numbers modulo `m`. -/
def sub (m a b : Nat) : Nat := (a + (m - b % m)) % m

/-- The inverse of a number modulo a prime. -/
def inverse (p a : Nat) : Nat := power p a (p - 2)

/-- The greatest common divisor of two numbers, and one of the two factors that make it up: with
factors `s` and `t` of two numbers to start with. -/
def divisor (a b : Nat) (s t : Int) : Nat × Int :=
  if b = 0 then (a, s) else divisor b (a % b) t (s - (a / b : Nat) * t)
termination_by b
decreasing_by exact Nat.mod_lt _ (by omega)

/-- The inverse of a number modulo any other, if the two have no common divisor. -/
def inverse? (m a : Nat) : Option Nat :=
  let (g, s) := divisor (a % m) m 1 0
  if g = 1 then some (s % m).toNat else none

end SessionTokens.Modular
