import SessionTokens.Endian
import SessionTokens.Hash.Sha512
import SessionTokens.Key.PrivateKeyInfo
import SessionTokens.Signature.Modular
/-!
# Ed25519

Signatures of RFC 8032 on the twisted Edwards curve −x² + y² = 1 + d·x²·y² modulo 2²⁵⁵ − 19.

**Points.** A point is held in extended coordinates (X : Y : Z : T) with x = X/Z, y = Y/Z and
T = X·Y/Z, for which one addition law serves all pairs of points.

**Leniency.** A public key may spell its y coordinate in any way that is right modulo the prime,
and may carry the sign bit of x = 0. The signature's number has to be in its reduced form, and the
point has to be spelled as it is computed.
-/

namespace SessionTokens.Edwards

/-- The prime of the field. -/
def prime : Nat := Nat.pow 2 255 - 19

/-- The order of the base point. -/
def order : Nat := Nat.pow 2 252 + 27742317777372353535851937790883648493

/-- The constant of the curve: −121665/121666. -/
def d : Nat := 37095705934669439343138083508754565189542113879843219016388785533085940283555

/-- A square root of −1. -/
def rootOfMinusOne : Nat :=
  19681161376707505956807079304988542015446066515923890162744021073123829784752

/-- A point in extended coordinates. -/
structure Point where
  x : Nat
  y : Nat
  z : Nat
  t : Nat
deriving DecidableEq, Repr

/-- The neutral point. -/
def Point.zero : Point := ⟨0, 1, 1, 0⟩

/-- The base point. -/
def Point.base : Point :=
  ⟨15112221349535400772501151409588531511454012693041857206046113283949847762202,
   46316835694926478169428394003475163141307993866256225615783033603165251855960, 1,
   46827403850823179245072216630277197565144205554125654976674165829533817101731⟩

/-- The difference of two field elements. -/
def sub (a b : Nat) : Nat := Modular.sub prime a b

/-- The sum of two points. -/
def Point.add (p q : Point) : Point :=
  let a := sub p.y p.x * sub q.y q.x % prime
  let b := (p.y + p.x) * (q.y + q.x) % prime
  let c := p.t * (2 * d) % prime * q.t % prime
  let e := p.z * 2 * q.z % prime
  let f := sub b a
  let g := sub e c
  let h := (e + c) % prime
  let i := (b + a) % prime
  ⟨f * g % prime, h * i % prime, g * h % prime, f * i % prime⟩

/-- A multiple of a point, by doubling. -/
def Point.times (n : Nat) (p : Point) : Point :=
  if n = 0 then zero
  else
    let rest := times (n / 2) (p.add p)
    if n % 2 = 1 then p.add rest else rest
termination_by n

/-- The point with x negated. -/
def Point.negate (p : Point) : Point := ⟨sub 0 p.x, p.y, p.z, sub 0 p.t⟩

/-- The 32 bytes of a point: y, and the lowest bit of x as the highest bit. -/
def Point.encode (p : Point) : Bytes :=
  let zi := Modular.inverse prime p.z
  let x := p.x * zi % prime
  let y := p.y * zi % prime
  Endian.little 32 (y + Nat.pow 2 255 * (x % 2))

/-- The even square root of u/v, if there is one. -/
def rootOfQuotient? (u v : Nat) : Option Nat :=
  let v3 := v * v % prime * v % prime
  let v7 := v3 * v3 % prime * v % prime
  let r := u * v3 % prime * Modular.power prime (u * v7 % prime) ((prime - 5) / 8) % prime
  let check := v * (r * r % prime) % prime
  let even (r : Nat) : Nat := if r % 2 = 0 then r else prime - r
  if check = u then some (even r)
  else if check = sub 0 u then some (even (r * rootOfMinusOne % prime))
  else none

/-- The point of 32 bytes. -/
def Point.decode? (bs : Bytes) : Option Point :=
  if bs.length = 32 then do
    let n := Endian.ofLittle bs
    let y := n % Nat.pow 2 255 % prime
    let x ← rootOfQuotient? (sub (y * y % prime) 1) ((d * (y * y % prime) + 1) % prime)
    let x := if n / Nat.pow 2 255 = 1 then sub 0 x else x
    some ⟨x, y, 1, x * y % prime⟩
  else none

/-- The number of a hash, modulo the order of the base point. -/
def scalar (bs : Bytes) : Nat := Endian.ofLittle (sha512 bs) % order

/-- The secret number of a seed: bits of its hash, with the highest and the lowest ones fixed. -/
def secret (seed : Bytes) : Nat :=
  let n := Endian.ofLittle ((sha512 seed).take 32)
  n / 8 % Nat.pow 2 251 * 8 + Nat.pow 2 254

/-- The public key of a seed. -/
def publicKey (seed : Bytes) : Bytes := (Point.base.times (secret seed)).encode

/-- The signature of a message with the key of a seed. -/
def sign (seed message : Bytes) : Bytes :=
  let key := publicKey seed
  let r := scalar ((sha512 seed).drop 32 ++ message)
  let point := (Point.base.times r).encode
  let s := (r + scalar (point ++ key ++ message) * secret seed) % order
  point ++ Endian.little 32 s

/-- Whether a signature is one of a message under the key at a point, whose bytes are given. -/
def verifyAt (a : Point) (key message signature : Bytes) : Bool :=
  let point := signature.take 32
  let s := Endian.ofLittle (signature.drop 32)
  if signature.length ≠ 64 || order ≤ s then false
  else
    let k := scalar (point ++ key ++ message)
    ((Point.base.times s).add (a.negate.times k)).encode == point

/-! ## Private keys in PKCS #8 -/

/-- The algorithm identifier of Ed25519 keys, without parameters. -/
def algorithmId : Bytes := [0x06, 0x03, 0x2B, 0x65, 0x70]

/-- The private key of a seed of 32 bytes, without its public key. -/
def privateKey (seed : Bytes) : Bytes :=
  [0x30, 0x2E, 0x02, 0x01, 0x00, 0x30, 0x05] ++ algorithmId ++ [0x04, 0x22, 0x04, 0x20] ++ seed

/-- The seed of a private key. A public key that it carries has to belong to it. -/
def seed? (der : Bytes) : Option Bytes := do
  let k ← PrivateKeyInfo.read? der
  let seed ← Der.exactly? 0x04 k.key
  if k.algorithm = algorithmId && seed.length = 32 && k.carried.all (· = publicKey seed) then
    some seed
  else none

end SessionTokens.Edwards
