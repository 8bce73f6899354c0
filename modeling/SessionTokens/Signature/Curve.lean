import SessionTokens.Hash.Sha256
import SessionTokens.Hash.Sha512
import SessionTokens.Key.PrivateKeyInfo
import SessionTokens.Signature.Modular
import SessionTokens.Signature.Nonce
/-!
# ECDSA

Signatures of FIPS 186 on the curves P-256 and P-384, y² = x³ − 3·x + b modulo a prime. A
signature is the two numbers r and s, of the curve's width each.

**Points.** Inside, a point is held in Jacobian coordinates: x = X/Z², y = Y/Z³, and Z = 0 is the
point at infinity.

**The nonce.** It is found from the secret number and the message's digest (`Generator.nonce?`), so
signing is a function. Verifying does not depend on how the nonce was found.
-/

namespace SessionTokens.Ecdsa

/-- A curve, its base point, its width in bytes, and the hash of its signatures with the length of
the blocks that it takes in. -/
structure Curve where
  prime : Nat
  order : Nat
  b : Nat
  baseX : Nat
  baseY : Nat
  width : Nat
  identifier : Bytes
  digest : Bytes → Bytes
  blockBytes : Nat

/-- The curve P-256, with SHA-256. -/
def p256 : Curve where
  prime := 0xFFFFFFFF00000001000000000000000000000000FFFFFFFFFFFFFFFFFFFFFFFF
  order := 0xFFFFFFFF00000000FFFFFFFFFFFFFFFFBCE6FAADA7179E84F3B9CAC2FC632551
  b := 0x5AC635D8AA3A93E7B3EBBD55769886BC651D06B0CC53B0F63BCE3C3E27D2604B
  baseX := 0x6B17D1F2E12C4247F8BCE6E563A440F277037D812DEB33A0F4A13945D898C296
  baseY := 0x4FE342E2FE1A7F9B8EE7EB4A7C0F9E162BCE33576B315ECECBB6406837BF51F5
  width := 32
  identifier := [0x06, 0x08, 0x2A, 0x86, 0x48, 0xCE, 0x3D, 0x03, 0x01, 0x07]
  digest := sha256
  blockBytes := Sha2.variant256.blockBytes

/-- The curve P-384, with SHA-384. -/
def p384 : Curve where
  prime := Nat.pow 2 384 - Nat.pow 2 128 - Nat.pow 2 96 + Nat.pow 2 32 - 1
  order := Nat.pow 2 384 - 0x389CB27E0BC8D220A7E5F24DB74F58851313E695333AD68D
  b := 0xB3312FA7E23EE7E4988E056BE3F82D19181D9C6EFE8141120314088F5013875AC656398D8A2ED19D2A85C8EDD3EC2AEF
  baseX := 0xAA87CA22BE8B05378EB1C71EF320AD746E1D3B628BA79B9859F741E082542A385502F25DBF55296C3A545E3872760AB7
  baseY := 0x3617DE4A96262C6F5D9E98BF9292DC29F8F41DBD289A147CE9DA3113B5F0B8C00A60B1CE1D7E819D7A431D7C90EA0E5F
  width := 48
  identifier := [0x06, 0x05, 0x2B, 0x81, 0x04, 0x00, 0x22]
  digest := sha384
  blockBytes := Sha2.variant384.blockBytes

/-- A point in Jacobian coordinates. -/
structure Point where
  x : Nat
  y : Nat
  z : Nat
deriving DecidableEq, Repr

/-- The point at infinity. -/
def Point.infinity : Point := ⟨1, 1, 0⟩

namespace Curve

/-- The difference of two field elements. -/
def sub (c : Curve) (a b : Nat) : Nat := Modular.sub c.prime a b

/-- The base point. -/
def base (c : Curve) : Point := ⟨c.baseX, c.baseY, 1⟩

/-- A point added to itself. -/
def double (c : Curve) (p : Point) : Point :=
  let delta := p.z * p.z % c.prime
  let gamma := p.y * p.y % c.prime
  let beta := p.x * gamma % c.prime
  let alpha := 3 * (c.sub p.x delta * (p.x + delta) % c.prime) % c.prime
  let x := c.sub (alpha * alpha) (8 * beta)
  ⟨x, c.sub (alpha * c.sub (4 * beta) x) (8 * (gamma * gamma)), 2 * p.y * p.z % c.prime⟩

/-- The sum of two points. -/
def add (c : Curve) (p q : Point) : Point :=
  if p.z = 0 then q
  else if q.z = 0 then p
  else
    let pz2 := p.z * p.z % c.prime
    let qz2 := q.z * q.z % c.prime
    let u := p.x * qz2 % c.prime
    let s := p.y * qz2 % c.prime * q.z % c.prime
    let h := c.sub (q.x * pz2) u
    let r := c.sub (q.y * pz2 % c.prime * p.z) s
    if h = 0 then if r = 0 then c.double p else .infinity
    else
      let h2 := h * h % c.prime
      let h3 := h2 * h % c.prime
      let v := u * h2 % c.prime
      let x := c.sub (r * r) (h3 + 2 * v)
      ⟨x, c.sub (r * c.sub v x) (s * h3), p.z * q.z % c.prime * h % c.prime⟩

/-- A multiple of a point, by doubling. -/
def times (c : Curve) (n : Nat) (p : Point) : Point :=
  if n = 0 then .infinity
  else
    let rest := times c (n / 2) (c.double p)
    if n % 2 = 1 then c.add p rest else rest
termination_by n

/-- The plain x coordinate of a point that is not at infinity. -/
def xOf (c : Curve) (p : Point) : Nat :=
  let zi := Modular.inverse c.prime p.z
  p.x * (zi * zi % c.prime) % c.prime

/-- What y² has to be at an x coordinate. -/
def squareAt (c : Curve) (x : Nat) : Nat := (c.sub (x * x % c.prime * x) (3 * x) + c.b) % c.prime

/-- The plain y coordinate of a point that is not at infinity. -/
def yOf (c : Curve) (p : Point) : Nat :=
  let zi := Modular.inverse c.prime p.z
  p.y * (zi * zi % c.prime * zi % c.prime) % c.prime

/-- The uncompressed bytes of a point that is not at infinity. -/
def encode (c : Curve) (p : Point) : Bytes :=
  0x04 :: Endian.big c.width (c.xOf p) ++ Endian.big c.width (c.yOf p)

/-- The compressed bytes of a point that is not at infinity. -/
def compress (c : Curve) (p : Point) : Bytes :=
  (if c.yOf p % 2 = 0 then 0x02 else 0x03) :: Endian.big c.width (c.xOf p)

/-- A y coordinate of the points with an x coordinate, if there are any. -/
def root? (c : Curve) (x : Nat) : Option Nat :=
  let square := c.squareAt x
  let y := Modular.power c.prime square ((c.prime + 1) / 4)
  if y * y % c.prime = square then some y else none

/-- The point of an x coordinate and of the parity of its y coordinate. -/
def lift? (c : Curve) (x parity : Nat) : Option Point :=
  (c.root? x).map fun y => ⟨x, if y % 2 = parity then y else (c.prime - y) % c.prime, 1⟩

/-- The point of an x coordinate and of the smaller of its two y coordinates. -/
def liftSmaller? (c : Curve) (x : Nat) : Option Point :=
  (c.root? x).map fun y => ⟨x, min y ((c.prime - y) % c.prime), 1⟩

/-- The point of bytes in one of three forms: uncompressed, compressed with the parity of y, or
compact, with x alone. -/
def decode? (c : Curve) : Bytes → Option Point
  | [] => none
  | kind :: rest =>
    let x := Endian.ofBig (rest.take c.width)
    if kind = 0x04 && rest.length = 2 * c.width then
      let y := Endian.ofBig (rest.drop c.width)
      if x < c.prime && y < c.prime && y * y % c.prime = c.squareAt x then some ⟨x, y, 1⟩ else none
    else if rest.length = c.width && x < c.prime then
      if kind = 0x02 || kind = 0x03 then c.lift? x (kind.toNat - 2)
      else if kind = 0x05 then c.liftSmaller? x
      else none
    else none

/-- The number of a message's digest. -/
def messageNumber (c : Curve) (message : Bytes) : Nat :=
  Endian.ofBig (c.digest message) % c.order

/-- The nonce for the signature of a message's number with a secret number. -/
def nonce? (c : Curve) (secret e : Nat) : Option Nat :=
  let mac := hmac c.digest c.blockBytes
  let seed := Endian.big c.width secret ++ Endian.big c.width e
  (Generator.ofSeed mac c.width seed).nonce? mac c.order

/-- The signature of a message with a secret number. -/
def sign? (c : Curve) (secret : Nat) (message : Bytes) : Option Bytes := do
  let e := c.messageNumber message
  let k ← c.nonce? secret e
  let r := c.xOf (c.times k c.base) % c.order
  let s := Modular.inverse c.order k * (e + r * secret) % c.order
  if r = 0 || s = 0 then none
  else some (Endian.big c.width r ++ Endian.big c.width s)

/-- Whether a signature is one of a message under the key at a point. -/
def verifyAt (c : Curve) (q : Point) (message signature : Bytes) : Bool :=
  let r := Endian.ofBig (signature.take c.width)
  let s := Endian.ofBig (signature.drop c.width)
  if signature.length ≠ 2 * c.width || r = 0 || c.order ≤ r || s = 0 || c.order ≤ s then false
  else
    let w := Modular.inverse c.order s
    let u := c.messageNumber message * w % c.order
    let v := r * w % c.order
    let p := c.add (c.times u c.base) (c.times v q)
    p.z ≠ 0 && c.xOf p % c.order = r

/-! ## Private keys in PKCS #8 -/

/-- The algorithm identifier of a curve's keys: elliptic curve, on that curve. -/
def algorithmId (c : Curve) : Bytes :=
  [0x06, 0x07, 0x2A, 0x86, 0x48, 0xCE, 0x3D, 0x02, 0x01] ++ c.identifier

/-- The fewest bytes of a secret number; zeros in front of it may be left out. -/
def minSecretBytes : Nat := 24

/-- Whether a part may stand where a key names its curve. Which curve it names does not matter. -/
def namesCurve : Option (UInt8 × Bytes) → Bool
  | none => true
  | some (tag, content) => tag = 0xA0 && (Der.exactly? 0x06 content).any Der.isIdentifier

/-- The bytes of the public key that a part holds. -/
def carried? : Option (UInt8 × Bytes) → Option (Option Bytes)
  | none => some none
  | some (tag, content) =>
    if tag = 0xA1 then ((Der.exactly? 0x03 content).bind Der.wholeBytes?).map some else none

/-- Whether bytes are those of the public key of a secret number. -/
def owns (c : Curve) (secret : Nat) (key : Bytes) : Bool :=
  let p := c.times secret c.base
  key == if key.head? == some 0x02 || key.head? == some 0x03 then c.compress p else c.encode p

/-- The secret number in a key of SEC 1. A public key that it carries has to belong to it. -/
def secretOfSec1? (c : Curve) (der : Bytes) : Option Nat := do
  let (version, rest) ← Der.natural? (← Der.exactly? 0x30 der)
  let (number, rest) ← Der.element? 0x04 rest
  let (curve, rest) ← Der.part? 0 rest.length rest
  let (key, rest) ← Der.part? 1 rest.length rest
  let carried ← carried? key
  let secret := Endian.ofBig number
  if version = 1 && rest = [] && namesCurve curve && minSecretBytes ≤ number.length
      && number.length ≤ c.width && 0 < secret && secret < c.order && carried.all (c.owns secret)
  then some secret
  else none

/-- The secret number of a private key. A public key that PKCS #8 carries is not looked at. -/
def secret? (c : Curve) (der : Bytes) : Option Nat := do
  let k ← PrivateKeyInfo.read? der
  if k.algorithm = c.algorithmId then c.secretOfSec1? k.key else none

end Curve

end SessionTokens.Ecdsa
