import SessionTokens.Endian
import SessionTokens.Halt
import SessionTokens.Hash.Sha256
import SessionTokens.Hash.Sha512
import SessionTokens.Key.Der
import SessionTokens.Signature.Modular
/-!
# RSA

Signatures of PKCS #1 in both of its schemes. In the older one (`pkcs1`) the message's digest
stands behind fixed padding; in the newer one (`pss`) it is mixed with a salt as long as itself.

**The salt.** It is drawn at random for each signature, so signing takes it as an argument.
Verifying reads it out of the signature.

Signing works modulo each prime by itself and puts the two results together. Its result is checked
before it is given away.
-/

namespace SessionTokens.Rsa

/-- A hash, the length of its digests, and the bytes that announce such a digest. -/
structure Hash where
  digest : Bytes → Bytes
  length : Nat
  announcement : Bytes

/-- The bytes that announce a digest of the SHA-2 family. -/
def announce (member length : UInt8) : Bytes :=
  [0x30, 0x11 + length, 0x30, 0x0D, 0x06, 0x09, 0x60, 0x86, 0x48, 0x01, 0x65, 0x03, 0x04, 0x02,
   member, 0x05, 0x00, 0x04, length]

/-- SHA-256. -/
def hash256 : Hash := ⟨sha256, 32, announce 0x01 32⟩

/-- SHA-384. -/
def hash384 : Hash := ⟨sha384, 48, announce 0x02 48⟩

/-- SHA-512. -/
def hash512 : Hash := ⟨sha512, 64, announce 0x03 64⟩

/-- The two schemes. -/
inductive Scheme
  | pkcs1
  | pss
deriving DecidableEq, Repr

/-- A public key. -/
structure PublicKey where
  modulus : Nat
  exponent : Nat
deriving DecidableEq, Repr

/-- A private key: its public part, the secret exponent, and the two primes. -/
structure PrivateKey where
  modulus : Nat
  publicExponent : Nat
  exponent : Nat
  first : Nat
  second : Nat
deriving DecidableEq, Repr

/-- Random bytes for the salt of a signature, enough for the longest digest. -/
abbrev Salt : Type := Vector UInt8 64

/-- The salt of a signature: as many of the random bytes as a digest has. -/
def Hash.saltOf (h : Hash) (salt : Salt) : Bytes := salt.toList.take h.length

/-- The number of bits of a number. -/
def bitLength (n : Nat) : Nat := if n = 0 then 0 else Nat.log2 n + 1

/-- The number of bytes of a modulus. -/
def byteLength (n : Nat) : Nat := (bitLength n + 7) / 8

/-! ## Padding -/

/-- The padded digest of the older scheme, if it fits a width. -/
def padded? (h : Hash) (width : Nat) (message : Bytes) : Option Bytes :=
  let tail := h.announcement ++ h.digest message
  if width < tail.length + 11 then none
  else some ([0x00, 0x01] ++ List.replicate (width - tail.length - 3) 0xFF ++ 0x00 :: tail)

/-- Bytes of a given number that are stretched out of a seed. The first argument bounds the number
of pieces. -/
def stretch (h : Hash) (seed : Bytes) (count : Nat) : Bytes :=
  ((List.range (count / h.length + 1)).flatMap fun i =>
    h.digest (seed ++ Endian.big 4 i)).take count

/-- The byte-wise exclusive or. -/
def mask (as bs : Bytes) : Bytes := as.zipWith (· ^^^ ·) bs

/-- The digest of the newer scheme: of a message's digest and a salt behind eight zeros. -/
def saltedDigest (h : Hash) (message salt : Bytes) : Bytes :=
  h.digest (List.replicate 8 0 ++ h.digest message ++ salt)

/-- Bytes with the given number of bits at the front cleared. -/
def clearBits (count : Nat) : Bytes → Bytes
  | [] => []
  | b :: rest => UInt8.ofNat (b.toNat % Nat.pow 2 (8 - count)) :: rest

/-- The salted block of the newer scheme for a number of bits, if it fits. -/
def salted? (h : Hash) (bits : Nat) (message salt : Bytes) : Option Bytes :=
  let width := (bits + 7) / 8
  if width < h.length + salt.length + 2 then none
  else
    let digest := saltedDigest h message salt
    let block := List.replicate (width - salt.length - h.length - 2) 0 ++ 0x01 :: salt
    let masked := mask block (stretch h digest block.length)
    some (clearBits (8 * width - bits) masked ++ digest ++ [0xBC])

/-- Whether a block of the newer scheme is one of a message. -/
def isSalted (h : Hash) (bits : Nat) (message block : Bytes) : Bool :=
  let width := (bits + 7) / 8
  if width < 2 * h.length + 2 || block.length ≠ width then false
  else
    let masked := block.take (width - h.length - 1)
    let digest := (block.drop (width - h.length - 1)).take h.length
    let plain := clearBits (8 * width - bits) (mask masked (stretch h digest masked.length))
    let zeros := width - 2 * h.length - 2
    clearBits (8 * width - bits) masked == masked
      && block.getLast? == some 0xBC
      && plain.take zeros == List.replicate zeros 0
      && (plain.drop zeros).head? == some 0x01
      && saltedDigest h message (plain.drop (zeros + 1)) == digest

/-! ## Signatures -/

/-- The power of a number with the secret exponent: from its powers modulo the two primes if they
have no common divisor, else straight modulo the modulus. -/
def PrivateKey.power (key : PrivateKey) (n : Nat) : Nat :=
  match Modular.inverse? key.first key.second with
  | none => Modular.power key.modulus n key.exponent
  | some inverse =>
    let a := Modular.power key.first (n % key.first) (key.exponent % (key.first - 1))
    let b := Modular.power key.second (n % key.second) (key.exponent % (key.second - 1))
    Modular.sub key.first a b * inverse % key.first * key.second + b

/-- The block of a message that is signed, if it fits the modulus. -/
def block? (scheme : Scheme) (h : Hash) (key : PrivateKey) (salt : Salt) (message : Bytes) :
    Option Bytes :=
  match scheme with
  | .pkcs1 => padded? h (byteLength key.modulus) message
  | .pss => salted? h (bitLength key.modulus - 1) message (h.saltOf salt)

/-- The signature of a message. -/
def sign (scheme : Scheme) (h : Hash) (key : PrivateKey) (salt : Salt) (message : Bytes) :
    Except Abort Bytes :=
  match block? scheme h key salt message with
  | none => .error .smallModulus
  | some block =>
    let n := key.power (Endian.ofBig block)
    if Modular.power key.modulus n key.publicExponent = Endian.ofBig block then
      .ok (Endian.big (byteLength key.modulus) n)
    else .error .wrongSignature

/-- Whether a signature is one of a message. A number of the newer scheme may be any that the
width holds, and a byte in front of the block is not looked at. -/
def verify (scheme : Scheme) (h : Hash) (key : PublicKey) (message signature : Bytes) : Bool :=
  let width := byteLength key.modulus
  let number := Endian.ofBig signature
  let n := Modular.power key.modulus (number % key.modulus) key.exponent
  signature.length = width &&
    match scheme with
    | .pkcs1 => number < key.modulus && padded? h width message == some (Endian.big width n)
    | .pss =>
      let bits := bitLength key.modulus - 1
      isSalted h bits message (Endian.big ((bits + 7) / 8) n)

/-! ## Keys in PKCS #1 -/

/-- The longest modulus in bits. -/
def maxBits : Nat := 4096

/-- The largest public exponent. -/
def maxExponent : Nat := Nat.pow 2 33 - 1

/-- Whether numbers can be a public key: both odd, and neither too large. -/
def isUsable (modulus exponent : Nat) : Bool :=
  bitLength modulus ≤ maxBits && modulus % 2 = 1 && exponent % 2 = 1 && exponent < modulus
    && 2 ≤ exponent && exponent ≤ maxExponent

/-- Reads a public key. -/
def publicKey? (der : Bytes) : Option PublicKey := do
  match ← Der.naturals? 2 (← Der.exactly? 0x30 der) with
  | [modulus, exponent] => if isUsable modulus exponent then some ⟨modulus, exponent⟩ else none
  | _ => none

/-- Reads a private key, whose primes have to make up the modulus and whose exponents have to
undo each other modulo each prime. -/
def privateKey? (der : Bytes) : Option PrivateKey := do
  match ← Der.naturals? 9 (← Der.exactly? 0x30 der) with
  | [version, modulus, e, d, p, q, _, _, _] =>
    if version = 0 && isUsable modulus e && p * q = modulus && 1 < p && 1 < q
        && d * e % (p - 1) = 1 && d * e % (q - 1) = 1 then
      some ⟨modulus, e, d, p, q⟩
    else none
  | _ => none

end SessionTokens.Rsa
