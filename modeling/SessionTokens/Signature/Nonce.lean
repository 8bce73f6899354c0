import SessionTokens.Endian
import SessionTokens.Hash.Hmac
/-!
# Nonces of ECDSA

Each signature takes a number that nobody may guess. It is found as in RFC 6979, so that a
signature depends on the key and the message alone.

**The generator.** A key and a value, stirred twice with a seed that is made of the secret number
and the message's number. Both are as long as a digest.

**Candidates.** Each is the next value, read as a number. The first that is positive and below the
curve's order is taken; the generator is stirred after each of the others. Nothing bounds the
search, so there may be no nonce.
-/

namespace SessionTokens.Ecdsa

/-- The state of a generator. -/
structure Generator where
  key : Bytes
  value : Bytes

namespace Generator

variable (mac : Bytes → Bytes → Bytes)

/-- The generator with a new key, made with a mark and a seed, and with the next value. -/
def stir (mark : UInt8) (seed : Bytes) (g : Generator) : Generator :=
  let key := mac g.key (g.value ++ mark :: seed)
  ⟨key, mac key g.value⟩

/-- The generator of a seed, for digests of so many bytes. -/
def ofSeed (width : Nat) (seed : Bytes) : Generator :=
  stir mac 0x01 seed (stir mac 0x00 seed ⟨List.replicate width 0x00, List.replicate width 0x01⟩)

/-- The first candidate between zero and an order, if one is found. -/
def nonce? (order : Nat) (g : Generator) : Option Nat :=
  let value := mac g.key g.value
  let candidate := Endian.ofBig value
  if 0 < candidate && candidate < order then some candidate
  else stir mac 0x00 [] ⟨g.key, value⟩ |>.nonce? order
partial_fixpoint

end Generator

end SessionTokens.Ecdsa
