import SessionTokens.Hash.Sha2
/-!
# SHA-256

The member of the SHA-2 family with words of 32 bits. Index keys and user hashes are made with it.
-/

namespace SessionTokens.Sha2

/-- A word turned right by a number of bits. -/
def turn32 (n x : UInt32) : UInt32 := (x >>> n) ||| (x <<< (32 - n))

/-- The word of four bytes. -/
def word32 (bs : Bytes) : UInt32 := bs.foldl (fun w b => (w <<< 8) ||| b.toUInt32) 0

/-- The four bytes of a word. -/
def bytes32 (w : UInt32) : Bytes :=
  [(w >>> 24).toUInt8, (w >>> 16).toUInt8, (w >>> 8).toUInt8, w.toUInt8]

/-- The constants of the rounds: fractions of the cube roots of primes. -/
def roundConstants32 : List UInt32 :=
  [0x428A2F98, 0x71374491, 0xB5C0FBCF, 0xE9B5DBA5, 0x3956C25B, 0x59F111F1, 0x923F82A4,
   0xAB1C5ED5, 0xD807AA98, 0x12835B01, 0x243185BE, 0x550C7DC3, 0x72BE5D74, 0x80DEB1FE,
   0x9BDC06A7, 0xC19BF174, 0xE49B69C1, 0xEFBE4786, 0x0FC19DC6, 0x240CA1CC, 0x2DE92C6F,
   0x4A7484AA, 0x5CB0A9DC, 0x76F988DA, 0x983E5152, 0xA831C66D, 0xB00327C8, 0xBF597FC7,
   0xC6E00BF3, 0xD5A79147, 0x06CA6351, 0x14292967, 0x27B70A85, 0x2E1B2138, 0x4D2C6DFC,
   0x53380D13, 0x650A7354, 0x766A0ABB, 0x81C2C92E, 0x92722C85, 0xA2BFE8A1, 0xA81A664B,
   0xC24B8B70, 0xC76C51A3, 0xD192E819, 0xD6990624, 0xF40E3585, 0x106AA070, 0x19A4C116,
   0x1E376C08, 0x2748774C, 0x34B0BCB5, 0x391C0CB3, 0x4ED8AA4A, 0x5B9CCA4F, 0x682E6FF3,
   0x748F82EE, 0x78A5636F, 0x84C87814, 0x8CC70208, 0x90BEFFFA, 0xA4506CEB, 0xBEF9A3F7,
   0xC67178F2]

/-- The first state: fractions of the square roots of primes. -/
def start256 : List UInt32 :=
  [0x6A09E667, 0xBB67AE85, 0x3C6EF372, 0xA54FF53A, 0x510E527F, 0x9B05688C, 0x1F83D9AB,
   0x5BE0CD19]

/-- The parameters of SHA-256. -/
def variant256 : Variant UInt32 where
  wordBytes := 4
  ofBytes := word32
  toBytes := bytes32
  upperA x := turn32 2 x ^^^ turn32 13 x ^^^ turn32 22 x
  upperE x := turn32 6 x ^^^ turn32 11 x ^^^ turn32 25 x
  lowerOld x := turn32 7 x ^^^ turn32 18 x ^^^ (x >>> 3)
  lowerNew x := turn32 17 x ^^^ turn32 19 x ^^^ (x >>> 10)
  constants := roundConstants32
  start := start256
  outputBytes := 32

end SessionTokens.Sha2

namespace SessionTokens

/-- The SHA-256 hash of a message. -/
def sha256 (message : Bytes) : Bytes := Sha2.variant256.digest message

@[simp]
theorem length_sha256 (message : Bytes) : (sha256 message).length = 32 := by
  simp [sha256, Sha2.Variant.digest, Sha2.State.words, Sha2.variant256, Sha2.bytes32]

end SessionTokens
