import SessionTokens.Key.Der
/-!
# Private keys with their algorithm

PKCS #8 wraps a private key of any kind: it says which algorithm the key is for and may carry the
public key along. It does so exactly if its version is 1. Attributes behind the keys are skipped,
but they have to be well-formed.
-/

namespace SessionTokens

/-- A private key with its algorithm. The algorithm and the key are in DER. -/
structure PrivateKeyInfo where
  algorithm : Bytes
  key : Bytes
  carried : Option Bytes
deriving DecidableEq, Repr

namespace PrivateKeyInfo

/-- The public key that a part holds as a string of whole bytes. -/
def carried? : Option (UInt8 × Bytes) → Option (Option Bytes)
  | none => some none
  | some (tag, content) => if tag = 0x81 then (Der.wholeBytes? content).map some else none

/-- Reads a private key. -/
def read? (der : Bytes) : Option PrivateKeyInfo := do
  let (version, rest) ← Der.natural? (← Der.exactly? 0x30 der)
  let (algorithm, rest) ← Der.element? 0x30 rest
  let (key, rest) ← Der.element? 0x04 rest
  let (part, rest) ← Der.part? 1 rest.length rest
  let carried ← carried? part
  if version = (if carried.isSome then 1 else 0) && Der.areParts rest.length rest then
    some ⟨algorithm, key, carried⟩
  else none

end PrivateKeyInfo

end SessionTokens
