import SessionTokens.Text.Utf8
/-!
# HMAC

The keyed hash of FIPS 198-1. The key is brought to the length of a block: one that is longer is
hashed first, and zeros fill it up. The message is hashed behind one mask of the key, and the digest
behind another.
-/

namespace SessionTokens

/-- A key that is as long as a block. -/
def keyBlock (digest : Bytes → Bytes) (blockBytes : Nat) (key : Bytes) : Bytes :=
  let key := if blockBytes < key.length then digest key else key
  key ++ List.replicate (blockBytes - key.length) 0

/-- The hash of a message under a key, for a hash that takes in blocks of so many bytes. -/
def hmac (digest : Bytes → Bytes) (blockBytes : Nat) (key message : Bytes) : Bytes :=
  let block := keyBlock digest blockBytes key
  digest (block.map (· ^^^ 0x5C) ++ digest (block.map (· ^^^ 0x36) ++ message))

end SessionTokens
