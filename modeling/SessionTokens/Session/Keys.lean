import SessionTokens.Hash.Sha256
import SessionTokens.Session.Record
import SessionTokens.Text.Hex
/-!
# Keys of a session

A record is stored under three keys: by its id, by the identity of its device and by its user.
The texts that go into a key are hashed first, so each takes up the same length whatever
characters it holds, and one family of keys is never the beginning of another.

* `length_component`: **every component of a key has 64 digits**.
-/

namespace SessionTokens.Session

/-- A text's component in a key: the hexadecimal digits of its hash. -/
def component (s : String) : Bytes := Text.hex (sha256 (Text.utf8 s))

@[simp]
theorem length_component (s : String) : (component s).length = 64 := by
  simp [component]

/-- The beginning of all keys by id. -/
def recordStart : Bytes := Text.utf8 "session/"

/-- The beginning of all keys by identity. -/
def identityFamily : Bytes := Text.utf8 "session-by-identity/"

/-- The beginning of all keys by user. -/
def userFamily : Bytes := Text.utf8 "session-by-user/"

/-- The key of a record by its id. -/
def recordKey (id : String) : Bytes := recordStart ++ component id

/-- The beginning of the keys by one identity. -/
def identityStart (i : Identity) : Bytes :=
  identityFamily ++ component i.platform ++ [0x2E] ++ component i.fingerprint ++ [0x2E]
    ++ component i.ip ++ [0x2F]

/-- The key of a record by its identity. -/
def identityKey (i : Identity) (id : String) : Bytes := identityStart i ++ component id

/-- The beginning of the keys by one user. -/
def userStart (userId : String) : Bytes := userFamily ++ component userId ++ [0x2F]

/-- The key of a record by its user. -/
def userKey (userId id : String) : Bytes := userStart userId ++ component id

end SessionTokens.Session
