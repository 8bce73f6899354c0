import SessionTokens.Time.Duration
/-!
# Errors of the store

An error says what went wrong; `message` puts it into words. Some errors pass on the words of
another one that caused them (`cause?`).
-/

namespace SessionTokens

/-- Stored data that cannot be read. -/
inductive DataFault
  | snapshot
  | version (n : Nat)
  | expiry (ms : Int)
  | snapshotKey
  | snapshotValue
  | record
  | other (message : String)
deriving DecidableEq

/-- Trouble inside the store. -/
inductive InternalFault
  | ttl (ttl : Duration)
  | unreadable (path : String)
  | unwritable (path : String)
  | unmovable (path : String)
  | unreachable (folder : String)
  | notFolder (path : String)
  | other (message : String)
deriving DecidableEq

/-- The part of an entry that a size limit is for. -/
inductive Part
  | key
  | value
deriving DecidableEq, Repr

/-- The name of a part. -/
def Part.name : Part → String
  | key => "key"
  | value => "value"

/-- Why a store refuses an operation. -/
inductive StorageError
  | data (fault : DataFault) (cause? : Option String)
  | internal (fault : InternalFault) (cause? : Option String)
  | tooLarge (part : Part) (size limit : Nat)
  | closed
deriving DecidableEq

/-- A whole number in decimal, with a sign if it is negative. -/
def signedText (n : Int) : String :=
  (if n < 0 then "-" else "") ++ Text.digitsText n.natAbs

/-- The wording of a fault in stored data. -/
def DataFault.message : DataFault → String
  | snapshot => "failed to decode snapshot"
  | version n => "unsupported snapshot version " ++ Text.digitsText n
  | expiry ms => "invalid expiry timestamp " ++ signedText ms
  | snapshotKey => "invalid base64 key in snapshot"
  | snapshotValue => "invalid base64 value in snapshot"
  | record => "failed to decode session record"
  | other message => message

/-- The wording of trouble inside the store. -/
def InternalFault.message : InternalFault → String
  | ttl t => "ttl of " ++ t.shown ++ " is out of range"
  | unreadable path => "failed to read snapshot " ++ path
  | unwritable path => "failed to write " ++ path
  | unmovable path => "failed to rename " ++ path
  | unreachable folder => "snapshot directory " ++ folder ++ " unreachable"
  | notFolder path => path ++ " is not a directory"
  | other message => message

namespace StorageError

/-- The name of an error's kind. -/
def kind : StorageError → String
  | data _ _ => "Serialization"
  | internal _ _ => "Internal"
  | tooLarge _ _ _ => "SizeLimitExceeded"
  | closed => "Closed"

/-- The wording of an error. -/
def message : StorageError → String
  | data fault _ => "Serialization error: " ++ fault.message
  | internal fault _ => "Internal error: " ++ fault.message
  | tooLarge part size limit =>
    part.name ++ " size " ++ Text.digitsText size ++ " exceeds limit of "
      ++ Text.digitsText limit ++ " bytes"
  | closed => "Storage backend is closed"

/-- The words of the errors behind an error, nearest first. -/
def causes : StorageError → List String
  | data _ cause? => cause?.toList
  | internal _ cause? => cause?.toList
  | tooLarge _ _ _ => []
  | closed => []

end StorageError

end SessionTokens
