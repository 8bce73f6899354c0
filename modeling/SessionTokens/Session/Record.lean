import SessionTokens.Json.Read
import SessionTokens.Time.Timestamp
/-!
# Session records

A record says whose session it is, on which device it was opened, what it grants and when it
began. It is stored as a JSON object with the fields in a fixed order; reading it back refuses
members that are not fields.

The device is told by three signals, which together are the record's identity.
-/

namespace SessionTokens

/-- The signals that tell one device from another. -/
structure Identity where
  platform : String
  fingerprint : String
  ip : String
deriving DecidableEq, Repr

/-- A session. -/
structure Record where
  id : String
  userId : String
  userAgent : String
  platform : String
  fingerprint : String
  ip : String
  role : String
  rwAccess : Bool
  namespaceAccess : String
  volumeAccess : String
  parentId : Option String
  createdAt : Timestamp
deriving DecidableEq, Repr

namespace Record

/-- The identity of a session's device. -/
def identity (r : Record) : Identity := ⟨r.platform, r.fingerprint, r.ip⟩

/-- The names of the fields in their order. -/
def fieldNames : List String :=
  ["id", "user_id", "user_agent", "platform", "fingerprint", "ip", "role", "rw_access",
   "namespace_access", "volume_access", "parent_token_id", "created_at"]

/-- A record as a JSON object. -/
def toJson (r : Record) : Json :=
  .ofFields
    [("id", .text r.id), ("user_id", .text r.userId), ("user_agent", .text r.userAgent),
     ("platform", .text r.platform), ("fingerprint", .text r.fingerprint), ("ip", .text r.ip),
     ("role", .text r.role), ("rw_access", .bool r.rwAccess),
     ("namespace_access", .text r.namespaceAccess), ("volume_access", .text r.volumeAccess),
     ("parent_token_id", .optional .text r.parentId),
     ("created_at", .text r.createdAt.write)]

/-- The timestamp that a JSON value is. -/
def timestamp? (v : Json) : Option Timestamp := v.text?.bind Timestamp.read?

/-- Reads a record. -/
def ofJson? (v : Json) : Option Record := do
  match ← v.fields? fieldNames true fieldNames.length with
  | [id, userId, userAgent, platform, fingerprint, ip, role, rwAccess, namespaceAccess,
      volumeAccess, parentId, createdAt] =>
    let text := Json.needed? Json.text?
    return {
      id := ← text id
      userId := ← text userId
      userAgent := ← text userAgent
      platform := ← text platform
      fingerprint := ← text fingerprint
      ip := ← text ip
      role := ← text role
      rwAccess := ← Json.needed? Json.bool? rwAccess
      namespaceAccess := ← text namespaceAccess
      volumeAccess := ← text volumeAccess
      parentId := ← Json.perhaps? Json.text? parentId
      createdAt := ← Json.needed? timestamp? createdAt }
  | _ => none

/-- The stored form of a record. -/
def encode (r : Record) : Bytes := r.toJson.render

/-- Reads the stored form of a record. -/
def decode? (bs : Bytes) : Option Record := (Json.parse? bs).bind ofJson?

/-- Whether a record comes no later than another in the order of listings: by creation, then by
id. -/
def notAfter (a b : Record) : Bool :=
  a.createdAt.before b.createdAt ||
    (!b.createdAt.before a.createdAt && !decide (b.id.toList < a.id.toList))

/-- Records in the order of listings. -/
def sorted (rs : List Record) : List Record := rs.mergeSort notAfter

end Record

end SessionTokens
