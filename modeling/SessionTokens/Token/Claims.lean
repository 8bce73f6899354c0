import SessionTokens.Hash.Sha256
import SessionTokens.Json.Read
import SessionTokens.Text.Hex
/-!
# Claims

What a token says: the core claims, which every token has, and the extension, which refresh tokens
have. Both stand side by side in one JSON object.

**Reading.** The core claims have to be there, each once. The extension is all or nothing: if any
of its members is missing, given twice or of the wrong kind, there is no extension. All other
members are skipped, but they have to be well-formed throughout.
-/

namespace SessionTokens

/-- What a token is for. -/
inductive TokenKind
  | access
  | refresh
deriving DecidableEq, Repr

namespace TokenKind

/-- The name of a kind in claims. -/
def name : TokenKind → String
  | access => "access"
  | refresh => "refresh"

/-- The name of a kind in messages. -/
def shown : TokenKind → String
  | access => "Access"
  | refresh => "Refresh"

/-- The kind of a name. -/
def ofName? (name : String) : Option TokenKind :=
  [access, refresh].find? fun k => k.name == name

end TokenKind

/-- The claims that every token has: the session's id, the issuer, and the seconds since 1970 at
which it was issued and lapses. -/
structure CoreClaims where
  id : String
  issuer : String
  issuedAt : Int
  expiresAt : Int
  kind : TokenKind
deriving DecidableEq, Repr

/-- The claims of a refresh token about its session. -/
structure Extension where
  userIdHash : String
  role : String
  parentId : Option String
deriving DecidableEq, Repr

/-- What a token says. -/
structure Claims where
  core : CoreClaims
  ext : Option Extension
deriving DecidableEq, Repr

/-- A user's id as it stands in tokens: the hexadecimal digits of its hash. -/
def hashUserId (userId : String) : String := Text.hexText (sha256 (Text.utf8 userId))

namespace Extension

/-- The extension for a session. -/
def of (userId role : String) (parentId : Option String) : Extension :=
  ⟨hashUserId userId, role, parentId⟩

/-- The members of an extension. -/
def fields (e : Extension) : List (String × Json) :=
  [("user_id_hash", .text e.userIdHash), ("role", .text e.role)] ++
    match e.parentId with
    | none => []
    | some id => [("parent_token_id", .text id)]

/-- An extension by itself as a JSON object. -/
def toJson (e : Extension) : Json := .ofFields e.fields

/-- Reads an extension among the members of an object. -/
def ofMembers? (ms : List (String × Json)) : Option Extension := do
  return ⟨← Json.needed? Json.text? (← Json.only? ms "user_id_hash"),
    ← Json.needed? Json.text? (← Json.only? ms "role"),
    ← Json.perhaps? Json.text? (← Json.only? ms "parent_token_id")⟩

end Extension

namespace CoreClaims

/-- The members of the core claims. -/
def fields (c : CoreClaims) : List (String × Json) :=
  [("jti", .text c.id), ("iss", .text c.issuer), ("iat", .int c.issuedAt),
   ("exp", .int c.expiresAt), ("kind", .text c.kind.name)]

/-- The kind that a JSON value names. -/
def kind? (v : Json) : Option TokenKind := v.looseChoice?.bind TokenKind.ofName?

/-- Reads the core claims among the members of an object. -/
def ofMembers? (ms : List (String × Json)) : Option CoreClaims := do
  return ⟨← Json.needed? Json.text? (← Json.only? ms "jti"),
    ← Json.needed? Json.text? (← Json.only? ms "iss"),
    ← Json.needed? Json.int64? (← Json.only? ms "iat"),
    ← Json.needed? Json.int64? (← Json.only? ms "exp"),
    ← Json.needed? kind? (← Json.only? ms "kind")⟩

end CoreClaims

namespace Claims

/-- Claims as a JSON object. -/
def toJson (c : Claims) : Json :=
  .ofFields (c.core.fields ++
    match c.ext with
    | none => []
    | some e => e.fields)

/-- The payload of a token: its claims as JSON text. -/
def encode (c : Claims) : Bytes := c.toJson.render

/-- The members of a payload. -/
def members? (payload : Bytes) : Option (List (String × Json)) :=
  (Json.parse? payload).bind (Json.openMembers? Json.maxDepth)

/-- Reads claims among the members of an object. -/
def ofMembers? (ms : List (String × Json)) : Option Claims :=
  (CoreClaims.ofMembers? ms).map fun core => ⟨core, Extension.ofMembers? ms⟩

/-- Reads claims. -/
def decode? (payload : Bytes) : Option Claims := (members? payload).bind ofMembers?

end Claims

end SessionTokens
