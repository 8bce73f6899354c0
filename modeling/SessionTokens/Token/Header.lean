import SessionTokens.Json.Read
import SessionTokens.Token.Algorithm
/-!
# Token headers

The header of a token names the algorithm of its signature. Of the other members that are known
each may be missing or `null` and may stand there once; any further member has to be a string.

A header may carry a key. It is not used, but it has to be a key of one of the kinds that there
are. The algorithm that such a key names may be any.
-/

namespace SessionTokens.Header

/-- The header of tokens of an algorithm. -/
def toJson (a : Algorithm) : Json := .ofFields [("typ", .text "JWT"), ("alg", .text a.name)]

/-- The JSON text of a header. -/
def encode (a : Algorithm) : Bytes := (toJson a).render

/-- The known members that are strings. -/
def textNames : List String :=
  ["typ", "cty", "jku", "kid", "x5u", "x5t", "x5t#S256", "enc", "zip", "url", "nonce"]

/-- The known members that are lists of strings. -/
def listNames : List String := ["x5c", "crit"]

/-- The texts of an array of strings. -/
def texts? (v : Json) : Option (List String) := v.items?.bind fun vs => vs.mapM Json.text?

/-- Whether a member is missing, `null`, or of a kind, and stands there once. -/
def hasOptional (read : Json → Option α) (ms : List (String × Json)) (name : String) : Bool :=
  match Json.only? ms name with
  | none => false
  | some field => (Json.perhaps? read field).isSome

/-- Whether a member is one of some texts. -/
def hasChoice (ms : List (String × Json)) (name : String) (choices : List String) : Bool :=
  match Json.only? ms name with
  | some (some v) => v.choice?.any choices.contains
  | _ => false

/-- Whether a member is a text. -/
def hasText (ms : List (String × Json)) (name : String) : Bool :=
  match Json.only? ms name with
  | some (some v) => v.text?.isSome
  | _ => false

/-- The curves of keys in JSON. -/
def curveNames : List String := ["P-256", "P-384", "P-521", "Ed25519"]

/-- Whether a value is a key in JSON. -/
def isWebKey (v : Json) : Bool :=
  match Json.openMembers? (Json.maxDepth - 1) v with
  | none => false
  | some ms =>
    ["use", "kid", "x5u", "x5t", "x5t#S256"].all (hasOptional Json.text? ms)
      && hasOptional Json.looseChoice? ms "alg"
      && ["key_ops", "x5c"].all (hasOptional texts? ms)
      && ((hasChoice ms "kty" ["EC"] && hasChoice ms "crv" curveNames && hasText ms "x"
          && hasText ms "y")
        || (hasChoice ms "kty" ["RSA"] && hasText ms "n" && hasText ms "e")
        || (hasChoice ms "kty" ["oct"] && hasText ms "k")
        || (hasChoice ms "kty" ["OKP"] && hasChoice ms "crv" curveNames && hasText ms "x"))

/-- The key in JSON that a value is. -/
def webKey? (v : Json) : Option Unit := if isWebKey v then some () else none

/-- Whether a member is known, or else a string. -/
def isKnownOrText (m : String × Json) : Bool :=
  m.1 == "alg" || m.1 == "jwk" || textNames.contains m.1 || listNames.contains m.1
    || m.2.text?.isSome

/-- The algorithm that a header names. -/
def algorithm? (header : Bytes) : Option Algorithm := do
  match ← Json.parse? header with
  | .object ms =>
    let ms ← Json.named? ms
    if textNames.all (hasOptional Json.text? ms) && listNames.all (hasOptional texts? ms)
        && hasOptional webKey? ms "jwk" && ms.all isKnownOrText then
      let name ← Json.needed? Json.choice? (← Json.only? ms "alg")
      Algorithm.ofName? name
    else none
  | _ => none

end SessionTokens.Header
