import SessionTokens.Store.Config
import SessionTokens.Token.Config
/-!
# Configuration of the service

The issuer's configuration and the medium of the store, which is memory if it is not given.
-/

namespace SessionTokens

/-- The configuration of a service. -/
structure ServiceConfig where
  issuer : IssuerConfig
  storage : Medium
deriving DecidableEq

namespace ServiceConfig

/-- A configuration as a JSON object. -/
def toJson (c : ServiceConfig) : Json :=
  .ofFields [("issuer", c.issuer.toJson), ("storage", c.storage.toJson)]

/-- Reads a configuration. -/
def ofJson? (v : Json) : Option ServiceConfig := do
  match ← v.fields? ["issuer", "storage"] true 1 with
  | [issuer, storage] =>
    return ⟨← Json.needed? IssuerConfig.ofJson? issuer,
      ← Json.orElse? .memory (Medium.ofJson? (Json.maxDepth - 1)) storage⟩
  | _ => none

/-- The medium at the start of a text. -/
def leadingMedium? (text : Bytes) : Option Medium :=
  (Json.first? text).bind fun p => Medium.ofJson? (Json.maxDepth - 1) p.1

/-- Whether fields, read in the order in which they are written, break reading off. The medium may
stand in front of the issuer's configuration, once. -/
def fieldsAbort : List (String × Bytes) → Bool
  | [] => false
  | (name, text) :: rest =>
    if name = "issuer" then IssuerConfig.aborts text
    else if name = "storage" && (leadingMedium? text).isSome then
      (rest.head?.filter fun f => f.1 = "issuer").any fun f => IssuerConfig.aborts f.2
    else false

/-- Reads a configuration that is given as text. -/
def ofText (text : Bytes) : Except Abort (Option ServiceConfig) :=
  if fieldsAbort (Json.leadingFields ["issuer", "storage"] text) then .error .lifetime
  else .ok ((Json.parse? text).bind ofJson?)

end ServiceConfig

end SessionTokens
