import SessionTokens.Store.Error
import SessionTokens.Token.Error
/-!
# Errors of the service

What a client of the service is told. Why a token is invalid is not told: a forged one and one
that was revoked look the same.
-/

namespace SessionTokens

/-- An error of the service. -/
inductive TokenError
  | invalidToken
  | notOwned
  | storage (error : StorageError)
  | signing (error : AuthError)
  | cancelled
  | config (error : AuthError)
deriving DecidableEq

namespace TokenError

/-- The error for an error of tokens and keys. -/
def ofAuth : AuthError → TokenError
  | .token _ => invalidToken
  | .signing fault cause? => signing (.signing fault cause?)
  | e => config e

/-- The name of an error's kind. -/
def kind : TokenError → String
  | invalidToken => "InvalidToken"
  | notOwned => "NotOwnedBySender"
  | storage e => "Storage." ++ e.kind
  | signing _ => "Signing"
  | cancelled => "Cancelled"
  | config _ => "Config"

/-- The wording of an error. -/
def message : TokenError → String
  | invalidToken => "Invalid token"
  | notOwned => "Token not owned by sender"
  | storage e => "Storage failure: " ++ e.message
  | signing e => "Signing failure: " ++ e.message
  | cancelled => "Operation cancelled"
  | config e => "Invalid configuration: " ++ e.message

/-- The words of the errors behind an error, nearest first. -/
def causes : TokenError → List String
  | storage e => e.message :: e.causes
  | signing e => e.message :: e.causes
  | config e => e.message :: e.causes
  | _ => []

end TokenError

end SessionTokens
