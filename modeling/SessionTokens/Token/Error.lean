import SessionTokens.Time.Duration
import SessionTokens.Token.Algorithm
/-!
# Errors of tokens and keys

What can be wrong with a token, with a key, with signing and with the configuration of an issuer.
Each error is a cause; `message` puts it into words.
-/

namespace SessionTokens

/-- Why a token is refused. -/
inductive TokenFault
  | signature
  | expired
  | issuer
  | algorithm
  | parts
  | json
  | base64
  | edwardsKey
  | curveKey
  | missingClaim (name : String)
  | claimFormat (name : String)
  | named (name : String)
  | other (message : String)
deriving DecidableEq, Repr

/-- The wording of a token's fault. -/
def TokenFault.message : TokenFault → String
  | signature => "signature mismatch"
  | expired => "token expired"
  | issuer => "issuer mismatch"
  | algorithm => "algorithm mismatch"
  | parts => "JWT error: InvalidToken"
  | json => "JWT error: JSON error"
  | base64 => "JWT error: Base64 error"
  | edwardsKey => "JWT error: InvalidEddsaKey"
  | curveKey => "JWT error: InvalidEcdsaKey"
  | missingClaim name => "JWT error: Missing required claim: " ++ name
  | claimFormat name => "JWT error: Invalid format for claim: " ++ name
  | named name => "JWT error: " ++ name
  | other message => message

/-- The fault of a given name. `exp` and `nbf` stand for claims that are missing or malformed. -/
def TokenFault.ofName (name : String) : TokenFault :=
  match name with
  | "InvalidSignature" => signature
  | "ExpiredSignature" => expired
  | "InvalidIssuer" => issuer
  | "InvalidAlgorithm" => algorithm
  | "InvalidToken" => parts
  | "Json" => json
  | "Base64" => base64
  | "InvalidEddsaKey" => edwardsKey
  | "InvalidEcdsaKey" => curveKey
  | "MissingRequiredClaim" => missingClaim "exp"
  | "InvalidClaimFormat" => claimFormat "nbf"
  | name => named name

/-- Which of the two keys of a pair is meant. -/
inductive KeySide
  | signing
  | checking
deriving DecidableEq, Repr

/-- The name of a side. -/
def KeySide.name : KeySide → String
  | signing => "private key"
  | checking => "public key"

/-- Why a key file is refused. -/
inductive KeyFileFault
  | format
  | noString
deriving DecidableEq, Repr

/-- The name of a key file's fault. -/
def KeyFileFault.name : KeyFileFault → String
  | format => "InvalidKeyFormat"
  | noString => "InvalidEcdsaKey"

/-- Why keys are refused. -/
inductive KeyFault
  | emptySigning
  | notBase64
  | length (bytes : Nat)
  | unreadable (path : String)
  | file (side : KeySide) (algorithm : Algorithm) (fault : KeyFileFault)
  | mismatch (keys issuer : Algorithm)
  | other (message : String)
deriving DecidableEq, Repr

/-- The wording of a key's fault. -/
def KeyFault.message : KeyFault → String
  | emptySigning => "empty Ed25519 private key"
  | notBase64 => "public key is not base64url"
  | length bytes => "Ed25519 public key must be 32 bytes, got " ++ Text.digitsText bytes
  | unreadable path => "reading " ++ path ++ ": No such file or directory (os error 2)"
  | file side a fault => side.name ++ " for " ++ a.name ++ ": " ++ fault.name
  | mismatch keys issuer =>
    "keys are for " ++ keys.name ++ " but the issuer is configured for " ++ issuer.name
  | other message => message

/-- Why a token cannot be signed. -/
inductive SigningFault
  | lifetime (lifetime : Duration)
  | token (kind : String)
  | other (message : String)
deriving DecidableEq

/-- The wording of a fault in signing. -/
def SigningFault.message : SigningFault → String
  | lifetime d => "lifetime " ++ d.shown ++ " out of range"
  | token kind => kind ++ " token"
  | other message => message

/-- Why a configuration is refused. -/
inductive ConfigFault
  | empty (field : String)
  | belowMinimum (field least given : String)
  | accessOutlivesRefresh (access refresh : String)
deriving DecidableEq, Repr

/-- The name of a kind of configuration fault. -/
def ConfigFault.kind : ConfigFault → String
  | empty _ => "Config.Empty"
  | belowMinimum _ _ _ => "Config.BelowMinimum"
  | accessOutlivesRefresh _ _ => "Config.AccessOutlivesRefresh"

/-- The wording of a configuration fault. -/
def ConfigFault.message : ConfigFault → String
  | empty field => field ++ " must not be empty"
  | belowMinimum field least given =>
    field ++ " must be at least " ++ least ++ ", got " ++ given
  | accessOutlivesRefresh access refresh =>
    "access_ttl (" ++ access ++ ") must not exceed refresh_ttl (" ++ refresh ++ ")"

/-- An error of tokens and keys. -/
inductive AuthError
  | token (fault : TokenFault)
  | policy (fault : PolicyFault)
  | key (fault : KeyFault)
  | signing (fault : SigningFault) (cause? : Option String)
  | config (fault : ConfigFault)
deriving DecidableEq

namespace AuthError

/-- The name of an error's kind. -/
def kind : AuthError → String
  | token _ => "InvalidToken"
  | policy _ => "UnsupportedAlgorithm"
  | key _ => "InvalidKey"
  | signing _ _ => "Signing"
  | config fault => fault.kind

/-- The wording of an error. -/
def message : AuthError → String
  | token fault => "Invalid token: " ++ fault.message
  | policy fault => "Unsupported algorithm: " ++ fault.message
  | key fault => "Invalid key: " ++ fault.message
  | signing fault _ => "Signing failed: " ++ fault.message
  | config fault => fault.message

/-- The words of the errors behind an error, nearest first. -/
def causes : AuthError → List String
  | signing _ cause? => cause?.toList
  | _ => []

end AuthError

end SessionTokens
