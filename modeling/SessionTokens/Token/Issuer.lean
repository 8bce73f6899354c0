import SessionTokens.Time.Clock
import SessionTokens.Token.Claims
import SessionTokens.Token.Config
import SessionTokens.Token.Header
import SessionTokens.Token.Keys
import SessionTokens.Trace
/-!
# Issuing and verifying tokens

A token is three parts with dots between: a header, the claims, and a signature of the two, each
in base64 for URLs.

**Issuing** (`Issuer.issue`). A session gets a pair of tokens with the same id. The refresh token
carries the extension, the access token does not. Each lapses a whole number of seconds after it
was issued.

**Verifying** (`Issuer.verify`). A token is refused for the first reason found, in this order: its
parts, its header, its algorithm, the checking key, its signature, its claims, its expiry, its
issuer. A token is dead from the second of its expiry on.
-/

namespace SessionTokens

/-- A token that was issued. -/
structure IssuedToken where
  token : String
  id : String
  lifetime : Duration
deriving DecidableEq

/-- The tokens of a session. -/
structure TokenPair where
  access : IssuedToken
  refresh : IssuedToken
deriving DecidableEq

/-- The id of a pair's session. -/
def TokenPair.id (p : TokenPair) : String := p.refresh.id

/-- An issuer of tokens. -/
structure Issuer where
  config : IssuerConfig
  keys : TokenKeys
deriving DecidableEq

/-- What is drawn at random for a session: its id, and a salt for each signature. -/
structure Draw where
  id : String
  refreshSalt : Rsa.Salt
  accessSalt : Rsa.Salt
deriving DecidableEq

/-- The draw of an id for keys whose signatures hold no salt. -/
def Draw.unsalted (id : String) : Draw := ⟨id, .replicate 64 0, .replicate 64 0⟩

@[simp]
theorem Draw.id_unsalted (id : String) : (Draw.unsalted id).id = id := rfl

instance : Coe String Draw := ⟨Draw.unsalted⟩

/-- What a caller is told about a token: whether it is valid, and then its id and kind. -/
structure Verdict where
  valid : Bool
  id : Option String
  kind : Option TokenKind
deriving DecidableEq, Repr

namespace Compact

/-- Bytes in base64 for URLs. -/
def part (bs : Bytes) : Bytes := Base64.encode .url bs

/-- The dot between two parts. -/
def dot : UInt8 := 0x2E

/-- Two parts with a dot between. -/
def join (a b : Bytes) : Bytes := a ++ dot :: b

/-- The parts before and after the last dot. -/
def splitLast? (bs : Bytes) : Option (Bytes × Bytes) :=
  let back := bs.reverse
  match back.dropWhile (· ≠ dot) with
  | [] => none
  | _ :: before => some (before.reverse, (back.takeWhile (· ≠ dot)).reverse)

/-- The bytes of a part. -/
def bytes? (p : Bytes) : Option Bytes := Base64.decode? .url p

end Compact

namespace Issuer

/-- An issuer with a configuration that is checked and keys for its algorithm. -/
def of (config : IssuerConfig) (keys : TokenKeys) : Except AuthError Issuer := do
  config.validate
  if keys.algorithm = config.algorithm then return ⟨config, keys⟩
  else throw (.key (.mismatch keys.algorithm config.algorithm))

/-! ## Issuing -/

/-- The largest count of seconds that claims can hold. -/
def maxSeconds : Int := 0x7FFFFFFFFFFFFFFF

/-- The second at which a token that is issued now lapses. -/
def expiry? (now : Instant) (lifetime : Duration) : Option Int :=
  let second := now.seconds + lifetime.seconds
  if (lifetime.seconds : Int) ≤ maxSeconds && second ≤ maxSeconds then some second else none

/-- The claims of a token. -/
def claims (i : Issuer) (now : Instant) (id : String) (kind : TokenKind) (expiresAt : Int)
    (ext : Option Extension) : Claims :=
  ⟨⟨id, i.config.issuer, now.seconds, expiresAt, kind⟩, ext⟩

/-- The part of a token that is signed: header and claims. -/
def signedPart (i : Issuer) (c : Claims) : Bytes :=
  Compact.join (Compact.part (Header.encode i.config.algorithm)) (Compact.part c.encode)

/-- A signed token. -/
def sign (i : Issuer) (clock : Clock) (salt : Rsa.Salt) (id : String) (kind : TokenKind)
    (lifetime : Duration) (ext : Option Extension) : Except (Halt AuthError) IssuedToken := do
  let now ← Halt.ofAbort clock.read
  match expiry? now lifetime with
  | none => throw (.failed (.signing (.lifetime lifetime) none))
  | some expiresAt =>
    let message := i.signedPart (i.claims now id kind expiresAt ext)
    match ← Halt.ofAbort (i.keys.sign salt message) with
    | none => throw (.failed (.signing (.token kind.shown) none))
    | some signature =>
      return ⟨Text.ascii (Compact.join message (Compact.part signature)), id, lifetime⟩

/-- The tokens of a session. -/
def issue (i : Issuer) (clock : Clock) (fresh : Draw) (ext : Extension) :
    Traced (Halt AuthError) TokenPair := do
  let refresh ← i.sign clock fresh.refreshSalt fresh.id .refresh i.config.refreshTtl (some ext)
  let access ← i.sign clock fresh.accessSalt fresh.id .access i.config.accessTtl none
  Traced.note .debug "Issued token pair" []
  return ⟨access, refresh⟩

/-! ## Verifying -/

/-- A value, or a fault instead of its absence. -/
def orFault {α : Type} (fault : TokenFault) : Option α → Except (Halt TokenFault) α
  | some a => .ok a
  | none => .error (.failed fault)

/-- Refuses what does not hold. -/
def demand (fault : TokenFault) (holds : Bool) : Except (Halt TokenFault) Unit :=
  if holds then .ok () else .error (.failed fault)

/-- The header, the payload and the signature of a token, as they are written. -/
def parts? (token : Bytes) : Option (Bytes × Bytes × Bytes) := do
  let (message, signature) ← Compact.splitLast? token
  let (header, payload) ← Compact.splitLast? message
  return (header, payload, signature)

/-- Whether a subject, if there is one, is no array and no object. -/
def isSubject : Option Json → Bool
  | some (.array _) => false
  | some (.object _) => false
  | _ => true

/-- Whether a starting time, if there is one, is no array and no object with something in it. -/
def isStart : Option Json → Bool
  | some (.array (_ :: _)) => false
  | some (.object (_ :: _)) => false
  | _ => true

/-- Whether the members with a fixed meaning that are not used are as they may be: none of them
stands there twice. -/
def hasRegularRest (ms : List (String × Json)) : Bool :=
  (Json.only? ms "sub").any isSubject && (Json.only? ms "nbf").any isStart
    && (Json.only? ms "aud").isSome

/-- The claims of a payload. -/
def claimsOf? (payload : Bytes) : Option Claims := do
  let ms ← Claims.members? payload
  let c ← Claims.ofMembers? ms
  if hasRegularRest ms then some c else none

/-- Checks the times and the issuer of claims. A clock beyond the calendar does for telling that a
token has lapsed, but not that it has not. -/
def checkClaims (i : Issuer) (clock : Clock) (c : Claims) : Except (Halt TokenFault) Unit := do
  demand (.missingClaim "exp") (0 ≤ c.core.expiresAt)
  let second ← Halt.ofAbort clock.second
  demand .expired (second ≤ c.core.expiresAt)
  demand .issuer (c.core.issuer = i.config.issuer)
  let now ← Halt.ofAbort clock.read
  demand .expired (now.seconds < c.core.expiresAt)

/-- Verifies a token and gives its claims. -/
def verify (i : Issuer) (clock : Clock) (token : String) : Except (Halt TokenFault) Claims := do
  let (header, payload, signature) ← orFault .parts (parts? (Text.utf8 token))
  let headerBytes ← orFault .base64 (Compact.bytes? header)
  let algorithm ← orFault .json (Header.algorithm? headerBytes)
  demand .algorithm (algorithm = i.config.algorithm)
  let check ← i.keys.checker
  let signatureBytes ← orFault .base64 (Compact.bytes? signature)
  demand .signature (check (Compact.join header payload) signatureBytes)
  let payloadBytes ← orFault .base64 (Compact.bytes? payload)
  let c ← orFault .json (claimsOf? payloadBytes)
  i.checkClaims clock c
  return c

/-- What a caller is told about a token. -/
def validate (i : Issuer) (clock : Clock) (token : String) : Except Abort Verdict :=
  match i.verify clock token with
  | .ok c => .ok ⟨true, some c.core.id, some c.core.kind⟩
  | .error (.aborted cause) => .error cause
  | .error _ => .ok ⟨false, none, none⟩

end Issuer

end SessionTokens
