import SessionTokens.Grant
import SessionTokens.Platform
import SessionTokens.Service.Config
import SessionTokens.Service.Error
import SessionTokens.Session.Store
import SessionTokens.Token.Issuer
/-!
# The service

A service opens sessions, checks the tokens of its clients against them, rotates and revokes them.
Several services may share one store.

**One session for a device.** Opening or rotating a session evicts every other session of the same
identity, whoever it belongs to.

**Rotation.** A refresh token is good for one rotation: the session gets a new id, and the old
one is gone.

**The end of a service.** A service that is closed, or whose work is cancelled, answers nothing
more. Closing it closes the store as well.

* `create_store_of_error` and the like: **an operation that fails leaves the store as it was**.
-/

namespace SessionTokens

/-- A service: its issuer, and whether it still works. -/
structure Service where
  issuer : Issuer
  closed : Bool
  cancelled : Bool
deriving DecidableEq

/-- What a client asks for with a new session. -/
structure SessionRequest where
  userAgent : String
  fingerprint : String
  userId : String
  ip : String
  role : String
  namespaceAccess : List Grant
  volumeAccess : List Grant
  rwAccess : Bool
  parentId : Option String
deriving DecidableEq, Repr

/-- What is known of the session of a token that was checked. -/
structure CheckedSession where
  id : String
  userId : String
  role : String
  rwAccess : Bool
  namespaceAccess : List Grant
  volumeAccess : List Grant
  parentId : Option String
deriving DecidableEq, Repr

/-- What a user is shown of a session. -/
structure SessionInfo where
  id : String
  userAgent : String
  ip : String
  createdAt : Timestamp
deriving DecidableEq, Repr

/-- What a user is shown of a session. -/
def Record.info (r : Record) : SessionInfo := ⟨r.id, r.userAgent, r.ip, r.createdAt⟩

/-- The record of a session that is opened now. -/
def SessionRequest.record (q : SessionRequest) (id : String) (now : Instant) : Record where
  id := id
  userId := q.userId
  userAgent := q.userAgent
  platform := Platform.ofUserAgent q.userAgent
  fingerprint := q.fingerprint
  ip := q.ip
  role := q.role
  rwAccess := q.rwAccess
  namespaceAccess := Grant.store q.namespaceAccess
  volumeAccess := Grant.store q.volumeAccess
  parentId := q.parentId
  createdAt := Timestamp.ofInstant now

namespace Service

/-- What an operation does up to an answer or an end. -/
abbrev Course (α : Type) := Traced (Halt TokenError) α

/-- The end with an error. -/
def refuse {α : Type} (e : TokenError) : Course α := throw (.failed e)

/-- An operation on the store as a step of one of the service. -/
def onStore {α : Type} (r : Session.Outcome α) : Course α :=
  Traced.lift (r.mapError (Halt.map TokenError.storage))

/-- Refuses a service that is closed or cancelled. -/
def ensureLive (s : Service) : Course Unit :=
  if s.closed then refuse (.storage .closed)
  else if s.cancelled then refuse .cancelled
  else pure ()

/-- Verifies a token that has to be of a kind. -/
def verifyKind (s : Service) (clock : Clock) (token : String) (kind : TokenKind) :
    Course Claims := do
  let verified := (s.issuer.verify clock token).mapError (Halt.map fun _ => TokenError.invalidToken)
  let c ← Traced.lift verified
  if c.core.kind = kind then return c else refuse .invalidToken

/-- Issues the tokens of a session. -/
def issueTokens (s : Service) (clock : Clock) (fresh : Draw) (ext : Extension) :
    Course TokenPair :=
  (s.issuer.issue clock fresh ext).mapError (Halt.map TokenError.ofAuth)

/-- The record that an operation needs. -/
def demandRecord : Option Record → Course Record
  | some r => pure r
  | none => refuse .invalidToken

/-- A removal of sessions as a step of an operation of the service. -/
def removal (r : Txn × Traced (Halt StorageError) (List Record)) :
    Course (Txn × List Record) := do
  let removed ← r.2.mapError (Halt.map .storage)
  return (r.1, removed)

/-! ## Opening and rotating sessions -/

/-- Opens a session under a fresh id. -/
def create (s : Service) (x : Site) (clock : Clock) (fresh : Draw) (q : SessionRequest) :
    Done TokenError TokenPair :=
  let start : Course TokenPair := do
    Traced.enter "create_token"
    s.ensureLive
    s.issueTokens clock fresh (Extension.of q.userId q.role q.parentId)
  x.perform clock .storage start fun pair t => do
    let record := q.record pair.id (← Traced.lift (Halt.ofAbort clock.read))
    let (t, evicted) ← removal (Session.evict t record.identity)
    let t := Session.insert t record pair.refresh.lifetime
    return ⟨t.pending, pair,
      [.noted .debug "session created" (Session.evictedField evicted.length)]⟩

/-- Refuses a refresh token whose extension is not for the user of its session. -/
def checkOwner (c : Claims) (old : Record) : Course Unit :=
  match c.ext with
  | none => pure ()
  | some e =>
    if e.userIdHash = hashUserId old.userId then pure ()
    else do
      Traced.note .warn "refresh token does not belong to stored session user" []
      refuse .invalidToken

/-- Refuses a client whose fingerprint is not that of the session. -/
def checkFingerprint (old : Record) (fingerprint : String) : Course Unit :=
  if old.fingerprint = fingerprint then pure ()
  else do
    Traced.note .warn "fingerprint does not match session" []
    refuse .notOwned

/-- Rotates the session of a refresh token to a fresh id. -/
def extend (s : Service) (x : Site) (clock : Clock) (fresh : Draw) (token fingerprint : String) :
    Done TokenError TokenPair :=
  let start : Course Claims := do
    Traced.enter "extend_token"
    s.ensureLive
    s.verifyKind clock token .refresh
  x.perform clock .storage start fun claims t => do
    let old ← demandRecord (← onStore (Session.get t claims.core.id))
    checkOwner claims old
    checkFingerprint old fingerprint
    let (t, evicted) ← removal (Session.evict (Session.remove t old) old.identity)
    let pair ← s.issueTokens clock fresh (Extension.of old.userId old.role old.parentId)
    let now ← Traced.lift (Halt.ofAbort clock.read)
    let record := { old with id := pair.id, createdAt := Timestamp.ofInstant now }
    let t := Session.insert t record pair.refresh.lifetime
    return ⟨t.pending, pair,
      [.noted .debug "session rotated" (Session.evictedField evicted.length)]⟩

/-! ## Checking and listing -/

/-- Checks an access token and the signals of its client against the session. -/
def check (s : Service) (store : Store) (clock : Clock) (token userAgent ip fingerprint : String) :
    Course CheckedSession := do
  Traced.enter "check_token"
  s.ensureLive
  let claims ← s.verifyKind clock token .access
  let r ← demandRecord (← onStore (Session.find store clock claims.core.id))
  if r.ip ≠ ip || r.fingerprint ≠ fingerprint then
    Traced.note .warn "client signals do not match session" []
    refuse .notOwned
  if r.platform ≠ Platform.ofUserAgent userAgent then
    Traced.note .debug "user agent platform differs from session" []
  let namespaceAccess ← Grant.load r.namespaceAccess
  let volumeAccess ← Grant.load r.volumeAccess
  return ⟨r.id, r.userId, r.role, r.rwAccess, namespaceAccess, volumeAccess, r.parentId⟩

/-- The sessions of a user, oldest first. -/
def list (s : Service) (store : Store) (clock : Clock) (userId : String) :
    Course (List SessionInfo) := do
  Traced.enter "get_user_tokens"
  s.ensureLive
  let records ← (Session.ofUser store clock userId).mapError (Halt.map .storage)
  return records.map Record.info

/-- Whether a service and its store work. -/
def health (s : Service) (x : Site) : Course Unit :=
  if s.closed then refuse (.storage .closed)
  else (x.store.health x.files).mapError (Halt.map .storage)

/-! ## Revoking sessions -/

/-- Revokes a session on behalf of a user, who has to be its owner. -/
def delete (s : Service) (x : Site) (clock : Clock) (id userId : String) : Done TokenError Unit :=
  let start : Course Unit := do
    Traced.enter "delete_token"
    s.ensureLive
  x.perform clock .storage start fun _ t => do
    let r ← demandRecord (← onStore (Session.get t id))
    if r.userId ≠ userId then
      Traced.note .warn "delete requested by non-owner" []
      refuse .notOwned
    return ⟨(Session.remove t r).pending, (), [.noted .debug "session deleted" []]⟩

/-- Revokes all sessions of a user and gives their number. -/
def deleteUser (s : Service) (x : Site) (clock : Clock) (userId : String) : Done TokenError Nat :=
  let start : Course Unit := do
    Traced.enter "delete_user_tokens"
    s.ensureLive
  x.perform clock .storage start fun _ t => do
    let (t, removed) ← removal (Session.removeUser t userId)
    return ⟨t.pending, removed.length,
      [.noted .info "revoked all sessions for user" [("removed", .count removed.length)]]⟩

/-! ## Beginning and end -/

/-- A service with an issuer. -/
def of (issuer : Issuer) : Service := ⟨issuer, false, false⟩

/-- Opens a service together with the store that its configuration names. -/
def launch (c : ServiceConfig) (keys : TokenKeys) (files : FileTree) (clock : Clock) :
    Course (Service × Store) := do
  let issuer ← match Issuer.of c.issuer keys with
    | .ok issuer => pure issuer
    | .error e => refuse (.config e)
  let store ← (Store.ofMedium c.storage files clock).mapError (Halt.map .storage)
  Traced.note .info "token service opened" []
  return (of issuer, store)

/-- The service with its work cancelled. -/
def cancel (s : Service) : Service := { s with cancelled := true }

/-- Closes a service and its store. The service is closed even while the store is not yet. -/
def close (s : Service) (x : Site) (clock : Clock) : Service × Done TokenError Unit :=
  if s.closed then (s, ⟨x, Traced.enter "close"⟩)
  else
    let done := x.close clock
    ({ s with closed := true, cancelled := true },
      ⟨done.site, do
        Traced.enter "close"
        done.outcome.mapError (Halt.map .storage)
        Traced.note .info "token service closed" []⟩)

theorem create_store_of_error {s : Service} {x : Site} {clock : Clock} {fresh : Draw}
    {q : SessionRequest} {h : Halt TokenError}
    (he : (s.create x clock fresh q).outcome.result = .error h) :
    (s.create x clock fresh q).site.store = x.store :=
  Site.perform_store_of_error he

theorem extend_store_of_error {s : Service} {x : Site} {clock : Clock} {fresh : Draw}
    {token fingerprint : String} {h : Halt TokenError}
    (he : (s.extend x clock fresh token fingerprint).outcome.result = .error h) :
    (s.extend x clock fresh token fingerprint).site.store = x.store :=
  Site.perform_store_of_error he

theorem delete_store_of_error {s : Service} {x : Site} {clock : Clock} {id userId : String}
    {h : Halt TokenError} (he : (s.delete x clock id userId).outcome.result = .error h) :
    (s.delete x clock id userId).site.store = x.store :=
  Site.perform_store_of_error he

theorem deleteUser_store_of_error {s : Service} {x : Site} {clock : Clock} {userId : String}
    {h : Halt TokenError} (he : (s.deleteUser x clock userId).outcome.result = .error h) :
    (s.deleteUser x clock userId).site.store = x.store :=
  Site.perform_store_of_error he

end Service

end SessionTokens
