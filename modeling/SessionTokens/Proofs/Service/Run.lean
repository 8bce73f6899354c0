import Mathlib.Data.List.Induction
import SessionTokens.Proofs.Service.Effects
/-!
# Runs of services

A run is a list of steps on one store: operations of any services that share it, with whatever
arguments and whatever outcome, the closing of a service, sweeps, and for a store with a file the
opening of the file by the next instance. A step names its service, so a run may mix services with
different keys, and a service that has been closed or cancelled may still be asked.

A run is *lawful* if the store is empty when it begins, the clock does not go back, the generated
ids are different and no two of the texts that are hashed have the same hash. It need not go well:
files that cannot be written, clocks that cannot be read and refused clients are part of runs.
-/

namespace SessionTokens

open Session

/-! ## Steps -/

/-- What can happen to a store. -/
inductive Action
  | create (s : Service) (fresh : Draw) (q : SessionRequest)
  | extend (s : Service) (fresh : Draw) (token fingerprint : String)
  | check (s : Service) (token userAgent ip fingerprint : String)
  | list (s : Service) (userId : String)
  | delete (s : Service) (id userId : String)
  | deleteUser (s : Service) (userId : String)
  | close (s : Service)
  | sweep
  | reopen (limits : Limits)
  /-- Something else changes the files around the store's own. -/
  | disturb (files : FileTree)

/-- What happens, and the time at which it happens. -/
structure Step where
  clock : Clock
  action : Action

/-- The id of the session that a token is for, if a service verifies the token. -/
def Service.tokenId? (s : Service) (clock : Clock) (token : String) : Option String :=
  match s.issuer.verify clock token with
  | .ok c => some c.core.id
  | .error _ => none

/-- The id that is generated for an action. -/
def Action.fresh? : Action → Option String
  | create _ fresh _ => some fresh.id
  | extend _ fresh _ _ => some fresh.id
  | _ => none

/-- The texts that a step adds to those that are hashed for keys. -/
def Step.texts (st : Step) : List String :=
  match st.action with
  | .create _ fresh q =>
    [fresh.id, q.userId, Platform.ofUserAgent q.userAgent, q.fingerprint, q.ip]
  | .extend s fresh token _ => fresh.id :: (s.tokenId? st.clock token).toList
  | .check s token _ _ _ => (s.tokenId? st.clock token).toList
  | .list _ userId => [userId]
  | .delete _ id _ => [id]
  | .deleteUser _ userId => [userId]
  | _ => []

namespace Site

/-- The site after the file of its store has been opened anew. If that fails, nothing changes. -/
def reopen (x : Site) (clock : Clock) (limits : Limits) : Site :=
  match x.store.medium with
  | .memory => x
  | .file path =>
    match (openFile x.files path limits clock).result with
    | .ok store => { x with store }
    | .error _ => x

/-- The site after a step. -/
def step (x : Site) (st : Step) : Site :=
  match st.action with
  | .create s fresh q => (s.create x st.clock fresh q).site
  | .extend s fresh token fingerprint => (s.extend x st.clock fresh token fingerprint).site
  | .check _ _ _ _ _ => x
  | .list _ _ => x
  | .delete s id userId => (s.delete x st.clock id userId).site
  | .deleteUser s userId => (s.deleteUser x st.clock userId).site
  | .close s => (s.close x st.clock).2.site
  | .sweep => { x with store := (x.store.tick st.clock).1 }
  | .reopen limits => x.reopen st.clock limits
  | .disturb files => x.disturb files

/-- The site after a run. -/
def run (x : Site) (steps : List Step) : Site := steps.foldl step x

theorem run_append (x : Site) (a b : List Step) : x.run (a ++ b) = (x.run a).run b :=
  List.foldl_append

/-- Whether a store holds nothing, nor does its file. -/
structure Vacant (x : Site) : Prop where
  entries : x.store.entries = ∅
  file : ∀ path, x.store.medium = .file path → ∀ now, load x.files path now = .ok ∅

end Site

/-- The ids that are generated in a run. -/
def freshIds (steps : List Step) : List String := steps.filterMap fun st => st.action.fresh?

/-- Whether a list of steps is a run from an empty store: the clock does not go back, the generated
ids are different, and so are the hashes of the texts. -/
structure Lawful (texts : Set String) (x : Site) (steps : List Step) : Prop where
  vacant : x.Vacant
  ascending : steps.Pairwise fun a b => a.clock.nanos ≤ b.clock.nanos
  fresh : (freshIds steps).Nodup
  collisionFree : CollisionFree texts
  hashed : ∀ st ∈ steps, ∀ s ∈ st.texts, s ∈ texts

/-! ## What a store holds -/

namespace Site

/-- Whether a store holds a record live under the key of its id, up to an expiry. -/
def Holds (x : Site) (t : Instant) (r : Record) (expiry : Option Instant) : Prop :=
  ∃ v, (x.store.entries.live t).find? (recordKey r.id) = some ⟨v, expiry⟩ ∧
    Record.decode? v = some r

/-- Whether the session of an id is live. -/
def Live (x : Site) (t : Instant) (id : String) : Prop :=
  ∃ r expiry, x.Holds t r expiry ∧ r.id = id

end Site

/-- The signals of the device that asks for a session. -/
def SessionRequest.identity (q : SessionRequest) : Identity :=
  ⟨Platform.ofUserAgent q.userAgent, q.fingerprint, q.ip⟩

namespace Step

/-- The instant of a step. -/
def instant (st : Step) : Instant := ⟨st.clock.nanos⟩

/-- Whether a record is that of the session that a step opens, or to which it rotates a session
that the store holds. -/
def Brings (x : Site) (st : Step) (r : Record) : Prop :=
  match st.action with
  | .create s fresh q => ∃ pair now, (s.create x st.clock fresh q).outcome.result = .ok pair ∧
    pair.id = fresh.id ∧ r = q.record fresh.id now
  | .extend s fresh token fingerprint => ∃ pair now c old expiry,
    (s.extend x st.clock fresh token fingerprint).outcome.result = .ok pair ∧ pair.id = fresh.id ∧
      s.issuer.verify st.clock token = .ok c ∧ x.Holds st.instant old expiry ∧
      old.id = c.core.id ∧ r = Service.rotated old fresh.id now
  | _ => False

/-- Whether a step ends the session of a record: it opens a session for the same device, it
rotates the session or another of the same device, or it revokes the session, alone or with all
others of its user. -/
def Ends (x : Site) (st : Step) (r : Record) : Prop :=
  match st.action with
  | .create s fresh q => ∃ pair, (s.create x st.clock fresh q).outcome.result = .ok pair ∧
    q.identity = r.identity
  | .extend s fresh token fingerprint => ∃ pair c old expiry,
    (s.extend x st.clock fresh token fingerprint).outcome.result = .ok pair ∧
      s.issuer.verify st.clock token = .ok c ∧ x.Holds st.instant old expiry ∧
      old.id = c.core.id ∧ old.identity = r.identity
  | .delete s id userId => (s.delete x st.clock id userId).outcome.result = .ok () ∧ r.id = id
  | .deleteUser s userId => ∃ n, (s.deleteUser x st.clock userId).outcome.result = .ok n ∧
    r.userId = userId
  | _ => False

end Step

/-! ## A small run -/

namespace Sample

/-- The seed of the keys. -/
def seed : Bytes := List.replicate 32 7

def service : Service :=
  .of ⟨⟨.edDsa, "i", IssuerConfig.defaultAccessTtl, IssuerConfig.defaultRefreshTtl⟩,
    ⟨.edDsa, Edwards.privateKey seed, Edwards.publicKey seed⟩⟩

def site : Site := ⟨.inMemory .default, .empty⟩

def clock : Clock := ⟨0⟩

def request : SessionRequest :=
  ⟨"", "f", "u", "p", "", [⟨"n", "Main", "write"⟩], [], true, none⟩

/-- An access token for the session that is opened second. -/
def token : String :=
  "eyJ0eXAiOiJKV1QiLCJhbGciOiJFZERTQSJ9." ++
    "eyJqdGkiOiJiIiwiaXNzIjoiaSIsImlhdCI6MCwiZXhwIjo3MjAwLCJraW5kIjoiYWNjZXNzIn0." ++
    "4v0JP7jutet0rZ_vDYTz1oU4WFBoaY2I6CRfBcvXRM5ryVvezvQioDus55AVdf1NNGlByCdhctWNUSYlu7bMAA"

/-- A device opens a session, and then another one in its place. -/
def opening : List Step :=
  [⟨clock, .create service "a" request⟩, ⟨clock, .create service "b" request⟩]

/-- The token of the second session is checked. -/
def checking : Step := ⟨clock, .check service token "" "p" "f"⟩

set_option maxRecDepth 10000 in
theorem lawful : Lawful {s | s ∈ texts} site (opening ++ [checking]) := by
  have hhashed : ∀ st ∈ opening ++ [checking], ∀ s ∈ st.texts, s ∈ texts := by decide +kernel
  exact ⟨⟨rfl, nofun⟩, by decide, by decide, collisionFree, hhashed⟩

/-- Sessions are opened without a turn being left taken. -/
theorem phase_opening (x : Site) : (x.run opening).store.phase = x.store.phase := by
  simp only [opening, Site.run, List.foldl_cons, List.foldl_nil, Site.step, Service.create,
    Site.phase_perform]

end Sample

end SessionTokens
