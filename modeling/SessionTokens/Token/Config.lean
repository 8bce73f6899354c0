import SessionTokens.Halt
import SessionTokens.Json.Leading
import SessionTokens.Time.Lifetime
import SessionTokens.Token.Error
/-!
# Configuration of an issuer

The algorithm, the issuer's name, and the lifetimes of access and refresh tokens. A configuration
that is read from JSON is not checked; `validate` checks it.
-/

namespace SessionTokens

/-- The configuration of an issuer. -/
structure IssuerConfig where
  algorithm : Algorithm
  issuer : String
  accessTtl : Duration
  refreshTtl : Duration
deriving DecidableEq

namespace IssuerConfig

/-- The usual lifetime of an access token: two hours. -/
def defaultAccessTtl : Duration := ⟨7200 * 1000000000, by decide⟩

/-- The usual lifetime of a refresh token: two days. -/
def defaultRefreshTtl : Duration := ⟨172800 * 1000000000, by decide⟩

/-- The shortest lifetime. -/
def minTtl : Duration := ⟨1000000000, by decide⟩

/-! ## Checking -/

/-- Refuses a lifetime that is too short. -/
def checkTtl (field : String) (ttl : Duration) : Except AuthError Unit :=
  if ttl.nanos < minTtl.nanos then
    .error (.config (.belowMinimum field minTtl.shown ttl.shown))
  else .ok ()

/-- Checks a configuration: the algorithm, the name, each lifetime, and that access tokens do not
outlive refresh tokens. -/
def validate (c : IssuerConfig) : Except AuthError Unit := do
  match c.algorithm.ensureAccepted with
  | .error fault => throw (.policy fault)
  | .ok () => pure ()
  if c.issuer.isEmpty then throw (.config (.empty "issuer"))
  checkTtl "access_ttl" c.accessTtl
  checkTtl "refresh_ttl" c.refreshTtl
  if c.refreshTtl.nanos < c.accessTtl.nanos then
    throw (.config (.accessOutlivesRefresh c.accessTtl.shown c.refreshTtl.shown))

/-- A configuration that has been checked. Lifetimes that are not given are the usual ones. -/
def build (algorithm : Algorithm) (issuer : String) (accessTtl refreshTtl : Option Duration) :
    Except AuthError IssuerConfig :=
  let c : IssuerConfig :=
    ⟨algorithm, issuer, accessTtl.getD defaultAccessTtl, refreshTtl.getD defaultRefreshTtl⟩
  c.validate.map fun _ => c

/-! ## JSON -/

/-- A configuration as a JSON object. -/
def toJson (c : IssuerConfig) : Json :=
  .ofFields [("algorithm", .text c.algorithm.name), ("issuer", .text c.issuer),
    ("access_ttl", .text (Lifetime.write c.accessTtl)),
    ("refresh_ttl", .text (Lifetime.write c.refreshTtl))]

/-- The algorithm that a JSON value names. -/
def algorithm? (v : Json) : Option Algorithm := v.choice?.bind Algorithm.ofName?

/-- The lifetime that a JSON value gives as text. -/
def lifetime? (v : Json) : Option Duration := v.text?.bind fun s => (Lifetime.read s).toOption

/-- The names of the fields in their order. -/
def fieldNames : List String := ["algorithm", "issuer", "access_ttl", "refresh_ttl"]

/-- Reads a configuration. -/
def ofJson? (v : Json) : Option IssuerConfig := do
  match ← v.fields? fieldNames true 2 with
  | [algorithm, issuer, accessTtl, refreshTtl] =>
    return ⟨← Json.needed? algorithm? algorithm, ← Json.needed? Json.text? issuer,
      ← Json.orElse? defaultAccessTtl lifetime? accessTtl,
      ← Json.orElse? defaultRefreshTtl lifetime? refreshTtl⟩
  | _ => none

/-- Whether the value of a field can be read. -/
def readsField (name : String) (v : Json) : Bool :=
  if name = "algorithm" then (algorithm? v).isSome
  else if name = "issuer" then v.text?.isSome
  else (lifetime? v).isSome

/-- Whether a value gives a lifetime whose parts add up to too much. -/
def isOverflow (v : Json) : Bool :=
  match v.text?.map Lifetime.read with
  | some (.error .overflow) => true
  | _ => false

/-- Whether fields, read in the order in which they are written, break reading off with a lifetime
before anything else is wrong. The names are those of the fields that may still come. -/
def fieldsAbort (names : List String) : List (String × Bytes) → Bool
  | [] => false
  | (name, text) :: rest =>
    match Json.first? text with
    | none => false
    | some (v, _) =>
      if !names.contains name then false
      else if (fieldNames.drop 2).contains name && isOverflow v then true
      else readsField name v && fieldsAbort (names.erase name) rest

/-- Whether reading a configuration at the start of a text breaks off. -/
def aborts (text : Bytes) : Bool := fieldsAbort fieldNames (Json.leadingFields fieldNames text)

/-- Reads a configuration that is given as text. -/
def ofText (text : Bytes) : Except Abort (Option IssuerConfig) :=
  if aborts text then .error .lifetime else .ok ((Json.parse? text).bind ofJson?)

end IssuerConfig

end SessionTokens
