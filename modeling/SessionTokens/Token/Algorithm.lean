/-!
# Signature algorithms

Twelve algorithms have names, but only those with a private and a public key are accepted: a
secret that is shared with every verifier is none, and no signature at all is none either.

* `ofName?_name`: **a name leads back to its algorithm**.
* `isOk_ensureAccepted`: an algorithm is accepted exactly if it has a family of keys.
-/

namespace SessionTokens

/-- The algorithms that have a name. -/
inductive Algorithm
  | hs256
  | hs384
  | hs512
  | es256
  | es384
  | rs256
  | rs384
  | rs512
  | ps256
  | ps384
  | ps512
  | edDsa
deriving DecidableEq, Repr

/-- The kinds of keys. -/
inductive KeyFamily
  | edwards
  | ellipticCurve
  | rsa
deriving DecidableEq, Repr

/-- The name of a family. -/
def KeyFamily.name : KeyFamily → String
  | edwards => "Edwards"
  | ellipticCurve => "EllipticCurve"
  | rsa => "Rsa"

/-- Why a name is not accepted. -/
inductive PolicyFault
  | forbidden (name : String)
  | unlisted (name : String)
  | other (message : String)
deriving DecidableEq, Repr

/-- The wording of a fault. -/
def PolicyFault.message : PolicyFault → String
  | forbidden name => "Algorithm '" ++ name ++ "' is not allowed for security reasons"
  | unlisted name => "Algorithm '" ++ name ++ "' is not in accepted list"
  | other message => message

namespace Algorithm

/-- All algorithms. -/
def all : List Algorithm :=
  [hs256, hs384, hs512, es256, es384, rs256, rs384, rs512, ps256, ps384, ps512, edDsa]

/-- The name of an algorithm. -/
def name : Algorithm → String
  | hs256 => "HS256"
  | hs384 => "HS384"
  | hs512 => "HS512"
  | es256 => "ES256"
  | es384 => "ES384"
  | rs256 => "RS256"
  | rs384 => "RS384"
  | rs512 => "RS512"
  | ps256 => "PS256"
  | ps384 => "PS384"
  | ps512 => "PS512"
  | edDsa => "EdDSA"

/-- The algorithm of a name. -/
def ofName? (name : String) : Option Algorithm := all.find? fun a => a.name == name

/-- The keys that an algorithm works with; none for those with a shared secret. -/
def family? : Algorithm → Option KeyFamily
  | hs256 | hs384 | hs512 => none
  | es256 | es384 => some .ellipticCurve
  | rs256 | rs384 | rs512 | ps256 | ps384 | ps512 => some .rsa
  | edDsa => some .edwards

/-- The accepted algorithms. -/
def accepted : List Algorithm :=
  [edDsa, es256, es384, rs256, rs384, rs512, ps256, ps384, ps512]

/-- The names of the accepted algorithms. -/
def acceptedNames : List String := accepted.map name

/-- The names that are refused for what they stand for. -/
def forbiddenNames : List String := "none" :: [hs256, hs384, hs512].map name

/-- Checks a name and gives its algorithm. -/
def ofAcceptedName (name : String) : Except PolicyFault Algorithm :=
  if forbiddenNames.contains name then .error (.forbidden name)
  else
    match accepted.find? fun a => a.name == name with
    | some a => .ok a
    | none => .error (.unlisted name)

/-- Checks an algorithm. -/
def ensureAccepted (a : Algorithm) : Except PolicyFault Unit :=
  (ofAcceptedName a.name).map fun _ => ()

theorem ofName?_name (a : Algorithm) : ofName? a.name = some a := by
  cases a <;> decide

theorem isOk_ensureAccepted (a : Algorithm) : a.ensureAccepted.isOk = a.family?.isSome := by
  cases a <;> decide

end Algorithm

end SessionTokens
