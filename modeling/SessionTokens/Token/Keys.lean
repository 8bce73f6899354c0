import SessionTokens.FileTree
import SessionTokens.Halt
import SessionTokens.Key.Pem
import SessionTokens.Signature.Curve
import SessionTokens.Signature.Edwards
import SessionTokens.Signature.Rsa
import SessionTokens.Token.Error
/-!
# Keys of an issuer

A pair of keys for one algorithm: one to sign with, one to check with. Loading looks at a key only
as far as to tell what kind it is; whether it can be used shows when it is used.
-/

namespace SessionTokens

/-- The keys of an issuer. The content of each depends on the algorithm: an RSA key is in PKCS #1,
another signing key in PKCS #8, and another checking key is a point. -/
structure TokenKeys where
  algorithm : Algorithm
  signing : Bytes
  checking : Bytes
deriving DecidableEq, Repr

namespace TokenKeys

/-! ## Key files -/

/-- The algorithm identifiers that tell a family. -/
def familyOf? (identifier : List Nat) : Option KeyFamily :=
  if identifier = [1, 2, 840, 10045, 2, 1] then some .ellipticCurve
  else if identifier = [1, 2, 840, 113549, 1, 1, 1] then some .rsa
  else if identifier = [1, 3, 101, 112] then some .edwards
  else none

/-- What a block of a key file holds. -/
structure KeyFile where
  plainRsa : Bool
  isPrivate : Bool
  family : KeyFamily
  content : Bytes
  strings : List Bytes

/-- Tells what a text in PEM holds: RSA keys by the label, others by the first identifier that
tells a family. -/
def keyFile? (pem : String) : Option KeyFile := do
  let block ← Pem.parse? pem
  let items ← Der.parse? block.content
  let strings := Der.stringsOf items
  let label := block.label
  if label = "RSA PRIVATE KEY" || label = "RSA PUBLIC KEY" then
    return ⟨true, label = "RSA PRIVATE KEY", .rsa, block.content, strings⟩
  else if label = "PRIVATE KEY" || label = "PUBLIC KEY" || label = "CERTIFICATE" then
    let family ← (Der.identifiersOf items).findSome? familyOf?
    return ⟨false, label = "PRIVATE KEY", family, block.content, strings⟩
  else none

/-- The key for one side of a family's algorithms. -/
def keyOf (family : KeyFamily) (side : KeySide) (f : KeyFile) : Except KeyFileFault Bytes :=
  if f.family ≠ family then .error .format
  else if f.plainRsa then .ok f.content
  else if family ≠ .rsa && side = .signing then
    if f.isPrivate then .ok f.content else .error .format
  else if family ≠ .rsa && f.isPrivate then .error .format
  else
    match f.strings with
    | [] => .error .noString
    | key :: _ => .ok key

/-- The key for one side in a text in PEM. -/
def readKey (algorithm : Algorithm) (family : KeyFamily) (side : KeySide) (pem : String) :
    Except AuthError Bytes :=
  let key : Except KeyFileFault Bytes :=
    match keyFile? pem with
    | none => .error .format
    | some f => keyOf family side f
  match key with
  | .error fault => .error (.key (.file side algorithm fault))
  | .ok bs => .ok bs

/-- Loads keys in PEM. -/
def ofPem (algorithm : Algorithm) (signing checking : String) : Except AuthError TokenKeys :=
  match algorithm.ensureAccepted, algorithm.family? with
  | .error fault, _ => .error (.policy fault)
  | .ok (), none => .error (.policy (.other algorithm.name))
  | .ok (), some family => do
    let signing ← readKey algorithm family .signing signing
    let checking ← readKey algorithm family .checking checking
    return ⟨algorithm, signing, checking⟩

/-- The text of a key file. -/
def readFile (files : FileTree) (path : String) : Except AuthError String :=
  match files.read path with
  | .ok content => .ok (Text.lossy content)
  | .error _ => .error (.key (.unreadable path))

/-- Loads keys in PEM from two files. -/
def ofFiles (files : FileTree) (algorithm : Algorithm) (signingPath checkingPath : String) :
    Except AuthError TokenKeys := do
  let signing ← readFile files signingPath
  let checking ← readFile files checkingPath
  ofPem algorithm signing checking

/-- The bytes of an Ed25519 public key. -/
def publicLength : Nat := 32

/-- Loads an Ed25519 key in DER with its public key in base64. -/
def ofEdwards (signing : Bytes) (checking : String) : Except AuthError TokenKeys :=
  if signing = [] then .error (.key .emptySigning)
  else
    match Base64.decode? .url (Text.utf8 checking) with
    | none => .error (.key .notBase64)
    | some key =>
      if key.length = publicLength then .ok ⟨.edDsa, signing, key⟩
      else .error (.key (.length key.length))

/-- The Ed25519 keys that a seed makes up. -/
def ofSeed (seed : Bytes) : Except AuthError TokenKeys :=
  ofEdwards (Edwards.privateKey seed) (Text.ascii (Base64.encode .url (Edwards.publicKey seed)))

/-! ## Signing and checking -/

/-- The curve of an algorithm. -/
def curveOf? : Algorithm → Option Ecdsa.Curve
  | .es256 => some Ecdsa.p256
  | .es384 => some Ecdsa.p384
  | _ => none

/-- The scheme and the hash of an algorithm. -/
def schemeOf? : Algorithm → Option (Rsa.Scheme × Rsa.Hash)
  | .rs256 => some (.pkcs1, Rsa.hash256)
  | .rs384 => some (.pkcs1, Rsa.hash384)
  | .rs512 => some (.pkcs1, Rsa.hash512)
  | .ps256 => some (.pss, Rsa.hash256)
  | .ps384 => some (.pss, Rsa.hash384)
  | .ps512 => some (.pss, Rsa.hash512)
  | _ => none

/-- Signs a message, if the signing key can be used. Only the signatures of some algorithms hold
the salt. -/
def sign (k : TokenKeys) (salt : Rsa.Salt) (message : Bytes) : Except Abort (Option Bytes) :=
  match k.algorithm.family? with
  | none => .ok none
  | some .edwards => .ok ((Edwards.seed? k.signing).map fun seed => Edwards.sign seed message)
  | some .ellipticCurve =>
    .ok <| do
      let c ← curveOf? k.algorithm
      c.sign? (← c.secret? k.signing) message
  | some .rsa =>
    match schemeOf? k.algorithm, Rsa.privateKey? k.signing with
    | some (scheme, h), some key => (Rsa.sign scheme h key salt message).map some
    | _, _ => .ok none

/-- The test whether a signature is one of a message, if the checking key can be used. Of an
Ed25519 key that is too long only the beginning counts. An RSA key that cannot be used passes no
signature. -/
def checker (k : TokenKeys) : Except (Halt TokenFault) (Bytes → Bytes → Bool) :=
  match k.algorithm.family? with
  | none => .ok fun _ _ => false
  | some .edwards =>
    let key := k.checking.take publicLength
    if key.length < publicLength then .error (.aborted .shortKey)
    else
      match Edwards.Point.decode? key with
      | none => .error (.failed .edwardsKey)
      | some a => .ok (Edwards.verifyAt a key)
  | some .ellipticCurve =>
    match curveOf? k.algorithm with
    | none => .error (.failed .curveKey)
    | some c =>
      match c.decode? k.checking with
      | none => .error (.failed .curveKey)
      | some q => .ok (c.verifyAt q)
  | some .rsa =>
    match schemeOf? k.algorithm, Rsa.publicKey? k.checking with
    | some (scheme, h), some key => .ok (Rsa.verify scheme h key)
    | _, _ => .ok fun _ _ => false

/-- Keys as they are shown in logs: without their contents. -/
def shown (k : TokenKeys) : String :=
  "TokenKeys \x7b algorithm: " ++ k.algorithm.name ++ ", .. \x7d"

end TokenKeys

end SessionTokens
