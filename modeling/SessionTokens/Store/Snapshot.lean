import SessionTokens.Base64
import SessionTokens.Json.Read
import SessionTokens.Store.Entry
import SessionTokens.Store.Error
/-!
# Snapshots

The image of a store in its file: a JSON document with a version and the entries in ascending
order of their keys. Keys and values stand there in base64, expiries in whole milliseconds,
rounded down.

Reading leaves out the entries that have lapsed. The document is read as a whole first, then its
version is checked, then each entry in turn: expiry, key, value.
-/

namespace SessionTokens.Snapshot

/-- The version of the document. -/
def version : Nat := 1

/-- An entry as it stands in the document. -/
structure Item where
  key : String
  value : String
  expiryMillis : Option Int
deriving DecidableEq

/-! ## Writing -/

/-- Bytes in base64 as a JSON string. -/
def base64Text (bs : Bytes) : Json := .string (Base64.encode .standard bs)

/-- An entry of the document. -/
def itemJson (key : Bytes) (e : Entry) : Json :=
  .ofFields <| [("key", base64Text key), ("value", base64Text e.value)] ++
    match e.expiry with
    | none => []
    | some t => [("expires_at_ms", .int t.millis)]

/-- The document of a store's entries. -/
def encode (es : Entries) : Bytes :=
  Json.render <| .ofFields
    [("version", .int version), ("entries", .array (es.pairs.map fun p => itemJson p.1 p.2))]

/-! ## Reading -/

/-- The largest version that a document can have. -/
def maxVersion : Int := 4294967295

/-- Reads an entry of the document. -/
def item? (v : Json) : Option Item := do
  match ← v.fields? ["key", "value", "expires_at_ms"] true 2 with
  | [key, value, expiry] =>
    return ⟨← Json.needed? Json.text? key, ← Json.needed? Json.text? value,
      ← Json.perhaps? Json.int64? expiry⟩
  | _ => none

/-- Reads the document: its version and its entries. -/
def document? (bs : Bytes) : Option (Int × List Item) := do
  match ← (← Json.parse? bs).fields? ["version", "entries"] true 2 with
  | [version, entries] =>
    let version ← Json.needed? (Json.intIn? 0 maxVersion) version
    let entries ← Json.needed? Json.items? entries
    return (version, ← entries.mapM item?)
  | _ => none

/-- The expiry of an entry. -/
def Item.expiry (i : Item) : Except StorageError (Option Instant) :=
  match i.expiryMillis with
  | none => .ok none
  | some ms =>
    match Instant.ofMillis? ms with
    | some t => .ok (some t)
    | none => .error (.data (.expiry ms) none)

/-- The key and the entry that an item of the document stands for. -/
def Item.entry (i : Item) : Except StorageError (Bytes × Entry) := do
  let expiry ← i.expiry
  match Base64.decode? .standard (Text.utf8 i.key) with
  | none => .error (.data .snapshotKey none)
  | some key =>
    match Base64.decode? .standard (Text.utf8 i.value) with
    | none => .error (.data .snapshotValue none)
    | some value => .ok (key, ⟨value, expiry⟩)

/-- Entries with the live ones among the items of a document added. -/
def addItems (now : Instant) (es : Entries) : List Item → Except StorageError Entries
  | [] => .ok es
  | i :: rest => do
    let (key, e) ← i.entry
    addItems now (if e.isLive now then es.insert key e else es) rest

/-- Reads the document of a store: the entries that are live. -/
def decode (bs : Bytes) (now : Instant) : Except StorageError Entries :=
  match document? bs with
  | none => .error (.data .snapshot none)
  | some (v, items) =>
    if v = version then addItems now ∅ items else .error (.data (.version v.toNat) none)

end SessionTokens.Snapshot
