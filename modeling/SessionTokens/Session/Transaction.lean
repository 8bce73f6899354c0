import SessionTokens.Session.Keys
import SessionTokens.Store.Transaction
/-!
# Sessions in a transaction

Inserting a record writes its three keys, removing it deletes them. The keys by identity and by
user hold the record's id and lead to the record.

**Removal through an index.** All records that an index leads to are removed. An index key whose
id leads to no record is deleted on the way. If a record cannot be read, the removals before it
stay buffered.

**Listing.** A listing is sorted by creation and id, whatever the order of the index keys.
-/

namespace SessionTokens.Session

/-- What an operation on sessions gives, or its end. -/
abbrev Outcome (α : Type) := Except (Halt StorageError) α

/-- The record that a stored value holds. -/
def readRecord (value : Bytes) : Except StorageError Record :=
  match Record.decode? value with
  | some r => .ok r
  | none => .error (.data .record none)

/-- The record that a value holds, if there is a value. -/
def readOptional : Option Bytes → Outcome (Option Record)
  | none => .ok none
  | some value => Halt.ofError ((readRecord value).map some)

/-- The keys and the ids of index entries. -/
def indexIds (pairs : List (Bytes × Bytes)) : List (Bytes × String) :=
  pairs.map fun p => (p.1, Text.lossy p.2)

/-- The records that ids lead to, without the ids that lead to none. -/
def collect (get : String → Outcome (Option Record)) : List String → Outcome (List Record)
  | [] => .ok []
  | id :: rest => do
    let found ← get id
    return found.toList ++ (← collect get rest)

/-- The record of an id. -/
def get (t : Txn) (id : String) : Outcome (Option Record) := do
  readOptional (← Halt.ofAbort (t.get (recordKey id)))

/-- The keys and the ids of the index entries that begin with a byte string. -/
def index (t : Txn) (start : Bytes) : Outcome (List (Bytes × String)) :=
  (Halt.ofAbort (t.beginning start)).map indexIds

/-- Inserts a record for a time to live. -/
def insert (t : Txn) (r : Record) (ttl : Duration) : Txn :=
  let id := Text.utf8 r.id
  ((t.set (recordKey r.id) r.encode (some ttl)).set (identityKey r.identity r.id) id (some ttl)).set
    (userKey r.userId r.id) id (some ttl)

/-- Removes a record. -/
def remove (t : Txn) (r : Record) : Txn :=
  ((t.delete (recordKey r.id)).delete (identityKey r.identity r.id)).delete
    (userKey r.userId r.id)

/-- Removes the record of an id and gives it. -/
def delete (t : Txn) (id : String) : Outcome (Txn × Option Record) := do
  match ← get t id with
  | none => return (t, none)
  | some r => return (remove t r, some r)

/-- Removes the records that index entries lead to. The transaction is given even when a record
cannot be read. -/
def removeEach (t : Txn) : List (Bytes × String) → Txn × Outcome (List Record)
  | [] => (t, .ok [])
  | (key, id) :: rest =>
    match get t id with
    | .error e => (t, .error e)
    | .ok none => removeEach (t.delete key) rest
    | .ok (some r) =>
      let (t, removed) := removeEach (remove t r) rest
      (t, removed.map (r :: ·))

/-- Removes the records that an index leads to. -/
def removeIndexed (t : Txn) (start : Bytes) : Txn × Outcome (List Record) :=
  match index t start with
  | .error h => (t, .error h)
  | .ok found => removeEach t found

/-- The number of sessions in a note. -/
def evictedField (n : Nat) : List (String × FieldValue) := [("evicted", .count n)]

/-- Removes the sessions of one identity, in the order of their index keys. -/
def evict (t : Txn) (i : Identity) : Txn × Traced (Halt StorageError) (List Record) :=
  let (t, found) := removeIndexed t (identityStart i)
  (t, do
    Traced.enter "evict_identity"
    let removed ← found
    if !removed.isEmpty then
      Traced.note .debug "evicted sessions for identity" (evictedField removed.length)
    return removed)

/-- Removes the sessions of one user. -/
def removeUser (t : Txn) (userId : String) : Txn × Traced (Halt StorageError) (List Record) :=
  let (t, found) := removeIndexed t (userStart userId)
  (t, do
    Traced.enter "delete_user"
    found)

/-- The sessions of one user in the order of listings. -/
def listUser (t : Txn) (userId : String) : Outcome (List Record) := do
  let found ← index t (userStart userId)
  return Record.sorted (← collect (get t) (found.map (·.2)))

/-- Stores one record by itself. -/
def put (x : Site) (clock : Clock) (r : Record) (ttl : Duration) : Done StorageError Unit :=
  x.perform clock id (pure ()) fun _ t => pure ⟨(insert t r ttl).pending, (), []⟩

end SessionTokens.Session
