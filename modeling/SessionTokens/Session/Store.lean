import SessionTokens.Session.Transaction
/-!
# Sessions in a store

Reading sessions outside of a transaction: committed records only.
-/

namespace SessionTokens.Session

/-- The record of an id. -/
def find (s : Store) (clock : Clock) (id : String) : Outcome (Option Record) := do
  readOptional (← s.get clock (recordKey id))

/-- The sessions of one user in the order of listings. -/
def ofUser (s : Store) (clock : Clock) (userId : String) :
    Traced (Halt StorageError) (List Record) := do
  Traced.enter "list_user"
  let pairs ← s.beginning clock (userStart userId)
  let records ← collect (find s clock) ((indexIds pairs).map (·.2))
  return Record.sorted records

/-- The numbers of live keys: by id, by identity, by user, and all. -/
structure Census where
  records : Nat
  identities : Nat
  users : Nat
  all : Nat
deriving DecidableEq, Repr

/-- Counts the live keys of a store. -/
def census (s : Store) (clock : Clock) : Outcome Census := do
  let count (start : Bytes) : Outcome Nat :=
    (s.beginning clock start).map List.length
  return ⟨← count recordStart, ← count identityFamily, ← count userFamily, ← count []⟩

end SessionTokens.Session
