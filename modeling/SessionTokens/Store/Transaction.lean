import SessionTokens.Store.Commit
/-!
# Transactions

A transaction reads the committed entries with its own buffered writes over them, and adds
further writes to the buffer.

**Performing.** An operation of a client is planned on a transaction of its own and then
committed: `Site.perform` waits for the turn, makes the plan, applies its writes, and answers. A
plan that fails writes nothing.

* `perform_store_of_error`: **an operation without an answer leaves the store as it was**.
-/

namespace SessionTokens

/-- A transaction: the committed entries, the buffered writes, and the clock that tells which
entries are live. -/
structure Txn where
  entries : Entries
  clock : Clock
  pending : Pending

namespace Txn

/-- The value seen under a key. The clock is read only for a key without a buffered write. -/
def get (t : Txn) (key : Bytes) : Except Abort (Option Bytes) :=
  match t.pending.find? key with
  | some w => .ok w.value?
  | none => do return t.entries.value? (← t.clock.read) key

/-- The values seen under the keys that begin with a byte string, in ascending order. -/
def beginning (t : Txn) (start : Bytes) : Except Abort (List (Bytes × Bytes)) := do
  return (t.pending.beginning t.entries (← t.clock.read) start).pairs

/-- The transaction with a write buffered, in place of an earlier one to the same key. -/
def buffer (t : Txn) (key : Bytes) (w : Write) : Txn :=
  { t with pending := t.pending.insert key w }

/-- Buffers a value. -/
def set (t : Txn) (key value : Bytes) (ttl : Option Duration) : Txn :=
  t.buffer key (.put value ttl)

/-- Buffers a deletion. -/
def delete (t : Txn) (key : Bytes) : Txn := t.buffer key .delete

theorem get_of_read {t : Txn} {now : Instant} (h : t.clock.read = .ok now) (key : Bytes) :
    t.get key = .ok (t.pending.value? t.entries now key) := by
  unfold get Pending.value?
  cases t.pending.find? key with
  | some w => rfl
  | none =>
    rw [h]
    rfl

@[simp]
theorem get_buffer (t : Txn) (k key : Bytes) (w : Write) :
    (t.buffer k w).get key = if key = k then .ok w.value? else t.get key := by
  by_cases h : key = k <;> simp [get, buffer, h]

end Txn

/-- The transaction that is open on a store. -/
def Store.txn? (s : Store) (clock : Clock) : Option Txn :=
  match s.phase with
  | .writing p => some ⟨s.entries, clock, p⟩
  | _ => none

/-- The store whose open transaction has buffered more. -/
def Store.resume (s : Store) (t : Txn) : Store := { s with phase := .writing t.pending }

/-- What a planned operation writes and answers, and what it reports at its end. -/
structure Plan (α : Type) where
  pending : Pending
  answer : α
  closing : List Event

/-- Performs an operation. `start` is what it does before it takes the turn, `plan` what it does
in its transaction. -/
def Site.perform {ε α β : Type} (x : Site) (clock : Clock) (lift : StorageError → ε)
    (start : Traced (Halt ε) β) (plan : β → Txn → Traced (Halt ε) (Plan α)) : Done ε α :=
  match start.result with
  | .error h => ⟨x, start.log, .error h⟩
  | .ok b =>
    match x.store.phase with
    | .writing _ => ⟨x, start.log ++ [.paused], .error .waiting⟩
    | .closed => ⟨x, start.log, .error (.failed (lift .closed))⟩
    | .idle =>
      let planned := plan b ⟨x.store.entries, clock, ∅⟩
      let log := start.log ++ planned.log
      match planned.result with
      | .error h => ⟨x, log, .error h⟩
      | .ok p =>
        let done := x.apply clock p.pending
        let log := log ++ done.outcome.log
        match done.outcome.result with
        | .error h => ⟨done.site, log, .error (h.map lift)⟩
        | .ok () => ⟨done.site, log ++ p.closing, .ok p.answer⟩

theorem Site.perform_store_of_error {ε α β : Type} {x : Site} {clock : Clock}
    {lift : StorageError → ε} {start : Traced (Halt ε) β}
    {plan : β → Txn → Traced (Halt ε) (Plan α)} {h : Halt ε}
    (he : (x.perform clock lift start plan).outcome.result = .error h) :
    (x.perform clock lift start plan).site.store = x.store := by
  unfold perform at he ⊢
  split
  · rfl
  · rename_i b hb
    simp only [hb] at he
    split
    · rfl
    · rfl
    · rename_i hp
      simp only [hp] at he
      dsimp only
      split
      · rfl
      · rename_i p hplan
        simp only [hplan] at he
        split
        · rename_i h' hr
          exact Site.apply_entries_of_error hr
        · rename_i hr
          simp [hr] at he

end SessionTokens
