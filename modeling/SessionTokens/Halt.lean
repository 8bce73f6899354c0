/-!
# Ends without an answer

An operation that gives no answer ends in one of three ways. It *fails* with an error of its own,
which its caller can handle. It would have to *wait* for the writer's turn of somebody else. Or it
is *broken off*, because something does not hold that everybody takes for granted; then it leaves
nothing behind but what it had done before.
-/

namespace SessionTokens

/-- What breaks an operation off. -/
inductive Abort
  /-- The bounds of a scan enclose no range. -/
  | bounds
  /-- The clock shows no moment that can be told. -/
  | clock
  /-- A public key has fewer bytes than every key of its kind. -/
  | shortKey
  /-- A modulus is too small for the padding of a signature. -/
  | smallModulus
  /-- A signature that was just made is not one of its message. -/
  | wrongSignature
  /-- The parts of a lifetime add up to more than every lifetime. -/
  | lifetime
deriving DecidableEq, Repr

/-- How an operation ends without an answer. -/
inductive Halt (ε : Type)
  | failed (error : ε)
  | waiting
  | aborted (cause : Abort)
deriving DecidableEq

namespace Halt

variable {ε δ α : Type}

/-- The same end with its error replaced by its image. -/
def map (f : ε → δ) : Halt ε → Halt δ
  | failed e => failed (f e)
  | waiting => waiting
  | aborted cause => aborted cause

/-- An outcome whose error ends an operation as its failure. -/
def ofError : Except ε α → Except (Halt ε) α
  | .ok a => .ok a
  | .error e => .error (failed e)

/-- An outcome that may break an operation off. -/
def ofAbort : Except Abort α → Except (Halt ε) α
  | .ok a => .ok a
  | .error cause => .error (aborted cause)

@[simp]
theorem ofError_ok (a : α) : (ofError (.ok a) : Except (Halt ε) α) = .ok a := rfl

@[simp]
theorem ofAbort_ok (a : α) : (ofAbort (.ok a) : Except (Halt ε) α) = .ok a := rfl

theorem ofError_eq_ok {r : Except ε α} {a : α} : ofError r = .ok a ↔ r = .ok a := by
  cases r <;> simp [ofError]

theorem ofAbort_eq_ok {r : Except Abort α} {a : α} :
    (ofAbort r : Except (Halt ε) α) = .ok a ↔ r = .ok a := by
  cases r <;> simp [ofAbort]

end Halt

/-! ## Results of sequences -/

theorem exists_eq_ok {ε α : Type} {r : Except ε α} (h : r.isOk = true) : ∃ a, r = .ok a := by
  cases r with
  | ok a => exact ⟨a, rfl⟩
  | error e => cases h

theorem bind_eq_ok {ε α β : Type} {r : Except ε α} {f : α → Except ε β} {b : β} :
    r.bind f = .ok b ↔ ∃ a, r = .ok a ∧ f a = .ok b := by
  cases r <;> simp [Except.bind]

theorem bind_eq_error {ε α β : Type} {r : Except ε α} {f : α → Except ε β} {e : ε} :
    r.bind f = .error e ↔ r = .error e ∨ ∃ a, r = .ok a ∧ f a = .error e := by
  cases r <;> simp [Except.bind]

theorem mapError_ok {ε δ α : Type} (f : ε → δ) (a : α) :
    (Except.ok a : Except ε α).mapError f = .ok a := rfl

theorem mapError_error {ε δ α : Type} (f : ε → δ) (e : ε) :
    (Except.error e : Except ε α).mapError f = .error (f e) := rfl

theorem mapError_eq_ok {ε δ α : Type} {f : ε → δ} {r : Except ε α} {a : α} :
    r.mapError f = .ok a ↔ r = .ok a := by
  cases r <;> simp [mapError_ok, mapError_error]

end SessionTokens
