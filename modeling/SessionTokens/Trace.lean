/-!
# Traces

Operations report what they do: that they are entered, notes along the way, and pauses. What is
reported never depends on anything but the operation's course, so results are reasoned about with
the reports left out.

**The type** (`Traced`). A computation that may fail, with what it has reported up to its end or
its failure.

* `result_bind`: the result of a sequence is that of its parts in the plain error monad.
-/

namespace SessionTokens

/-- How much a note matters. -/
inductive Level
  | debug
  | info
  | warn
deriving DecidableEq, Repr

/-- The name of a level. -/
def Level.name : Level → String
  | debug => "debug"
  | info => "info"
  | warn => "warn"

/-- The value of a note's field. -/
inductive FieldValue
  | count (n : Nat)
  | flag (b : Bool)
deriving DecidableEq, Repr

/-- One report. -/
inductive Event
  | entered (operation : String)
  | noted (level : Level) (message : String) (fields : List (String × FieldValue))
  /-- The operation waits for the disk or for its turn, and other work goes on meanwhile. -/
  | paused
deriving DecidableEq, Repr

/-- A result, or an error, and what was reported before it. -/
structure Traced (ε α : Type) where
  log : List Event
  result : Except ε α

namespace Traced

variable {ε α β : Type}

/-- A result without a report. -/
def pure (a : α) : Traced ε α := ⟨[], .ok a⟩

/-- One computation after another: an error ends the sequence, and the reports join. -/
def bind (x : Traced ε α) (f : α → Traced ε β) : Traced ε β :=
  match x.result with
  | .error e => ⟨x.log, .error e⟩
  | .ok a => ⟨x.log ++ (f a).log, (f a).result⟩

instance : Monad (Traced ε) where
  pure := pure
  bind := bind

/-- A plain result. -/
def lift (r : Except ε α) : Traced ε α := ⟨[], r⟩

instance : MonadLift (Except ε) (Traced ε) := ⟨lift⟩

instance : MonadExceptOf ε (Traced ε) where
  throw e := ⟨[], .error e⟩
  tryCatch x f :=
    match x.result with
    | .error e => ⟨x.log ++ (f e).log, (f e).result⟩
    | .ok _ => x

/-- The same computation with its error replaced by its image. -/
def mapError {δ : Type} (f : ε → δ) (x : Traced ε α) : Traced δ α := ⟨x.log, x.result.mapError f⟩

/-- A report. -/
def report (e : Event) : Traced ε Unit := ⟨[e], .ok ()⟩

/-- The report that an operation is entered. -/
def enter (operation : String) : Traced ε Unit := report (.entered operation)

/-- A note. -/
def note (level : Level) (message : String) (fields : List (String × FieldValue)) :
    Traced ε Unit :=
  report (.noted level message fields)

@[simp]
theorem result_pure (a : α) : (Pure.pure a : Traced ε α).result = .ok a := rfl

@[simp]
theorem result_bind (x : Traced ε α) (f : α → Traced ε β) :
    (x >>= f).result = x.result.bind fun a => (f a).result := by
  show (bind x f).result = _
  unfold bind
  cases x.result <;> rfl

@[simp]
theorem result_liftM (r : Except ε α) : (liftM r : Traced ε α).result = r := rfl

@[simp]
theorem result_lift (r : Except ε α) : (lift r).result = r := rfl

@[simp]
theorem result_mapError {δ : Type} (f : ε → δ) (x : Traced ε α) :
    (x.mapError f).result = x.result.mapError f := rfl

@[simp]
theorem result_report (e : Event) : (report e : Traced ε Unit).result = .ok () := rfl

@[simp]
theorem result_enter (operation : String) : (enter operation : Traced ε Unit).result = .ok () :=
  rfl

@[simp]
theorem result_note (level : Level) (message : String) (fields : List (String × FieldValue)) :
    (note level message fields : Traced ε Unit).result = .ok () := rfl

@[simp]
theorem result_throw (e : ε) : (throw e : Traced ε α).result = .error e := rfl

end Traced

end SessionTokens
