import SessionTokens.Store.Basic
import SessionTokens.Store.Snapshot
import SessionTokens.Trace
/-!
# Writing to a store

Writes take the writer's turn: while somebody holds it, everybody else waits. A single write takes
the turn for itself; a transaction takes it when it begins and gives it back when it commits or
is dropped.

**All or nothing.** Writes are settled first. A store with a file then writes the snapshot that
the file is to hold, beside the file, and renames it. Only if all this succeeds do the entries
change. Writing nothing touches no file.

**Closing.** Closing writes the live entries to the file once more. The store is closed
afterwards even if that fails.

* `apply_entries_of_error`: **a commit that fails leaves the entries as they were**.
-/

namespace SessionTokens

/-- A store and the files around it. -/
structure Site where
  store : Store
  files : FileTree

/-- What an operation leaves behind, and its outcome. -/
structure Done (ε α : Type) where
  site : Site
  outcome : Traced (Halt ε) α

namespace Site

/-- The path beside a file to which its next content is written first. -/
def draftPath (path : String) : String := path ++ ".tmp"

/-- Replaces the content of a file: the new content is written beside it and then renamed. What
is left of the files is given even when a step fails. -/
def replaceFile (files : FileTree) (path : String) (content : Bytes) :
    FileTree × Except StorageError Unit :=
  let draft := draftPath path
  match files.write draft content with
  | .error _ => (files, .error (.internal (.unwritable draft) none))
  | .ok written =>
    match written.rename draft path with
    | .error _ => (written, .error (.internal (.unmovable draft) none))
    | .ok renamed => (renamed, .ok ())

/-- The site with the phase of its store set. -/
def setPhase (x : Site) (p : Phase) : Site := { x with store := { x.store with phase := p } }

/-- An end with an error. -/
def fail {ε α : Type} (e : ε) : Traced (Halt ε) α := throw (.failed e)

/-- The end of an operation that would have to wait for its turn. -/
def wait {ε α : Type} : Traced (Halt ε) α := do
  Traced.report .paused
  throw .waiting

/-- The store with settled writes applied. -/
def applied (s : Store) (settled : List (Bytes × Option Entry)) : Store :=
  { s with
    entries := s.entries.apply settled
    everHeld := s.everHeld || settled.any fun w => w.2.isSome }

/-- Writes the snapshot with settled writes to the store's file, if it has one. -/
def saveFor (x : Site) (now : Instant) (settled : List (Bytes × Option Entry)) :
    FileTree × Traced StorageError Unit :=
  match x.store.medium with
  | .memory => (x.files, pure ())
  | .file path =>
    let image := (x.store.entries.live now).apply settled
    let (files, saved) := replaceFile x.files path (Snapshot.encode image)
    (files, ⟨[.paused], saved⟩)

/-- Applies writes that are settled at an instant. -/
def applySettled (x : Site) (now : Instant) (settled : List (Bytes × Option Entry)) :
    Done StorageError Unit :=
  let (files, saved) := x.saveFor now settled
  match saved.result with
  | .error e =>
    ⟨{ x with files }, saved.log ++
      [.noted .warn "snapshot write failed, commit discarded" []], .error (.failed e)⟩
  | .ok () => ⟨⟨applied x.store settled, files⟩, saved.log, .ok ()⟩

/-- Applies buffered writes to a store whose turn nobody else holds. -/
def apply (x : Site) (clock : Clock) (p : Pending) : Done StorageError Unit :=
  if x.store.isClosed then ⟨x, fail .closed⟩
  else if p.isEmpty then ⟨x, pure ()⟩
  else
    match clock.read with
    | .error cause => ⟨x, throw (.aborted cause)⟩
    | .ok now =>
      match p.settle x.store.limits now with
      | .error e => ⟨x, fail e⟩
      | .ok settled => x.applySettled now settled

/-- Writes one key. -/
def write (x : Site) (clock : Clock) (key : Bytes) (w : Write) : Done StorageError Unit :=
  match x.store.phase with
  | .writing _ => ⟨x, wait⟩
  | _ => x.apply clock (KeyMap.insert ∅ key w)

/-- Begins a transaction. -/
def begin (x : Site) : Done StorageError Unit :=
  match x.store.phase with
  | .writing _ => ⟨x, wait⟩
  | .closed => ⟨x, fail .closed⟩
  | .idle => ⟨x.setPhase (.writing ∅), pure ()⟩

/-- Ends the transaction that is open and applies its writes. -/
def commit (x : Site) (clock : Clock) : Done StorageError Unit :=
  match x.store.phase with
  | .writing p => (x.setPhase .idle).apply clock p
  | _ => ⟨x, pure ()⟩

/-- Ends the transaction that is open and forgets its writes. -/
def rollback (x : Site) : Site :=
  match x.store.phase with
  | .writing _ => x.setPhase .idle
  | _ => x

/-- The report that a store is closed. -/
def closedEvent (s : Store) : Event :=
  .noted .info "storage backend closed" [("persistent", .flag (s.medium ≠ .memory))]

/-- Closes a store for good. A store with a file has to be told the instant for its last snapshot
before anything happens. -/
def close (x : Site) (clock : Clock) : Done StorageError Unit :=
  match x.store.phase, x.store.medium, clock.read with
  | .writing _, _, _ => ⟨x, wait⟩
  | .closed, _, _ => ⟨x, pure ()⟩
  | .idle, .memory, _ => ⟨x.setPhase .closed, Traced.report (closedEvent x.store)⟩
  | .idle, .file _, .error cause => ⟨x, throw (.aborted cause)⟩
  | .idle, .file _, .ok now =>
    let (files, saved) := x.saveFor now []
    ⟨({ x with files } : Site).setPhase .closed, saved.log ++ [closedEvent x.store],
      Halt.ofError saved.result⟩

/-- The entries that are read from a file at an instant. A file that is missing holds none. -/
def load (files : FileTree) (path : String) (now : Instant) : Except StorageError Entries :=
  match files.read path with
  | .ok content => Snapshot.decode content now
  | .error .missing => .ok ∅
  | .error _ => .error (.internal (.unreadable path) none)

/-- Opens the store of a file. -/
def openFile (files : FileTree) (path : String) (limits : Limits) (clock : Clock) :
    Traced (Halt StorageError) Store := do
  let now ← Traced.lift (Halt.ofAbort clock.read)
  Traced.report .paused
  let entries ← Traced.lift (Halt.ofError (load files path now))
  Traced.note .info "opened file storage backend" [("entries", .count entries.size)]
  return Store.onFile path limits entries

theorem applySettled_store_of_error {x : Site} {now : Instant}
    {settled : List (Bytes × Option Entry)} {h : Halt StorageError}
    (he : (x.applySettled now settled).outcome.result = .error h) :
    (x.applySettled now settled).site.store = x.store := by
  unfold applySettled at he ⊢
  dsimp only at he ⊢
  split
  · rfl
  · rename_i hs
    simp [hs] at he

theorem apply_entries_of_error {x : Site} {clock : Clock} {p : Pending} {h : Halt StorageError}
    (he : (x.apply clock p).outcome.result = .error h) :
    (x.apply clock p).site.store = x.store := by
  unfold apply at he ⊢
  split
  · rfl
  · rename_i h1
    rw [if_neg h1] at he
    split
    · rfl
    · rename_i h2
      rw [if_neg h2] at he
      split
      · rfl
      · rename_i now hc
        simp only [hc] at he
        split
        · rfl
        · rename_i settled hs
          simp only [hs] at he
          exact applySettled_store_of_error he

end Site

end SessionTokens
