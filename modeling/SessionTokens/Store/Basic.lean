import SessionTokens.FileTree
import SessionTokens.Store.Pending
import SessionTokens.Time.Clock
import SessionTokens.Trace
/-!
# The store

A store keeps entries in memory and, if it has a file, a snapshot of them on disk.

**Phases.** A store is idle, or somebody holds the writer's turn and buffers writes, or it is
closed for good. Reading is possible in the first two phases and sees committed entries only.

**Scans.** A scan whose bounds enclose no range is broken off, except by a store that has never
held an entry.
-/

namespace SessionTokens

/-- Where a store keeps its entries beyond its own life. -/
inductive Medium
  | memory
  | file (path : String)
deriving DecidableEq, Repr

/-- Whether a store can be written to. -/
inductive Phase
  | idle
  | writing (pending : Pending)
  | closed

/-- What has become of a store's sweeper: it waits to be started, it works, or it was broken
off. -/
inductive Sweeper
  | waiting
  | working
  | broken
deriving DecidableEq, Repr

/-- A store. `everHeld` says whether it has ever held an entry. -/
structure Store where
  entries : Entries
  phase : Phase
  limits : Limits
  medium : Medium
  everHeld : Bool
  sweeper : Sweeper

namespace Store

/-- An empty store without a file. -/
def inMemory (limits : Limits) : Store := ⟨∅, .idle, limits, .memory, false, .waiting⟩

/-- A store with a file and the entries that are read from it. -/
def onFile (path : String) (limits : Limits) (entries : Entries) : Store :=
  ⟨entries, .idle, limits, .file path, !entries.isEmpty, .waiting⟩

/-- Whether a store is closed. -/
def isClosed (s : Store) : Bool :=
  match s.phase with
  | .closed => true
  | _ => false

/-- Refuses a closed store. -/
def ensureOpen (s : Store) : Except StorageError Unit :=
  if s.isClosed then .error .closed else .ok ()

/-- The instant at which an open store is read. -/
def readingTime (s : Store) (clock : Clock) : Except (Halt StorageError) Instant := do
  Halt.ofError s.ensureOpen
  Halt.ofAbort clock.read

/-- The value under a key. -/
def get (s : Store) (clock : Clock) (key : Bytes) : Except (Halt StorageError) (Option Bytes) := do
  return s.entries.value? (← s.readingTime clock) key

/-- The live entries of a range, in ascending order of their keys. -/
def range (s : Store) (clock : Clock) (b : Bounds) :
    Except (Halt StorageError) (List (Bytes × Bytes)) := do
  let now ← s.readingTime clock
  if s.everHeld && !b.isRange then throw (.aborted .bounds)
  else return (s.entries.within now b).pairs

/-- The live entries whose keys begin with a byte string. -/
def beginning (s : Store) (clock : Clock) (start : Bytes) :
    Except (Halt StorageError) (List (Bytes × Bytes)) :=
  s.range clock (Bounds.ofPrefix start)

/-- Whether a store works: it is open, and the folder of its file exists. -/
def health (s : Store) (files : FileTree) : Traced (Halt StorageError) Unit := do
  Halt.ofError s.ensureOpen
  match s.medium with
  | .memory => pure ()
  | .file path =>
    Traced.report .paused
    let folder := FileTree.parentPath path
    match files.status folder with
    | .error _ => throw (.failed (.internal (.unreachable folder) none))
    | .ok .folder => pure ()
    | .ok (.file _) => throw (.failed (.internal (.notFolder folder) none))

end Store

end SessionTokens
