import SessionTokens.Proofs.Store.Durable
/-!
# Histories of a store with a file

A store is opened on a file that is missing or holds a snapshot. Then it is written to, by single
writes and by transactions, swept and closed, and any of this may be refused or fail. What happened
is told by a *ledger*: the entries at the opening with the writes of each commit that succeeded
over them, whatever the store drops from memory or has on disk.

**Theorem (`reopen_of_history`).** Whatever the history, the file can be opened again. It gives
exactly the entries that the store holds in memory, and those of the ledger, that have not lapsed
once their expiries are rounded down, with the expiries rounded down.
-/

namespace SessionTokens

/-! ## Histories -/

/-- What can happen to a store with a file. -/
inductive Move
  | write (key : Bytes) (w : Write)
  | begin
  | buffer (key : Bytes) (w : Write)
  | commit
  | rollback
  | close
  | sweep
  /-- Something changes the files around the store's own, so that snapshots can no longer be
  written, or can be written again. -/
  | disturb (files : FileTree)

namespace Site

/-- The site with a write buffered by the transaction that is open, if one is. -/
def buffer (x : Site) (clock : Clock) (key : Bytes) (w : Write) : Site :=
  match x.store.txn? clock with
  | some t => { x with store := x.store.resume (t.buffer key w) }
  | none => x

/-- The site after a move. -/
def move (x : Site) (clock : Clock) : Move → Site
  | .write key w => (x.write clock key w).site
  | .begin => x.begin.site
  | .buffer key w => x.buffer clock key w
  | .commit => (x.commit clock).site
  | .rollback => x.rollback
  | .close => (x.close clock).site
  | .sweep => { x with store := (x.store.tick clock).1 }
  | .disturb files => x.disturb files

/-- The site after a history: moves, each at its time. -/
def moves (x : Site) (ms : List (Clock × Move)) : Site :=
  ms.foldl (fun x m => x.move m.1 m.2) x

/-- The writes that a move commits: none if it is refused or fails. -/
def committed (x : Site) (clock : Clock) : Move → Pending
  | .write key w => if (x.write clock key w).outcome.result.isOk then KeyMap.insert ∅ key w else ∅
  | .commit =>
    match x.store.phase with
    | .writing p => if (x.commit clock).outcome.result.isOk then p else ∅
    | _ => ∅
  | _ => ∅

end Site

/-- Entries with writes over them, their times to live beginning at an instant. -/
def Entries.record (es : Entries) (now : Instant) (p : Pending) : Entries :=
  es.apply (p.pairs.map fun w => (w.1, w.2.left? now))

/-- The ledger of a history: the entries with all writes over them that were committed. -/
def Site.ledger (x : Site) (es : Entries) : List (Clock × Move) → Entries
  | [] => es
  | (clock, m) :: ms => (x.move clock m).ledger (es.record ⟨clock.nanos⟩ (x.committed clock m)) ms

/-- Whether a file is missing or was written by a store. -/
def IsSnapshot (files : FileTree) (path : String) : Prop :=
  files.read path = .error .missing ∨
    ∃ es : Entries, es.InCalendar ∧ files.read path = .ok (Snapshot.encode es)

theorem IsSnapshot.of_read {files files' : FileTree} {path : String} (h : IsSnapshot files path)
    (hread : files'.read path = files.read path) : IsSnapshot files' path := by
  unfold IsSnapshot
  rw [hread]
  exact h

/-- What a store is opened on is the file of a durable store, which may never have existed. -/
theorem IsSnapshot.exists_durable {files : FileTree} {path : String} (h : IsSnapshot files path)
    (limits : Limits) (t : Instant) :
    ∃ es, (Site.mk (Store.onFile path limits es) files).Durable t := by
  obtain hmissing | ⟨es, hcal, hread⟩ := h
  · refine ⟨∅, nofun, fun path' hpath later _ => ?_⟩
    cases hpath
    rw [Site.load, hmissing]
    rfl
  · refine ⟨es, hcal, fun path' hpath later _ => ?_⟩
    cases hpath
    rw [Site.load, hread]
    exact Snapshot.decode_encode hcal later

/-- Whether entries are those that are left of others at an instant once every expiry is rounded
down to a whole millisecond. -/
def Entries.LeftOf (left es : Entries) (now : Instant) : Prop :=
  ∀ k v e, left.find? k = some ⟨v, e⟩ ↔
    ∃ e', es.find? k = some ⟨v, e'⟩ ∧ e = e'.map Instant.truncate ∧ now.isBefore e = true

namespace Entries

theorem live_record_congr {es es' : Entries} {now : Instant} (p : Pending)
    (h : es.live now = es'.live now) : (es.record now p).live now = (es'.record now p).live now :=
  live_apply_congr h _

theorem leftOf_truncate_live (es : Entries) (now : Instant) :
    (es.truncate.live now).LeftOf es now := by
  intro k v e
  rw [find?_truncate_live]
  constructor
  · intro h
    obtain ⟨hmap, hlive⟩ := Option.filter_eq_some_iff.1 h
    obtain ⟨⟨v', e'⟩, he', heq⟩ := Option.map_eq_some_iff.1 hmap
    cases heq
    exact ⟨e', he', rfl, hlive⟩
  · rintro ⟨e', he', rfl, hlive⟩
    refine Option.filter_eq_some_iff.2 ⟨?_, hlive⟩
    rw [he']
    rfl

end Entries

namespace Site

/-! ## What every move keeps -/

/-- What holds of a store with a file at each time of a history: its file gives its entries back,
the file was written by a store if it is there, and the store holds live what the ledger does. -/
structure Keeps (x : Site) (path : String) (t : Instant) (es : Entries) : Prop where
  medium : x.store.medium = .file path
  durable : x.Durable t
  snapshot : IsSnapshot x.files path
  ledger : x.store.entries.live t = es.live t

section Moves

variable {x y : Site} {path : String} {t : Instant} {es : Entries} {clock : Clock}

theorem Keeps.mono {later : Instant} (h : x.Keeps path t es) (hle : t.nanos ≤ later.nanos) :
    x.Keeps path later es :=
  ⟨h.medium, h.durable.mono hle, h.snapshot, Entries.live_congr_later hle h.ledger⟩

/-- A move that leaves what is live in memory, and the file, keeps all. -/
theorem Keeps.of_live (h : x.Keeps path t es) (hmedium : y.store.medium = x.store.medium)
    (hlive : y.store.entries.live t = x.store.entries.live t) (hdurable : y.Durable t)
    (hsnapshot : IsSnapshot y.files path) : y.Keeps path t es :=
  ⟨hmedium.trans h.medium, hdurable, hsnapshot, hlive.trans h.ledger⟩

/-- A move that changes the phase at most keeps all. -/
theorem Keeps.of_eq (h : x.Keeps path t es) (hentries : y.store.entries = x.store.entries)
    (hmedium : y.store.medium = x.store.medium)
    (hread : y.files.read path = x.files.read path) : y.Keeps path t es := by
  have hdurable : y.Durable t := h.durable.of_eq hentries hmedium fun path' hpath => by
    rw [h.medium] at hpath
    cases hpath
    exact hread
  exact h.of_live hmedium (by rw [hentries]) hdurable (h.snapshot.of_read hread)

theorem Keeps.setPhase (h : x.Keeps path t es) (phase : Phase) :
    (x.setPhase phase).Keeps path t es := h.of_eq rfl rfl rfl

/-- **Applying writes keeps all**: those that are refused are not in the ledger either. -/
theorem Keeps.apply (h : x.Keeps path ⟨clock.nanos⟩ es) (p : Pending) :
    (x.apply clock p).site.Keeps path ⟨clock.nanos⟩
      (es.record ⟨clock.nanos⟩ (if (x.apply clock p).outcome.result.isOk then p else ∅)) := by
  have hdurable : (x.apply clock p).site.Durable ⟨clock.nanos⟩ :=
    h.durable.apply (Int.le_refl _) (Int.le_refl _) p
  obtain ⟨_, hfail, hstore, hread⟩ | ⟨-, hempty, heq⟩ |
      ⟨now, settled, hnow, -, hs, hok, hstore, hread⟩ := x.apply_cases clock p
  · rw [hfail]
    exact h.of_eq (by rw [hstore]) (by rw [hstore]) (hread path h.medium)
  · have hnil : p.pairs = [] := List.isEmpty_iff.1 hempty
    have hsame : es.record ⟨clock.nanos⟩ p = es := by
      rw [Entries.record, hnil]
      rfl
    rw [heq]
    exact hsame.symm ▸ h
  · obtain rfl := Clock.eq_of_read hnow
    obtain ⟨-, hsettled⟩ := Pending.settle_eq_ok_iff.1 hs
    rw [hok]
    refine ⟨by rw [hstore]; exact h.medium, hdurable, ?_, ?_⟩
    · exact .inr ⟨_, (h.durable.inCalendar.live _).apply hs, hread path h.medium⟩
    · rw [hstore]
      show (x.store.entries.apply settled).live _ = _
      rw [hsettled]
      exact Entries.live_record_congr p h.ledger

theorem Keeps.write (h : x.Keeps path ⟨clock.nanos⟩ es) (key : Bytes) (w : Write) :
    (x.write clock key w).site.Keeps path ⟨clock.nanos⟩
      (es.record ⟨clock.nanos⟩ (x.committed clock (.write key w))) := by
  unfold committed Site.write
  split
  · exact h
  · exact h.apply _

theorem Keeps.begin (h : x.Keeps path t es) : x.begin.site.Keeps path t es := by
  unfold Site.begin
  split
  · exact h
  · exact h
  · exact h.setPhase _

theorem Keeps.buffer (h : x.Keeps path t es) (key : Bytes) (w : Write) :
    (x.buffer clock key w).Keeps path t es := by
  unfold Site.buffer
  split
  · exact h.of_eq rfl rfl rfl
  · exact h

theorem Keeps.commit (h : x.Keeps path ⟨clock.nanos⟩ es) :
    (x.commit clock).site.Keeps path ⟨clock.nanos⟩
      (es.record ⟨clock.nanos⟩ (x.committed clock .commit)) := by
  unfold committed Site.commit
  cases x.store.phase with
  | idle => exact h
  | closed => exact h
  | writing p => exact (h.setPhase .idle).apply p

theorem Keeps.rollback (h : x.Keeps path t es) : x.rollback.Keeps path t es := by
  unfold Site.rollback
  split
  · exact h.setPhase _
  · exact h

/-- Closing keeps all, whether the last snapshot can be written or not. -/
theorem Keeps.close (h : x.Keeps path ⟨clock.nanos⟩ es) :
    (x.close clock).site.Keeps path ⟨clock.nanos⟩ es := by
  have hdurable : (x.close clock).site.Durable ⟨clock.nanos⟩ :=
    h.durable.close (Int.le_refl _) (Int.le_refl _)
  refine h.of_live ?_ (by rw [entries_close]) hdurable ?_
  · unfold Site.close
    split <;> rfl
  · unfold Site.close
    split
    · exact h.snapshot
    · exact h.snapshot
    · exact h.snapshot
    · exact h.snapshot
    · next now _ _ _ =>
      cases hsave : (x.saveFor now []).2.result with
      | error e => exact h.snapshot.of_read (saveFor_of_error hsave path h.medium)
      | ok u =>
        exact .inr ⟨_, h.durable.inCalendar.live now, saveFor_of_ok hsave path h.medium⟩

theorem Keeps.tick (h : x.Keeps path ⟨clock.nanos⟩ es) :
    ({ x with store := (x.store.tick clock).1 } : Site).Keeps path ⟨clock.nanos⟩ es :=
  h.of_live (x.store.medium_tick clock) (x.store.live_entries_tick clock)
    (h.durable.tick (Int.le_refl _) (Int.le_refl _)) h.snapshot

theorem Keeps.disturb (h : x.Keeps path t es) (files : FileTree) :
    (x.disturb files).Keeps path t es :=
  h.of_eq (by rw [store_disturb]) (by rw [store_disturb]) (read_disturb h.medium files)

/-- **Every move keeps all**, with what it commits in the ledger. -/
theorem Keeps.move (h : x.Keeps path ⟨clock.nanos⟩ es) (m : Move) :
    (x.move clock m).Keeps path ⟨clock.nanos⟩
      (es.record ⟨clock.nanos⟩ (x.committed clock m)) := by
  cases m with
  | write key w => exact h.write key w
  | begin => exact h.begin
  | buffer key w => exact h.buffer key w
  | commit => exact h.commit
  | rollback => exact h.rollback
  | close => exact h.close
  | sweep => exact h.tick
  | disturb files => exact h.disturb files

end Moves

/-- **Every history keeps all.** -/
theorem Keeps.moves {x : Site} {path : String} {es : Entries} {clock last : Clock}
    {ms : List (Clock × Move)} (h : x.Keeps path ⟨clock.nanos⟩ es)
    (hasc : (clock :: (ms.map (·.1) ++ [last])).Pairwise fun a b => a.nanos ≤ b.nanos) :
    (x.moves ms).Keeps path ⟨last.nanos⟩ (x.ledger es ms) := by
  induction ms generalizing x es clock with
  | nil => exact h.mono ((List.pairwise_cons.1 hasc).1 last List.mem_cons_self)
  | cons m ms ih =>
    obtain ⟨hfirst, hrest⟩ := List.pairwise_cons.1 hasc
    exact ih ((h.mono (hfirst m.1 List.mem_cons_self)).move m.2) hrest

/-- A store that has just been opened holds what its file gives back. -/
theorem Keeps.of_openFile {files : FileTree} {path : String} {limits : Limits} {clock : Clock}
    {store : Store} (hfile : IsSnapshot files path)
    (hopen : (openFile files path limits clock).result = .ok store) :
    (Site.mk store files).Keeps path ⟨clock.nanos⟩ store.entries := by
  obtain ⟨es, hdurable⟩ := hfile.exists_durable limits ⟨clock.nanos⟩
  obtain ⟨now, hnow, rfl, hdurable⟩ := hdurable.openFile rfl (Int.le_refl _) hopen
  have hle : now.nanos ≤ clock.nanos := (Clock.read_eq_ok_iff.1 hnow).1 ▸ Int.le_refl _
  exact ⟨rfl, hdurable.mono hle, hfile, rfl⟩

/-! ## Opening the file again -/

/-- **A file gives back what its store holds, and what was committed to it**, whatever the history
of the store. -/
theorem reopen_of_history {files : FileTree} {path : String} {limits limits' : Limits}
    {clock again : Clock} {store : Store} {now : Instant} (hfile : IsSnapshot files path)
    (hopen : (openFile files path limits clock).result = .ok store) (ms : List (Clock × Move))
    (hasc : (clock :: (ms.map (·.1) ++ [again])).Pairwise fun a b => a.nanos ≤ b.nanos)
    (hread : again.read = .ok now) :
    ∃ reopened,
      (openFile ((Site.mk store files).moves ms).files path limits' again).result = .ok reopened ∧
      reopened.entries.LeftOf ((Site.mk store files).moves ms).store.entries now ∧
      reopened.entries.LeftOf ((Site.mk store files).ledger store.entries ms) now ∧
      IsSnapshot ((Site.mk store files).moves ms).files path := by
  have h := (Keeps.of_openFile hfile hopen).moves hasc
  obtain rfl := Clock.eq_of_read hread
  refine ⟨_, h.durable.openFile_eq h.medium hread (Int.le_refl _) limits',
    Entries.leftOf_truncate_live _ _, ?_, h.snapshot⟩
  rw [Store.onFile, ← Entries.truncate_live_live _ (Int.le_refl _), h.ledger,
    Entries.truncate_live_live _ (Int.le_refl _)]
  exact Entries.leftOf_truncate_live _ _

end Site

namespace Sample

/-- A store that is opened on a file that is missing. -/
def opened : Store := .onFile "s" ⟨2, 2, by decide, by decide⟩ ∅

/-- A write that cannot be saved, a transaction that is committed, one that is dropped, a write
that is too large, a deletion, a sweep, and the end. -/
def history : List (Clock × Move) :=
  [(⟨0⟩, .disturb ⟨[(["s.tmp".toList], .folder)]⟩), (⟨1⟩, .write [5] (.put [1] none)),
    (⟨2⟩, .disturb .empty), (⟨3⟩, .begin),
    (⟨3⟩, .buffer [1] (.put [7] (some ⟨5000000, by decide⟩))), (⟨3⟩, .buffer [2] (.put [8] none)),
    (⟨4⟩, .commit), (⟨5⟩, .begin), (⟨5⟩, .buffer [3] (.put [9] none)), (⟨6⟩, .rollback),
    (⟨7⟩, .write [1, 1, 1] (.put [1] none)), (⟨8⟩, .write [2] .delete), (⟨9⟩, .sweep),
    (⟨10⟩, .close)]

theorem reopen_history :
    ((Site.mk opened .empty).ledger ∅ history).pairs = [([1], ⟨[7], some ⟨5000004⟩⟩)] ∧
    ∃ reopened,
      (Site.openFile ((Site.mk opened .empty).moves history).files "s" .default
        ⟨1000000⟩).result = .ok reopened ∧
      reopened.entries.LeftOf ((Site.mk opened .empty).moves history).store.entries ⟨1000000⟩ ∧
      reopened.entries.LeftOf ((Site.mk opened .empty).ledger ∅ history) ⟨1000000⟩ ∧
      IsSnapshot ((Site.mk opened .empty).moves history).files "s" :=
  have hopen : (Site.openFile .empty "s" opened.limits ⟨0⟩).result = .ok opened := rfl
  ⟨by rfl, Site.reopen_of_history (.inl rfl) hopen history (by decide) rfl⟩

end Sample

end SessionTokens
