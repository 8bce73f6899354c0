import Mathlib.Algebra.Group.Nat.Defs
import Mathlib.Data.List.Induction
import SessionTokens.Proofs.Store.Outcome
/-!
# All or nothing

A transaction buffers one write after another, and of those to one key the last one counts. A
commit applies what counts as a whole, or nothing of it.

**Theorem (`commit_allOrNothing`).** The commit of a transaction succeeds exactly if each value
that counts is within the size limits, each of its times to live ends within the calendar, and the
snapshot of a store with a file can be written. Then the entries are those from before with the
writes over them. Otherwise it fails, and every entry is as before. A single write does the same.

A time to live is added to the instant of the commit in whole nanoseconds, without any bound, and
compared with the ends of the calendar only then. So no duration is too long to be added.
-/

namespace SessionTokens

/-! ## The last write to a key -/

/-- The last of the writes to a key. -/
def lastWrite? (ws : List (Bytes × Write)) (k : Bytes) : Option Write :=
  ((ws.filter fun w => w.1 = k).getLast?).map (·.2)

theorem lastWrite?_concat (ws : List (Bytes × Write)) (w : Bytes × Write) (k : Bytes) :
    lastWrite? (ws ++ [w]) k = if k = w.1 then some w.2 else lastWrite? ws k := by
  unfold lastWrite?
  by_cases h : k = w.1
  · simp [h]
  · simp [h, Ne.symm h]

namespace Txn

/-- The transaction with writes buffered, one after another. -/
def bufferAll (t : Txn) (ws : List (Bytes × Write)) : Txn :=
  ws.foldl (fun t w => t.buffer w.1 w.2) t

/-- **The buffer of a transaction holds the last write to each key.** -/
theorem find?_bufferAll (es : Entries) (clock : Clock) (ws : List (Bytes × Write)) (k : Bytes) :
    ((Txn.mk es clock ∅).bufferAll ws).pending.find? k = lastWrite? ws k := by
  induction ws using List.reverseRecOn with
  | nil => rfl
  | append_singleton ws w ih =>
    rw [lastWrite?_concat, ← ih, bufferAll, bufferAll, List.foldl_append]
    simp [buffer]

end Txn

/-! ## What can be committed -/

/-- Whether a value can be committed under a key: both are within the limits, and its time to live
is one that can be told and ends within the calendar. -/
structure Acceptable (limits : Limits) (now : Instant) (key value : Bytes)
    (ttl : Option Duration) : Prop where
  key : key.length ≤ limits.key
  value : value.length ≤ limits.value
  short : ∀ d ∈ ttl, d.nanos ≤ (2 ^ 63 - 1) * 1000000
  inRange : ∀ d ∈ ttl, Instant.earliest.nanos ≤ now.nanos + d.nanos ∧
    now.nanos + d.nanos ≤ Instant.latest.nanos

theorem Instant.isSome_after?_iff {now : Instant} {d : Duration} :
    (now.after? d).isSome = true ↔ d.nanos ≤ (2 ^ 63 - 1) * 1000000 ∧
      earliest.nanos ≤ now.nanos + d.nanos ∧ now.nanos + d.nanos ≤ latest.nanos := by
  unfold after? inRange longestTtl
  split <;> simp_all

theorem Write.fits_put_iff {limits : Limits} {now : Instant} {key value : Bytes}
    {ttl : Option Duration} :
    (Write.put value ttl).Fits limits now key ↔ Acceptable limits now key value ttl := by
  simp only [Fits, Instant.isSome_after?_iff]
  constructor
  · rintro ⟨⟨hkey, hvalue⟩, httl⟩
    exact ⟨hkey, hvalue, fun d hd => (httl d hd).1, fun d hd => (httl d hd).2⟩
  · rintro ⟨hkey, hvalue, hshort, hrange⟩
    exact ⟨⟨hkey, hvalue⟩, fun d hd => ⟨hshort d hd, hrange d hd⟩⟩

/-- Whether every value among the writes that count can be committed. -/
def AllAcceptable (limits : Limits) (now : Instant) (last : Bytes → Option Write) : Prop :=
  ∀ k v ttl, last k = some (.put v ttl) → Acceptable limits now k v ttl

theorem forall_fits_iff {limits : Limits} {now : Instant} {last : Bytes → Option Write} :
    (∀ k w, last k = some w → w.Fits limits now k) ↔ AllAcceptable limits now last := by
  constructor
  · exact fun h k v ttl hk => Write.fits_put_iff.1 (h k _ hk)
  · intro h k w hk
    cases w with
    | delete => trivial
    | put v ttl => exact Write.fits_put_iff.2 (h k v ttl hk)

/-- Writes without values can all be committed. -/
theorem allAcceptable_of_puts {p : Pending} (hputs : p.puts = ∅) (limits : Limits)
    (now : Instant) : AllAcceptable limits now p.find? := fun _ _ _ hk =>
  absurd hk (Pending.find?_ne_put hputs)

theorem KeyMap.isEmpty_iff {β : Type} {m : KeyMap β} :
    m.isEmpty = true ↔ ∀ k, m.find? k = none := by
  rw [isEmpty, List.isEmpty_iff]
  constructor
  · intro h k
    rw [find?, h, lookup]
  · intro h
    refine List.eq_nil_iff_forall_not_mem.2 fun p hp => ?_
    have := (mem_pairs_iff (k := p.1) (v := p.2)).1 hp
    rw [h] at this
    cases this

namespace Site

/-- Whether the snapshot can be written for the writes that count. A store without a file needs
none, nor does one to which nothing is written. -/
def CanSave (x : Site) (now : Instant) (last : Bytes → Option Write) : Prop :=
  ∀ path, x.store.medium = .file path → (∃ k, (last k).isSome = true) →
    ∃ image : Entries,
      (∀ k, image.find? k =
        ((last k).map (Write.left? now)).getD ((x.store.entries.live now).find? k)) ∧
      (replaceFile x.files path (Snapshot.encode image)).2 = .ok ()

/-- How a commit at an instant ends, given the last write to each key: as a success exactly if all
writes can be accepted and saved, and then with all of them in the entries; or as a failure that
leaves every entry as it was. -/
structure AllOrNothing (x : Site) (now : Instant) (last : Bytes → Option Write)
    (done : Done StorageError Unit) : Prop where
  ok_iff : done.outcome.result = .ok () ↔
    AllAcceptable x.store.limits now last ∧ x.CanSave now last
  put : done.outcome.result = .ok () → ∀ k v ttl, last k = some (.put v ttl) →
    done.site.store.entries.find? k = some ⟨v, ttl.map fun d => ⟨now.nanos + d.nanos⟩⟩
  deleted : done.outcome.result = .ok () → ∀ k, last k = some .delete →
    done.site.store.entries.find? k = none
  kept : done.outcome.result = .ok () → ∀ k, last k = none →
    done.site.store.entries.find? k = x.store.entries.find? k
  failed : done.outcome.result ≠ .ok () → ∃ e, done.outcome.result = .error (.failed e)
  unchanged : done.outcome.result ≠ .ok () → done.site.store.entries = x.store.entries

/-! ## Commits -/

theorem saveFor_eq_ok_iff {x : Site} {now : Instant} {settled : List (Bytes × Option Entry)} :
    (x.saveFor now settled).2.result = .ok () ↔ ∀ path, x.store.medium = .file path →
      (replaceFile x.files path
        (Snapshot.encode ((x.store.entries.live now).apply settled))).2 = .ok () := by
  unfold saveFor
  cases x.store.medium with
  | memory => simp [pure, Traced.pure]
  | file path => simp

/-- The snapshot that a commit writes is the one that the writes call for. -/
theorem saveFor_eq_ok_iff_canSave {x : Site} {now : Instant} {p : Pending}
    (hne : p.isEmpty = false) :
    (x.saveFor now (p.pairs.map fun w => (w.1, w.2.left? now))).2.result = .ok () ↔
      x.CanSave now p.find? := by
  have hsome : ∃ k, (p.find? k).isSome = true := by
    by_contra hnone
    have hempty : p.isEmpty = true :=
      KeyMap.isEmpty_iff.2 fun k => by simpa using not_exists.1 hnone k
    rw [hne] at hempty
    cases hempty
  rw [saveFor_eq_ok_iff]
  constructor
  · exact fun h path hpath _ => ⟨_, Entries.find?_apply _ p now, h path hpath⟩
  · intro h path hpath
    obtain ⟨image, himage, hsave⟩ := h path hpath hsome
    have heq : image =
        (x.store.entries.live now).apply (p.pairs.map fun w => (w.1, w.2.left? now)) :=
      KeyMap.ext_find? fun k => by rw [himage, Entries.find?_apply]
    exact heq ▸ hsave

theorem apply_eq_ok_iff {x : Site} {clock : Clock} {now : Instant} {p : Pending}
    (hopen : x.store.isClosed = false) (hread : clock.read = .ok now) :
    (x.apply clock p).outcome.result = .ok () ↔
      AllAcceptable x.store.limits now p.find? ∧ x.CanSave now p.find? := by
  cases hempty : p.isEmpty with
  | true =>
    have hnone : ∀ k, p.find? k = none := KeyMap.isEmpty_iff.1 hempty
    refine iff_of_true (apply_result_of_isEmpty hopen hempty clock)
      ⟨fun k v ttl hk => ?_, fun path _ hsome => ?_⟩
    · rw [hnone] at hk
      cases hk
    · obtain ⟨k, hk⟩ := hsome
      rw [hnone] at hk
      cases hk
  | false =>
    rw [apply_result hopen hread hempty, Halt.ofError_eq_ok, bind_eq_ok,
      ← saveFor_eq_ok_iff_canSave hempty, ← forall_fits_iff]
    simp only [Pending.settle_eq_ok_iff]
    constructor
    · rintro ⟨_, ⟨hfits, rfl⟩, hsave⟩
      exact ⟨hfits, hsave⟩
    · exact fun h => ⟨_, ⟨h.1, rfl⟩, h.2⟩

/-- An open store whose clock can be read refuses writes with an error, and is never broken
off. -/
theorem apply_failed {x : Site} {clock : Clock} {now : Instant} {p : Pending}
    (hopen : x.store.isClosed = false) (hread : clock.read = .ok now)
    (hne : (x.apply clock p).outcome.result ≠ .ok ()) :
    ∃ e, (x.apply clock p).outcome.result = .error (.failed e) := by
  cases hempty : p.isEmpty with
  | true => exact absurd (apply_result_of_isEmpty hopen hempty clock) hne
  | false =>
    rw [apply_result hopen hread hempty] at hne ⊢
    cases hr : (p.settle x.store.limits now).bind fun settled =>
        (x.saveFor now settled).2.result with
    | ok u =>
      rw [hr] at hne
      exact absurd rfl hne
    | error e => exact ⟨e, rfl⟩

/-- **Applying writes is all or nothing.** -/
theorem AllOrNothing.of_apply {x : Site} {clock : Clock} {now : Instant} (p : Pending)
    (hopen : x.store.isClosed = false) (hread : clock.read = .ok now) :
    x.AllOrNothing now p.find? (x.apply clock p) := by
  have hentries : (x.apply clock p).outcome.result = .ok () → ∀ k,
      (x.apply clock p).site.store.entries.find? k =
        ((p.find? k).map (Write.left? now)).getD (x.store.entries.find? k) := fun hok k => by
    rw [entries_apply_of_ok hread hok, Entries.find?_apply]
  refine ⟨apply_eq_ok_iff hopen hread, fun hok k v ttl hk => ?_, fun hok k hk => ?_,
    fun hok k hk => ?_, apply_failed hopen hread, fun hne => ?_⟩
  · rw [hentries hok, hk]
    rfl
  · rw [hentries hok, hk]
    rfl
  · rw [hentries hok, hk]
    rfl
  · obtain ⟨e, he⟩ := apply_failed hopen hread hne
    rw [apply_entries_of_error he]

/-- It makes no difference to a commit in which phase the store was before. -/
theorem AllOrNothing.of_setPhase {x : Site} {phase : Phase} {now : Instant}
    {last : Bytes → Option Write} {done : Done StorageError Unit}
    (h : (x.setPhase phase).AllOrNothing now last done) : x.AllOrNothing now last done :=
  ⟨h.ok_iff, h.put, h.deleted, h.kept, h.failed, h.unchanged⟩

/-- **Commits are all or nothing**, those of transactions and those of single writes. -/
theorem commit_allOrNothing (x : Site) {clock : Clock} {now : Instant}
    (hread : clock.read = .ok now) :
    (∀ ws, x.store.txn? clock = some ((Txn.mk x.store.entries clock ∅).bufferAll ws) →
      x.AllOrNothing now (lastWrite? ws) (x.commit clock)) ∧
    (x.store.phase = .idle → ∀ key w,
      x.AllOrNothing now (lastWrite? [(key, w)]) (x.write clock key w)) := by
  constructor
  · intro ws htxn
    unfold Store.txn? at htxn
    split at htxn
    · next p hphase =>
      have hp : p.find? = lastWrite? ws := funext fun k => by
        rw [← Txn.find?_bufferAll x.store.entries clock ws k, ← Option.some.inj htxn]
      rw [← hp, commit, hphase]
      exact (AllOrNothing.of_apply p rfl hread).of_setPhase
    · cases htxn
  · intro hidle key w
    have hw : (KeyMap.insert ∅ key w : Pending).find? = lastWrite? [(key, w)] := funext fun k =>
      Txn.find?_bufferAll x.store.entries clock [(key, w)] k
    have hopen : x.store.isClosed = false := by rw [Store.isClosed, hidle]
    rw [← hw, write, hidle]
    exact AllOrNothing.of_apply _ hopen hread

end Site

namespace Sample

theorem second_lt : 1000000000 < Nat.pow 2 64 * 1000000000 := by decide

/-- Writes of which the first, a value too long for too long a time, does not count. -/
def writes : List (Bytes × Write) :=
  [([1], .put [7, 7, 7] (some ⟨Instant.longestTtl + 1, by decide⟩)), ([1], .put [7] none),
    ([2], .delete), ([4], .put [6] (some ⟨1000000000, second_lt⟩))]

/-- A store with a file, on which a transaction has buffered the writes. -/
def buffering : Site :=
  let entries := KeyMap.ofList [([1], ⟨[9], some ⟨5⟩⟩), ([2], ⟨[8], none⟩), ([3], ⟨[5], none⟩)]
  ⟨{ Store.onFile "s" ⟨1, 1, by decide, by decide⟩ entries with
    phase := .writing ((Txn.mk entries ⟨0⟩ ∅).bufferAll writes).pending }, .empty⟩

theorem commit_allOrNothing_writes :
    (Site.commit buffering ⟨0⟩).outcome.result = .ok () ∧
      buffering.AllOrNothing ⟨0⟩ (lastWrite? writes) (Site.commit buffering ⟨0⟩) :=
  ⟨by rfl, (Site.commit_allOrNothing buffering rfl).1 writes rfl⟩

end Sample

end SessionTokens
