import SessionTokens.Proofs.Store.AllOrNothing
/-!
# Reading ahead

A transaction reads its own buffered writes over what has been committed. So it reads ahead of the
store: what it sees now is what the store answers once the writes are committed.

**Theorem (`commit_readsAhead`).** If the commit of a transaction succeeds at an instant, then every
look-up and every scan of a byte string answers in the store right after it as it did in the
transaction right before it. *Fleeting* values are the only exception, those whose time to live is
zero: the transaction shows them, and they have lapsed the instant they are committed. Until the
commit the store answers as if nothing were buffered.
-/

namespace SessionTokens

/-! ## Fleeting values -/

/-- Whether a write is of a value that lapses the instant it is committed. -/
def Write.isFleeting : Write → Bool
  | put _ (some ttl) => ttl.nanos = 0
  | _ => false

/-- Whether the write to a key that counts is of a fleeting value. -/
def isFleeting (last : Bytes → Option Write) (k : Bytes) : Bool := (last k).any Write.isFleeting

theorem Write.exists_value_of_isFleeting {w : Write} (h : w.isFleeting = true) :
    ∃ v, w.value? = some v := by
  cases w with
  | put v ttl => exact ⟨v, rfl⟩
  | delete => cases h

/-- A value that is committed lives on at that instant unless it is fleeting. -/
theorem Write.value?_of_left? (w : Write) (now : Instant) :
    ((w.left? now).filter (Entry.isLive now)).map (·.value) =
      if w.isFleeting then none else w.value? := by
  cases w with
  | delete => rfl
  | put v ttl =>
    cases ttl with
    | none => rfl
    | some d =>
      by_cases hd : d.nanos = 0
      · simp [left?, isFleeting, Entry.isLive, Option.filter_some, hd]
      · have hlive : now.nanos < now.nanos + (d.nanos : Int) := by omega
        simp [left?, value?, isFleeting, Entry.isLive, Option.filter_some, hd, hlive]

namespace Entries

/-- **After a commit the entries show what the transaction saw**, without the fleeting values. -/
theorem value?_record (es : Entries) (p : Pending) (now : Instant) (k : Bytes) :
    (es.apply (p.pairs.map fun w => (w.1, w.2.left? now))).value? now k =
      if isFleeting p.find? k then none else p.value? es now k := by
  rw [value?, find?_apply, Pending.value?, isFleeting]
  cases p.find? k with
  | none => rfl
  | some w => exact w.value?_of_left? now

theorem find?_within (es : Entries) (now : Instant) (start k : Bytes) :
    (es.within now (Bounds.ofPrefix start)).find? k =
      if start <+: k then es.value? now k else none :=
  Txn.find?_beginning ∅ es now start k

/-- A scan of the entries after a commit gives what the scan of the transaction gave, without the
fleeting values. -/
theorem within_record (es : Entries) (p : Pending) (now : Instant) (start : Bytes) :
    (es.apply (p.pairs.map fun w => (w.1, w.2.left? now))).within now (Bounds.ofPrefix start) =
      (p.beginning es now start).filter fun k _ => !isFleeting p.find? k := by
  refine KeyMap.ext_find? fun k => ?_
  rw [find?_within, KeyMap.find?_filter, Txn.find?_beginning, value?_record]
  cases isFleeting p.find? k with
  | true => simp
  | false =>
    cases hp : (if start <+: k then p.value? es now k else none) with
    | none => exact hp
    | some v => exact hp

end Entries

/-! ## Reads of a store -/

namespace Store

/-- Whether every read of a store, at any time, answers as that of another one. -/
structure ReadsAs (s s' : Store) : Prop where
  get : ∀ clock k, s.get clock k = s'.get clock k
  range : ∀ clock b, s.range clock b = s'.range clock b
  beginning : ∀ clock start, s.beginning clock start = s'.beginning clock start

/-- Reads depend on the entries, and on whether the store is closed and has ever held one. -/
theorem ReadsAs.of_eq {s s' : Store} (hentries : s.entries = s'.entries)
    (hclosed : s.isClosed = s'.isClosed) (hheld : s.everHeld = s'.everHeld) : s.ReadsAs s' := by
  have htime : ∀ clock, s.readingTime clock = s'.readingTime clock := by
    intro clock
    rw [readingTime, ensureOpen, hclosed, readingTime, ensureOpen]
  have hrange : ∀ clock b, s.range clock b = s'.range clock b := by
    intro clock b
    rw [Store.range, htime, hheld, hentries, Store.range]
  refine ⟨fun clock k => ?_, hrange, fun clock start => ?_⟩
  · rw [Store.get, htime, hentries, Store.get]
  · rw [Store.beginning, hrange, Store.beginning]

theorem get_of_read {s : Store} {clock : Clock} {now : Instant} (hopen : s.isClosed = false)
    (hread : clock.read = .ok now) (k : Bytes) :
    s.get clock k = .ok (s.entries.value? now k) := by
  rw [Store.get, readingTime_of_read hopen hread]
  rfl

theorem beginning_of_read {s : Store} {clock : Clock} {now : Instant} (hopen : s.isClosed = false)
    (hread : clock.read = .ok now) (start : Bytes) :
    s.beginning clock start = .ok (s.entries.within now (Bounds.ofPrefix start)).pairs := by
  rw [Store.beginning, Store.range, readingTime_of_read hopen hread, Bounds.isRange_ofPrefix]
  simp [bind, Except.bind, pure, Except.pure]

/-- An open store that has to read a clock which cannot be read breaks the operation off. -/
theorem readingTime_of_abort {s : Store} {clock : Clock} {cause : Abort}
    (hopen : s.isClosed = false) (habort : clock.read = .error cause) :
    s.readingTime clock = .error (.aborted cause) := by
  rw [readingTime, ensureOpen, hopen, habort]
  rfl

end Store

/-! ## Commits -/

/-- How what a store answers after the commit of a transaction compares to what the transaction
answered before it, at the same time and given the last write to each key. -/
structure ReadsAhead (t : Txn) (after : Store) (clock : Clock) (last : Bytes → Option Write) :
    Prop where
  get : ∀ k, isFleeting last k = false → after.get clock k = Halt.ofAbort (t.get k)
  beginning : ∀ start, after.beginning clock start =
    (Halt.ofAbort (t.beginning start)).map fun ps => ps.filter fun p => !isFleeting last p.1
  ascending : ∀ start ps, t.beginning start = .ok ps →
    ps.Pairwise (fun a b => a.1 < b.1) ∧ ∀ p ∈ ps, start <+: p.1
  fleeting : ∀ k, isFleeting last k = true →
    after.get clock k = .ok none ∧ ∃ v, t.get k = .ok (some v) ∧
      ∀ start, start <+: k → ∃ ps, t.beginning start = .ok ps ∧ (k, v) ∈ ps

/-- A transaction that has buffered nothing reads ahead of the store as it is, also if the clock
cannot be read. -/
theorem ReadsAhead.of_abort {t : Txn} {after : Store} {cause : Abort}
    (hopen : after.isClosed = false) (habort : t.clock.read = .error cause)
    (hnone : ∀ k, t.pending.find? k = none) : ReadsAhead t after t.clock t.pending.find? := by
  have hbeginning : ∀ start, t.beginning start = .error cause := by
    intro start
    rw [Txn.beginning, habort]
    rfl
  refine ⟨fun k _ => ?_, fun start => ?_, fun start ps h => ?_, fun k h => ?_⟩
  · rw [Store.get, Store.readingTime_of_abort hopen habort, Txn.get, hnone, habort]
    rfl
  · rw [Store.beginning, Store.range, Store.readingTime_of_abort hopen habort, hbeginning]
    rfl
  · rw [hbeginning] at h
    cases h
  · rw [isFleeting, hnone] at h
    cases h

/-- A transaction reads ahead of the store whose entries are its own with its writes over them. -/
theorem ReadsAhead.of_read {t : Txn} {after : Store} {now : Instant}
    (hopen : after.isClosed = false) (hread : t.clock.read = .ok now)
    (hentries : after.entries =
      t.entries.apply (t.pending.pairs.map fun w => (w.1, w.2.left? now))) :
    ReadsAhead t after t.clock t.pending.find? := by
  have hbeginning : ∀ start,
      t.beginning start = .ok (t.pending.beginning t.entries now start).pairs := by
    intro start
    rw [Txn.beginning, hread]
    rfl
  refine ⟨fun k h => ?_, fun start => ?_, fun start ps h => ?_, fun k h => ?_⟩
  · rw [Store.get_of_read hopen hread, hentries, Entries.value?_record, h,
      Txn.get_of_read hread]
    rfl
  · rw [Store.beginning_of_read hopen hread, hentries, Entries.within_record, hbeginning]
    rfl
  · rw [hbeginning] at h
    cases h
    refine ⟨KeyMap.sorted _, fun p hp => ?_⟩
    have hfind := KeyMap.mem_pairs_iff.1 hp
    rw [Txn.find?_beginning] at hfind
    by_contra hnot
    rw [if_neg hnot] at hfind
    cases hfind
  · obtain ⟨w, hw, hfleeting⟩ : ∃ w, t.pending.find? k = some w ∧ w.isFleeting = true := by
      simpa [isFleeting, Option.any_eq_true] using h
    obtain ⟨v, hv⟩ := Write.exists_value_of_isFleeting hfleeting
    have hseen : t.pending.value? t.entries now k = some v := by
      rw [Pending.value?, hw]
      exact hv
    refine ⟨?_, v, ?_, fun start hstart => ⟨_, hbeginning start, ?_⟩⟩
    · rw [Store.get_of_read hopen hread, hentries, Entries.value?_record, if_pos h]
    · rw [Txn.get_of_read hread, hseen]
    · rw [KeyMap.mem_pairs_iff, Txn.find?_beginning, if_pos hstart, hseen]

namespace Site

/-- Applying writes to an open store succeeds without telling the time only if there are none. -/
theorem apply_of_abort {x : Site} {clock : Clock} {cause : Abort} {p : Pending}
    (habort : clock.read = .error cause) (hok : (x.apply clock p).outcome.result = .ok ()) :
    p.isEmpty = true := by
  obtain ⟨_, he, -⟩ | ⟨-, hempty, -⟩ | ⟨_, _, hread, -⟩ := x.apply_cases clock p
  · rw [hok] at he
    cases he
  · exact hempty
  · rw [habort] at hread
    cases hread

/-- **A transaction reads ahead of its commit**, and until then the store answers as if nothing
were buffered. -/
theorem commit_readsAhead {x : Site} {clock : Clock} {ws : List (Bytes × Write)}
    (htxn : x.store.txn? clock = some ((Txn.mk x.store.entries clock ∅).bufferAll ws)) :
    x.store.ReadsAs (x.setPhase (.writing ∅)).store ∧ x.store.ReadsAs x.rollback.store ∧
    ((x.commit clock).outcome.result = .ok () →
      ReadsAhead ((Txn.mk x.store.entries clock ∅).bufferAll ws) (x.commit clock).site.store
        clock (lastWrite? ws)) := by
  rw [← funext (Txn.find?_bufferAll x.store.entries clock ws)]
  unfold Store.txn? at htxn
  split at htxn
  · next p hphase =>
    have hopen : x.store.isClosed = false := by rw [Store.isClosed, hphase]
    rw [← Option.some.inj htxn]
    refine ⟨.of_eq rfl hopen rfl, ?_, fun hok => ?_⟩
    · rw [rollback, hphase]
      exact .of_eq rfl hopen rfl
    · rw [commit, hphase] at hok ⊢
      have hidle : ((x.setPhase .idle).apply clock p).site.store.isClosed = false := by
        rw [Store.isClosed, phase_apply]
        rfl
      cases hread : clock.read with
      | error cause =>
        exact .of_abort hidle hread (KeyMap.isEmpty_iff.1 (apply_of_abort hread hok))
      | ok now => exact .of_read hidle hread (entries_apply_of_ok hread hok)
  · cases htxn

end Site

namespace Sample

/-- Writes over a value that has lapsed, one that is replaced and one that is deleted; one key is
deleted and written again, and one holds a fleeting value in the end. -/
def ahead : List (Bytes × Write) :=
  [([0xFF, 1], .put [7] none), ([0xFF, 2], .delete), ([0xFF, 2], .put [8] (some ⟨3, by decide⟩)),
    ([3], .delete), ([0xFF, 4], .put [6] none), ([0xFF, 4], .put [5] (some ⟨0, by decide⟩))]

/-- A store on which a transaction has buffered the writes. -/
def aheadOf : Site :=
  let entries := KeyMap.ofList [([0xFF, 1], ⟨[9], some ⟨5⟩⟩), ([0xFF, 2], ⟨[8], none⟩),
    ([0xFF, 3], ⟨[4], some ⟨7⟩⟩), ([0xFF, 0xFF], ⟨[3], none⟩), ([3], ⟨[5], none⟩)]
  ⟨{ Store.onFile "s" ⟨2, 1, Nat.two_pos, Nat.one_pos⟩ entries with
    phase := .writing ((Txn.mk entries ⟨9⟩ ∅).bufferAll ahead).pending }, .empty⟩

theorem commit_readsAhead_ahead :
    (Site.commit aheadOf ⟨9⟩).outcome.result = .ok () ∧
    isFleeting (lastWrite? ahead) [0xFF, 4] = true ∧
    aheadOf.store.ReadsAs (aheadOf.setPhase (.writing ∅)).store ∧
    aheadOf.store.ReadsAs aheadOf.rollback.store ∧
    ReadsAhead ((Txn.mk aheadOf.store.entries ⟨9⟩ ∅).bufferAll ahead)
      (Site.commit aheadOf ⟨9⟩).site.store ⟨9⟩ (lastWrite? ahead) :=
  have hok : (Site.commit aheadOf ⟨9⟩).outcome.result = .ok () := by rfl
  have htxn : aheadOf.store.txn? ⟨9⟩ =
      some ((Txn.mk aheadOf.store.entries ⟨9⟩ ∅).bufferAll ahead) := rfl
  have h := Site.commit_readsAhead htxn
  ⟨hok, by rfl, h.1, h.2.1, h.2.2 hok⟩

end Sample

end SessionTokens
