import SessionTokens.Proofs.Store.Durable
/-!
# What sweeps leave out

A store is *trimmed* at an instant by dropping every entry that is dead then, and forgetting what
its sweeper has come to. No operation from that instant on tells the trimmed store from the store
itself: it is answered the same, writes the same to files, and leaves stores that are the same once
they are trimmed again.

* `trimmed_sweep`, `trimmed_tick`: **a sweep changes nothing but what trimming drops anyway**.
* `get_trimmed`, `range_trimmed`: reads, and `Txn.get_trimmed` and `Txn.beginning_trimmed` those of
  a transaction.
* `apply_trimmed`, `perform_trimmed`, `close_trimmed`: commits, planned operations and the end.
-/

namespace SessionTokens

/-! ## Stores -/

/-- The store without the entries that are dead at an instant, its sweeper still to be started. -/
def Store.trimmed (s : Store) (t : Instant) : Store :=
  { s with entries := s.entries.live t, sweeper := .waiting }

namespace Store

variable (s : Store) (clock : Clock)

theorem trimmed_trimmed {t later : Instant} (h : t.nanos ≤ later.nanos) :
    (s.trimmed t).trimmed later = s.trimmed later := by
  simp only [trimmed, Entries.live_live_later s.entries h]

/-- A store of which the same entries are live is the same once it is trimmed. -/
theorem trimmed_congr {t : Instant} {s' : Store} (hlive : s'.entries.live t = s.entries.live t)
    (hphase : s'.phase = s.phase) (hlimits : s'.limits = s.limits) (hmedium : s'.medium = s.medium)
    (hheld : s'.everHeld = s.everHeld) : s'.trimmed t = s.trimmed t := by
  simp only [trimmed, hlive, hphase, hlimits, hmedium, hheld]

theorem trimmed_sweep (t : Instant) : (s.sweep t).trimmed t = s.trimmed t := by
  unfold sweep
  split
  · rfl
  · exact trimmed_congr _ (s.entries.live_live t) rfl rfl rfl rfl

theorem trimmed_tick : (s.tick clock).1.trimmed ⟨clock.nanos⟩ = s.trimmed ⟨clock.nanos⟩ := by
  unfold tick
  split
  · simp only [startSweeper]
    split <;> rfl
  · rfl
  · rfl
  · next now _ hnow =>
    obtain rfl := Clock.eq_of_read hnow
    exact s.trimmed_sweep _

/-! ## Reading -/

theorem get_trimmed (key : Bytes) :
    (s.trimmed ⟨clock.nanos⟩).get clock key = s.get clock key := by
  have htime : (s.trimmed ⟨clock.nanos⟩).readingTime clock = s.readingTime clock := rfl
  unfold get
  rw [htime]
  cases hread : s.readingTime clock with
  | error h => rfl
  | ok now =>
    obtain rfl := Clock.eq_of_read (readingTime_eq_ok hread).2
    simp only [trimmed, Entries.value?_live, bind, Except.bind]

theorem range_trimmed (b : Bounds) :
    (s.trimmed ⟨clock.nanos⟩).range clock b = s.range clock b := by
  have htime : (s.trimmed ⟨clock.nanos⟩).readingTime clock = s.readingTime clock := rfl
  unfold range
  rw [htime]
  cases hread : s.readingTime clock with
  | error h => rfl
  | ok now =>
    obtain rfl := Clock.eq_of_read (readingTime_eq_ok hread).2
    simp only [trimmed, Entries.within_live, bind, Except.bind]

theorem beginning_trimmed (start : Bytes) :
    (s.trimmed ⟨clock.nanos⟩).beginning clock start = s.beginning clock start :=
  s.range_trimmed clock _

end Store

/-! ## Transactions -/

/-- The transaction on trimmed entries. -/
def Txn.trimmed (t : Txn) : Txn := { t with entries := t.entries.live ⟨t.clock.nanos⟩ }

namespace Txn

variable (t : Txn)

theorem get_trimmed (key : Bytes) : t.trimmed.get key = t.get key := by
  unfold get trimmed
  cases t.pending.find? key with
  | some w => rfl
  | none =>
    cases hread : t.clock.read with
    | error cause => rfl
    | ok now =>
      obtain rfl := Clock.eq_of_read hread
      simp only [Entries.value?_live, bind, Except.bind]

theorem beginning_trimmed (start : Bytes) : t.trimmed.beginning start = t.beginning start := by
  unfold beginning trimmed
  cases hread : t.clock.read with
  | error cause => rfl
  | ok now =>
    obtain rfl := Clock.eq_of_read hread
    simp only [Pending.beginning, Entries.within_live, bind, Except.bind]

end Txn

theorem Store.txn?_trimmed (s : Store) (clock : Clock) :
    (s.trimmed ⟨clock.nanos⟩).txn? clock = (s.txn? clock).map Txn.trimmed := by
  unfold txn? trimmed
  cases s.phase <;> rfl

/-! ## Sites -/

/-- The site with its store trimmed. -/
def Site.trimmed (x : Site) (t : Instant) : Site := { x with store := x.store.trimmed t }

/-- What an operation leaves behind, trimmed, and its outcome. -/
def Done.trimmed {ε α : Type} (d : Done ε α) (t : Instant) : Done ε α :=
  { d with site := d.site.trimmed t }

theorem Done.trimmed_mk {ε α : Type} {x y : Site} {t : Instant} (h : x.trimmed t = y.trimmed t)
    (outcome : Traced (Halt ε) α) : (Done.mk x outcome).trimmed t = (Done.mk y outcome).trimmed t :=
  congrArg (Done.mk · outcome) h

theorem Done.trimmed_inj {ε α : Type} {d e : Done ε α} {t : Instant}
    (h : d.trimmed t = e.trimmed t) :
    d.site.trimmed t = e.site.trimmed t ∧ d.outcome = e.outcome :=
  Done.mk.inj h

namespace Site

variable (x : Site) (clock : Clock)

theorem trimmed_trimmed {t later : Instant} (h : t.nanos ≤ later.nanos) :
    (x.trimmed t).trimmed later = x.trimmed later := by
  simp only [trimmed, x.store.trimmed_trimmed h]

theorem trimmed_self (t : Instant) : (x.trimmed t).trimmed t = x.trimmed t :=
  x.trimmed_trimmed (Int.le_refl _)

/-- Changing the phase of a trimmed store is trimming it with its phase changed. -/
theorem setPhase_trimmed (p : Phase) (t : Instant) :
    ((x.trimmed t).setPhase p).trimmed t = (x.setPhase p).trimmed t :=
  (x.setPhase p).trimmed_self t

/-- The snapshot of a commit leaves dead entries out by itself. -/
theorem saveFor_trimmed (now : Instant) (settled : List (Bytes × Option Entry)) :
    (x.trimmed now).saveFor now settled = x.saveFor now settled := by
  simp only [saveFor, trimmed, Store.trimmed, Entries.live_live]

theorem applySettled_trimmed (now : Instant) (settled : List (Bytes × Option Entry)) :
    ((x.trimmed now).applySettled now settled).trimmed now =
      (x.applySettled now settled).trimmed now := by
  unfold applySettled
  rw [saveFor_trimmed]
  dsimp only
  cases (x.saveFor now settled).2.result with
  | error e =>
    exact Done.trimmed_mk ((Site.mk x.store (x.saveFor now settled).1).trimmed_self now) _
  | ok u =>
    have hlive : (applied (x.store.trimmed now) settled).trimmed now =
        (applied x.store settled).trimmed now :=
      Store.trimmed_congr _ (Entries.live_apply_live _ _ now) rfl rfl rfl rfl
    simp only [Done.trimmed, trimmed, hlive]

/-- **A commit does not tell whether dead entries are kept.** -/
theorem apply_trimmed (p : Pending) :
    ((x.trimmed ⟨clock.nanos⟩).apply clock p).trimmed ⟨clock.nanos⟩ =
      (x.apply clock p).trimmed ⟨clock.nanos⟩ := by
  have hclosed : (x.trimmed ⟨clock.nanos⟩).store.isClosed = x.store.isClosed := rfl
  have hlimits : (x.trimmed ⟨clock.nanos⟩).store.limits = x.store.limits := rfl
  have hself : ∀ outcome : Traced (Halt StorageError) Unit,
      (Done.mk (x.trimmed ⟨clock.nanos⟩) outcome).trimmed ⟨clock.nanos⟩ =
        (Done.mk x outcome).trimmed ⟨clock.nanos⟩ := Done.trimmed_mk (x.trimmed_self _)
  unfold apply
  rw [hclosed, hlimits]
  split
  · exact hself _
  · split
    · exact hself _
    · cases hread : clock.read with
      | error cause => exact hself _
      | ok now =>
        obtain rfl := Clock.eq_of_read hread
        dsimp only
        cases p.settle x.store.limits ⟨clock.nanos⟩ with
        | error e => exact hself _
        | ok settled => exact x.applySettled_trimmed _ settled

theorem write_trimmed (key : Bytes) (w : Write) :
    ((x.trimmed ⟨clock.nanos⟩).write clock key w).trimmed ⟨clock.nanos⟩ =
      (x.write clock key w).trimmed ⟨clock.nanos⟩ := by
  have hphase : (x.trimmed ⟨clock.nanos⟩).store.phase = x.store.phase := rfl
  unfold write
  rw [hphase]
  split
  · exact Done.trimmed_mk (x.trimmed_self _) _
  · exact x.apply_trimmed clock _

theorem begin_trimmed (t : Instant) : (x.trimmed t).begin.trimmed t = x.begin.trimmed t := by
  have hphase : (x.trimmed t).store.phase = x.store.phase := rfl
  unfold begin
  rw [hphase]
  split
  · exact Done.trimmed_mk (x.trimmed_self t) _
  · exact Done.trimmed_mk (x.trimmed_self t) _
  · exact Done.trimmed_mk (x.setPhase_trimmed _ t) _

theorem commit_trimmed :
    ((x.trimmed ⟨clock.nanos⟩).commit clock).trimmed ⟨clock.nanos⟩ =
      (x.commit clock).trimmed ⟨clock.nanos⟩ := by
  have hphase : (x.trimmed ⟨clock.nanos⟩).store.phase = x.store.phase := rfl
  unfold commit
  rw [hphase]
  split
  · exact (x.setPhase .idle).apply_trimmed clock _
  · exact Done.trimmed_mk (x.trimmed_self _) _

theorem rollback_trimmed (t : Instant) :
    (x.trimmed t).rollback.trimmed t = x.rollback.trimmed t := by
  have hphase : (x.trimmed t).store.phase = x.store.phase := rfl
  unfold rollback
  rw [hphase]
  split
  · exact x.setPhase_trimmed .idle t
  · exact x.trimmed_self t

/-- **Closing does not tell whether dead entries are kept**: the last snapshot leaves them out. -/
theorem close_trimmed :
    ((x.trimmed ⟨clock.nanos⟩).close clock).trimmed ⟨clock.nanos⟩ =
      (x.close clock).trimmed ⟨clock.nanos⟩ := by
  have hphase : (x.trimmed ⟨clock.nanos⟩).store.phase = x.store.phase := rfl
  have hmedium : (x.trimmed ⟨clock.nanos⟩).store.medium = x.store.medium := rfl
  unfold close
  rw [hphase, hmedium]
  split
  · exact Done.trimmed_mk (x.trimmed_self _) _
  · exact Done.trimmed_mk (x.trimmed_self _) _
  · exact Done.trimmed_mk (x.setPhase_trimmed .closed _) _
  · exact Done.trimmed_mk (x.trimmed_self _) _
  · next now _ _ hread =>
    obtain rfl := Clock.eq_of_read hread
    rw [saveFor_trimmed]
    exact Done.trimmed_mk
      ((Site.mk { x.store with phase := .closed } (x.saveFor _ []).1).trimmed_self _) _

/-- **An operation whose plan does not tell whether dead entries are kept does not tell either.** -/
theorem perform_trimmed {ε α β : Type} (lift : StorageError → ε) (start : Traced (Halt ε) β)
    (plan : β → Txn → Traced (Halt ε) (Plan α)) (hplan : ∀ b t, plan b (Txn.trimmed t) = plan b t) :
    ((x.trimmed ⟨clock.nanos⟩).perform clock lift start plan).trimmed ⟨clock.nanos⟩ =
      (x.perform clock lift start plan).trimmed ⟨clock.nanos⟩ := by
  have hphase : (x.trimmed ⟨clock.nanos⟩).store.phase = x.store.phase := rfl
  have hself : ∀ outcome : Traced (Halt ε) α,
      (Done.mk (x.trimmed ⟨clock.nanos⟩) outcome).trimmed ⟨clock.nanos⟩ =
        (Done.mk x outcome).trimmed ⟨clock.nanos⟩ := Done.trimmed_mk (x.trimmed_self _)
  unfold perform
  cases start.result with
  | error h => exact hself _
  | ok b =>
    dsimp only
    rw [hphase]
    cases x.store.phase with
    | writing p => exact hself _
    | closed => exact hself _
    | idle =>
      have hsame : plan b ⟨(x.trimmed ⟨clock.nanos⟩).store.entries, clock, ∅⟩ =
          plan b ⟨x.store.entries, clock, ∅⟩ := hplan b ⟨x.store.entries, clock, ∅⟩
      dsimp only
      rw [hsame]
      cases (plan b ⟨x.store.entries, clock, ∅⟩).result with
      | error h => exact hself _
      | ok p =>
        obtain ⟨hsite, houtcome⟩ := Done.trimmed_inj (x.apply_trimmed clock p.pending)
        dsimp only
        rw [houtcome]
        split <;> exact Done.trimmed_mk hsite _

end Site

end SessionTokens
