import SessionTokens.Proofs.Store.Durable
/-!
# What a commit answers

A commit is refused because of a value that it writes, never because of a key that it deletes.

**Theorem (`apply_result_of_memory`).** A store without a file answers by the values that are
written and by its limits. What is deleted, and what else it holds, makes no difference.

The *frame* of a store is what operations of clients leave as it is: its phase, its limits and its
medium.
-/

namespace SessionTokens

/-! ## Values that are written -/

/-- Whether a write is of a value. -/
def Write.isPut : Write → Bool
  | put _ _ => true
  | delete => false

namespace Pending

/-- The buffered writes without deletions. -/
def puts (p : Pending) : Pending := p.filter fun _ w => w.isPut

theorem find?_puts (p : Pending) (k : Bytes) : p.puts.find? k = (p.find? k).filter Write.isPut :=
  KeyMap.find?_filter p _ k

theorem find?_ne_put {p : Pending} (hputs : p.puts = ∅) {k v : Bytes} {ttl : Option Duration} :
    p.find? k ≠ some (.put v ttl) := by
  intro hk
  have hnone : p.puts.find? k = none := by
    rw [hputs]
    rfl
  rw [find?_puts, hk] at hnone
  cases hnone

@[simp]
theorem puts_insert_put (p : Pending) (k v : Bytes) (ttl : Option Duration) :
    puts (p.insert k (.put v ttl)) = p.puts.insert k (.put v ttl) :=
  KeyMap.ext_find? fun k' => by
    rw [find?_puts, KeyMap.find?_insert, KeyMap.find?_insert, find?_puts]
    by_cases h : k' = k <;> simp [h, Option.filter_some, Write.isPut]

@[simp]
theorem puts_insert_delete (p : Pending) (k : Bytes) :
    puts (p.insert k .delete) = p.puts.erase k :=
  KeyMap.ext_find? fun k' => by
    rw [find?_puts, KeyMap.find?_insert, KeyMap.find?_erase, find?_puts]
    by_cases h : k' = k <;> simp [h, Option.filter_some, Write.isPut]

theorem settleAll_puts (limits : Limits) (now : Instant) (ps : List (Bytes × Write)) :
    (settleAll limits now ps).map (fun _ => ()) =
      (settleAll limits now (ps.filter fun w => w.2.isPut)).map fun _ => () := by
  induction ps with
  | nil => rfl
  | cons p ps ih =>
    obtain ⟨k, w⟩ := p
    have hstep : ∀ rest, (settleAll limits now ((k, w) :: rest)).map (fun _ => ()) =
        (settleOne limits now k w).bind fun _ => (settleAll limits now rest).map fun _ => () := by
      intro rest
      simp only [settleAll, bind, Except.bind]
      cases settleOne limits now k w with
      | error e => rfl
      | ok o => cases settleAll limits now rest <;> rfl
    cases w with
    | put v ttl => rw [hstep, ih, List.filter_cons_of_pos (by rfl), hstep]
    | delete => rw [hstep, ih, List.filter_cons_of_neg (by simp [Write.isPut])]; rfl

/-- **Deletions make no difference to whether writes can be settled**, and to the error if not. -/
theorem settle_puts (p : Pending) (limits : Limits) (now : Instant) :
    (p.settle limits now).map (fun _ => ()) = (p.puts.settle limits now).map fun _ => () :=
  settleAll_puts limits now p.pairs

end Pending

namespace Site

/-! ## Applying writes -/

theorem applySettled_result (x : Site) (now : Instant) (settled : List (Bytes × Option Entry)) :
    (x.applySettled now settled).outcome.result =
      Halt.ofError (x.saveFor now settled).2.result := by
  unfold applySettled
  dsimp only
  cases (x.saveFor now settled).2.result <;> rfl

/-- What applying writes to an open store answers. -/
theorem apply_result {x : Site} {clock : Clock} {now : Instant} {p : Pending}
    (hopen : x.store.isClosed = false) (hread : clock.read = .ok now)
    (hne : p.isEmpty = false) :
    (x.apply clock p).outcome.result =
      Halt.ofError ((p.settle x.store.limits now).bind fun settled =>
        (x.saveFor now settled).2.result) := by
  unfold apply
  rw [hopen, if_neg (by simp), hne, if_neg (by simp), hread]
  dsimp only
  cases p.settle x.store.limits now with
  | error e => rfl
  | ok settled => exact x.applySettled_result now settled

/-- Writing nothing to an open store succeeds. -/
theorem apply_result_of_isEmpty {x : Site} {p : Pending} (hopen : x.store.isClosed = false)
    (hempty : p.isEmpty = true) (clock : Clock) : (x.apply clock p).outcome.result = .ok () := by
  unfold apply
  rw [hopen, if_neg (by simp), hempty]
  rfl

/-- **A store without a file answers by the values that are written**, and by its limits. -/
theorem apply_result_of_memory {x : Site} {clock : Clock} {now : Instant} (p : Pending)
    (hopen : x.store.isClosed = false) (hmemory : x.store.medium = .memory)
    (hread : clock.read = .ok now) :
    (x.apply clock p).outcome.result =
      Halt.ofError ((p.puts.settle x.store.limits now).map fun _ => ()) := by
  have hsave : ∀ settled, (x.saveFor now settled).2.result = .ok () := by
    intro settled
    unfold saveFor
    rw [hmemory]
    rfl
  rw [← p.settle_puts]
  cases hempty : p.isEmpty with
  | true =>
    have hnil : p.pairs = [] := List.isEmpty_iff.1 hempty
    rw [apply_result_of_isEmpty hopen hempty, Pending.settle, hnil]
    rfl
  | false =>
    rw [apply_result hopen hread hempty]
    simp only [hsave]
    cases p.settle x.store.limits now <;> rfl

/-! ## The frame of a store -/

/-- What a store has besides its entries and the files: its phase, its limits and its medium. -/
def frame (x : Site) : Phase × Limits × Medium :=
  (x.store.phase, x.store.limits, x.store.medium)

theorem frame_apply (x : Site) (clock : Clock) (p : Pending) :
    (x.apply clock p).site.frame = x.frame := by
  obtain ⟨_, -, hstore, -⟩ | ⟨-, -, heq⟩ | ⟨_, settled, -, -, -, -, hstore, -⟩ :=
    apply_cases x clock p
  · rw [frame, hstore, frame]
  · rw [heq]
  · rw [frame, hstore]
    rfl

/-- An operation of a client leaves the frame as it was. -/
theorem frame_perform {ε α β : Type} (x : Site) (clock : Clock) (lift : StorageError → ε)
    (start : Traced (Halt ε) β) (plan : β → Txn → Traced (Halt ε) (Plan α)) :
    (x.perform clock lift start plan).site.frame = x.frame := by
  unfold Site.perform
  split
  · rfl
  · split
    · rfl
    · rfl
    · dsimp only
      split
      · rfl
      · split <;> exact x.frame_apply clock _

end Site

end SessionTokens
