import SessionTokens.Proofs.Service.Run
/-!
# Operations that fail

Nothing is assumed here of the store: its keys may hold anything, and the clock may stand anywhere.

**Theorem (`step_untouched`).** An operation of a service that ends with an error, for whatever
reason and at whatever point, leaves every entry and the file of the store as they were, and the
writer's turn free if it was. Checking a token and listing sessions always do.

**The turn (`perform_eq_transact`).** An operation begins a transaction, makes its plan there, and
commits it or rolls it back. What it leaves behind is the same as if it never held the turn, so a
turn that is taken is given back on every path.
-/

namespace SessionTokens

open Session

/-! ## Operations as transactions -/

namespace Site

/-- An operation as a transaction: it takes the turn, makes its plan, and gives the turn back by a
commit or, if there is no plan, by a rollback. -/
def transact {ε α β : Type} (x : Site) (clock : Clock) (lift : StorageError → ε)
    (start : Traced (Halt ε) β) (plan : β → Txn → Traced (Halt ε) (Plan α)) :
    Site × Except (Halt ε) α :=
  match start.result with
  | .error h => (x, .error h)
  | .ok b =>
    let begun := x.begin.site
    match x.begin.outcome.result with
    | .error h => (begun, .error (h.map lift))
    | .ok () =>
      let t : Txn := ⟨begun.store.entries, clock, ∅⟩
      match (plan b t).result with
      | .error h => (begun.rollback, .error h)
      | .ok p =>
        let buffered := begun.store.resume { t with pending := p.pending }
        let done := ({ begun with store := buffered } : Site).commit clock
        (done.site, done.outcome.result.mapError (Halt.map lift) |>.map fun _ => p.answer)

/-- **Every turn that an operation takes is given back**: it does the same as a transaction that
is committed or rolled back. -/
theorem perform_eq_transact {ε α β : Type} (x : Site) (clock : Clock) (lift : StorageError → ε)
    (start : Traced (Halt ε) β) (plan : β → Txn → Traced (Halt ε) (Plan α)) :
    ((x.perform clock lift start plan).site, (x.perform clock lift start plan).outcome.result) =
      x.transact clock lift start plan := by
  obtain ⟨⟨entries, phase, limits, medium, everHeld, sweeper⟩, files⟩ := x
  unfold perform transact
  cases start.result with
  | error h => rfl
  | ok b =>
    cases phase with
    | writing p => rfl
    | closed => rfl
    | idle =>
      dsimp only [begin, setPhase]
      cases hplan : (plan b ⟨entries, clock, ∅⟩).result with
      | error h => rfl
      | ok p =>
        dsimp only [commit, Store.resume, setPhase]
        cases (apply ⟨⟨entries, .idle, limits, medium, everHeld, sweeper⟩, files⟩ clock
          p.pending).outcome.result <;> rfl

/-! ## What a failure leaves -/

/-- Whether a site is as it was: every entry and the file of the store are the same, and the
writer's turn is free if it was. -/
structure Untouched (x y : Site) : Prop where
  store : y.store = x.store
  file : ∀ path, x.store.medium = .file path → y.files.read path = x.files.read path
  turn : x.store.phase = .idle → y.begin.outcome.result = .ok ()

theorem Untouched.of_store {x y : Site} (hstore : y.store = x.store)
    (hfile : ∀ path, x.store.medium = .file path → y.files.read path = x.files.read path) :
    x.Untouched y := by
  refine ⟨hstore, hfile, fun hidle => ?_⟩
  rw [begin, hstore, hidle]
  rfl

theorem Untouched.refl (x : Site) : x.Untouched x := .of_store rfl fun _ _ => rfl

/-- Writes that are not applied leave all as it was. -/
theorem Untouched.of_apply {x : Site} {clock : Clock} {p : Pending} {h : Halt StorageError}
    (he : (x.apply clock p).outcome.result = .error h) : x.Untouched (x.apply clock p).site := by
  refine .of_store (apply_entries_of_error he) fun path hpath => ?_
  obtain ⟨_, -, -, hread⟩ | ⟨-, -, heq⟩ | ⟨_, _, -, -, -, hok, -, -⟩ := x.apply_cases clock p
  · exact hread path hpath
  · rw [heq]
  · rw [hok] at he
    cases he

/-- **An operation without an answer leaves all as it was**, wherever it ended. -/
theorem Untouched.of_perform {ε α β : Type} {x : Site} {clock : Clock} {lift : StorageError → ε}
    {start : Traced (Halt ε) β} {plan : β → Txn → Traced (Halt ε) (Plan α)} {h : Halt ε}
    (he : (x.perform clock lift start plan).outcome.result = .error h) :
    x.Untouched (x.perform clock lift start plan).site := by
  unfold perform at he ⊢
  split
  · exact .refl x
  · next b hb =>
    simp only [hb] at he
    split
    · exact .refl x
    · exact .refl x
    · next hidle =>
      simp only [hidle] at he
      dsimp only
      split
      · exact .refl x
      · next p hplan =>
        simp only [hplan] at he
        split
        · next hfail => exact .of_apply hfail
        · next hok => simp [hok] at he

end Site

/-! ## Steps that fail -/

/-- Whether an action only reads. -/
def Action.Reads : Action → Prop
  | .check _ _ _ _ _ => True
  | .list _ _ => True
  | _ => False

/-- Whether a step is an operation of a service that writes, and ends with an error. -/
def Step.Fails (x : Site) (st : Step) : Prop :=
  match st.action with
  | .create s fresh q => ∃ h, (s.create x st.clock fresh q).outcome.result = .error h
  | .extend s fresh token fingerprint =>
    ∃ h, (s.extend x st.clock fresh token fingerprint).outcome.result = .error h
  | .delete s id userId => ∃ h, (s.delete x st.clock id userId).outcome.result = .error h
  | .deleteUser s userId => ∃ h, (s.deleteUser x st.clock userId).outcome.result = .error h
  | _ => False

theorem Step.fails_deleteUser {x : Site} {clock : Clock} {s : Service} {userId : String}
    (h : (s.deleteUser x clock userId).outcome.result.isOk = false) :
    Step.Fails x ⟨clock, .deleteUser s userId⟩ := by
  cases hr : (s.deleteUser x clock userId).outcome.result with
  | ok n =>
    rw [hr] at h
    cases h
  | error e => exact ⟨e, hr⟩

/-- **Operations that fail change nothing, nor do those that only read.** -/
theorem Site.step_untouched (x : Site) (st : Step) (h : st.Fails x ∨ st.action.Reads) :
    x.Untouched (x.step st) := by
  obtain ⟨clock, action⟩ := st
  cases action with
  | create s fresh q =>
    obtain ⟨_, he⟩ | h := h
    · exact .of_perform he
    · exact h.elim
  | extend s fresh token fingerprint =>
    obtain ⟨_, he⟩ | h := h
    · exact .of_perform he
    · exact h.elim
  | delete s id userId =>
    obtain ⟨_, he⟩ | h := h
    · exact .of_perform he
    · exact h.elim
  | deleteUser s userId =>
    obtain ⟨_, he⟩ | h := h
    · exact .of_perform he
    · exact h.elim
  | check s token userAgent ip fingerprint => exact .refl x
  | list s userId => exact .refl x
  | close s => exact (h.elim id id).elim
  | sweep => exact (h.elim id id).elim
  | reopen limits => exact (h.elim id id).elim
  | disturb files => exact (h.elim id id).elim

namespace Sample

/-- A store with a file that holds, under the key of a session, what no session is. -/
def garbled : Site :=
  ⟨.onFile "s" .default (KeyMap.ofList [(recordKey "a", ⟨[0], none⟩),
    (userKey "u" "a", ⟨Text.utf8 "a", none⟩)]), ⟨[(["s".toList], .file [0])]⟩⟩

/-- The sessions of the user cannot be revoked. -/
def revoking : Step := ⟨clock, .deleteUser service "u"⟩

theorem fails_revoking : revoking.Fails garbled :=
  Step.fails_deleteUser (by decide +kernel)

theorem step_untouched_revoking :
    revoking.Fails garbled ∧ garbled.Untouched (garbled.step revoking) :=
  ⟨fails_revoking, garbled.step_untouched revoking (.inl fails_revoking)⟩

end Sample

end SessionTokens
