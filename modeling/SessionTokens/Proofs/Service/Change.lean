import SessionTokens.Proofs.Service.Answers
import SessionTokens.Proofs.Service.Invariant
/-!
# What a step does to the book

A step does to the book of sessions what its action says if it succeeds, and nothing else. Only
opening the file of a store anew does more: it rounds the marks down.

**Theorem (`represents_step`).** After a step the keys of the store represent the book so changed,
without the sessions that lapse in the meantime.

**Theorem (`frame_step_congr`).** The frame of the store after a step depends on the frame before
it only. Operations of clients leave it as it is (`frame_step_of_client`).
-/

namespace SessionTokens

open Session

namespace Step

/-- Whether a step is an operation that changes sessions, and succeeds. -/
def Succeeds (x : Site) (st : Step) : Prop :=
  match st.action with
  | .create s fresh q => ∃ pair, (s.create x st.clock fresh q).outcome.result = .ok pair
  | .extend s fresh token fingerprint =>
    ∃ pair, (s.extend x st.clock fresh token fingerprint).outcome.result = .ok pair
  | .delete s id userId => (s.delete x st.clock id userId).outcome.result = .ok ()
  | .deleteUser s userId => ∃ n, (s.deleteUser x st.clock userId).outcome.result = .ok n
  | _ => False

/-- What a step that succeeds does to a book. -/
def change (st : Step) (b : Book (Option Instant)) : Book (Option Instant) :=
  match st.action with
  | .create s fresh q => b.install (q.record fresh.id st.instant) (s.lapse st.instant)
  | .extend s fresh token _ =>
    match s.tokenId? st.clock token with
    | none => b
    | some id =>
      match b id with
      | none => b
      | some (old, _) =>
        (b.remove id).install (Service.rotated old fresh.id st.instant) (s.lapse st.instant)
  | .delete _ id _ => b.remove id
  | .deleteUser _ userId => b.without fun r => r.userId = userId
  | _ => b

open Classical in
/-- The book after a step that may succeed. -/
noncomputable def outcome (x : Site) (st : Step) (b : Book (Option Instant)) :
    Book (Option Instant) :=
  if st.Succeeds x then st.change b else b

theorem outcome_of_succeeds {x : Site} {st : Step} (h : st.Succeeds x)
    (b : Book (Option Instant)) : st.outcome x b = st.change b := if_pos h

theorem outcome_of_not {x : Site} {st : Step} (h : ¬st.Succeeds x) (b : Book (Option Instant)) :
    st.outcome x b = b := if_neg h

end Step

/-! ## Books of a store that time passes over -/

variable {texts : Set String} {x y : Site} {now after : Instant} {b c : Book (Option Instant)}

namespace Represents

theorem later_of_filter {es : Entries}
    (h : Represents False texts (es.held? now) (b.filter now.isBefore))
    (hle : now.nanos ≤ after.nanos) :
    Represents False texts (es.held? after) (b.filter after.isBefore) := by
  have hfilter := h.filter after.isBefore
  rw [Book.filter_filter fun _ => Instant.isBefore_mono hle] at hfilter
  rw [funext (es.held?_later hle)]
  exact hfilter

/-- No session of a store's book has lapsed. -/
theorem filter_eq {es : Entries} (h : Represents False texts (es.held? now) b) :
    b.filter now.isBefore = b := by
  have hfilter := h.filter now.isBefore
  rw [← funext (es.held?_later (Int.le_refl _))] at hfilter
  exact hfilter.unique h

/-- A book of a store becomes that of the sessions that have not lapsed. -/
theorem later {es : Entries} (h : Represents False texts (es.held? now) b)
    (hle : now.nanos ≤ after.nanos) :
    Represents False texts (es.held? after) (b.filter after.isBefore) :=
  later_of_filter (h.filter_eq.symm ▸ h) hle

end Represents

/-! ## The book after a step -/

section

variable {st : Step} {clock : Clock} {s : Service}

theorem entries_close_service (s : Service) (x : Site) (clock : Clock) :
    (s.close x clock).2.site.store.entries = x.store.entries := by
  unfold Service.close
  split
  · rfl
  · exact x.entries_close clock

/-- A step that fails, or is not an operation that changes sessions, changes nothing that is
held. -/
theorem held?_step_of_not (hopen : ∀ limits, st.action = .reopen limits → x.store.medium = .memory)
    (h : ¬st.Succeeds x) :
    (x.step st).store.entries.held? st.instant = x.store.entries.held? st.instant := by
  have hstore : ∀ {store : Store}, store = x.store →
      store.entries.held? st.instant = x.store.entries.held? st.instant := by
    rintro _ rfl
    rfl
  obtain ⟨clock, action⟩ := st
  cases action with
  | create s fresh q =>
    cases hres : (s.create x clock fresh q).outcome.result with
    | ok pair => exact absurd ⟨pair, hres⟩ h
    | error e => exact hstore (Service.create_store_of_error hres)
  | extend s fresh token fingerprint =>
    cases hres : (s.extend x clock fresh token fingerprint).outcome.result with
    | ok pair => exact absurd ⟨pair, hres⟩ h
    | error e => exact hstore (Service.extend_store_of_error hres)
  | delete s id userId =>
    cases hres : (s.delete x clock id userId).outcome.result with
    | ok u => exact absurd hres h
    | error e => exact hstore (Service.delete_store_of_error hres)
  | deleteUser s userId =>
    cases hres : (s.deleteUser x clock userId).outcome.result with
    | ok n => exact absurd ⟨n, hres⟩ h
    | error e => exact hstore (Service.deleteUser_store_of_error hres)
  | check s token userAgent ip fingerprint => rfl
  | list s userId => rfl
  | close s =>
    have hentries := entries_close_service s x clock
    simp only [Site.step, hentries]
  | sweep => exact Entries.held?_congr (x.store.live_entries_tick clock)
  | reopen limits => simp only [Site.step, Site.reopen, hopen limits rfl]
  | disturb files => exact hstore (x.store_disturb files)

theorem represents_create (hc : CollisionFree texts)
    (h : Represents False texts (x.store.entries.held? ⟨clock.nanos⟩) b) {fresh : Draw}
    {q : SessionRequest} (htexts : ∀ a ∈ (Step.mk clock (.create s fresh q)).texts, a ∈ texts)
    (hfresh : b fresh.id = none) {pair : TokenPair}
    (hok : (s.create x clock fresh q).outcome.result = .ok pair) (hle : clock.nanos ≤ after.nanos) :
    Represents False texts ((s.create x clock fresh q).site.store.entries.held? after)
      (((Step.mk clock (.create s fresh q)).change b).filter after.isBefore) := by
  obtain ⟨now, hr, -, hkeys⟩ := s.create_effect hc h (Int.le_refl _)
    (Service.within_of_create htexts) hfresh hok
  obtain rfl := Clock.eq_of_read hr
  rw [h.filter_eq] at hkeys
  exact hkeys.later_of_filter hle

theorem represents_extend (hc : CollisionFree texts)
    (h : Represents False texts (x.store.entries.held? ⟨clock.nanos⟩) b)
    {fresh : Draw} {token fingerprint : String}
    (htexts : ∀ a ∈ (Step.mk clock (.extend s fresh token fingerprint)).texts, a ∈ texts)
    (hfresh : b fresh.id = none) {pair : TokenPair}
    (hok : (s.extend x clock fresh token fingerprint).outcome.result = .ok pair)
    (hle : clock.nanos ≤ after.nanos) :
    Represents False texts
      ((s.extend x clock fresh token fingerprint).site.store.entries.held? after)
      (((Step.mk clock (.extend s fresh token fingerprint)).change b).filter after.isBefore) := by
  obtain ⟨now, claims, old, expiry, hr, hv, -, hold, -, hkeys⟩ := s.extend_effect hc h
    (Int.le_refl _) (htexts _ List.mem_cons_self) (Service.id_mem_of_extend htexts) hfresh hok
  obtain rfl := Clock.eq_of_read hr
  have htoken : s.tokenId? clock token = some claims.core.id :=
    Service.tokenId?_eq_some.2 ⟨claims, hv, rfl⟩
  rw [h.filter_eq] at hkeys
  simp only [Step.change, htoken, hold]
  exact hkeys.later_of_filter hle

/-- **After a step the keys represent the book as the step has changed it**, unless it opens a file
anew. -/
theorem represents_step (hc : CollisionFree texts)
    (hopen : ∀ limits, st.action = .reopen limits → x.store.medium = .memory)
    (h : Represents False texts (x.store.entries.held? st.instant) b)
    (htexts : ∀ a ∈ st.texts, a ∈ texts) (hfresh : ∀ id ∈ st.action.fresh?, b id = none)
    (hle : st.instant.nanos ≤ after.nanos) :
    Represents False texts ((x.step st).store.entries.held? after)
      ((st.outcome x b).filter after.isBefore) := by
  by_cases hsucceeds : st.Succeeds x
  · rw [Step.outcome_of_succeeds hsucceeds]
    obtain ⟨clock, action⟩ := st
    cases action with
    | create s fresh q =>
      obtain ⟨pair, hok⟩ := hsucceeds
      exact represents_create hc h htexts (hfresh fresh.id rfl) hok hle
    | extend s fresh token fingerprint =>
      obtain ⟨pair, hok⟩ := hsucceeds
      exact represents_extend hc h htexts (hfresh fresh.id rfl) hok hle
    | delete s id userId =>
      obtain ⟨now, -, -, hr, -, -, hkeys⟩ :=
        s.delete_effect hc h (Int.le_refl _) (htexts id List.mem_cons_self) hsucceeds
      obtain rfl := Clock.eq_of_read hr
      have hfilter : b.filter (Instant.mk clock.nanos).isBefore = b := h.filter_eq
      rw [hfilter] at hkeys
      exact hkeys.later_of_filter hle
    | deleteUser s userId =>
      obtain ⟨n, hok⟩ := hsucceeds
      obtain ⟨now, hr, hkeys⟩ :=
        s.deleteUser_effect hc h (Int.le_refl _) (htexts userId List.mem_cons_self) hok
      obtain rfl := Clock.eq_of_read hr
      have hfilter : b.filter (Instant.mk clock.nanos).isBefore = b := h.filter_eq
      rw [hfilter] at hkeys
      exact hkeys.later_of_filter hle
    | _ => exact hsucceeds.elim
  · rw [Step.outcome_of_not hsucceeds]
    exact Represents.later (held?_step_of_not hopen hsucceeds ▸ h) hle

end

/-! ## The frame after a step -/

theorem frame_tick (x : Site) (clock : Clock) :
    ({ x with store := (x.store.tick clock).1 } : Site).frame = x.frame := by
  unfold Store.tick
  split
  · simp only [Store.startSweeper]
    split <;> rfl
  · rfl
  · rfl
  · dsimp only [Store.sweep]
    split <;> rfl

/-- Whether an action is an operation of a client. -/
def Action.OfClient : Action → Prop
  | .close _ | .sweep | .reopen _ | .disturb _ => False
  | _ => True

/-- **Operations of clients leave the frame as it is.** -/
theorem frame_step_of_client (x : Site) {st : Step} (h : st.action.OfClient) :
    (x.step st).frame = x.frame := by
  obtain ⟨clock, action⟩ := st
  cases action with
  | create s fresh q => exact x.frame_perform ..
  | extend s fresh token fingerprint => exact x.frame_perform ..
  | delete s id userId => exact x.frame_perform ..
  | deleteUser s userId => exact x.frame_perform ..
  | check s token userAgent ip fingerprint => rfl
  | list s userId => rfl
  | _ => exact h.elim

theorem frame_run_of_client (x : Site) {steps : List Step} (h : ∀ st ∈ steps, st.action.OfClient) :
    (x.run steps).frame = x.frame := by
  induction steps generalizing x with
  | nil => rfl
  | cons st rest ih =>
    obtain ⟨hst, hrest⟩ := List.forall_mem_cons.1 h
    exact (ih (x.step st) hrest).trans (frame_step_of_client x hst)

theorem phase_run_of_client (x : Site) {steps : List Step}
    (h : ∀ st ∈ steps, st.action.OfClient) : (x.run steps).store.phase = x.store.phase :=
  congrArg (·.1) (frame_run_of_client x h)

theorem limits_run_of_client (x : Site) {steps : List Step}
    (h : ∀ st ∈ steps, st.action.OfClient) : (x.run steps).store.limits = x.store.limits :=
  congrArg (·.2.1) (frame_run_of_client x h)

/-- A store without a file never gets one. -/
theorem medium_step (hmemory : x.store.medium = .memory) (st : Step) :
    (x.step st).store.medium = .memory := by
  have hframe : ∀ {z : Site}, z.frame = x.frame → z.store.medium = .memory := fun hz =>
    (congrArg (·.2.2) hz).trans hmemory
  obtain ⟨clock, action⟩ := st
  cases action with
  | close s =>
    simp only [Site.step, Service.close]
    split
    · exact hmemory
    · unfold Site.close
      split <;> exact hmemory
  | sweep => exact hframe (frame_tick x clock)
  | reopen limits => simp only [Site.step, Site.reopen, hmemory]
  | disturb files => simpa only [Site.step, Site.store_disturb] using hmemory
  | _ => exact hframe (frame_step_of_client x trivial)

theorem medium_run (hmemory : x.store.medium = .memory) (steps : List Step) :
    (x.run steps).store.medium = .memory := by
  induction steps using List.reverseRecOn with
  | nil => exact hmemory
  | append_singleton past st ih =>
    rw [Site.run_concat]
    exact medium_step ih st

/-- Closing a store without a file leaves a frame that depends on the frame before it only. -/
theorem frame_close_congr (hframe : x.frame = y.frame) (hmemory : x.store.medium = .memory)
    (clock : Clock) : (x.close clock).site.frame = (y.close clock).site.frame := by
  obtain ⟨⟨entries, phase, limits, medium, everHeld, sweeper⟩, files⟩ := x
  obtain ⟨⟨entries', phase', limits', medium', everHeld', sweeper'⟩, files'⟩ := y
  cases hmemory
  cases hframe
  cases phase <;> rfl

/-- **The frame after a step depends on the frame before it only**, for stores without a file. -/
theorem frame_step_congr (hframe : x.frame = y.frame) (hmemory : x.store.medium = .memory)
    (st : Step) : (x.step st).frame = (y.step st).frame := by
  have hmemory' : y.store.medium = .memory := (congrArg (·.2.2) hframe).symm.trans hmemory
  obtain ⟨clock, action⟩ := st
  cases action with
  | close s =>
    simp only [Site.step, Service.close]
    split
    · exact hframe
    · exact frame_close_congr hframe hmemory clock
  | sweep => exact (frame_tick x clock).trans (hframe.trans (frame_tick y clock).symm)
  | reopen limits => simpa only [Site.step, Site.reopen, hmemory, hmemory'] using hframe
  | disturb files => simpa only [Site.step, Site.frame, Site.store_disturb] using hframe
  | _ =>
    refine (frame_step_of_client x ?_).trans (hframe.trans (frame_step_of_client y ?_).symm)
    · trivial
    · trivial

end SessionTokens
