import SessionTokens.Proofs.Session.Operations
import SessionTokens.Proofs.Store.Turns
/-!
# Stores that are closed

A close needs the writer's turn, like any other request: it is put off while a transaction is open
or writes are being saved. Once it has the turn it saves the live entries a last time, and closes
the store whether that succeeds or not.

**Theorem (`Closes.isClosed`).** Once a close has been completed, with success or with an error of
the last save, the store is closed and nobody has the writer's turn.

**Theorem (`IsClosed.step`).** A closed store stays closed whatever its clients do, with the entries
and the content of its file that it has. All its operations are refused, and closing it again does
nothing (`refuses_of_isClosed`).
-/

namespace SessionTokens

/-! ## What a closed store answers -/

/-- Whether everything is refused on a site because its store is closed, at any time; closing again
is answered and does nothing. -/
structure Site.Refuses (x : Site) : Prop where
  get : ∀ clock key, x.store.get clock key = .error (.failed .closed)
  range : ∀ clock b, x.store.range clock b = .error (.failed .closed)
  beginning : ∀ clock start, x.store.beginning clock start = .error (.failed .closed)
  health : (x.store.health x.files).result = .error (.failed .closed)
  write : ∀ clock key w, x.write clock key w = ⟨x, Site.fail .closed⟩
  begin : x.begin = ⟨x, Site.fail .closed⟩
  /-- No transaction is open, and writes that one had buffered could not be committed. -/
  noTransaction : ∀ clock, x.store.txn? clock = none
  commit : ∀ clock p, x.apply clock p = ⟨x, Site.fail .closed⟩
  find : ∀ clock id, Session.find x.store clock id = .error (.failed .closed)
  ofUser : ∀ clock u, (Session.ofUser x.store clock u).result = .error (.failed .closed)
  census : ∀ clock, Session.census x.store clock = .error (.failed .closed)
  put : ∀ clock r ttl, Session.put x clock r ttl = ⟨x, Site.fail .closed⟩
  close : ∀ clock, x.close clock = ⟨x, pure ()⟩

theorem Site.refuses_of_isClosed {x : Site} (h : x.store.phase = .closed) : x.Refuses := by
  have hclosed : x.store.isClosed = true := by rw [Store.isClosed, h]
  have htime := Store.readingTime_of_isClosed hclosed
  have hrange : ∀ clock b, x.store.range clock b = .error (.failed .closed) := by
    intro clock b
    rw [Store.range, htime]
    rfl
  have happly : ∀ clock p, x.apply clock p = ⟨x, Site.fail .closed⟩ := by
    intro clock p
    rw [Site.apply, if_pos hclosed]
  constructor
  case get =>
    intro clock key
    rw [Store.get, htime]
    rfl
  case range => exact hrange
  case beginning => exact fun clock start => hrange clock _
  case health => simp [Store.health, Store.ensureOpen, hclosed, Halt.ofError, Except.bind]
  case write =>
    intro clock key w
    rw [Site.write, h]
    exact happly clock _
  case begin => rw [Site.begin, h]
  case noTransaction =>
    intro clock
    rw [Store.txn?, h]
  case commit => exact happly
  case find => exact fun clock id => find_of_isClosed hclosed id
  case ofUser => exact fun clock u => ofUser_of_error (htime clock) u
  case census =>
    intro clock
    simp only [Session.census, Store.beginning, hrange]
    rfl
  case put =>
    intro clock r ttl
    rw [Session.put, Site.perform, h]
    rfl
  case close =>
    intro clock
    rw [Site.close, h]

/-! ## When a close is completed -/

/-- Whether an operation has come to an end of its own: with success, or with an error. -/
def Ended {α : Type} (r : Except (Halt StorageError) α) : Prop :=
  r.isOk = true ∨ ∃ e, r = .error (.failed e)

/-- **A close that comes to an end leaves the store closed**, also if the last save fails. -/
theorem Site.phase_close {x : Site} {clock : Clock} (h : Ended (x.close clock).outcome.result) :
    (x.close clock).site.store.phase = .closed := by
  unfold close at h ⊢
  split at h
  · obtain h | ⟨_, h⟩ := h <;> cases h
  · next hclosed => exact hclosed
  · rfl
  · obtain h | ⟨_, h⟩ := h <;> cases h
  · rfl

/-- A close that has the turn comes to an end if it can tell the time. -/
theorem Site.ended_close {x : Site} {clock : Clock} {now : Instant}
    (hfree : ∀ q, x.store.phase ≠ .writing q) (hread : clock.read = .ok now) :
    Ended (x.close clock).outcome.result := by
  unfold close
  split
  · next hphase => exact absurd hphase (hfree _)
  · exact .inl rfl
  · exact .inl rfl
  · next hcause =>
    rw [hread] at hcause
    cases hcause
  · dsimp only
    cases (x.saveFor _ []).2.result with
    | ok _ => exact .inl rfl
    | error e => exact .inr ⟨e, rfl⟩

namespace Shared

variable {ι : Type} {sh : Shared ι} {clock : Clock}

/-- Whether an act completes a close of the store: one that does not pause for the disk, or one
that has paused and that the disk is now done with. -/
def Closes (sh : Shared ι) (clock : Clock) : Act ι → Prop
  | .ask c .close => sh.clients c = .free ∧ .paused ∉ (sh.site.close clock).outcome.log ∧
      Ended (sh.site.close clock).outcome.result
  | .poll c => sh.clients c = .waiting .close ∧ .paused ∉ (sh.site.close clock).outcome.log ∧
      Ended (sh.site.close clock).outcome.result
  | .finish c => ∃ (y : Site) (then_ : Clock),
      sh.clients c = .saving (.of ∅ then_ (y.close then_)) ∧ Ended (y.close then_).outcome.result
  | _ => False

/-- Whether a shared store is closed, and nobody has the writer's turn. -/
structure IsClosed (sh : Shared ι) : Prop where
  phase : sh.site.store.phase = .closed
  clients : ∀ c, (sh.clients c).turn? = none

theorem OneWriter.isClosed (h : sh.OneWriter) (hphase : sh.site.store.phase = .closed) :
    sh.IsClosed := by
  refine ⟨hphase, (h.unheld fun p hp => ?_).clients⟩
  rw [hphase] at hp
  cases hp

variable [DecidableEq ι]

/-- A close that comes to an end gives the turn back, when the disk is done if it pauses. -/
theorem attempt_close (c : ι) (hended : Ended (sh.site.close clock).outcome.result) :
    sh.attempt clock c .close = sh.carry clock c ∅ (sh.site.close clock) := by
  have hphase := Site.phase_close hended
  unfold attempt
  dsimp only [Request.perform]
  split
  · next hwait =>
    rw [hwait] at hended
    obtain h | ⟨_, h⟩ := hended <;> cases h
  · next hwriting _ =>
    rw [hphase] at hwriting
    cases hwriting
  · rfl

/-- **Once a close is completed the store is closed.** -/
theorem Closes.isClosed (h : sh.OneWriter) {a : Act ι} (hcloses : sh.Closes clock a) :
    (sh.step clock a).IsClosed := by
  refine (h.step clock a).isClosed ?_
  cases a with
  | ask c r =>
    cases r with
    | close =>
      obtain ⟨hfree, hunpaused, hended⟩ := hcloses
      dsimp only [Shared.step]
      rw [hfree]
      dsimp only
      rw [attempt_close c hended, carry, if_neg hunpaused, site_set]
      exact Site.phase_close hended
    | _ => exact hcloses.elim
  | poll c =>
    obtain ⟨hwaiting, hunpaused, hended⟩ := hcloses
    dsimp only [Shared.step]
    rw [hwaiting]
    dsimp only
    rw [attempt_close c hended, carry, if_neg hunpaused, site_set]
    exact Site.phase_close hended
  | finish c =>
    obtain ⟨y, then_, hsaving, hended⟩ := hcloses
    dsimp only [Shared.step]
    rw [hsaving]
    exact Site.phase_close hended
  | _ => exact hcloses.elim

/-- **Step by step a store is closed as at one go**, whether the close pauses or not. -/
theorem site_finish_close (c : ι) (hfree : ∀ q, sh.site.store.phase ≠ .writing q) {now : Instant}
    (hread : clock.read = .ok now) (later : Clock) :
    ((sh.attempt clock c .close).step later (.finish c)).site = (sh.site.close clock).site := by
  have hcarries : Carries sh.site clock ∅ (sh.site.close clock) := by
    obtain h | ⟨h, -⟩ := Request.perform_of_free hfree clock .close
    · exact h
    · cases h
  rw [attempt_close c (Site.ended_close hfree hread), carry]
  split
  · dsimp only [Shared.step]
    rw [clients_set_self]
    have hland := hcarries.land
    exact congrArg (fun s => Site.mk s (sh.site.close clock).site.files) hland
  · dsimp only [Shared.step]
    rw [clients_set_self]
    rfl

end Shared

/-! ## After the close -/

/-- What stays of a closed store: it is closed still, its entries are the same, and so is the
content of its file. -/
structure Site.Stays (x x' : Site) : Prop where
  phase : x'.store.phase = .closed
  entries : x'.store.entries = x.store.entries
  medium : x'.store.medium = x.store.medium
  file : ∀ path, x.store.medium = .file path → x'.files.read path = x.files.read path

theorem Site.Stays.refl {x : Site} (h : x.store.phase = .closed) : x.Stays x :=
  ⟨h, rfl, rfl, fun _ _ => rfl⟩

theorem Site.Stays.trans {x y z : Site} (h : x.Stays y) (h' : y.Stays z) : x.Stays z :=
  ⟨h'.phase, h'.entries.trans h.entries, h'.medium.trans h.medium, fun path hpath =>
    (h'.file path (h.medium.trans hpath)).trans (h.file path hpath)⟩

/-- A sweeper drops nothing from a closed store. -/
theorem Store.entries_tick_of_isClosed {s : Store} (h : s.isClosed = true) (clock : Clock) :
    (s.tick clock).1.entries = s.entries := by
  unfold tick
  split
  · unfold startSweeper
    split <;> rfl
  · rfl
  · rfl
  · dsimp only [sweep]
    rw [if_pos h]

theorem Site.Stays.tick {x : Site} (h : x.store.phase = .closed) (clock : Clock) :
    x.Stays { x with store := (x.store.tick clock).1 } :=
  ⟨(x.store.phase_tick clock).trans h,
    Store.entries_tick_of_isClosed (by rw [Store.isClosed, h]) clock, x.store.medium_tick clock,
    fun _ _ => rfl⟩

theorem Site.Stays.disturb {x : Site} (h : x.store.phase = .closed) (files : FileTree) :
    x.Stays (x.disturb files) := by
  have hstore := x.store_disturb files
  exact ⟨by rw [hstore, h], by rw [hstore], by rw [hstore], fun path hpath =>
    x.read_disturb hpath files⟩

namespace Shared.IsClosed

variable {ι : Type} [DecidableEq ι] {sh : Shared ι}

/-- Whoever asks a closed store for the writer's turn is answered at once, and changes nothing. -/
theorem attempt (h : sh.IsClosed) (clock : Clock) (c : ι) (r : Request) :
    sh.attempt clock c r = sh.set c .free sh.site := by
  have hrefuses := Site.refuses_of_isClosed h.phase
  have hphase := h.phase
  cases r with
  | begin =>
    simp only [Shared.attempt, Request.perform, hrefuses.begin, hphase]
    rfl
  | write key w =>
    simp only [Shared.attempt, Request.perform, hrefuses.write, hphase]
    rfl
  | close =>
    simp only [Shared.attempt, Request.perform, hrefuses.close, hphase]
    rfl

theorem set_free (h : sh.IsClosed) (c : ι) : (sh.set c .free sh.site).IsClosed := by
  refine ⟨h.phase, fun d => ?_⟩
  by_cases hd : d = c
  · rw [hd, clients_set_self]
    rfl
  · rw [clients_set_of_ne sh hd]
    exact h.clients d

/-- **No act changes a closed store.** What clients can do is ask, and be free again. -/
theorem step (h : sh.IsClosed) (clock : Clock) (a : Act ι) :
    (sh.step clock a).IsClosed ∧ sh.site.Stays (sh.step clock a).site := by
  have hsame : sh.IsClosed ∧ sh.site.Stays sh.site := ⟨h, .refl h.phase⟩
  have hfree : ∀ c, (sh.set c .free sh.site).IsClosed ∧
      sh.site.Stays (sh.set c .free sh.site).site := fun c => ⟨h.set_free c, .refl h.phase⟩
  have hholding : ∀ c p, sh.clients c ≠ .holding p := by
    intro c p hc
    have hturn := h.clients c
    rw [hc] at hturn
    cases hturn
  have hsaving : ∀ c f, sh.clients c ≠ .saving f := by
    intro c f hc
    have hturn := h.clients c
    rw [hc] at hturn
    cases hturn
  cases a <;> dsimp only [Shared.step]
  case ask c r =>
    split
    · rw [h.attempt]
      exact hfree c
    · exact hsame
  case poll c =>
    split
    · rw [h.attempt]
      exact hfree c
    · exact hsame
  case giveUp c =>
    split
    · exact hfree c
    · exact hsame
  case buffer c key w =>
    split
    · next hc => exact absurd hc (hholding c _)
    · exact hsame
  case commit c =>
    split
    · next hc => exact absurd hc (hholding c _)
    · exact hsame
  case drop c =>
    split
    · next hc => exact absurd hc (hholding c _)
    · exact hsame
  case finish c =>
    split
    · next hc => exact absurd hc (hsaving c _)
    · exact hsame
  case abandon c files =>
    split
    · next hc => exact absurd hc (hsaving c _)
    · exact hsame
  case sweep => exact ⟨⟨(Site.Stays.tick h.phase clock).phase, h.clients⟩, .tick h.phase clock⟩
  case disturb files =>
    exact ⟨⟨(Site.Stays.disturb h.phase files).phase, h.clients⟩, .disturb h.phase files⟩

end Shared.IsClosed

end SessionTokens
