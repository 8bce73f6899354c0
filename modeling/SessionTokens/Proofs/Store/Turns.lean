import Mathlib.Logic.Function.Basic
import SessionTokens.Proofs.Store.History
import SessionTokens.Proofs.Store.ReadAhead
/-!
# The writer's turn

Any number of clients share a store. Each of them is *free*, *waits* for the writer's turn, *holds*
it with a transaction of its own, or holds it while its writes are being *saved*: an operation that
writes the file pauses until the disk is done, and the others go on meanwhile. A client may also
stop waiting, drop its transaction, or be broken off while it saves.

**Theorem (`singleWriter`).** After every sequence of acts of the clients at most one of them has
the turn. All that the others can do is wait, and read what has been committed. So until the one
gives the turn back nothing is written by anyone else, and the store is not closed; sweeps drop
what has lapsed. The turn is given back by a commit that succeeds, by one that fails, and by
dropping the transaction. The entries are always those from the start with the writes of each
operation over them that succeeded, in the order in which they were completed.

**The pause.** What an operation does when the disk is done (`Flight.land`) is what the store's
own operation does at once (`Carries.land`), so splitting it in two makes no other operation.
-/

namespace SessionTokens

/-! ## Clients -/

/-- What a client asks for that takes the writer's turn. -/
inductive Request
  | begin
  | write (key : Bytes) (w : Write)
  | close

namespace Request

/-- What a store does on a request. -/
def perform (x : Site) (clock : Clock) : Request → Done StorageError Unit
  | begin => x.begin
  | write key w => x.write clock key w
  | close => x.close clock

/-- The writes that a request brings along. -/
def writes : Request → Pending
  | write key w => KeyMap.insert ∅ key w
  | _ => ∅

end Request

/-- The settled writes that an operation applies to the entries: none if it fails. -/
def settledBy (p : Pending) (clock : Clock) (done : Done StorageError Unit) :
    List (Bytes × Option Entry) :=
  if done.outcome.result.isOk then p.pairs.map fun w => (w.1, w.2.left? ⟨clock.nanos⟩) else []

/-- An operation that waits for the disk: its writes, the settled writes that it applies once the
disk is done, and the phase in which it leaves the store then. -/
structure Flight where
  writes : Pending
  settled : List (Bytes × Option Entry)
  phase : Phase

namespace Flight

/-- The operation that is left when a pause interrupts one that would end as `done`. -/
def of (p : Pending) (clock : Clock) (done : Done StorageError Unit) : Flight :=
  ⟨p, settledBy p clock done, done.site.store.phase⟩

/-- The store once the disk is done. -/
def land (f : Flight) (s : Store) : Store := { Site.applied s f.settled with phase := f.phase }

end Flight

/-- What a client is doing. -/
inductive Client
  | free
  | waiting (r : Request)
  | holding (p : Pending)
  | saving (f : Flight)

/-- The writes that a client has brought to its turn, if it has the turn. -/
def Client.turn? : Client → Option Pending
  | free => none
  | waiting _ => none
  | holding p => some p
  | saving f => some f.writes

/-- A store, the files around it, and its clients. -/
structure Shared (ι : Type) where
  site : Site
  clients : ι → Client

/-- What a client can do, and what can happen besides. -/
inductive Act (ι : Type)
  | ask (c : ι) (r : Request)
  /-- A client that waits tries again. -/
  | poll (c : ι)
  | giveUp (c : ι)
  | buffer (c : ι) (key : Bytes) (w : Write)
  | commit (c : ι)
  | drop (c : ι)
  /-- The disk is done. -/
  | finish (c : ι)
  /-- A client is broken off while it saves, and the files stay as they are by then. -/
  | abandon (c : ι) (files : FileTree)
  | sweep
  | disturb (files : FileTree)

/-- Whether an act gives back the turn of a client. -/
def Act.endsTurn {ι : Type} [DecidableEq ι] (c : ι) : Act ι → Bool
  | commit d => d = c
  | drop d => d = c
  | finish d => d = c
  | abandon d _ => d = c
  | _ => false

namespace Shared

variable {ι : Type} [DecidableEq ι]

/-- The state with what a client is doing set, and another site. -/
def set (sh : Shared ι) (c : ι) (cl : Client) (x : Site) : Shared ι :=
  ⟨x, Function.update sh.clients c cl⟩

/-- An operation of a client that has the turn. It ends at once, unless it pauses for the disk. -/
def carry (sh : Shared ι) (clock : Clock) (c : ι) (p : Pending)
    (done : Done StorageError Unit) : Shared ι :=
  if .paused ∈ done.outcome.log then
    sh.set c (.saving (.of p clock done))
      ⟨{ sh.site.store with phase := .writing p }, done.site.files⟩
  else sh.set c .free done.site

/-- A client tries to take the turn for a request. A transaction keeps it. -/
def attempt (sh : Shared ι) (clock : Clock) (c : ι) (r : Request) : Shared ι :=
  let done := r.perform sh.site clock
  match done.outcome.result, done.site.store.phase with
  | .error .waiting, _ => sh.set c (.waiting r) done.site
  | _, .writing p => sh.set c (.holding p) done.site
  | _, _ => sh.carry clock c r.writes done

/-- The state after an act. Acts that a client cannot do as it is change nothing. -/
def step (sh : Shared ι) (clock : Clock) : Act ι → Shared ι
  | .ask c r =>
    match sh.clients c with
    | .free => sh.attempt clock c r
    | _ => sh
  | .poll c =>
    match sh.clients c with
    | .waiting r => sh.attempt clock c r
    | _ => sh
  | .giveUp c =>
    match sh.clients c with
    | .waiting _ => sh.set c .free sh.site
    | _ => sh
  | .buffer c key w =>
    match sh.clients c with
    | .holding p =>
      let t := (Txn.mk sh.site.store.entries clock p).buffer key w
      sh.set c (.holding t.pending) { sh.site with store := sh.site.store.resume t }
    | _ => sh
  | .commit c =>
    match sh.clients c with
    | .holding p => sh.carry clock c p (sh.site.commit clock)
    | _ => sh
  | .drop c =>
    match sh.clients c with
    | .holding _ => sh.set c .free sh.site.rollback
    | _ => sh
  | .finish c =>
    match sh.clients c with
    | .saving f => sh.set c .free { sh.site with store := f.land sh.site.store }
    | _ => sh
  | .abandon c files =>
    match sh.clients c with
    | .saving _ => sh.set c .free ⟨sh.site.rollback.store, files⟩
    | _ => sh
  | .sweep => { sh with site := { sh.site with store := (sh.site.store.tick clock).1 } }
  | .disturb files => { sh with site := sh.site.disturb files }

/-- The state after acts, each at its time. -/
def run (sh : Shared ι) (as : List (Clock × Act ι)) : Shared ι :=
  as.foldl (fun sh a => sh.step a.1 a.2) sh

/-- The settled writes of an operation that is completed by the act that begins it. -/
def settledAtOnce (p : Pending) (clock : Clock) (done : Done StorageError Unit) :
    List (Bytes × Option Entry) :=
  if .paused ∈ done.outcome.log then [] else settledBy p clock done

/-- The settled writes of the operation that an act completes with success. -/
def completed (sh : Shared ι) (clock : Clock) : Act ι → List (Bytes × Option Entry)
  | .ask c r =>
    match sh.clients c with
    | .free => settledAtOnce r.writes clock (r.perform sh.site clock)
    | _ => []
  | .poll c =>
    match sh.clients c with
    | .waiting r => settledAtOnce r.writes clock (r.perform sh.site clock)
    | _ => []
  | .commit c =>
    match sh.clients c with
    | .holding p => settledAtOnce p clock (sh.site.commit clock)
    | _ => []
  | .finish c =>
    match sh.clients c with
    | .saving f => f.settled
    | _ => []
  | _ => []

/-- The ledger: entries with the writes of each operation over them that succeeded, one after
another in the order in which they were completed. -/
def ledger (sh : Shared ι) (es : Entries) : List (Clock × Act ι) → Entries
  | [] => es
  | (clock, a) :: as => (sh.step clock a).ledger (es.apply (sh.completed clock a)) as

/-- The instants of the sweeps among acts. -/
def sweeps (as : List (Clock × Act ι)) : List Instant :=
  as.filterMap fun a =>
    match a.2 with
    | .sweep => some ⟨a.1.nanos⟩
    | _ => none

end Shared

/-! ## Swept entries -/

namespace Entries

/-- Whether entries are others without some that had lapsed at one of the instants. -/
def SweptOf (left es : Entries) (ts : List Instant) : Prop :=
  ∀ k, left.find? k = es.find? k ∨
    left.find? k = none ∧ ∃ e, es.find? k = some e ∧ ∃ t ∈ ts, e.isLive t = false

variable {left mid es : Entries} {ts ts' : List Instant}

theorem SweptOf.refl (es : Entries) (ts : List Instant) : es.SweptOf es ts := fun _ => .inl rfl

theorem SweptOf.trans (h : left.SweptOf mid ts) (h' : mid.SweptOf es ts') :
    left.SweptOf es (ts' ++ ts) := by
  intro k
  obtain hk | ⟨hnone, e, he, t, ht, hdead⟩ := h k
  · obtain hk' | ⟨hnone, e, he, t, ht, hdead⟩ := h' k
    · exact .inl (hk.trans hk')
    · exact .inr ⟨hk.trans hnone, e, he, t, List.mem_append_left _ ht, hdead⟩
  · obtain hk' | ⟨hnone', -⟩ := h' k
    · exact .inr ⟨hnone, e, hk' ▸ he, t, List.mem_append_right _ ht, hdead⟩
    · rw [hnone'] at he
      cases he

theorem SweptOf.live (es : Entries) (t : Instant) : (es.live t).SweptOf es [t] := by
  intro k
  rw [find?_live]
  cases he : es.find? k with
  | none => exact .inl rfl
  | some e =>
    cases hl : e.isLive t with
    | true => exact .inl (by simp [Option.filter_some, hl])
    | false =>
      exact .inr ⟨by simp [Option.filter_some, hl], e, rfl, t, List.mem_singleton_self t, hl⟩

/-- Writes over swept entries are writes over the others, swept. -/
theorem SweptOf.apply (h : left.SweptOf es ts) (settled : List (Bytes × Option Entry)) :
    (left.apply settled).SweptOf (es.apply settled) ts := by
  induction settled generalizing left es with
  | nil => exact h
  | cons w settled ih =>
    refine ih fun k => ?_
    rw [KeyMap.find?_alter, KeyMap.find?_alter]
    by_cases hk : k = w.1
    · rw [if_pos hk, if_pos hk]
      exact .inl rfl
    · rw [if_neg hk, if_neg hk]
      exact h k

end Entries

theorem Store.entries_tick (s : Store) (clock : Clock) :
    (s.tick clock).1.entries.SweptOf s.entries [⟨clock.nanos⟩] := by
  unfold tick
  split
  · unfold startSweeper
    split <;> exact .refl _ _
  · exact .refl _ _
  · exact .refl _ _
  · next now _ hnow =>
    obtain rfl := Clock.eq_of_read hnow
    dsimp only [sweep]
    split
    · exact .refl _ _
    · exact .live _ _

/-! ## Operations with the turn -/

/-- Whether an operation, performed on a site whose turn it has, gives the turn back, and all that
it changes in the store is to apply its writes if it succeeds. -/
structure Carries (x : Site) (clock : Clock) (p : Pending) (done : Done StorageError Unit) :
    Prop where
  land : (Flight.of p clock done).land x.store = done.site.store
  givesBack : ∀ q, done.site.store.phase ≠ .writing q
  notWaiting : done.outcome.result ≠ .error .waiting

namespace Site

theorem result_apply_ne_waiting (x : Site) (clock : Clock) (p : Pending) :
    (x.apply clock p).outcome.result ≠ .error .waiting := by
  intro hwait
  unfold apply applySettled at hwait
  split at hwait
  · cases hwait
  · split at hwait
    · cases hwait
    · split at hwait
      · cases hwait
      · split at hwait
        · cases hwait
        · dsimp only at hwait
          split at hwait <;> cases hwait

/-- Applying writes changes the store as the settled writes do. -/
theorem store_apply (x : Site) (clock : Clock) (p : Pending) :
    (x.apply clock p).site.store = applied x.store (settledBy p clock (x.apply clock p)) := by
  have hnone : applied x.store [] = x.store := by
    simp [applied, Entries.apply]
  unfold settledBy
  obtain ⟨_, hfail, hstore, -⟩ | ⟨-, hempty, heq⟩ | ⟨now, settled, hnow, -, hs, hok, hstore, -⟩ :=
    x.apply_cases clock p
  · rw [hfail, hstore]
    exact hnone.symm
  · have hnil : p.pairs = [] := List.isEmpty_iff.1 hempty
    rw [heq, hnil]
    exact hnone.symm
  · obtain rfl := Clock.eq_of_read hnow
    rw [hok, hstore, (Pending.settle_eq_ok_iff.1 hs).2]
    rfl

/-- Applying writes with the turn is an operation that gives it back. -/
theorem carries_apply (x : Site) {phase : Phase} (hfree : ∀ q, phase ≠ .writing q) (clock : Clock)
    (p : Pending) : Carries x clock p ((x.setPhase phase).apply clock p) := by
  have hphase := (x.setPhase phase).phase_apply clock p
  refine ⟨?_, fun q => ?_, (x.setPhase phase).result_apply_ne_waiting clock p⟩
  · rw [Flight.land, Flight.of, hphase]
    exact ((x.setPhase phase).store_apply clock p).symm
  · rw [hphase]
    exact hfree q

theorem carries_commit {x : Site} {p : Pending} (h : x.store.phase = .writing p)
    (clock : Clock) : Carries x clock p (x.commit clock) := by
  rw [commit, h]
  exact x.carries_apply (by simp) clock p

theorem phase_rollback (x : Site) (q : Pending) : x.rollback.store.phase ≠ .writing q := by
  unfold rollback
  split
  · simp [setPhase]
  · next hphase => exact hphase q

/-- What changes at most the phase and the files is an operation without writes. -/
theorem carries_setPhase (x : Site) {phase : Phase} (files : FileTree)
    (hfree : ∀ q, phase ≠ .writing q) (clock : Clock) {outcome : Traced (Halt StorageError) Unit}
    (hwait : outcome.result ≠ .error .waiting) :
    Carries x clock ∅ ⟨⟨(x.setPhase phase).store, files⟩, outcome⟩ := by
  refine ⟨?_, hfree, hwait⟩
  have hnone : ∀ done, settledBy ∅ clock done = [] := by
    intro done
    unfold settledBy
    split <;> rfl
  simp [Flight.land, Flight.of, hnone, applied, Entries.apply, setPhase]

end Site

theorem Halt.ofError_ne_waiting {ε α : Type} (r : Except ε α) : ofError r ≠ .error .waiting := by
  cases r <;> simp [ofError]

namespace Request

variable {x : Site}

/-- **While somebody has the turn, every request only waits.** -/
theorem perform_of_writing {p : Pending} (h : x.store.phase = .writing p) (clock : Clock)
    (r : Request) : r.perform x clock = ⟨x, Site.wait⟩ := by
  cases r with
  | begin => rw [perform, Site.begin, h]
  | write key w => rw [perform, Site.write, h]
  | close => rw [perform, Site.close, h]

/-- A request that finds the turn free is an operation that gives it back, except that a
transaction keeps it. -/
theorem perform_of_free (h : ∀ q, x.store.phase ≠ .writing q) (clock : Clock) (r : Request) :
    Carries x clock r.writes (r.perform x clock) ∨
      r = .begin ∧ r.perform x clock = ⟨x.setPhase (.writing ∅), pure ()⟩ := by
  have hsame : ∀ outcome : Traced (Halt StorageError) Unit, outcome.result ≠ .error .waiting →
      Carries x clock ∅ ⟨x, outcome⟩ := fun _ => x.carries_setPhase x.files h clock
  cases r with
  | begin =>
    rw [perform, Site.begin]
    split
    · next p hphase => exact absurd hphase (h p)
    · exact .inl (hsame _ fun hwait => by cases hwait)
    · exact .inr ⟨rfl, rfl⟩
  | write key w =>
    rw [perform, Site.write]
    split
    · next p hphase => exact absurd hphase (h p)
    · exact .inl (x.carries_apply h clock _)
  | close =>
    refine .inl ?_
    rw [perform, Site.close]
    split
    · next hphase => exact absurd hphase (h _)
    · exact hsame _ fun hwait => by cases hwait
    · exact x.carries_setPhase x.files (by simp) clock fun hwait => by cases hwait
    · exact hsame _ fun hwait => by cases hwait
    · next now _ _ _ =>
      exact x.carries_setPhase _ (by simp) clock (Halt.ofError_ne_waiting _)

end Request

/-! ## One writer -/

namespace Shared

variable {ι : Type} {sh : Shared ι}

/-- Whether nobody has the turn. -/
structure Unheld (sh : Shared ι) : Prop where
  phase : ∀ p, sh.site.store.phase ≠ .writing p
  clients : ∀ c, (sh.clients c).turn? = none

/-- The invariant: at most one client has the turn, the store holds its writes, and no operation
that waits for the disk leaves the turn to anybody. -/
structure OneWriter (sh : Shared ι) : Prop where
  phase_iff : ∀ p, sh.site.store.phase = .writing p ↔ ∃ c, (sh.clients c).turn? = some p
  alone : ∀ c d p q, (sh.clients c).turn? = some p → (sh.clients d).turn? = some q → c = d
  flights : ∀ c f p, sh.clients c = .saving f → f.phase ≠ .writing p

namespace OneWriter

theorem phase (h : sh.OneWriter) {c : ι} {p : Pending} (hc : (sh.clients c).turn? = some p) :
    sh.site.store.phase = .writing p := (h.phase_iff p).2 ⟨c, hc⟩

theorem isOpen (h : sh.OneWriter) {c : ι} {p : Pending} (hc : (sh.clients c).turn? = some p) :
    sh.site.store.isClosed = false := by
  rw [Store.isClosed, h.phase hc]

theorem others (h : sh.OneWriter) {c d : ι} {p : Pending} (hc : (sh.clients c).turn? = some p)
    (hne : d ≠ c) : (sh.clients d).turn? = none := by
  rw [Option.eq_none_iff_forall_ne_some]
  intro q hq
  exact hne (h.alone d c q p hq hc)

theorem unheld (h : sh.OneWriter) (hphase : ∀ p, sh.site.store.phase ≠ .writing p) :
    sh.Unheld := by
  refine ⟨hphase, fun c => ?_⟩
  rw [Option.eq_none_iff_forall_ne_some]
  intro p hp
  exact hphase p ((h.phase_iff p).2 ⟨c, hp⟩)

theorem of_site (h : sh.OneWriter) {x : Site} (hphase : x.store.phase = sh.site.store.phase) :
    (Shared.mk x sh.clients).OneWriter :=
  ⟨fun p => by rw [hphase]; exact h.phase_iff p, h.alone, h.flights⟩

end OneWriter

variable [DecidableEq ι] {clock : Clock}

@[simp]
theorem site_set (sh : Shared ι) (c : ι) (cl : Client) (x : Site) : (sh.set c cl x).site = x :=
  rfl

@[simp]
theorem clients_set_self (sh : Shared ι) (c : ι) (cl : Client) (x : Site) :
    (sh.set c cl x).clients c = cl := Function.update_self ..

theorem clients_set_of_ne (sh : Shared ι) {c d : ι} (h : d ≠ c) (cl : Client) (x : Site) :
    (sh.set c cl x).clients d = sh.clients d := Function.update_of_ne h ..

namespace OneWriter

/-- A client may take the turn, change its writes, or give the turn back, while no other has it. -/
theorem of_set {c : ι} {cl : Client} {x : Site}
    (hothers : ∀ d, d ≠ c → (sh.clients d).turn? = none)
    (hphase : ∀ p, x.store.phase = .writing p ↔ cl.turn? = some p)
    (hflight : ∀ f p, cl = .saving f → f.phase ≠ .writing p) : (sh.set c cl x).OneWriter := by
  have hturn : ∀ d p, ((sh.set c cl x).clients d).turn? = some p → d = c ∧ cl.turn? = some p := by
    intro d p hd
    by_cases hdc : d = c
    · subst hdc
      rw [clients_set_self] at hd
      exact ⟨rfl, hd⟩
    · rw [clients_set_of_ne sh hdc, hothers d hdc] at hd
      cases hd
  refine ⟨fun p => ?_, fun d e p q hd he => ?_, fun d f p hd => ?_⟩
  · rw [site_set, hphase]
    constructor
    · intro hcl
      exact ⟨c, by rw [clients_set_self]; exact hcl⟩
    · rintro ⟨d, hd⟩
      exact (hturn d p hd).2
  · rw [(hturn d p hd).1, (hturn e q he).1]
  · obtain ⟨rfl, -⟩ := hturn d f.writes (by rw [hd]; rfl)
    rw [clients_set_self] at hd
    exact hflight f p hd

/-- A client without the turn may begin or stop to wait for it. -/
theorem of_set_waiting (h : sh.OneWriter) {c : ι} {cl : Client} (hc : (sh.clients c).turn? = none)
    (hcl : cl.turn? = none) : (sh.set c cl sh.site).OneWriter := by
  have hturn : ∀ d, ((sh.set c cl sh.site).clients d).turn? = (sh.clients d).turn? := by
    intro d
    by_cases hdc : d = c
    · rw [hdc, clients_set_self, hc, hcl]
    · rw [clients_set_of_ne sh hdc]
  refine ⟨fun p => ?_, fun d e p q => ?_, fun d f p hd => ?_⟩
  · simp only [hturn]
    exact h.phase_iff p
  · rw [hturn, hturn]
    exact h.alone d e p q
  · by_cases hdc : d = c
    · subst hdc
      rw [clients_set_self] at hd
      rw [hd] at hcl
      cases hcl
    · rw [clients_set_of_ne sh hdc] at hd
      exact h.flights d f p hd

end OneWriter

/-! ## Steps -/

/-- How an operation with the turn goes on: it pauses for the disk, or it is over. -/
theorem carry_cases (sh : Shared ι) {c : ι} {p : Pending} {done : Done StorageError Unit}
    (hdone : Carries sh.site clock p done) :
    (∃ x, sh.carry clock c p done = sh.set c (.saving (.of p clock done)) x ∧
        x.store = { sh.site.store with phase := .writing p } ∧
        settledAtOnce p clock done = []) ∨
      ∃ x, sh.carry clock c p done = sh.set c .free x ∧ (∀ q, x.store.phase ≠ .writing q) ∧
        x.store.entries = sh.site.store.entries.apply (settledAtOnce p clock done) := by
  unfold carry settledAtOnce
  by_cases hpaused : .paused ∈ done.outcome.log
  · rw [if_pos hpaused, if_pos hpaused]
    exact .inl ⟨_, rfl, rfl, rfl⟩
  · rw [if_neg hpaused, if_neg hpaused]
    refine .inr ⟨_, rfl, hdone.givesBack, ?_⟩
    rw [← hdone.land]
    rfl

/-- How a try to take the turn goes. While somebody has it the client waits. Otherwise it begins a
transaction, or an operation with the turn. -/
theorem attempt_cases (sh : Shared ι) (clock : Clock) (c : ι) (r : Request) :
    (∃ p, sh.site.store.phase = .writing p ∧
        sh.attempt clock c r = sh.set c (.waiting r) sh.site ∧
        settledAtOnce r.writes clock (r.perform sh.site clock) = []) ∨
      (∀ q, sh.site.store.phase ≠ .writing q) ∧
        ((sh.attempt clock c r = sh.set c (.holding ∅) (sh.site.setPhase (.writing ∅)) ∧
            settledAtOnce r.writes clock (r.perform sh.site clock) = []) ∨
          sh.attempt clock c r = sh.carry clock c r.writes (r.perform sh.site clock) ∧
            Carries sh.site clock r.writes (r.perform sh.site clock)) := by
  by_cases hheld : ∃ p, sh.site.store.phase = .writing p
  · obtain ⟨p, hp⟩ := hheld
    refine .inl ⟨p, hp, ?_, ?_⟩
    · rw [attempt, Request.perform_of_writing hp]
      rfl
    · rw [Request.perform_of_writing hp]
      rfl
  · have hfree : ∀ q, sh.site.store.phase ≠ .writing q := not_exists.1 hheld
    refine .inr ⟨hfree, ?_⟩
    obtain hdone | ⟨rfl, hdone⟩ := Request.perform_of_free hfree clock r
    · right
      refine ⟨?_, hdone⟩
      unfold attempt
      dsimp only
      split
      · next hwait => exact absurd hwait hdone.notWaiting
      · next hkept _ => exact absurd hkept (hdone.givesBack _)
      · rfl
    · left
      rw [attempt, hdone]
      exact ⟨rfl, rfl⟩

/-- How an act can go: the state after it, and the settled writes that it completes. -/
inductive Goes (sh : Shared ι) (clock : Clock) (a : Act ι) :
    Shared ι → List (Bytes × Option Entry) → Prop
  | nothing : Goes sh clock a sh []
  /-- A client without the turn waits for it, or no longer does. -/
  | waits (c : ι) (cl : Client) (hc : (sh.clients c).turn? = none) (hcl : cl.turn? = none) :
      Goes sh clock a (sh.set c cl sh.site) []
  /-- The client that has the turn buffers a write. -/
  | buffers (c : ι) (p q : Pending) (hc : (sh.clients c).turn? = some p) :
      Goes sh clock a (sh.set c (.holding q) (sh.site.setPhase (.writing q))) []
  /-- A client takes the turn that nobody has, or the one that has it is about to give it back. -/
  | turns (c : ι) (cl : Client) (x : Site) (settled : List (Bytes × Option Entry))
      (hc : sh.Unheld ∨ ∃ p, (sh.clients c).turn? = some p ∧ a.endsTurn c = true)
      (hphase : ∀ q, x.store.phase = .writing q ↔ cl.turn? = some q)
      (hflight : ∀ f q, cl = .saving f → f.phase ≠ .writing q)
      (hentries : x.store.entries = sh.site.store.entries.apply settled) :
      Goes sh clock a (sh.set c cl x) settled
  /-- Something happens to the store or the files without any client. -/
  | around (x : Site) (hphase : x.store.phase = sh.site.store.phase)
      (hmedium : x.store.medium = sh.site.store.medium)
      (hentries : x.store.entries.SweptOf sh.site.store.entries (sweeps [(clock, a)]))
      (hfile : ∀ path, sh.site.store.medium = .file path →
        x.files.read path = sh.site.files.read path) :
      Goes sh clock a ⟨x, sh.clients⟩ []

namespace OneWriter

theorem goes_carry {a : Act ι} {c : ι} {p : Pending} {done : Done StorageError Unit}
    (hc : sh.Unheld ∨ ∃ p, (sh.clients c).turn? = some p ∧ a.endsTurn c = true)
    (hdone : Carries sh.site clock p done) :
    Goes sh clock a (sh.carry clock c p done) (settledAtOnce p clock done) := by
  obtain ⟨x, heq, hstore, hnone⟩ | ⟨x, heq, hfree, hentries⟩ := sh.carry_cases (c := c) hdone
  · rw [heq, hnone]
    refine .turns c _ x [] hc (fun q => ?_) (fun f q hf => ?_) ?_
    · rw [hstore]
      simp [Client.turn?, Flight.of]
    · cases hf
      exact hdone.givesBack q
    · rw [hstore]
      rfl
  · rw [heq]
    exact .turns c _ x _ hc (fun q => iff_of_false (hfree q) nofun) nofun hentries

theorem goes_attempt (h : sh.OneWriter) {a : Act ι} {c : ι} (hc : (sh.clients c).turn? = none)
    (r : Request) : Goes sh clock a (sh.attempt clock c r)
      (settledAtOnce r.writes clock (r.perform sh.site clock)) := by
  obtain ⟨-, -, heq, hnone⟩ | ⟨hfree, ⟨heq, hnone⟩ | ⟨heq, hdone⟩⟩ := sh.attempt_cases clock c r
  · rw [heq, hnone]
    exact .waits c _ hc rfl
  · rw [heq, hnone]
    refine .turns c _ _ [] (.inl (h.unheld hfree)) (fun q => ?_) nofun rfl
    simp [Site.setPhase, Client.turn?]
  · rw [heq]
    exact goes_carry (.inl (h.unheld hfree)) hdone

/-- A client gives the turn back, and with it what it applies to the entries. -/
theorem goes_release {a : Act ι} {c : ι} {p : Pending} {x : Site}
    {settled : List (Bytes × Option Entry)} (hc : (sh.clients c).turn? = some p)
    (hends : a.endsTurn c = true) (hx : ∀ q, x.store.phase ≠ .writing q)
    (hentries : x.store.entries = sh.site.store.entries.apply settled) :
    Goes sh clock a (sh.set c .free x) settled :=
  .turns c _ x _ (.inr ⟨p, hc, hends⟩) (fun q => iff_of_false (hx q) nofun) nofun hentries

theorem goes_rollback (h : sh.OneWriter) {a : Act ι} {c : ι} {p : Pending}
    (hc : (sh.clients c).turn? = some p) (hends : a.endsTurn c = true) (files : FileTree) :
    Goes sh clock a (sh.set c .free ⟨sh.site.rollback.store, files⟩) [] := by
  have hidle : sh.site.rollback = sh.site.setPhase .idle := by
    rw [Site.rollback, h.phase hc]
  rw [hidle]
  exact goes_release hc hends (by simp [Site.setPhase]) rfl

/-- **How every act goes** while there is one writer at most. -/
theorem goes (h : sh.OneWriter) (clock : Clock) (a : Act ι) :
    Goes sh clock a (sh.step clock a) (sh.completed clock a) := by
  cases a with
  | ask c r =>
    dsimp only [Shared.step, completed]
    cases hc : sh.clients c with
    | free => exact h.goes_attempt (by rw [hc]; rfl) r
    | _ => exact .nothing
  | poll c =>
    dsimp only [Shared.step, completed]
    cases hc : sh.clients c with
    | waiting r => exact h.goes_attempt (by rw [hc]; rfl) r
    | _ => exact .nothing
  | giveUp c =>
    dsimp only [Shared.step, completed]
    cases hc : sh.clients c with
    | waiting r => exact .waits c _ (by rw [hc]; rfl) rfl
    | _ => exact .nothing
  | buffer c key w =>
    dsimp only [Shared.step, completed]
    cases hc : sh.clients c with
    | holding p => exact .buffers c p _ (by rw [hc]; rfl)
    | _ => exact .nothing
  | commit c =>
    dsimp only [Shared.step, completed]
    cases hc : sh.clients c with
    | holding p =>
      have hturn : (sh.clients c).turn? = some p := by rw [hc]; rfl
      exact goes_carry (.inr ⟨p, hturn, by simp [Act.endsTurn]⟩)
        (Site.carries_commit (h.phase hturn) clock)
    | _ => exact .nothing
  | drop c =>
    dsimp only [Shared.step, completed]
    cases hc : sh.clients c with
    | holding p =>
      have hfiles : sh.site.rollback = ⟨sh.site.rollback.store, sh.site.rollback.files⟩ := rfl
      rw [hfiles]
      exact h.goes_rollback (p := p) (by rw [hc]; rfl) (by simp [Act.endsTurn]) _
    | _ => exact .nothing
  | finish c =>
    dsimp only [Shared.step, completed]
    cases hc : sh.clients c with
    | saving f =>
      exact goes_release (p := f.writes) (by rw [hc]; rfl) (by simp [Act.endsTurn])
        (fun q => h.flights c f q hc) rfl
    | _ => exact .nothing
  | abandon c files =>
    dsimp only [Shared.step, completed]
    cases hc : sh.clients c with
    | saving f => exact h.goes_rollback (p := f.writes) (by rw [hc]; rfl) (by simp [Act.endsTurn]) _
    | _ => exact .nothing
  | sweep =>
    exact .around _ (sh.site.store.phase_tick clock) (sh.site.store.medium_tick clock)
      (sh.site.store.entries_tick clock) fun _ _ => rfl
  | disturb files =>
    exact .around _ (by rw [Site.store_disturb]) (by rw [Site.store_disturb])
      (by rw [Site.store_disturb]; exact .refl _ _) fun path hpath => Site.read_disturb hpath files

/-- **Every act keeps that there is one writer at most.** -/
theorem step (h : sh.OneWriter) (clock : Clock) (a : Act ι) : (sh.step clock a).OneWriter := by
  have hgoes := h.goes clock a
  generalize sh.step clock a = sh', sh.completed clock a = settled at hgoes ⊢
  cases hgoes with
  | nothing => exact h
  | waits c cl hc hcl => exact h.of_set_waiting hc hcl
  | buffers c p q hc =>
    refine .of_set (fun _ hne => h.others hc hne) (fun p => ?_) nofun
    simp [Site.setPhase, Client.turn?]
  | turns c cl x settled hc hphase hflight hentries =>
    refine .of_set (fun d hne => ?_) hphase hflight
    obtain hfree | ⟨p, hp, -⟩ := hc
    · exact hfree.clients d
    · exact h.others hp hne
  | around x hphase hmedium hentries hfile => exact h.of_site hphase

/-- **An act applies to the entries what it completes**, and sweeps drop what has lapsed. -/
theorem entries_step (h : sh.OneWriter) (clock : Clock) (a : Act ι) :
    (sh.step clock a).site.store.entries.SweptOf
      (sh.site.store.entries.apply (sh.completed clock a)) (sweeps [(clock, a)]) := by
  have hgoes := h.goes clock a
  generalize sh.step clock a = sh', sh.completed clock a = settled at hgoes ⊢
  cases hgoes with
  | nothing => exact .refl _ _
  | waits c cl hc hcl => exact .refl _ _
  | buffers c p q hc => exact .refl _ _
  | turns c cl x settled hc hphase hflight hentries =>
    rw [site_set, hentries]
    exact .refl _ _
  | around x hphase hmedium hentries hfile => exact hentries

end OneWriter

/-! ## While a client has the turn -/

/-- What stays while a client has the turn: it has it still, the store is open, no entry is added,
replaced or removed, except for what sweeps drop, and the store's file is the same. -/
structure Keeps (sh : Shared ι) (c : ι) (sh' : Shared ι) (ts : List Instant) : Prop where
  turn : (sh'.clients c).turn?.isSome = true
  isOpen : sh'.site.store.isClosed = false
  entries : sh'.site.store.entries.SweptOf sh.site.store.entries ts
  medium : sh'.site.store.medium = sh.site.store.medium
  file : ∀ path, sh.site.store.medium = .file path →
    sh'.site.files.read path = sh.site.files.read path

namespace OneWriter

theorem keeps_step (h : sh.OneWriter) {c : ι} {p : Pending}
    (hc : (sh.clients c).turn? = some p) (clock : Clock) {a : Act ι}
    (hends : a.endsTurn c = false) : sh.Keeps c (sh.step clock a) (sweeps [(clock, a)]) := by
  have hgoes := h.goes clock a
  have hnext := h.step clock a
  generalize sh.step clock a = sh', sh.completed clock a = settled at hgoes hnext ⊢
  have hsome : (sh.clients c).turn?.isSome = true := by rw [hc]; rfl
  cases hgoes with
  | nothing => exact ⟨hsome, h.isOpen hc, .refl _ _, rfl, fun _ _ => rfl⟩
  | waits d cl hd hcl =>
    have hne : c ≠ d := by
      rintro rfl
      rw [hc] at hd
      cases hd
    refine ⟨?_, h.isOpen hc, .refl _ _, rfl, fun _ _ => rfl⟩
    rw [clients_set_of_ne sh hne]
    exact hsome
  | buffers d q q' hd =>
    obtain rfl := h.alone c d p q hc hd
    refine ⟨?_, rfl, .refl _ _, rfl, fun _ _ => rfl⟩
    rw [clients_set_self]
    rfl
  | turns d cl x settled hd hphase hflight hentries =>
    obtain hfree | ⟨q, hd, hd'⟩ := hd
    · rw [hfree.clients c] at hc
      cases hc
    · obtain rfl := h.alone c d p q hc hd
      rw [hends] at hd'
      cases hd'
  | around x hphase hmedium hentries hfile =>
    refine ⟨hsome, ?_, hentries, hmedium, hfile⟩
    rw [Store.isClosed, hphase, h.phase hc]

/-- **Until a client gives its turn back all stays**, whatever the others do. -/
theorem keeps_run (h : sh.OneWriter) {c : ι} {p : Pending} (hc : (sh.clients c).turn? = some p)
    {as : List (Clock × Act ι)} (hends : ∀ a ∈ as, a.2.endsTurn c = false) :
    sh.Keeps c (sh.run as) (sweeps as) := by
  induction as generalizing sh p with
  | nil => exact ⟨by rw [run, List.foldl_nil, hc]; rfl, h.isOpen hc, .refl _ _, rfl, fun _ _ => rfl⟩
  | cons a as ih =>
    have hfirst := h.keeps_step hc a.1 (hends a List.mem_cons_self)
    obtain ⟨q, hq⟩ := Option.isSome_iff_exists.1 hfirst.turn
    have hrest := ih (h.step a.1 a.2) hq fun b hb => hends b (List.mem_cons_of_mem a hb)
    refine ⟨hrest.turn, hrest.isOpen, ?_, hrest.medium.trans hfirst.medium, fun path hpath => ?_⟩
    · have hsweeps : sweeps (a :: as) = sweeps [a] ++ sweeps as := List.filterMap_append (l := [a])
      rw [hsweeps]
      exact hrest.entries.trans hfirst.entries
    · exact (hrest.file path (hfirst.medium.trans hpath)).trans (hfirst.file path hpath)

/-- **While a client has the turn, all that another one can do with a request is wait.** -/
theorem waits (h : sh.OneWriter) {c d : ι} {p : Pending} (hc : (sh.clients c).turn? = some p)
    (clock : Clock) (r : Request) :
    r.perform sh.site clock = ⟨sh.site, Site.wait⟩ ∧
      (sh.clients d = .free → sh.step clock (.ask d r) = sh.set d (.waiting r) sh.site) ∧
      (sh.clients d = .waiting r → sh.step clock (.poll d) = sh) := by
  have hwait := Request.perform_of_writing (h.phase hc) clock r
  have hattempt : sh.attempt clock d r = sh.set d (.waiting r) sh.site := by
    rw [attempt, hwait]
    rfl
  refine ⟨hwait, fun hd => ?_, fun hd => ?_⟩
  · dsimp only [Shared.step]
    rw [hd]
    exact hattempt
  · dsimp only [Shared.step]
    rw [hd]
    dsimp only
    rw [hattempt, set, ← hd, Function.update_eq_self]

/-- A commit pauses for the disk, or gives the turn back, whether it succeeds or not. -/
theorem unheld_commit (h : sh.OneWriter) {c : ι} {p : Pending} (hc : sh.clients c = .holding p)
    (clock : Clock) : (sh.step clock (.commit c)).Unheld ∨
      ∃ f, (sh.step clock (.commit c)).clients c = .saving f := by
  have hturn : (sh.clients c).turn? = some p := by rw [hc]; rfl
  have hnext := h.step clock (.commit c)
  have hstep : sh.step clock (.commit c) = sh.carry clock c p (sh.site.commit clock) := by
    dsimp only [Shared.step]
    rw [hc]
  rw [hstep] at hnext ⊢
  obtain ⟨x, heq, -⟩ | ⟨x, heq, hfree, -⟩ :=
    sh.carry_cases (c := c) (Site.carries_commit (h.phase hturn) clock)
  · rw [heq, clients_set_self]
    exact .inr ⟨_, rfl⟩
  · rw [heq] at hnext ⊢
    exact .inl (hnext.unheld hfree)

theorem unheld_drop (h : sh.OneWriter) {c : ι} {p : Pending} (hc : sh.clients c = .holding p)
    (clock : Clock) : (sh.step clock (.drop c)).Unheld := by
  refine (h.step clock (.drop c)).unheld ?_
  dsimp only [Shared.step]
  rw [hc]
  exact sh.site.phase_rollback

theorem unheld_finish (h : sh.OneWriter) {c : ι} {f : Flight} (hc : sh.clients c = .saving f)
    (clock : Clock) : (sh.step clock (.finish c)).Unheld := by
  refine (h.step clock (.finish c)).unheld ?_
  dsimp only [Shared.step]
  rw [hc]
  exact fun p => h.flights c f p hc

theorem unheld_abandon (h : sh.OneWriter) {c : ι} {f : Flight} (hc : sh.clients c = .saving f)
    (clock : Clock) (files : FileTree) : (sh.step clock (.abandon c files)).Unheld := by
  refine (h.step clock (.abandon c files)).unheld ?_
  dsimp only [Shared.step]
  rw [hc]
  exact sh.site.phase_rollback

/-! ## Runs -/

/-- **Every run keeps that there is one writer at most**, and that the entries are those of the
ledger except for what sweeps have dropped. -/
theorem run (h : sh.OneWriter) {es : Entries} {ts : List Instant}
    (hes : sh.site.store.entries.SweptOf es ts) (as : List (Clock × Act ι)) :
    (sh.run as).OneWriter ∧
      (sh.run as).site.store.entries.SweptOf (sh.ledger es as) (ts ++ sweeps as) := by
  induction as generalizing sh es ts with
  | nil =>
    refine ⟨h, ?_⟩
    rw [show sweeps ([] : List (Clock × Act ι)) = [] from rfl, List.append_nil]
    exact hes
  | cons a as ih =>
    have hsweeps : sweeps (a :: as) = sweeps [a] ++ sweeps as := List.filterMap_append (l := [a])
    rw [hsweeps, ← List.append_assoc]
    exact ih (h.step a.1 a.2) ((h.entries_step a.1 a.2).trans (hes.apply _))

end OneWriter

/-- What there is to say of clients that share a store, given the ledger and the instants of the
sweeps. -/
structure SingleWriter (sh : Shared ι) (es : Entries) (ts : List Instant) : Prop where
  alone : ∀ c d p q, (sh.clients c).turn? = some p → (sh.clients d).turn? = some q → c = d
  waits : ∀ c d p, (sh.clients c).turn? = some p → ∀ clock (r : Request),
    r.perform sh.site clock = ⟨sh.site, Site.wait⟩ ∧
      (sh.clients d = .free → sh.step clock (.ask d r) = sh.set d (.waiting r) sh.site) ∧
      (sh.clients d = .waiting r → sh.step clock (.poll d) = sh)
  reads : sh.site.store.isClosed = false →
    sh.site.store.ReadsAs (sh.site.setPhase .idle).store
  keeps : ∀ c p, (sh.clients c).turn? = some p → ∀ as : List (Clock × Act ι),
    (∀ a ∈ as, a.2.endsTurn c = false) → sh.Keeps c (sh.run as) (sweeps as)
  dropped : ∀ c p clock, sh.clients c = .holding p → (sh.step clock (.drop c)).Unheld
  committed : ∀ c p clock, sh.clients c = .holding p → (sh.step clock (.commit c)).Unheld ∨
    ∃ f, (sh.step clock (.commit c)).clients c = .saving f
  saved : ∀ c f clock, sh.clients c = .saving f → (sh.step clock (.finish c)).Unheld ∧
    ∀ files, (sh.step clock (.abandon c files)).Unheld
  free : sh.Unheld → ∀ clock (r : Request),
    (r.perform sh.site clock).outcome.result ≠ .error .waiting
  entries : sh.site.store.entries.SweptOf es ts

/-- **There is one writer at most**, after every sequence of acts of any number of clients. -/
theorem singleWriter (x : Site) (hfree : ∀ p, x.store.phase ≠ .writing p)
    (as : List (Clock × Act ι)) : ((Shared.mk x fun _ => .free).run as).SingleWriter
      ((Shared.mk x fun _ => .free).ledger x.store.entries as) (sweeps as) := by
  have hstart : (Shared.mk x fun _ : ι => .free).OneWriter :=
    ⟨fun p => iff_of_false (hfree p) (by simp [Client.turn?]), by simp [Client.turn?], nofun⟩
  obtain ⟨h, hentries⟩ := hstart.run (.refl _ []) as
  refine ⟨h.alone, fun c d p hc => h.waits hc, fun hopen => .of_eq rfl hopen rfl,
    fun c p hc as hends => h.keeps_run hc hends, fun c p clock hc => h.unheld_drop hc clock,
    fun c p clock hc => h.unheld_commit hc clock,
    fun c f clock hc => ⟨h.unheld_finish hc clock, h.unheld_abandon hc clock⟩,
    fun hunheld clock r => ?_, hentries⟩
  obtain hdone | ⟨-, hdone⟩ := Request.perform_of_free hunheld.phase clock r
  · exact hdone.notWaiting
  · rw [hdone]
    nofun

end Shared

namespace Sample

/-- A client writes with a transaction, while a second one waits to write and a third one to
close. The commit pauses for the disk, and a sweep comes in between. -/
def turns : List (Clock × Act Nat) :=
  [(⟨1⟩, .ask 0 .begin), (⟨1⟩, .ask 1 (.write [1] (.put [7] none))), (⟨2⟩, .ask 2 .close),
    (⟨2⟩, .buffer 0 [1] (.put [6] none)), (⟨2⟩, .buffer 0 [2] (.put [5] (some ⟨4, by decide⟩))),
    (⟨3⟩, .poll 1), (⟨4⟩, .commit 0), (⟨5⟩, .poll 2), (⟨6⟩, .sweep), (⟨7⟩, .finish 0),
    (⟨8⟩, .poll 1), (⟨9⟩, .sweep), (⟨9⟩, .finish 1), (⟨9⟩, .poll 2), (⟨9⟩, .finish 2)]

/-- A store with an entry that will lapse. -/
def shop : Site := ⟨.onFile "s" .default (KeyMap.ofList [([3], ⟨[4], some ⟨6⟩⟩)]), .empty⟩

theorem singleWriter_turns :
    (((Shared.mk shop fun _ => .free).run (turns.take 9)).clients 0).turn?.isSome = true ∧
    ((Shared.mk shop fun _ => .free).run turns).site.store.entries.pairs = [([1], ⟨[7], none⟩)] ∧
    ((Shared.mk shop fun _ : Nat => .free).ledger shop.store.entries turns).pairs =
      [([1], ⟨[7], none⟩), ([2], ⟨[5], some ⟨8⟩⟩), ([3], ⟨[4], some ⟨6⟩⟩)] ∧
    (∀ p, shop.store.phase ≠ .writing p) ∧
    ((Shared.mk shop fun _ => .free).run turns).SingleWriter
      ((Shared.mk shop fun _ => .free).ledger shop.store.entries turns) (Shared.sweeps turns) :=
  ⟨by rfl, by rfl, by rfl, nofun, Shared.singleWriter shop (fun _ h => by cases h) turns⟩

end Sample

end SessionTokens
