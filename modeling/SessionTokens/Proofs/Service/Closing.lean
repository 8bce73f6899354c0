import SessionTokens.Proofs.Store.Closing
import SessionTokens.Proofs.Service.Run
/-!
# Closing for good

Services share a store with each other and with clients that use it directly. The condition of being
closed stands in two places: a service has a mark of its own, and the store has one for everybody.

**A deployment** (`Deployment`). A store with its clients, and services over it. A service that is
asked for something does it at one go, or as a client of the store, step by step. Closing a service
marks it first and then has a client close the store, which may have to wait for the writer's turn;
so a service can be closed for long before its store is.

**Theorem (`shut_eq_close`).** If the turn is free, closing a service step by step does what closing
it at one go does.

**Theorem (`closed_for_good`).** Once a close of the store has been completed, directly or through
any service, with success or with an error of the last save, nothing succeeds any more, whatever
happens: every operation of the store is refused as closed, every query to a service fails, nobody
has or gets the writer's turn, so no transaction is left to commit, and entries and file stay as
they are. Closing again is answered and does nothing. A service that was closed itself refuses every
query as closed from then on, also while its store still waits to be closed.

A close that is dropped or broken off is not completed. Neither is one that a service answers only
because it is marked already: its store may still wait to be closed. What the disk still does for an
operation that was broken off is over by the time that this is noticed.
-/

namespace SessionTokens

/-! ## Queries -/

/-- What clients ask services for. -/
inductive Query
  | create (fresh : Draw) (q : SessionRequest)
  | extend (fresh : Draw) (token fingerprint : String)
  | check (token userAgent ip fingerprint : String)
  | list (userId : String)
  | delete (id userId : String)
  | deleteUser (userId : String)
  | health

/-- How an operation ends, whatever its answer. -/
def ending {ε α : Type} (r : Except (Halt ε) α) : Except (Halt ε) Unit := r.map fun _ => ()

namespace Site

variable {ε α β : Type} {x : Site} {clock : Clock} {lift : StorageError → ε}
  {start : Traced (Halt ε) β} {plan : β → Txn → Traced (Halt ε) (Plan α)}

/-- An operation that fails before it goes to the store leaves the site alone. -/
theorem perform_of_start_error {h : Halt ε} (hstart : start.result = .error h) :
    (x.perform clock lift start plan).site = x ∧
      ending (x.perform clock lift start plan).outcome.result = .error h := by
  rw [perform, hstart]
  exact ⟨rfl, rfl⟩

/-- An operation on a closed store is refused as closed, if it comes that far. -/
theorem perform_of_isClosed (hclosed : x.store.phase = .closed) :
    (x.perform clock lift start plan).site = x ∧
      ending (x.perform clock lift start plan).outcome.result =
        (ending start.result).bind fun _ => .error (.failed (lift .closed)) := by
  cases hstart : start.result with
  | error h => exact perform_of_start_error hstart
  | ok b =>
    rw [perform, hstart, hclosed]
    exact ⟨rfl, rfl⟩

end Site

namespace Query

/-- The site after a query that a service deals with, and how it ends. -/
def serve (s : Service) (x : Site) (clock : Clock) : Query → Site × Except (Halt TokenError) Unit
  | create fresh q =>
    let done := s.create x clock fresh q
    (done.site, ending done.outcome.result)
  | extend fresh token fingerprint =>
    let done := s.extend x clock fresh token fingerprint
    (done.site, ending done.outcome.result)
  | check token userAgent ip fingerprint =>
    (x, ending (s.check x.store clock token userAgent ip fingerprint).result)
  | list userId => (x, ending (s.list x.store clock userId).result)
  | delete id userId =>
    let done := s.delete x clock id userId
    (done.site, ending done.outcome.result)
  | deleteUser userId =>
    let done := s.deleteUser x clock userId
    (done.site, ending done.outcome.result)
  | health => (x, ending (s.health x).result)

/-- What a service checks for a query before it goes to the store. -/
def checks (s : Service) (clock : Clock) : Query → Except (Halt TokenError) Unit
  | create fresh q => do
    s.ensureLive.result
    ending (s.issueTokens clock fresh (Extension.of q.userId q.role q.parentId)).result
  | extend _ token _ => do
    s.ensureLive.result
    ending (s.verifyKind clock token .refresh).result
  | check token _ _ _ => do
    s.ensureLive.result
    ending (s.verifyKind clock token .access).result
  | health => if s.closed then .error (.failed (.storage .closed)) else .ok ()
  | _ => s.ensureLive.result

theorem ensureLive_of_closed {s : Service} (h : s.closed = true) :
    s.ensureLive.result = .error (.failed (.storage .closed)) := by
  rw [Service.ensureLive, if_pos h]
  rfl

/-- **On a closed store every query comes to nothing**: it is refused as closed once the service has
checked what it can. -/
theorem serve_of_isClosed {x : Site} (h : x.store.phase = .closed) (s : Service) (clock : Clock)
    (q : Query) :
    q.serve s x clock =
      (x, (q.checks s clock).bind fun _ => .error (.failed (.storage .closed))) := by
  have hrefuses := Site.refuses_of_isClosed h
  cases q with
  | check token userAgent ip fingerprint =>
    simp only [serve, checks, Service.check, hrefuses.find, Traced.result_bind,
      Traced.result_enter]
    cases s.ensureLive.result with
    | error h => rfl
    | ok _ => cases (s.verifyKind clock token .access).result <;> rfl
  | list userId =>
    simp only [serve, checks, Service.list, Traced.result_bind, Traced.result_enter,
      Traced.result_mapError, hrefuses.ofUser]
    cases s.ensureLive.result <;> rfl
  | health =>
    simp only [serve, checks, Service.health]
    split
    · rfl
    · rw [Traced.result_mapError, hrefuses.health]
      rfl
  -- The queries that are left take the writer's turn when they have checked what they can.
  | _ =>
    obtain ⟨hsite, hend⟩ := Site.perform_of_isClosed h
    refine (Prod.ext hsite hend).trans (congrArg (Prod.mk x) ?_)
    simp only [checks, Traced.result_bind, Traced.result_enter]
    cases s.ensureLive.result <;> rfl

/-- **A service that is closed refuses every query as closed**, whatever its store is like. -/
theorem serve_of_closed {s : Service} (h : s.closed = true) (x : Site) (clock : Clock) (q : Query) :
    q.serve s x clock = (x, .error (.failed (.storage .closed))) := by
  have hlive := ensureLive_of_closed h
  cases q with
  | check token userAgent ip fingerprint =>
    simp only [serve, Service.check, Traced.result_bind, Traced.result_enter, hlive]
    rfl
  | list userId =>
    simp only [serve, Service.list, Traced.result_bind, Traced.result_enter, hlive]
    rfl
  | health =>
    simp only [serve, Service.health, h]
    rfl
  | _ =>
    refine Prod.ext_iff.2 (Site.perform_of_start_error ?_)
    simp only [Traced.result_bind, Traced.result_enter, hlive]
    rfl

/-- A query leaves the writer's turn as it was. -/
theorem phase_serve (s : Service) (x : Site) (clock : Clock) (q : Query) :
    (q.serve s x clock).1.store.phase = x.store.phase := by
  cases q with
  | check token userAgent ip fingerprint => rfl
  | list userId => rfl
  | health => rfl
  | _ => exact Site.phase_perform ..

end Query

/-- A service that is closed already, or whose store is, is closed without touching the store. -/
theorem Service.close_of_closed {s : Service} {x : Site}
    (h : s.closed = true ∨ x.store.phase = .closed) (clock : Clock) :
    (s.close x clock).2.site = x ∧ (s.close x clock).2.outcome.result = .ok () := by
  unfold Service.close
  split
  · exact ⟨rfl, rfl⟩
  · next hopen =>
    obtain h | h := h
    · exact absurd h hopen
    · rw [(Site.refuses_of_isClosed h).close]
      exact ⟨rfl, rfl⟩

/-! ## Deployments -/

/-- A store with its clients, and the services that share it. -/
structure Deployment (ι κ : Type) where
  shared : Shared ι
  services : κ → Service

/-- What can happen to a deployment. -/
inductive Occurrence (ι κ : Type)
  /-- A client of the store acts, be it for itself or as an operation of a service. -/
  | act (a : Act ι)
  /-- A service deals with a query at one go, unless it would have to wait. -/
  | query (k : κ) (q : Query)
  /-- The work of a service is cancelled. -/
  | cancel (k : κ)
  /-- A client that is free closes a service. -/
  | shut (k : κ) (c : ι)

namespace Deployment

variable {ι κ : Type}

/-- A deployment at its beginning: all clients are free. -/
def start (x : Site) (services : κ → Service) : Deployment ι κ := ⟨⟨x, fun _ => .free⟩, services⟩

theorem oneWriter_start {x : Site} (hfree : ∀ p, x.store.phase ≠ .writing p)
    (services : κ → Service) : (start (ι := ι) x services).shared.OneWriter :=
  ⟨fun p => iff_of_false (hfree p) (by simp [start, Client.turn?]), by simp [start, Client.turn?],
    nofun⟩

variable [DecidableEq ι] [DecidableEq κ]

/-- The deployment after an occurrence. A service is marked as closed at once, and the first time
its client goes on to ask for the store to be closed. -/
def step (d : Deployment ι κ) (clock : Clock) : Occurrence ι κ → Deployment ι κ
  | .act a => { d with shared := d.shared.step clock a }
  | .query k q =>
    { d with shared := ⟨(q.serve (d.services k) d.shared.site clock).1, d.shared.clients⟩ }
  | .cancel k => { d with services := Function.update d.services k (d.services k).cancel }
  | .shut k c =>
    match d.shared.clients c with
    | .free =>
      { shared := if (d.services k).closed then d.shared else d.shared.step clock (.ask c .close)
        services :=
          Function.update d.services k ((d.services k).close d.shared.site clock).1 }
    | _ => d

/-- The deployment after occurrences, each at its time. -/
def run (d : Deployment ι κ) (os : List (Clock × Occurrence ι κ)) : Deployment ι κ :=
  os.foldl (fun d o => d.step o.1 o.2) d

/-- Whether an occurrence completes a close of the store, directly or through a service. -/
def Closes (d : Deployment ι κ) (clock : Clock) : Occurrence ι κ → Prop
  | .act a => d.shared.Closes clock a
  | .shut k c => (d.services k).closed = false ∧ d.shared.Closes clock (.ask c .close)
  | _ => False

variable {d : Deployment ι κ} {clock : Clock}

/-- **Step by step a service is closed as at one go**, if the turn is free. -/
theorem shut_eq_close {k : κ} {c : ι} (hc : d.shared.clients c = .free)
    (hfree : ∀ q, d.shared.site.store.phase ≠ .writing q) {now : Instant}
    (hread : clock.read = .ok now) (later : Clock) :
    (d.step clock (.shut k c)).services k = ((d.services k).close d.shared.site clock).1 ∧
      ((d.step clock (.shut k c)).step later (.act (.finish c))).shared.site =
        ((d.services k).close d.shared.site clock).2.site := by
  dsimp only [step]
  rw [hc]
  dsimp only
  refine ⟨Function.update_self .., ?_⟩
  unfold Service.close
  split
  · dsimp only [Shared.step]
    rw [hc]
  · have hask : d.shared.step clock (.ask c .close) = d.shared.attempt clock c .close := by
      dsimp only [Shared.step]
      rw [hc]
    rw [hask]
    exact Shared.site_finish_close c hfree hread later

/-! ## Until the close -/

/-- **Whatever happens, there is one writer at most.** -/
theorem oneWriter_step (h : d.shared.OneWriter) (clock : Clock) (o : Occurrence ι κ) :
    (d.step clock o).shared.OneWriter := by
  cases o with
  | act a => exact h.step clock a
  | query k q => exact h.of_site (q.phase_serve _ _ clock)
  | cancel k => exact h
  | shut k c =>
    dsimp only [step]
    split
    · dsimp only
      split
      · exact h
      · exact h.step clock _
    · exact h

theorem oneWriter_run (h : d.shared.OneWriter) (os : List (Clock × Occurrence ι κ)) :
    (d.run os).shared.OneWriter := by
  induction os generalizing d with
  | nil => exact h
  | cons o os ih => exact ih (oneWriter_step h o.1 o.2)

/-- **A close that is completed through a service closes the store** as any other one does. -/
theorem Closes.isClosed (h : d.shared.OneWriter) {o : Occurrence ι κ} (hcloses : d.Closes clock o) :
    (d.step clock o).shared.IsClosed := by
  cases o with
  | act a => exact Shared.Closes.isClosed h hcloses
  | shut k c =>
    obtain ⟨hopen, hclose⟩ := hcloses
    have hfree : d.shared.clients c = .free := hclose.1
    dsimp only [step]
    rw [hfree]
    dsimp only
    rw [hopen, if_neg (by simp)]
    exact hclose.isClosed h
  | _ => exact hcloses.elim

/-! ## After the close -/

/-- **Nothing that happens changes a closed store.** -/
theorem isClosed_step (h : d.shared.IsClosed) (clock : Clock) (o : Occurrence ι κ) :
    (d.step clock o).shared.IsClosed ∧ d.shared.site.Stays (d.step clock o).shared.site := by
  have hsame : d.shared.IsClosed ∧ d.shared.site.Stays d.shared.site := ⟨h, .refl h.phase⟩
  cases o with
  | act a => exact h.step clock a
  | query k q =>
    dsimp only [step]
    rw [q.serve_of_isClosed h.phase]
    exact hsame
  | cancel k => exact hsame
  | shut k c =>
    dsimp only [step]
    split
    · dsimp only
      split
      · exact hsame
      · exact h.step clock _
    · exact hsame

theorem isClosed_run (h : d.shared.IsClosed) (os : List (Clock × Occurrence ι κ)) :
    (d.run os).shared.IsClosed ∧ d.shared.site.Stays (d.run os).shared.site := by
  induction os generalizing d with
  | nil => exact ⟨h, .refl h.phase⟩
  | cons o os ih =>
    obtain ⟨hfirst, hstays⟩ := isClosed_step h o.1 o.2
    obtain ⟨hrest, hstays'⟩ := ih hfirst
    exact ⟨hrest, hstays.trans hstays'⟩

/-- **A service that is closed stays closed.** -/
theorem closed_step {k : κ} (h : (d.services k).closed = true) (clock : Clock)
    (o : Occurrence ι κ) : ((d.step clock o).services k).closed = true := by
  have hupdate : ∀ j (s : Service), (j = k → s.closed = true) →
      (Function.update d.services j s k).closed = true := by
    intro j s hs
    by_cases hj : k = j
    · subst hj
      rw [Function.update_self]
      exact hs rfl
    · rw [Function.update_of_ne hj]
      exact h
  cases o with
  | act a => exact h
  | query j q => exact h
  | cancel j =>
    refine hupdate j _ ?_
    rintro rfl
    exact h
  | shut j c =>
    dsimp only [step]
    split
    · refine hupdate j _ ?_
      rintro rfl
      unfold Service.close
      split <;> trivial
    · exact h

theorem closed_run {k : κ} (h : (d.services k).closed = true)
    (os : List (Clock × Occurrence ι κ)) : ((d.run os).services k).closed = true := by
  induction os generalizing d with
  | nil => exact h
  | cons o os ih => exact ih (closed_step h o.1 o.2)

/-- Whether nothing succeeds in a deployment any more, and its store is as it was in another. -/
structure OverSince (d d' : Deployment ι κ) : Prop where
  /-- Entries and file are as they were. -/
  stays : d.shared.site.Stays d'.shared.site
  /-- All operations of the store are refused as closed, and closing again does nothing. -/
  refuses : d'.shared.site.Refuses
  /-- Nobody has the writer's turn, so no transaction is left to commit. -/
  nobody : ∀ c, (d'.shared.clients c).turn? = none
  /-- Whoever waits for the turn gets an answer with the next try. -/
  answered : ∀ clock c r, d'.shared.clients c = .waiting r →
    d'.shared.step clock (.poll c) = d'.shared.set c .free d'.shared.site
  /-- Queries fail: as closed, unless the service refuses them before it goes to the store. -/
  queries : ∀ clock k (q : Query), ∃ h, q.serve (d'.services k) d'.shared.site clock =
      (d'.shared.site, .error h) ∧
    (h = .failed (.storage .closed) ∨ q.checks (d'.services k) clock = .error h)
  /-- Services can still be closed. -/
  closes : ∀ clock k, ((d'.services k).close d'.shared.site clock).2.site = d'.shared.site ∧
    ((d'.services k).close d'.shared.site clock).2.outcome.result = .ok ()

theorem overSince_run (h : d.shared.IsClosed) (os : List (Clock × Occurrence ι κ)) :
    d.OverSince (d.run os) := by
  obtain ⟨hclosed, hstays⟩ := isClosed_run h os
  refine ⟨hstays, Site.refuses_of_isClosed hclosed.phase, hclosed.clients, ?_, ?_, ?_⟩
  · intro clock c r hwaiting
    dsimp only [Shared.step]
    rw [hwaiting]
    exact hclosed.attempt clock c r
  · intro clock k q
    rw [q.serve_of_isClosed hclosed.phase]
    cases hchecks : q.checks ((d.run os).services k) clock with
    | error h => exact ⟨h, rfl, .inr rfl⟩
    | ok _ => exact ⟨_, rfl, .inl rfl⟩
  · exact fun clock k => Service.close_of_closed (.inr hclosed.phase) clock

/-- **Closing is final.**

* Let a store that nobody writes to be shared by any number of clients and services. Once a close of
  the store has been completed after whatever has happened before, nothing succeeds any more in
  whatever happens after.
* Once a service has been closed it refuses every query as closed in whatever happens after, and
  can be closed again, also while its store still waits to be closed. -/
theorem closed_for_good :
    (∀ (x : Site) (services : κ → Service) (before after : List (Clock × Occurrence ι κ))
        (clock : Clock) (o : Occurrence ι κ), (∀ p, x.store.phase ≠ .writing p) →
      ((start x services).run before).Closes clock o →
        (((start x services).run before).step clock o).OverSince
          ((((start x services).run before).step clock o).run after)) ∧
    ∀ (d : Deployment ι κ) (clock : Clock) (k : κ) (c : ι)
        (after : List (Clock × Occurrence ι κ)), d.shared.clients c = .free →
      ∀ (later : Clock) (x : Site),
        (∀ q : Query, q.serve (((d.step clock (.shut k c)).run after).services k) x later =
          (x, .error (.failed (.storage .closed)))) ∧
        ((((d.step clock (.shut k c)).run after).services k).close x later).2.site = x ∧
        ((((d.step clock (.shut k c)).run after).services k).close x later).2.outcome.result =
          .ok () := by
  refine ⟨fun x services before after clock o hfree hcloses => ?_,
    fun d clock k c after hfree later x => ?_⟩
  · exact overSince_run (hcloses.isClosed (oneWriter_run (oneWriter_start hfree services) before))
      after
  · have hmarked : ((d.step clock (.shut k c)).services k).closed = true := by
      dsimp only [step]
      rw [hfree]
      dsimp only
      rw [Function.update_self]
      unfold Service.close
      split <;> trivial
    have hclosed := closed_run hmarked after
    exact ⟨Query.serve_of_closed hclosed x later, Service.close_of_closed (.inl hclosed) later⟩

end Deployment

namespace Sample

/-- A client has a transaction open, another one waits to write, and a third one closes the service.
Then a folder gets in the way of the last save, the transaction is dropped, and the third client
has its turn. -/
def untilClose : List (Clock × Occurrence Nat Unit) :=
  [(⟨1⟩, .act (.ask 0 .begin)), (⟨1⟩, .act (.ask 1 (.write [1] (.put [7] none)))),
    (⟨2⟩, .act (.buffer 0 [2] (.put [5] none))), (⟨2⟩, .shut () 2),
    (⟨3⟩, .act (.disturb ⟨[(["s.tmp".toList], .folder)]⟩)), (⟨3⟩, .act (.drop 0)),
    (⟨4⟩, .act (.poll 2))]

/-- The client that waited tries again, the service is asked for something, and a client closes the
store once more. -/
def sinceClose : List (Clock × Occurrence Nat Unit) :=
  [(⟨6⟩, .act (.poll 1)), (⟨7⟩, .query () (.list "u")), (⟨8⟩, .act (.ask 0 .close)),
    (⟨9⟩, .act .sweep)]

/-- The deployment when the third client has its turn. -/
def closing : Deployment Nat Unit := (Deployment.start shop fun _ => service).run untilClose

theorem closed_for_good_failedSave :
    (Query.serve service shop ⟨1⟩ (.list "u")).2.isOk = true ∧
      (∀ (later : Clock) (x : Site) (q : Query), q.serve (closing.services ()) x later =
        (x, .error (.failed (.storage .closed)))) ∧
      closing.Closes ⟨5⟩ (.act (.finish 2)) ∧
      (closing.step ⟨5⟩ (.act (.finish 2))).OverSince
        ((closing.step ⟨5⟩ (.act (.finish 2))).run sinceClose) := by
  have hcloses : closing.Closes ⟨5⟩ (.act (.finish 2)) :=
    ⟨((Deployment.start shop fun _ : Unit => service).run (untilClose.take 6)).shared.site, ⟨4⟩,
      rfl, .inr ⟨_, rfl⟩⟩
  refine ⟨by decide +kernel, fun later x => ?_, hcloses, Deployment.closed_for_good.1 shop
    (fun _ => service) untilClose sinceClose ⟨5⟩ _ (fun p h => by cases h) hcloses⟩
  exact (Deployment.closed_for_good.2
    ((Deployment.start shop fun _ : Unit => service).run (untilClose.take 3)) ⟨2⟩ () 2
    (untilClose.drop 4) rfl later x).1

end Sample

end SessionTokens
