import SessionTokens.Proofs.Service.Run
import SessionTokens.Proofs.Session.Refinement
import SessionTokens.Proofs.Store.History
import SessionTokens.Proofs.Store.Trimmed
/-!
# Sweeps are not observed

A history of a store is made up of calls and sweeps, at times that do not go back. The calls
are everything that clients can ask for: reads and writes of single keys, scans, transactions with
their reads, operations on sessions, in the store and in transactions, all operations of services,
and closing and opening the store; in between, anything may happen to the files. A sweep drops every
entry that is dead, at any time, also while a transaction is open; the sweeper's own intervals are
told apart, as they may also start the sweeper or find that it was broken off.

**Theorem (`told_eq_of_calls_eq`).** Whatever the store, two histories with the same calls are
told the same, call by call, and leave the same files after each of them, wherever in the
histories the sweeps are.

Both are compared with what is told if nobody sweeps (`told_eq_answers`). The step of the comparison
is that no call tells a store from the trimmed one (`serve_trimmed`).
-/

namespace SessionTokens

/-! ## Sessions -/

namespace Session

variable (t : Txn)

theorem get_trimmed (id : String) : get t.trimmed id = get t id := by
  rw [get, Txn.get_trimmed, get]

theorem index_trimmed (start : Bytes) : index t.trimmed start = index t start := by
  rw [index, Txn.beginning_trimmed, index]

theorem delete_trimmed (id : String) :
    delete t.trimmed id = (delete t id).map fun d => (d.1.trimmed, d.2) := by
  unfold delete
  rw [get_trimmed]
  cases get t id with
  | error h => rfl
  | ok r? => cases r? <;> rfl

theorem removeEach_trimmed (found : List (Bytes × String)) :
    removeEach t.trimmed found = ((removeEach t found).1.trimmed, (removeEach t found).2) := by
  induction found generalizing t with
  | nil => rfl
  | cons p rest ih =>
    obtain ⟨key, id⟩ := p
    unfold removeEach
    rw [get_trimmed]
    cases get t id with
    | error h => rfl
    | ok r? =>
      cases r? with
      | none => exact ih (t.delete key)
      | some r =>
        have hrest : removeEach (remove t.trimmed r) rest = _ := ih (remove t r)
        dsimp only
        rw [hrest]

theorem removeIndexed_trimmed (start : Bytes) :
    removeIndexed t.trimmed start =
      ((removeIndexed t start).1.trimmed, (removeIndexed t start).2) := by
  unfold removeIndexed
  rw [index_trimmed]
  cases index t start with
  | error h => rfl
  | ok found => exact removeEach_trimmed t found

theorem evict_trimmed (i : Identity) :
    evict t.trimmed i = ((evict t i).1.trimmed, (evict t i).2) := by
  unfold evict
  rw [removeIndexed_trimmed]

theorem removeUser_trimmed (userId : String) :
    removeUser t.trimmed userId = ((removeUser t userId).1.trimmed, (removeUser t userId).2) := by
  unfold removeUser
  rw [removeIndexed_trimmed]

theorem listUser_trimmed (userId : String) : listUser t.trimmed userId = listUser t userId := by
  unfold listUser
  rw [index_trimmed, funext (get_trimmed t)]

section Store

variable (s : Store) (clock : Clock)

theorem find_trimmed (id : String) : find (s.trimmed ⟨clock.nanos⟩) clock id = find s clock id := by
  rw [find, Store.get_trimmed, find]

theorem ofUser_trimmed (userId : String) :
    ofUser (s.trimmed ⟨clock.nanos⟩) clock userId = ofUser s clock userId := by
  unfold ofUser
  rw [Store.beginning_trimmed, funext (find_trimmed s clock)]

theorem census_trimmed : census (s.trimmed ⟨clock.nanos⟩) clock = census s clock := by
  unfold census
  simp only [Store.beginning_trimmed]

end Store

end Session

/-! ## Deeds and services -/

namespace Site

variable (x : Site) (clock : Clock)

theorem buffer_trimmed (key : Bytes) (w : Write) :
    ((x.trimmed ⟨clock.nanos⟩).buffer clock key w).trimmed ⟨clock.nanos⟩ =
      (x.buffer clock key w).trimmed ⟨clock.nanos⟩ := by
  have htxn : (x.trimmed ⟨clock.nanos⟩).store.txn? clock = (x.store.txn? clock).map Txn.trimmed :=
    x.store.txn?_trimmed clock
  unfold buffer
  rw [htxn]
  cases x.store.txn? clock with
  | none => exact x.trimmed_self _
  | some t => exact x.setPhase_trimmed (.writing (t.buffer key w).pending) _

/-- What a transaction does that does not tell whether dead entries are kept. -/
theorem within_trimmed {f : Txn → Txn × Session.Outcome Answer}
    (hf : ∀ t, f (Txn.trimmed t) = ((f t).1.trimmed, (f t).2)) :
    ((x.trimmed ⟨clock.nanos⟩).within clock f).1.trimmed ⟨clock.nanos⟩ =
        (x.within clock f).1.trimmed ⟨clock.nanos⟩ ∧
      ((x.trimmed ⟨clock.nanos⟩).within clock f).2 = (x.within clock f).2 := by
  have htxn : (x.trimmed ⟨clock.nanos⟩).store.txn? clock = (x.store.txn? clock).map Txn.trimmed :=
    x.store.txn?_trimmed clock
  unfold within
  rw [htxn]
  cases x.store.txn? clock with
  | none => exact ⟨x.trimmed_self _, rfl⟩
  | some t =>
    simp only [Option.map_some, hf]
    exact ⟨x.setPhase_trimmed (.writing (f t).1.pending) _, trivial⟩

/-- **No deed tells whether dead entries are kept.** -/
theorem deed_trimmed (d : Deed) :
    ((x.trimmed ⟨clock.nanos⟩).deed clock d).1.trimmed ⟨clock.nanos⟩ =
        (x.deed clock d).1.trimmed ⟨clock.nanos⟩ ∧
      ((x.trimmed ⟨clock.nanos⟩).deed clock d).2 = (x.deed clock d).2 := by
  cases d with
  | find id =>
    refine ⟨x.trimmed_self _, ?_⟩
    exact congrArg (Except.map _) (Session.find_trimmed x.store clock id)
  | ofUser u =>
    refine ⟨x.trimmed_self _, ?_⟩
    exact congrArg (fun r : Traced (Halt StorageError) _ => r.result.map _)
      (Session.ofUser_trimmed x.store clock u)
  | begin =>
    obtain ⟨hsite, houtcome⟩ := Done.trimmed_inj (x.begin_trimmed ⟨clock.nanos⟩)
    exact ⟨hsite, by rw [deed, houtcome, deed]⟩
  | commit =>
    obtain ⟨hsite, houtcome⟩ := Done.trimmed_inj (x.commit_trimmed clock)
    exact ⟨hsite, by rw [deed, houtcome, deed]⟩
  | rollback => exact ⟨x.rollback_trimmed _, rfl⟩
  | get id => exact x.within_trimmed clock fun t => by rw [Session.get_trimmed]
  | insert r ttl => exact x.within_trimmed clock fun t => rfl
  | delete id =>
    refine x.within_trimmed clock fun t => ?_
    rw [Session.delete_trimmed]
    cases Session.delete t id <;> rfl
  | evict i => exact x.within_trimmed clock fun t => by rw [Session.evict_trimmed]
  | removeUser u => exact x.within_trimmed clock fun t => by rw [Session.removeUser_trimmed]
  | listUser u => exact x.within_trimmed clock fun t => by rw [Session.listUser_trimmed]

theorem put_trimmed (r : Record) (ttl : Duration) :
    (Session.put (x.trimmed ⟨clock.nanos⟩) clock r ttl).trimmed ⟨clock.nanos⟩ =
      (Session.put x clock r ttl).trimmed ⟨clock.nanos⟩ :=
  x.perform_trimmed clock _ _ _ fun _ _ => rfl

end Site

namespace Service

variable (s : Service) (x : Site) (clock : Clock)

/-- What follows a removal of sessions does not tell whether dead entries are kept, if it uses what
is buffered only. -/
theorem removal_bind_trimmed {α : Type} {t : Txn}
    (removed : Traced (Halt StorageError) (List Record)) {k : Txn × List Record → Course α}
    (hk : ∀ rs, k (t.trimmed, rs) = k (t, rs)) :
    (removal (t.trimmed, removed) >>= k) = (removal (t, removed) >>= k) := by
  show Traced.bind (Traced.bind _ fun rs => pure (t.trimmed, rs)) k =
    Traced.bind (Traced.bind _ fun rs => pure (t, rs)) k
  obtain ⟨log, _ | rs⟩ := removed
  · rfl
  · show Traced.mk _ _ = Traced.mk _ _
    rw [hk]
    rfl

theorem create_trimmed (fresh : Draw) (q : SessionRequest) :
    (s.create (x.trimmed ⟨clock.nanos⟩) clock fresh q).trimmed ⟨clock.nanos⟩ =
      (s.create x clock fresh q).trimmed ⟨clock.nanos⟩ := by
  refine x.perform_trimmed clock _ _ _ fun pair t => congrArg (bind _) (funext fun now => ?_)
  dsimp only
  rw [Session.evict_trimmed]
  exact removal_bind_trimmed _ fun _ => rfl

theorem extend_trimmed (fresh : Draw) (token fingerprint : String) :
    (s.extend (x.trimmed ⟨clock.nanos⟩) clock fresh token fingerprint).trimmed ⟨clock.nanos⟩ =
      (s.extend x clock fresh token fingerprint).trimmed ⟨clock.nanos⟩ := by
  refine x.perform_trimmed clock _ _ _ fun claims t => ?_
  rw [Session.get_trimmed]
  refine congrArg (bind _) (funext fun old? => congrArg (bind _) (funext fun old => ?_))
  have hevict : Session.evict (Session.remove t.trimmed old) old.identity = _ :=
    Session.evict_trimmed (Session.remove t old) old.identity
  rw [hevict]
  refine congrArg (bind _) (funext fun _ => congrArg (bind _) (funext fun _ => ?_))
  exact removal_bind_trimmed _ fun _ => rfl

theorem delete_trimmed (id userId : String) :
    (s.delete (x.trimmed ⟨clock.nanos⟩) clock id userId).trimmed ⟨clock.nanos⟩ =
      (s.delete x clock id userId).trimmed ⟨clock.nanos⟩ := by
  refine x.perform_trimmed clock _ _ _ fun _ t => ?_
  rw [Session.get_trimmed]
  rfl

theorem deleteUser_trimmed (userId : String) :
    (s.deleteUser (x.trimmed ⟨clock.nanos⟩) clock userId).trimmed ⟨clock.nanos⟩ =
      (s.deleteUser x clock userId).trimmed ⟨clock.nanos⟩ := by
  refine x.perform_trimmed clock _ _ _ fun _ t => ?_
  rw [Session.removeUser_trimmed]
  exact removal_bind_trimmed _ fun _ => rfl

theorem check_trimmed (store : Store) (token userAgent ip fingerprint : String) :
    s.check (store.trimmed ⟨clock.nanos⟩) clock token userAgent ip fingerprint =
      s.check store clock token userAgent ip fingerprint := by
  unfold check
  rw [funext (Session.find_trimmed store clock)]

theorem list_trimmed (store : Store) (userId : String) :
    s.list (store.trimmed ⟨clock.nanos⟩) clock userId = s.list store clock userId := by
  unfold list
  rw [Session.ofUser_trimmed]

theorem close_trimmed :
    (s.close (x.trimmed ⟨clock.nanos⟩) clock).1 = (s.close x clock).1 ∧
      (s.close (x.trimmed ⟨clock.nanos⟩) clock).2.trimmed ⟨clock.nanos⟩ =
        (s.close x clock).2.trimmed ⟨clock.nanos⟩ := by
  unfold close
  split
  · exact ⟨rfl, Done.trimmed_mk (x.trimmed_self _) _⟩
  · obtain ⟨hsite, houtcome⟩ := Done.trimmed_inj (x.close_trimmed clock)
    dsimp only
    rw [houtcome]
    exact ⟨rfl, Done.trimmed_mk hsite _⟩

end Service

/-! ## Calls -/

/-- What clients can ask for, and what can happen to the files. -/
inductive Call
  | get (key : Bytes)
  | range (b : Bounds)
  | beginning (start : Bytes)
  | census
  | health
  | write (key : Bytes) (w : Write)
  | close
  /-- Transactions begin and end by deeds. -/
  | read (key : Bytes)
  | scan (start : Bytes)
  | buffer (key : Bytes) (w : Write)
  | deed (d : Deed)
  | put (r : Record) (ttl : Duration)
  | create (s : Service) (fresh : Draw) (q : SessionRequest)
  | extend (s : Service) (fresh : Draw) (token fingerprint : String)
  | check (s : Service) (token userAgent ip fingerprint : String)
  | list (s : Service) (userId : String)
  | delete (s : Service) (id userId : String)
  | deleteUser (s : Service) (userId : String)
  | healthOf (s : Service)
  | closeOf (s : Service)
  | reopen (limits : Limits)
  | replace (files : FileTree)

/-- What a client is told: a value of the type that its call has for answers. -/
structure Told where
  {type : Type}
  value : type

/-- What an operation leaves behind, and what its client is told. -/
def Done.told {ε α : Type} (d : Done ε α) : Site × Told := (d.site, ⟨d.outcome⟩)

namespace Site

/-- What the opening of a store's file gives, if the store has one. -/
def opening (x : Site) (clock : Clock) (limits : Limits) :
    Option (Traced (Halt StorageError) Store) :=
  match x.store.medium with
  | .memory => none
  | .file path => some (openFile x.files path limits clock)

/-- The site after a call, and what its client is told. -/
def serve (x : Site) (clock : Clock) : Call → Site × Told
  | .get key => (x, ⟨x.store.get clock key⟩)
  | .range b => (x, ⟨x.store.range clock b⟩)
  | .beginning start => (x, ⟨x.store.beginning clock start⟩)
  | .census => (x, ⟨Session.census x.store clock⟩)
  | .health => (x, ⟨x.store.health x.files⟩)
  | .write key w => (x.write clock key w).told
  | .close => (x.close clock).told
  | .read key => (x, ⟨(x.store.txn? clock).map fun t => t.get key⟩)
  | .scan start => (x, ⟨(x.store.txn? clock).map fun t => t.beginning start⟩)
  | .buffer key w => (x.buffer clock key w, ⟨()⟩)
  | .deed d => ((x.deed clock d).1, ⟨(x.deed clock d).2⟩)
  | .put r ttl => (Session.put x clock r ttl).told
  | .create s fresh q => (s.create x clock fresh q).told
  | .extend s fresh token fingerprint => (s.extend x clock fresh token fingerprint).told
  | .check s token userAgent ip fingerprint =>
    (x, ⟨s.check x.store clock token userAgent ip fingerprint⟩)
  | .list s userId => (x, ⟨s.list x.store clock userId⟩)
  | .delete s id userId => (s.delete x clock id userId).told
  | .deleteUser s userId => (s.deleteUser x clock userId).told
  | .healthOf s => (x, ⟨s.health x⟩)
  | .closeOf s =>
    ((s.close x clock).2.site, ⟨((s.close x clock).1, (s.close x clock).2.outcome)⟩)
  | .reopen limits => (x.reopen clock limits, ⟨x.opening clock limits⟩)
  | .replace files => ({ x with files }, ⟨()⟩)

/-- **No call tells whether dead entries are kept.** -/
theorem serve_trimmed (x : Site) (clock : Clock) (r : Call) :
    ((x.trimmed ⟨clock.nanos⟩).serve clock r).1.trimmed ⟨clock.nanos⟩ =
        (x.serve clock r).1.trimmed ⟨clock.nanos⟩ ∧
      ((x.trimmed ⟨clock.nanos⟩).serve clock r).2 = (x.serve clock r).2 := by
  have htold {ε α : Type} {d e : Done ε α} (h : d.trimmed ⟨clock.nanos⟩ = e.trimmed ⟨clock.nanos⟩) :
      d.told.1.trimmed ⟨clock.nanos⟩ = e.told.1.trimmed ⟨clock.nanos⟩ ∧ d.told.2 = e.told.2 := by
    obtain ⟨hsite, houtcome⟩ := Done.trimmed_inj h
    exact ⟨hsite, by rw [Done.told, houtcome, Done.told]⟩
  have hstay {α : Type} {a b : α} (h : a = b) :
      (x.trimmed ⟨clock.nanos⟩).trimmed ⟨clock.nanos⟩ = x.trimmed ⟨clock.nanos⟩ ∧
        Told.mk a = Told.mk b := ⟨x.trimmed_self _, congrArg Told.mk h⟩
  cases r with
  | get key => exact hstay (x.store.get_trimmed clock key)
  | range b => exact hstay (x.store.range_trimmed clock b)
  | beginning start => exact hstay (x.store.beginning_trimmed clock start)
  | census => exact hstay (Session.census_trimmed x.store clock)
  | health => exact hstay rfl
  | write key w => exact htold (x.write_trimmed clock key w)
  | close => exact htold (x.close_trimmed clock)
  | read key =>
    have htxn := x.store.txn?_trimmed clock
    refine hstay ?_
    show ((x.store.trimmed _).txn? clock).map _ = _
    rw [htxn, Option.map_map]
    exact congrArg (Option.map · _) (funext fun t => t.get_trimmed key)
  | scan start =>
    have htxn := x.store.txn?_trimmed clock
    refine hstay ?_
    show ((x.store.trimmed _).txn? clock).map _ = _
    rw [htxn, Option.map_map]
    exact congrArg (Option.map · _) (funext fun t => t.beginning_trimmed start)
  | buffer key w => exact ⟨x.buffer_trimmed clock key w, rfl⟩
  | deed d =>
    obtain ⟨hsite, hanswer⟩ := x.deed_trimmed clock d
    exact ⟨hsite, congrArg Told.mk hanswer⟩
  | put r ttl => exact htold (x.put_trimmed clock r ttl)
  | create s fresh q => exact htold (s.create_trimmed x clock fresh q)
  | extend s fresh token fingerprint =>
    exact htold (s.extend_trimmed x clock fresh token fingerprint)
  | check s token userAgent ip fingerprint =>
    exact hstay (s.check_trimmed clock x.store token userAgent ip fingerprint)
  | list s userId => exact hstay (s.list_trimmed clock x.store userId)
  | delete s id userId => exact htold (s.delete_trimmed x clock id userId)
  | deleteUser s userId => exact htold (s.deleteUser_trimmed x clock userId)
  | healthOf s => exact hstay rfl
  | closeOf s =>
    obtain ⟨hservice, hdone⟩ := s.close_trimmed x clock
    obtain ⟨hsite, houtcome⟩ := Done.trimmed_inj hdone
    exact ⟨hsite, congrArg Told.mk (Prod.ext hservice houtcome)⟩
  | reopen limits =>
    refine ⟨?_, rfl⟩
    have hmedium : (x.trimmed ⟨clock.nanos⟩).store.medium = x.store.medium := rfl
    have hfiles : (x.trimmed ⟨clock.nanos⟩).files = x.files := rfl
    show ((x.trimmed _).reopen clock limits).trimmed _ = (x.reopen clock limits).trimmed _
    unfold reopen
    rw [hmedium, hfiles]
    split
    · exact x.trimmed_self _
    · next path _ =>
      cases (openFile x.files path limits clock).result with
      | ok store => rfl
      | error h => exact x.trimmed_self _
  | replace files => exact ⟨(Site.mk x.store files).trimmed_self _, rfl⟩

end Site

/-! ## Histories -/

/-- What happens to a store. -/
inductive Happening
  | called (r : Call)
  /-- All dead entries are dropped. -/
  | swept
  /-- An interval of the store's own sweeper ends. -/
  | ticked

/-- The calls of a history, each with its time. -/
def calls (h : List (Clock × Happening)) : List (Clock × Call) :=
  h.filterMap fun p =>
    match p.2 with
    | .called r => some (p.1, r)
    | _ => none

namespace Site

/-- What the clients of a history are told, call by call, and the files after each. -/
def told (x : Site) : List (Clock × Happening) → List (Told × FileTree)
  | [] => []
  | (clock, .called r) :: rest =>
    ((x.serve clock r).2, (x.serve clock r).1.files) :: (x.serve clock r).1.told rest
  | (clock, .swept) :: rest => Site.told { x with store := x.store.sweep ⟨clock.nanos⟩ } rest
  | (clock, .ticked) :: rest => Site.told { x with store := (x.store.tick clock).1 } rest

/-- What clients are told, and the files after each call, if nobody sweeps. -/
def answers (x : Site) : List (Clock × Call) → List (Told × FileTree)
  | [] => []
  | (clock, r) :: rest =>
    ((x.serve clock r).2, (x.serve clock r).1.files) :: (x.serve clock r).1.answers rest

/-- Sites that are the same once they are trimmed are still so later. -/
theorem trimmed_later {x y : Site} {t later : Instant} (h : x.trimmed t = y.trimmed t)
    (hle : t.nanos ≤ later.nanos) : x.trimmed later = y.trimmed later := by
  rw [← x.trimmed_trimmed hle, h, y.trimmed_trimmed hle]

/-- Sites that are the same once they are trimmed tell the same, and stay so. -/
theorem serve_congr {x y : Site} {clock : Clock}
    (h : x.trimmed ⟨clock.nanos⟩ = y.trimmed ⟨clock.nanos⟩) (r : Call) :
    (x.serve clock r).1.trimmed ⟨clock.nanos⟩ =
        (y.serve clock r).1.trimmed ⟨clock.nanos⟩ ∧ (x.serve clock r).2 = (y.serve clock r).2 := by
  obtain ⟨hx, hx'⟩ := x.serve_trimmed clock r
  obtain ⟨hy, hy'⟩ := y.serve_trimmed clock r
  rw [← hx, ← hx', ← hy, ← hy', h]
  exact ⟨rfl, rfl⟩

/-- **What a history is told is what its calls are told if nobody sweeps.** -/
theorem told_eq_answers {x y : Site} {t : Instant} (h : x.trimmed t = y.trimmed t)
    {events : List (Clock × Happening)} (hfirst : ∀ p ∈ events, t.nanos ≤ p.1.nanos)
    (hasc : events.Pairwise fun a b => a.1.nanos ≤ b.1.nanos) :
    x.told events = y.answers (calls events) := by
  induction events generalizing x y t with
  | nil => rfl
  | cons p rest ih =>
    obtain ⟨clock, e⟩ := p
    obtain ⟨hle, -⟩ := List.forall_mem_cons.1 hfirst
    obtain ⟨hnext, hrest⟩ := List.pairwise_cons.1 hasc
    have hnow : x.trimmed ⟨clock.nanos⟩ = y.trimmed ⟨clock.nanos⟩ := trimmed_later h hle
    cases e with
    | called r =>
      obtain ⟨hsite, htold⟩ := serve_congr hnow r
      have hfiles : (x.serve clock r).1.files = (y.serve clock r).1.files :=
        (Site.mk.inj hsite).2
      show (_, _) :: _ = (_, _) :: _
      rw [htold, hfiles, ih hsite hnext hrest]
      rfl
    | swept =>
      refine ih (t := ⟨clock.nanos⟩) (Eq.trans ?_ hnow) hnext hrest
      exact congrArg (Site.mk · x.files) (x.store.trimmed_sweep _)
    | ticked =>
      refine ih (t := ⟨clock.nanos⟩) (Eq.trans ?_ hnow) hnext hrest
      exact congrArg (Site.mk · x.files) (x.store.trimmed_tick clock)

/-- **Where the sweeps of a history are makes no difference** to anything that a client is told, nor
to the files. -/
theorem told_eq_of_calls_eq (x : Site) {events events' : List (Clock × Happening)}
    (hasc : events.Pairwise fun a b => a.1.nanos ≤ b.1.nanos)
    (hasc' : events'.Pairwise fun a b => a.1.nanos ≤ b.1.nanos)
    (hsame : calls events = calls events') : x.told events = x.told events' := by
  have hquiet {events : List (Clock × Happening)}
      (hasc : events.Pairwise fun a b => a.1.nanos ≤ b.1.nanos) :
      x.told events = x.answers (calls events) := by
    cases events with
    | nil => rfl
    | cons p rest =>
      refine told_eq_answers (t := ⟨p.1.nanos⟩) rfl ?_ hasc
      exact List.forall_mem_cons.2 ⟨Int.le_refl _, (List.pairwise_cons.1 hasc).1⟩
  rw [hquiet hasc, hsame, ← hquiet hasc']

end Site

namespace Sample

/-- A value lapses while a transaction is open, and is swept before the transaction reads it. -/
def sweptHistory : List (Clock × Happening) :=
  [(⟨0⟩, .called (.write [1] (.put [7] (some ⟨5, by decide⟩)))), (⟨1⟩, .ticked),
    (⟨2⟩, .called (.deed .begin)), (⟨5⟩, .ticked), (⟨6⟩, .swept), (⟨6⟩, .called (.read [1])),
    (⟨7⟩, .called (.buffer [2] (.put [8] none))), (⟨8⟩, .called (.deed .commit)), (⟨9⟩, .swept),
    (⟨9⟩, .called (.range .all)), (⟨9⟩, .called .close)]

/-- The same calls, and nobody sweeps. -/
def quietHistory : List (Clock × Happening) :=
  (calls sweptHistory).map fun p => (p.1, .called p.2)

theorem told_sweptHistory : calls sweptHistory = calls quietHistory ∧
    (Site.mk opened .empty).told sweptHistory = (Site.mk opened .empty).told quietHistory ∧
    ((Site.mk opened .empty).told sweptHistory).length = 7 :=
  ⟨rfl, Site.told_eq_of_calls_eq _ (by decide) (by decide) rfl, rfl⟩

end Sample

end SessionTokens
