import SessionTokens.Proofs.Service.Change
import SessionTokens.Proofs.Service.Descent
import SessionTokens.Proofs.Token.Genuine
/-!
# A session is there for as long as its tokens

**Theorem (`Lawful.honours_until_expiry`).** Once a pair of tokens has been issued in a run, the
store holds the record of its session for as long as one of the tokens is alive, whatever else
happens, unless an operation ends the session. A service that is open then tells every client what
it should of the access token: the session if the client shows its address and its fingerprint, that
the session is not the client's if it does not, and that the token is invalid from the second of its
expiry on.

**Three clocks.** A token lapses with a whole second, counted from the second in which it was
signed. A record lapses with a nanosecond, counted from the instant at which it was written, or,
once the store has been opened from its file, with the millisecond before. The record comes last
(`isBefore_lapse`), although opening the file again and again rounds its expiry down: rounding it
twice is no more than rounding it once.

**What keeps a record.** A step that does not end a session leaves its record in the store, with
its expiry or with the expiry rounded down (`Intact.spares`), and so does every run of such steps
(`Lawful.spares`).
-/

namespace SessionTokens

open Session

/-! ## Issuing and sparing -/

/-- Whether a step is an operation of a service that issues a pair of tokens. -/
def Step.Issues (x : Site) (st : Step) (s : Service) (pair : TokenPair) : Prop :=
  match st.action with
  | .create s' fresh q => s' = s ∧ (s.create x st.clock fresh q).outcome.result = .ok pair
  | .extend s' fresh token fingerprint =>
    s' = s ∧ (s.extend x st.clock fresh token fingerprint).outcome.result = .ok pair
  | _ => False

theorem Step.issues_create {x : Site} {clock : Clock} {s : Service} {fresh : Draw}
    {q : SessionRequest} {pair : TokenPair}
    (h : (s.create x clock fresh q).outcome.result = .ok pair) :
    (Step.mk clock (.create s fresh q)).Issues x s pair := ⟨rfl, h⟩

/-- Whether a service issues a pair of tokens for the session of a record, in an operation that
stores the record. -/
structure Service.Opens (s : Service) (x : Site) (clock : Clock) (pair : TokenPair) (r : Record) :
    Prop where
  idle : x.store.phase = .idle
  tokens : ∃ fresh : Draw, fresh.id = r.id ∧
    (s.issueTokens clock fresh (.of r.userId r.role r.parentId)).result = .ok pair
  stored : ∃ t : Txn, t.pending.puts = ∅ ∧
    (x.apply clock (Session.insert t r s.issuer.config.refreshTtl).pending).outcome.result = .ok ()

theorem Service.opens_of_create {s : Service} {x : Site} {clock : Clock} {fresh : Draw}
    {q : SessionRequest} {pair : TokenPair}
    (h : (s.create x clock fresh q).outcome.result = .ok pair) :
    ∃ now, clock.read = .ok now ∧ s.Opens x clock pair (q.record fresh.id now) := by
  obtain ⟨now, hr, -, hstored, -, hidle, htokens⟩ := Service.create_eq_ok h
  exact ⟨now, hr, hidle, ⟨fresh, rfl, htokens⟩, _, puts_evict (puts_reader _ _) q.identity, hstored⟩

theorem Service.opens_of_extend {s : Service} {x : Site} {clock : Clock}
    {fresh : Draw} {token fingerprint : String} {pair : TokenPair}
    (h : (s.extend x clock fresh token fingerprint).outcome.result = .ok pair) :
    ∃ now c old, clock.read = .ok now ∧ s.issuer.verify clock token = .ok c ∧
      Session.get (x.store.reader clock) c.core.id = .ok (some old) ∧
      s.Opens x clock pair (Service.rotated old fresh.id now) := by
  obtain ⟨now, c, old, hr, hv, -, hget, -, hstored, -, hidle, htokens, -⟩ :=
    Service.extend_eq_ok h
  have hputs := puts_evict (puts_remove (puts_reader x.store clock) old) old.identity
  exact ⟨now, c, old, hr, hv, hget, hidle, ⟨fresh, rfl, htokens⟩, _, hputs, hstored⟩

/-- Whether no step of a list ends the session of a record. -/
def Site.Spares (x : Site) (steps : List Step) (r : Record) : Prop :=
  ∀ before st after, steps = before ++ st :: after → ¬st.Ends (x.run before) r

theorem Site.Spares.of_append {x : Site} {steps more : List Step} {r : Record}
    (h : x.Spares (steps ++ more) r) : x.Spares steps r := by
  rintro before st after rfl
  exact h before st (after ++ more) (by simp)

/-! ## Records outlast tokens -/

/-- The lifetimes of an issuer that is accepted: refresh tokens live for some time, and access
tokens no longer. -/
theorem Issuer.lifetimes_of_of {config : IssuerConfig} {keys : TokenKeys} {i : Issuer}
    (h : Issuer.of config keys = .ok i) :
    0 < i.config.refreshTtl.nanos ∧ i.config.accessTtl.nanos ≤ i.config.refreshTtl.nanos := by
  obtain ⟨rfl, hvalid, -⟩ := eq_of_of h
  obtain ⟨-, hmin, hle⟩ := IssuerConfig.validate_eq_ok hvalid
  have hsecond : 0 < IssuerConfig.minTtl.nanos := by decide
  exact ⟨Nat.lt_of_lt_of_le hsecond (Nat.le_trans hmin hle), hle⟩

/-- **A record lapses after its tokens**, even once its expiry has been rounded down. -/
theorem Service.isBefore_lapse (s : Service) {t now : Instant} {lifetime : Duration}
    (hle : lifetime.nanos ≤ s.issuer.config.refreshTtl.nanos)
    (halive : now.seconds < t.seconds + lifetime.seconds) :
    now.isBefore ((s.lapse t).map Instant.truncate) = true := by
  simp only [Instant.seconds, Duration.seconds, nanosPerSecond] at halive
  simp only [lapse, Option.map_some, Instant.isBefore, Instant.truncate, Instant.ofMillis,
    Instant.millis, decide_eq_true_eq]
  omega

theorem map_truncate_truncate (e : Option Instant) :
    (e.map Instant.truncate).map Instant.truncate = e.map Instant.truncate := by
  cases e with
  | none => rfl
  | some t => exact congrArg some t.truncate_truncate

/-! ## What a step leaves -/

theorem Book.install_self {τ : Type} (b : Book τ) (r : Record) (m : τ) :
    b.install r m r.id = some (r, m) := if_pos rfl

/-- Installing a session leaves those of other identities. -/
theorem Book.install_of_ne {τ : Type} {b : Book τ} {r old : Record} {m m' : τ}
    (h : b old.id = some (old, m')) (hid : old.id ≠ r.id) (hi : old.identity ≠ r.identity) :
    b.install r m old.id = some (old, m') := by
  rw [install, set, if_neg hid, without, h]
  simp [Option.filter_some, hi]

section

variable {texts : Set String} {ids : List String} {x : Site} {later : Instant} {st : Step}
  {kept : Book (Option Instant)} {clock : Clock} {r : Record} {e : Option Instant}

/-- A rotation leaves the sessions of other identities in the book. -/
theorem Intact.change_extend (h : Intact texts ids x ⟨clock.nanos⟩ kept) {s : Service}
    {fresh : Draw} {token fingerprint : String} (hr : kept r.id = some (r, e))
    (hfresh : r.id ≠ fresh.id)
    (hother : ∀ c old expiry, s.issuer.verify clock token = .ok c →
      x.Holds ⟨clock.nanos⟩ old expiry → old.id = c.core.id → old.identity ≠ r.identity) :
    (Step.mk clock (.extend s fresh token fingerprint)).change kept r.id = some (r, e) := by
  cases htoken : s.tokenId? clock token with
  | none => simpa only [Step.change, htoken] using hr
  | some id =>
    cases hid : kept id with
    | none => simpa only [Step.change, htoken, hid] using hr
    | some entry =>
      obtain ⟨old, expiry⟩ := entry
      obtain ⟨c, hverify, rfl⟩ := Service.tokenId?_eq_some.1 htoken
      obtain ⟨hold, -, -⟩ := h.keys.sound _ _ _ hid
      have hne := hother c old expiry hverify (h.holds_iff.2 (by rw [hold, hid])) hold
      -- The session of the token is not the one in question, which is of another identity.
      have hid' : r.id ≠ c.core.id := by
        intro heq
        rw [← heq, hr] at hid
        cases hid
        exact hne rfl
      simp only [Step.change, htoken, hid]
      refine Book.install_of_ne ?_ hfresh hne.symm
      rw [Book.remove, if_neg hid', hr]

/-- A step that succeeds and does not end a session leaves it in the book as it is. -/
theorem Intact.change_eq (h : Intact texts ids x st.instant kept)
    (hfresh : ∀ id ∈ st.action.fresh?, id ∉ ids) (hsucceeds : st.Succeeds x)
    (hr : kept r.id = some (r, e)) (hends : ¬st.Ends x r) :
    st.change kept r.id = some (r, e) := by
  have hold : ∀ id ∈ st.action.fresh?, r.id ≠ id := by
    rintro id hid rfl
    exact hfresh _ hid (h.known _ _ hr)
  obtain ⟨clock, action⟩ := st
  cases action with
  | create s fresh q =>
    obtain ⟨pair, hok⟩ := hsucceeds
    refine Book.install_of_ne hr (hold fresh.id rfl) ?_
    intro hi
    exact hends ⟨pair, hok, hi.symm⟩
  | extend s fresh token fingerprint =>
    obtain ⟨pair, hok⟩ := hsucceeds
    refine h.change_extend hr (hold fresh.id rfl) ?_
    intro c old expiry hverify hholds hid hi
    exact hends ⟨pair, c, old, expiry, hok, hverify, hholds, hid, hi⟩
  | delete s id userId =>
    have hne : r.id ≠ id := fun heq => hends ⟨hsucceeds, heq⟩
    simp only [Step.change]
    rw [Book.remove, if_neg hne, hr]
  | deleteUser s userId =>
    obtain ⟨n, hok⟩ := hsucceeds
    have hne : r.userId ≠ userId := fun heq => hends ⟨n, hok, heq⟩
    simp only [Step.change]
    rw [Book.without, hr]
    simp [Option.filter_some, hne]
  | _ => exact hsucceeds.elim

/-- **A step that does not end a session keeps its record**, at most with its expiry rounded
down. -/
theorem Intact.spares (h : Intact texts ids x st.instant kept) (hc : CollisionFree texts)
    (htexts : ∀ a ∈ st.texts, a ∈ texts) (hfresh : ∀ id ∈ st.action.fresh?, id ∉ ids)
    (hr : x.Holds st.instant r e) (hends : ¬st.Ends x r) (hle : st.instant.nanos ≤ later.nanos)
    (hlive : later.isBefore (e.map Instant.truncate) = true) :
    ∃ e', (x.step st).Holds later r e' ∧ (e' = e ∨ e' = e.map Instant.truncate) := by
  have hkept := h.holds_iff.1 hr
  have hstays : x.Holds later r e := (h.keys.later hle).holds
    (Option.filter_eq_some_iff.2 ⟨hkept, Instant.isBefore_truncate hlive⟩)
  by_cases hreopen : ∃ limits, st.action = .reopen limits
  · obtain ⟨clock, action⟩ := st
    obtain ⟨limits, rfl⟩ := hreopen
    simp only [Site.step, Site.reopen]
    split
    · exact ⟨e, hstays, .inl rfl⟩
    · next path hmedium =>
      split
      · next store hopen =>
        obtain ⟨hkeys, -⟩ := Site.represents_reopen h hmedium hopen
        refine ⟨_, (hkeys.later_of_filter hle).holds (x := ⟨store, x.files⟩) ?_, .inr rfl⟩
        exact Option.filter_eq_some_iff.2 ⟨Book.map_eq_some.2 ⟨e, hkept, rfl⟩, hlive⟩
      · exact ⟨e, hstays, .inl rfl⟩
  · have hkeys := represents_step hc (fun limits hl => absurd ⟨limits, hl⟩ hreopen) h.keys htexts
      (fun id hid => h.notMem (hfresh id hid)) hle
    have hout : st.outcome x kept r.id = some (r, e) := by
      by_cases hsucceeds : st.Succeeds x
      · rw [Step.outcome_of_succeeds hsucceeds]
        exact h.change_eq hfresh hsucceeds hkept hends
      · rw [Step.outcome_of_not hsucceeds]
        exact hkept
    refine ⟨e, hkeys.holds (Option.filter_eq_some_iff.2 ⟨hout, ?_⟩), .inl rfl⟩
    exact Instant.isBefore_truncate hlive

end

/-! ## What a run leaves -/

section

variable {texts : Set String} {x : Site} {t later : Instant} {past future : List Step} {st : Step}
  {r : Record} {e : Option Instant} {s : Service} {pair : TokenPair}

/-- **A run whose steps do not end a session keeps its record**, at most with its expiry rounded
down. -/
theorem Lawful.spares (h : Lawful texts x (past ++ future))
    (hpast : ∀ st ∈ past, st.clock.nanos ≤ t.nanos) (hr : (x.run past).Holds t r e)
    (hspares : (x.run past).Spares future r) (hfuture : ∀ st ∈ future, t.nanos ≤ st.clock.nanos)
    (hlater : ∀ st ∈ future, st.clock.nanos ≤ later.nanos) (hle : t.nanos ≤ later.nanos)
    (hlive : later.isBefore (e.map Instant.truncate) = true) :
    ∃ e', (x.run (past ++ future)).Holds later r e' ∧ (e' = e ∨ e' = e.map Instant.truncate) := by
  induction future using List.reverseRecOn generalizing later with
  | nil =>
    rw [List.append_nil] at h ⊢
    obtain ⟨kept, hkept⟩ := h.intact hpast
    have hleft : kept.filter later.isBefore r.id = some (r, e) :=
      Option.filter_eq_some_iff.2 ⟨hkept.holds_iff.1 hr, Instant.isBefore_truncate hlive⟩
    exact ⟨e, (hkept.keys.later hle).holds hleft, .inl rfl⟩
  | append_singleton future st ih =>
    rw [← List.append_assoc] at h ⊢
    obtain ⟨hbefore, hst⟩ := List.forall_mem_append.1 hfuture
    have hnow : st.instant.nanos ≤ later.nanos :=
      hlater st (List.mem_append_right _ List.mem_cons_self)
    obtain ⟨e', hr', he'⟩ := ih h.of_append hspares.of_append hbefore
      (fun st' hst' => h.before st' (List.mem_append_right _ hst')) (hst st List.mem_cons_self)
      (Instant.isBefore_mono hnow hlive)
    obtain ⟨kept, hkept⟩ := h.of_append.intact h.before
    have hends : ¬st.Ends (x.run (past ++ future)) r := by
      rw [Site.run_append]
      exact hspares future st [] rfl
    have hlive' : later.isBefore (e'.map Instant.truncate) = true := by
      obtain rfl | rfl := he'
      · exact hlive
      · rwa [map_truncate_truncate]
    obtain ⟨e'', hr'', he''⟩ := hkept.spares h.collisionFree h.hashed_last
      (fun _ => h.notMem_freshIds) hr' hends hnow hlive'
    rw [Site.run_concat]
    refine ⟨e'', hr'', ?_⟩
    obtain rfl | rfl := he''
    · exact he'
    · obtain rfl | rfl := he'
      · exact .inr rfl
      · exact .inr (map_truncate_truncate e)

/-- **The record of a session that no operation ends is held until its tokens lapse.** -/
theorem Lawful.holds_until_expiry (h : Lawful texts x (past ++ [st] ++ future))
    (hr : (x.run (past ++ [st])).Holds st.instant r (s.lapse st.instant))
    (hspares : (x.run (past ++ [st])).Spares future r)
    (hlater : ∀ st' ∈ st :: future, st'.clock.nanos ≤ later.nanos) {lifetime : Duration}
    (hle : lifetime.nanos ≤ s.issuer.config.refreshTtl.nanos)
    (halive : later.seconds < st.instant.seconds + lifetime.seconds) :
    ∃ e, (x.run (past ++ [st] ++ future)).Holds later r e := by
  obtain ⟨hst, hfuture⟩ := List.forall_mem_cons.1 hlater
  obtain ⟨e, he, -⟩ := h.spares h.of_append.until_last hr hspares h.after hfuture hst
    (s.isBefore_lapse hle halive)
  exact ⟨e, he⟩

/-- **A step that issues tokens stores the record of their session**, as of its instant. -/
theorem Lawful.opened (h : Lawful texts x (past ++ [st]))
    (hissues : st.Issues (x.run past) s pair) (hpos : 0 < s.issuer.config.refreshTtl.nanos) :
    st.clock.read = .ok st.instant ∧ ∃ r, s.Opens (x.run past) st.clock pair r ∧
      r.createdAt = .ofInstant st.instant ∧
      (x.run (past ++ [st])).Holds st.instant r (s.lapse st.instant) := by
  obtain ⟨kept, hkept⟩ := h.of_append.intact h.before
  have htexts := h.hashed_last
  have hlive : st.instant.isBefore (s.lapse st.instant) = true := s.isBefore_lapse_self hpos _
  have hleft : ∀ {b : Book (Option Instant)} {r : Record},
      (b.install r (s.lapse st.instant)).filter st.instant.isBefore r.id =
        some (r, s.lapse st.instant) := fun {b r} =>
    Option.filter_eq_some_iff.2 ⟨b.install_self r _, hlive⟩
  rw [Site.run_concat]
  obtain ⟨clock, action⟩ := st
  cases action with
  | create s' fresh q =>
    obtain ⟨rfl, hok⟩ := hissues
    obtain ⟨now', hr', hopens⟩ := Service.opens_of_create hok
    obtain ⟨now, hr, -, hkeys⟩ := s'.create_effect h.collisionFree hkept.keys (Int.le_refl _)
      (Service.within_of_create htexts) (hkept.notMem (h.notMem_freshIds rfl)) hok
    obtain rfl := Clock.eq_of_read hr
    obtain rfl := Clock.eq_of_read hr'
    exact ⟨hr, _, hopens, rfl, hkeys.holds hleft⟩
  | extend s' fresh token fingerprint =>
    obtain ⟨rfl, hok⟩ := hissues
    obtain ⟨now', c', old', hr', hv', hget, hopens⟩ := Service.opens_of_extend hok
    obtain ⟨now, c, old, expiry, hr, hv, -, hold, -, hkeys⟩ :=
      s'.extend_effect h.collisionFree hkept.keys (Int.le_refl _) (htexts _ List.mem_cons_self)
        (Service.id_mem_of_extend htexts) (hkept.notMem (h.notMem_freshIds rfl)) hok
    obtain rfl := Clock.eq_of_read hr
    obtain rfl := Clock.eq_of_read hr'
    rw [hv] at hv'
    cases hv'
    rw [hkept.get h.collisionFree (Service.id_mem_of_extend htexts _ hv) hr, hold] at hget
    cases hget
    exact ⟨hr, _, hopens, rfl, hkeys.holds hleft⟩
  | _ => exact hissues.elim

/-- **A step that issues tokens leaves the record of their session.** -/
theorem Lawful.issued (h : Lawful texts x (past ++ [st]))
    (hissues : st.Issues (x.run past) s pair) (hpos : 0 < s.issuer.config.refreshTtl.nanos) :
    st.clock.read = .ok st.instant ∧
      (∃ fresh : Draw, fresh.id = pair.id ∧ s.Signs st.clock fresh pair) ∧
      ∃ r, r.id = pair.id ∧ (x.run (past ++ [st])).Holds st.instant r (s.lapse st.instant) := by
  obtain ⟨hread, r, hopens, -, hr⟩ := h.opened hissues hpos
  obtain ⟨fresh, hid, htokens⟩ := hopens.tokens
  have hsigns := Service.issueTokens_eq_ok htokens
  exact ⟨hread, ⟨fresh, hsigns.id.symm, hsigns⟩, r, hid.symm.trans hsigns.id.symm, hr⟩

end

/-! ## What a check tells -/

/-- What a check tells of a session that a request asked for. -/
def SessionRequest.checked (q : SessionRequest) (id : String) : CheckedSession :=
  ⟨id, q.userId, q.role, q.rwAccess, q.namespaceAccess, q.volumeAccess, q.parentId⟩

namespace Service

/-- Whether a service answers: neither it nor its store is closed, and its work goes on. -/
structure IsOpen (s : Service) (x : Site) : Prop where
  notClosed : s.closed = false
  notCancelled : s.cancelled = false
  storeOpen : x.store.isClosed = false

variable {s : Service} {x : Site} {clock : Clock} {token : String}

theorem IsOpen.ensureLive (h : s.IsOpen x) : s.ensureLive.result = .ok () := by
  rw [Service.ensureLive, h.notClosed, h.notCancelled]
  rfl

/-- **A token that is not verified is invalid**, whatever the client shows. -/
theorem IsOpen.check_of_fault (h : s.IsOpen x) {fault : TokenFault}
    (hverify : s.issuer.verify clock token = .error (.failed fault))
    (userAgent ip fingerprint : String) :
    (s.check x.store clock token userAgent ip fingerprint).result =
      .error (.failed .invalidToken) := by
  have hkind : (s.verifyKind clock token .access).result = .error (.failed .invalidToken) := by
    rw [verifyKind, hverify]
    rfl
  unfold check
  simp only [Traced.result_bind, Traced.result_enter, h.ensureLive, hkind]
  rfl

/-- **An access token that is verified gives its session to the client that shows the session's
address and fingerprint**, and to no other. -/
theorem IsOpen.check_of_find (h : s.IsOpen x) {c : Claims} {r : Record} {q : SessionRequest}
    (hverify : s.issuer.verify clock token = .ok c) (haccess : c.core.kind = .access)
    (hfind : Session.find x.store clock c.core.id = .ok (some r)) (hfollows : r.Follows q)
    (userAgent ip fingerprint : String) :
    (s.check x.store clock token userAgent ip fingerprint).result =
      if r.ip = ip ∧ r.fingerprint = fingerprint then .ok (q.checked r.id)
      else .error (.failed .notOwned) := by
  have hkind : (s.verifyKind clock token .access).result = .ok c := by
    simp only [verifyKind, hverify, mapError_ok, Traced.result_bind, Traced.result_lift,
      Except.bind, haccess, if_true]
    rfl
  have hrecord : (onStore (Session.find x.store clock c.core.id)).result = .ok (some r) :=
    onStore_eq_ok.2 hfind
  unfold check
  simp only [Traced.result_bind, Traced.result_enter, h.ensureLive, hkind, hrecord, Except.bind,
    demandRecord, Traced.result_pure]
  by_cases hshown : r.ip = ip ∧ r.fingerprint = fingerprint
  · have hns : (Grant.load r.namespaceAccess : Course (List Grant)).result =
        .ok q.namespaceAccess := by
      rw [hfollows.namespaceAccess, Grant.load_store]
      rfl
    have hvs : (Grant.load r.volumeAccess : Course (List Grant)).result =
        .ok q.volumeAccess := by
      rw [hfollows.volumeAccess, Grant.load_store]
      rfl
    have hmatch : ¬(decide (r.ip ≠ ip) || decide (r.fingerprint ≠ fingerprint)) = true := by
      simp [hshown]
    rw [if_pos hshown, if_neg hmatch, SessionRequest.checked, ← hfollows.userId, ← hfollows.role,
      ← hfollows.rwAccess, ← hfollows.parentId]
    -- A client on another platform is noted and let through.
    split <;>
      simp only [Traced.result_bind, Traced.result_note, hns, hvs, Except.bind, Traced.result_pure]
  · have hmismatch : (decide (r.ip ≠ ip) || decide (r.fingerprint ≠ fingerprint)) = true := by
      simpa using not_and_or.1 hshown
    rw [if_neg hshown, if_pos hmismatch]
    rfl

/-- **An access token that was signed is told by its second and by the client**, if the store holds
the record of its session until then. -/
theorem IsOpen.check_of_sign {texts : Set String} {ids : List String}
    {kept : Book (Option Instant)} {now t : Instant} (h : s.IsOpen x)
    (hkept : Intact texts ids x now kept) (hc : CollisionFree texts) {signedBy : Clock}
    {r : Record} {q : SessionRequest} {lifetime : Duration} {issued : IssuedToken}
    {salt : Rsa.Salt} (hsign : s.issuer.sign signedBy salt r.id .access lifetime none = .ok issued)
    (hread : signedBy.read = .ok t) (hnow : clock.read = .ok now)
    (hown : s.issuer.keys.AcceptsOwn salt
      (s.issuer.signedPart (s.issuer.claimsFor t r.id .access lifetime none)))
    (hheld : now.seconds < t.seconds + lifetime.seconds → ∃ e, x.Holds now r e)
    (hfollows : r.Follows q) (userAgent ip fingerprint : String) :
    (s.check x.store clock issued.token userAgent ip fingerprint).result =
      if now.seconds < t.seconds + lifetime.seconds then
        if r.ip = ip ∧ r.fingerprint = fingerprint then .ok (q.checked r.id)
        else .error (.failed .notOwned)
      else .error (.failed .invalidToken) := by
  have hverify := Issuer.verify_sign hsign hread hown hnow
  obtain rfl := Clock.eq_of_read hnow
  split
  · next halive =>
    rw [if_pos halive] at hverify
    obtain ⟨e, he⟩ := hheld halive
    have hrecord := hkept.holds_iff.1 he
    obtain ⟨-, hwithin, -⟩ := hkept.keys.sound _ _ _ hrecord
    have hfind : Session.find x.store clock r.id = .ok (some r) := by
      rw [hkept.find hc hwithin.id h.storeOpen hnow, hrecord]
      rfl
    exact h.check_of_find hverify rfl hfind hfollows userAgent ip fingerprint
  · next hlapsed =>
    rw [if_neg hlapsed] at hverify
    exact h.check_of_fault hverify userAgent ip fingerprint

end Service

/-! ## Availability -/

/-- Whether a site honours a pair of tokens of a session at an instant: it holds the record while
one of the tokens is alive, and every open service of the issuer tells what it should of the access
token. -/
structure Site.Honours (x : Site) (clock : Clock) (now issuedAt : Instant) (i : Issuer)
    (pair : TokenPair) (r : Record) (q : SessionRequest) : Prop where
  held : ∀ issued ∈ [pair.access, pair.refresh],
    now.seconds < issuedAt.seconds + issued.lifetime.seconds → ∃ e, x.Holds now r e
  told : ∀ s : Service, s.issuer = i → s.IsOpen x → ∀ userAgent ip fingerprint,
    (s.check x.store clock pair.access.token userAgent ip fingerprint).result =
      if now.seconds < issuedAt.seconds + i.config.accessTtl.seconds then
        if r.ip = ip ∧ r.fingerprint = fingerprint then .ok (q.checked pair.id)
        else .error (.failed .notOwned)
      else .error (.failed .invalidToken)

/-- **A session that no operation ends is there for as long as its tokens**, and a check tells it
from those of other clients and from those that have lapsed. -/
theorem Lawful.honours_until_expiry {texts : Set String} {x : Site} {past future : List Step}
    {st : Step} {s : Service} {pair : TokenPair} {config : IssuerConfig} {keys : TokenKeys}
    (h : Lawful texts x (past ++ st :: future)) (hissuer : Issuer.of config keys = .ok s.issuer)
    (hissues : st.Issues (x.run past) s pair)
    (hown : ∀ salt, s.issuer.keys.AcceptsOwn salt (s.issuer.signedPart
      (s.issuer.claimsFor st.instant pair.id .access s.issuer.config.accessTtl none))) :
    ∃ r q, r.id = pair.id ∧ Lineage x q (past ++ [st]) pair.id ∧ r.Follows q ∧
      (x.run (past ++ [st])).Holds st.instant r (s.lapse st.instant) ∧
      ((x.run (past ++ [st])).Spares future r → ∀ (clock : Clock) (now : Instant),
        (∀ st' ∈ st :: future, st'.clock.nanos ≤ clock.nanos) → clock.read = .ok now →
        (x.run (past ++ st :: future)).Honours clock now st.instant s.issuer pair r q) := by
  obtain ⟨hpos, haccess⟩ := Issuer.lifetimes_of_of hissuer
  have hsteps : past ++ st :: future = past ++ [st] ++ future := List.append_cons past st future
  rw [hsteps] at h ⊢
  have hissued := h.of_append
  obtain ⟨hread, ⟨fresh, hfresh, hsigns⟩, r, hid, hr⟩ := hissued.issued hissues hpos
  obtain ⟨kept, hkept, htrace⟩ := hissued.traceable hissued.until_last
  obtain ⟨q, hq, hfollows⟩ := htrace _ _ _ (hkept.holds_iff.1 hr)
  rw [← hid] at hfresh hown ⊢
  refine ⟨r, q, rfl, hq, hfollows, hr, fun hspares clock now hclock hnow => ?_⟩
  rw [← (Clock.read_eq_ok_iff.1 hnow).1] at hclock
  have hsign := hsigns.access
  rw [hfresh] at hsign
  constructor
  · intro issued hmem halive
    simp only [List.mem_cons, List.not_mem_nil, or_false] at hmem
    obtain rfl | rfl := hmem
    · rw [(Issuer.sign_eq_ok hsign).2] at halive
      exact h.holds_until_expiry hr hspares hclock haccess halive
    · rw [hsigns.lifetime] at halive
      exact h.holds_until_expiry hr hspares hclock (Nat.le_refl _) halive
  · intro s' hs' hopen userAgent ip fingerprint
    have hbefore : ∀ st' ∈ past ++ [st] ++ future, st'.clock.nanos ≤ now.nanos := by
      obtain ⟨hst, hfuture⟩ := List.forall_mem_cons.1 hclock
      rw [List.forall_mem_append]
      exact ⟨fun st' hst' => Int.le_trans (hissued.until_last st' hst') hst, hfuture⟩
    obtain ⟨kept', hkept'⟩ := h.intact hbefore
    have hheld := h.holds_until_expiry hr hspares hclock haccess
    rw [← hs'] at hsign hown hheld ⊢
    rw [← hid]
    exact hopen.check_of_sign hkept' h.collisionFree hsign hread hnow (hown _) hheld hfollows
      userAgent ip fingerprint

namespace Sample

/-- The keys of the small run accept the signature of the second session's access token. -/
theorem acceptsOwn (salt : Rsa.Salt) :
    service.issuer.keys.acceptsOwn salt (service.issuer.signedPart
      (service.issuer.claimsFor ⟨0⟩ "b" .access service.issuer.config.accessTtl none)) = true := by
  rw [TokenKeys.acceptsOwn_of_ne_rsa (by decide) salt (.replicate 64 0)]
  decide +kernel

/-- The second session of the small run is opened. -/
theorem exists_second : ∃ pair,
    (service.create (site.run (opening.take 1)) clock "b" request).outcome.result = .ok pair :=
  exists_eq_ok (by decide +kernel)

/-- A check ends no session. -/
theorem spares_checking (x : Site) (r : Record) : x.Spares [checking] r := by
  rintro (_ | ⟨st', before⟩) st after heq
  · cases heq
    exact id
  · simp at heq

theorem isOpen_checked : service.IsOpen (site.run (opening ++ [checking])) := by
  have hchecked : ∀ x : Site, x.step checking = x := fun _ => rfl
  have hphase : (site.run (opening ++ [checking])).store.phase = .idle := by
    rw [Site.run_concat, hchecked, phase_opening]
    rfl
  refine ⟨rfl, rfl, ?_⟩
  rw [Store.isClosed, hphase]

/-- The second session of the small run is told to the client that shows the address and the
fingerprint, up to the last nanosecond of the token's two hours. -/
theorem honours_second : ∃ pair,
    (service.create (site.run (opening.take 1)) clock "b" request).outcome.result = .ok pair ∧
      (service.check (site.run (opening ++ [checking])).store ⟨7199999999999⟩ pair.access.token ""
        "p" "f").result = .ok (request.checked "b") ∧
      (service.check (site.run (opening ++ [checking])).store ⟨7199999999999⟩ pair.access.token ""
        "q" "f").result = .error (.failed .notOwned) ∧
      (service.check (site.run (opening ++ [checking])).store ⟨7200000000000⟩ pair.access.token ""
        "p" "f").result = .error (.failed .invalidToken) := by
  obtain ⟨pair, hok⟩ := exists_second
  have hrun : Lawful {s | s ∈ texts} site
      (opening.take 1 ++ ⟨clock, .create service "b" request⟩ :: [checking]) := lawful
  have hissuer : Issuer.of service.issuer.config service.issuer.keys = .ok service.issuer := rfl
  obtain ⟨-, -, hsigns, -⟩ := Service.create_eq_ok hok
  have hown : ∀ salt, service.issuer.keys.AcceptsOwn salt (service.issuer.signedPart
      (service.issuer.claimsFor (Step.mk clock (.create service "b" request)).instant pair.id
        .access service.issuer.config.accessTtl none)) := by
    rw [hsigns.id]
    exact fun salt => TokenKeys.acceptsOwn_sound (acceptsOwn salt)
  obtain ⟨r, q, -, hlineage, hfollows, -, hhonours⟩ :=
    Lawful.honours_until_expiry hrun hissuer (Step.issues_create hok) hown
  obtain rfl : q = request := by
    obtain ⟨clock', s', fresh, hmem⟩ := hlineage.descends.exists_create
    simp only [opening, List.take_succ_cons, List.take_zero, List.cons_append, List.nil_append,
      List.mem_cons, List.not_mem_nil, or_false] at hmem
    obtain heq | heq := hmem <;> cases heq <;> rfl
  have hip : r.ip = "p" := hfollows.ip
  have hfingerprint : r.fingerprint = "f" := hfollows.fingerprint
  have halive := (hhonours (spares_checking _ r) ⟨7199999999999⟩ ⟨7199999999999⟩
    (by simp [checking, clock]) rfl).told service rfl isOpen_checked
  have hlapsed := (hhonours (spares_checking _ r) ⟨7200000000000⟩ ⟨7200000000000⟩
    (by simp [checking, clock]) rfl).told service rfl isOpen_checked
  refine ⟨pair, hok, ?_, ?_, ?_⟩
  · refine (halive "" "p" "f").trans ?_
    rw [if_pos (by decide), if_pos ⟨hip, hfingerprint⟩, hsigns.id, Draw.id_unsalted]
  · refine (halive "" "q" "f").trans ?_
    rw [if_pos (by decide), if_neg (by simp [hip])]
  · refine (hlapsed "" "p" "f").trans ?_
    rw [if_neg (by decide)]

end Sample

end SessionTokens
