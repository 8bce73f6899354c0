import SessionTokens.Proofs.Service.Availability
import SessionTokens.Proofs.Session.Size
import SessionTokens.Proofs.Token.Pair
/-!
# A live session can be rotated

**Theorem (`Lawful.rotates_until_expiry`).** As long as a refresh token is alive and no operation
has ended its session, an open service rotates the session for a client that shows its fingerprint,
if and only if the record of the new session is within the size limits of the store. Whatever else
happened since the token was issued makes no difference.

The record of the new session is not always as long as the old one: a timestamp is written with
as few digits as hold its fraction of a second. In a store that took the old record and has the
same limits still, the new one fits if its id and its timestamp are written no longer
(`Renews.of_no_longer`). But one that was opened on the full second may be rotated in the middle of
another, and then its record can be too long (`Sample.rotation_tooLarge`).

**What it takes.** The service has to be open and the clock readable, the new record has to lapse
within the calendar, snapshots have to be written, and the keys have to accept what they sign.
-/

namespace SessionTokens

open Session

/-! ## Whose turn it is -/

/-- Whether nobody holds the writer's turn of a store. -/
def Site.Free (x : Site) : Prop := ∀ p, x.store.phase ≠ .writing p

namespace Site.Free

variable {x y : Site}

theorem of_eq (h : x.Free) (hphase : y.store.phase = x.store.phase) : y.Free :=
  fun p => hphase ▸ h p

theorem of_idle (h : x.store.phase = .idle) : x.Free := fun p => by simp [h]

theorem idle (h : x.Free) (hopen : x.store.isClosed = false) : x.store.phase = .idle := by
  unfold Store.isClosed at hopen
  cases hphase : x.store.phase with
  | idle => rfl
  | writing p => exact absurd hphase (h p)
  | closed => simp [hphase] at hopen

theorem close (h : x.Free) (clock : Clock) : (x.close clock).site.Free := by
  unfold Site.close
  split
  · exact h
  · exact h
  · exact nofun
  · exact h
  · exact nofun

theorem reopen (h : x.Free) (clock : Clock) (limits : Limits) : (x.reopen clock limits).Free := by
  unfold Site.reopen
  split
  · exact h
  · split
    · next store hopen =>
      simp only [openFile, Traced.result_bind, bind_eq_ok, Traced.result_pure] at hopen
      obtain ⟨_, -, _, -, _, -, _, -, hstore⟩ := hopen
      cases hstore
      exact .of_idle rfl
    · exact h

/-- **A step leaves the turn to everybody.** -/
theorem step (h : x.Free) (st : Step) : (x.step st).Free := by
  obtain ⟨clock, action⟩ := st
  cases action with
  | create s fresh q => exact h.of_eq (x.phase_perform clock _ _ _)
  | extend s fresh token fingerprint => exact h.of_eq (x.phase_perform clock _ _ _)
  | check s token userAgent ip fingerprint => exact h
  | list s userId => exact h
  | delete s id userId => exact h.of_eq (x.phase_perform clock _ _ _)
  | deleteUser s userId => exact h.of_eq (x.phase_perform clock _ _ _)
  | close s =>
    show (s.close x clock).2.site.Free
    unfold Service.close
    split
    · exact h
    · exact h.close clock
  | sweep => exact h.of_eq (x.store.phase_tick clock)
  | reopen limits => exact h.reopen clock limits
  | disturb files => exact h.of_eq (by rw [Site.step, store_disturb])

theorem run (h : x.Free) (steps : List Step) : (x.run steps).Free := by
  induction steps generalizing x with
  | nil => exact h
  | cons st rest ih => exact ih (h.step st)

end Site.Free

/-! ## A single rotation -/

/-- Whether the keys of an issuer make and accept the signatures of the tokens of a record,
whatever their salts. -/
structure Issuer.Accepts (i : Issuer) (now : Instant) (r : Record) : Prop where
  refresh : ∀ salt, i.keys.acceptsOwn salt (i.signedPart (i.claimsFor now r.id .refresh
    i.config.refreshTtl (some (.of r.userId r.role r.parentId)))) = true
  access : ∀ salt, i.keys.acceptsOwn salt
    (i.signedPart (i.claimsFor now r.id .access i.config.accessTtl none)) = true

/-- The tokens of a record depend on what its request asked for. -/
theorem Issuer.Accepts.of_follows {i : Issuer} {now : Instant} {r r' : Record} {q : SessionRequest}
    (h : i.Accepts now r) (hid : r'.id = r.id) (hr : r.Follows q) (hr' : r'.Follows q) :
    i.Accepts now r' := by
  obtain ⟨hrefresh, haccess⟩ := h
  rw [← hid, hr.userId, hr.role, hr.parentId] at hrefresh
  constructor
  · rw [hr'.userId, hr'.role, hr'.parentId]
    exact hrefresh
  · exact hid ▸ haccess

namespace Service

variable {texts : Set String} {ids : List String} {s : Service} {x : Site} {clock : Clock}
  {now t : Instant} {r : Record} {e : Option Instant} {pair : TokenPair}

/-- Whether nothing around a service stands in the way of a rotation: it is open, the clock can be
read, a session that is opened now lapses within the calendar, and snapshots are written. -/
structure Ready (s : Service) (x : Site) (clock : Clock) (now : Instant) : Prop where
  isOpen : s.IsOpen x
  read : clock.read = .ok now
  inRange : (Instant.mk (now.nanos + s.issuer.config.refreshTtl.nanos)).inRange = true
  saves : ∀ p : Pending, x.CanSave now p.find?

/-- **What is stored for a session that was opened fits.** -/
theorem Opens.fitsIn (h : s.Opens x clock pair r) (hread : clock.read = .ok now) :
    r.FitsIn x.store.limits := by
  obtain ⟨tx, hputs, hstored⟩ := h.stored
  have hopen : x.store.isClosed = false := by rw [Store.isClosed, h.idle]
  have haccepted := (Site.apply_eq_ok_iff hopen hread).1 hstored
  have hall := (allAcceptable_insert_iff hputs).1 haccepted.1
  exact fun b hb => ⟨(hall b hb).key, (hall b hb).value⟩

/-- The refresh token of a session is verified until it lapses, and then names the session. -/
theorem Opens.verify_refresh (h : s.Opens x clock pair r) (hread : clock.read = .ok t)
    (haccepts : s.issuer.Accepts t r) {later : Clock} (hlater : later.read = .ok now)
    (halive : now.seconds < t.seconds + s.issuer.config.refreshTtl.seconds) :
    s.issuer.verify later pair.refresh.token = .ok (s.issuer.claimsFor t r.id .refresh
      s.issuer.config.refreshTtl (some (.of r.userId r.role r.parentId))) := by
  obtain ⟨fresh, hid, hissue⟩ := h.tokens
  rw [issueTokens, Traced.result_mapError, mapError_eq_ok, Issuer.issue_eq_ok, hid] at hissue
  have hown := TokenKeys.acceptsOwn_sound (haccepts.refresh fresh.refreshSalt)
  rw [Issuer.verify_sign hissue.1 hread hown hlater, if_pos halive]

/-- Tokens that lapse within the calendar can be issued. -/
theorem Ready.exists_issueTokens (h : s.Ready x clock now)
    (hle : s.issuer.config.accessTtl.seconds ≤ s.issuer.config.refreshTtl.seconds)
    (haccepts : s.issuer.Accepts now r) {fresh : Draw} (hid : fresh.id = r.id) :
    ∃ pair, (s.issueTokens clock fresh (.of r.userId r.role r.parentId)).result = .ok pair := by
  have hrange := h.inRange
  simp only [Instant.inRange, Bool.and_eq_true, decide_eq_true_eq] at hrange
  have hfits : now.seconds + s.issuer.config.refreshTtl.seconds ≤ Issuer.maxSeconds := by
    have hlatest : Instant.latest.nanos = 8210266876799999999999 := rfl
    simp only [Instant.seconds, Duration.seconds, nanosPerSecond, Issuer.maxSeconds]
    omega
  obtain ⟨refresh, hrefresh⟩ := Issuer.exists_sign_of_le h.read hfits
    (haccepts.refresh fresh.refreshSalt)
  obtain ⟨access, haccess⟩ := Issuer.exists_sign_of_le h.read (by omega)
    (haccepts.access fresh.accessSalt)
  refine ⟨⟨access, refresh⟩, ?_⟩
  rw [← hid] at hrefresh haccess
  rw [issueTokens, Traced.result_mapError, mapError_eq_ok]
  exact Issuer.issue_eq_ok.2 ⟨hrefresh, haccess⟩

theorem verifyKind_of_verify {token : String} {c : Claims}
    (hverify : s.issuer.verify clock token = .ok c) :
    (s.verifyKind clock token c.core.kind).result = .ok c := by
  simp only [verifyKind, hverify, mapError_ok, Traced.result_bind, Traced.result_lift, Except.bind,
    if_true, Traced.result_pure]

/-- The extension of a session's own refresh token passes for it. -/
theorem checkOwner_of_ext {c : Claims} (hext : c.ext = some (.of r.userId r.role r.parentId)) :
    (checkOwner c r).result = .ok () := by
  rw [checkOwner_eq_ok, hext]
  rintro _ ⟨⟩
  rfl

theorem checkFingerprint_self (r : Record) :
    (checkFingerprint r r.fingerprint).result = .ok () := checkFingerprint_eq_ok.2 rfl

/-- What is answered to a rotation whose token and client are those of a session. -/
theorem IsOpen.extend_result (h : s.IsOpen x) (hidle : x.store.phase = .idle)
    (hread : clock.read = .ok now) {token : String} {fresh : Draw} {c : Claims}
    (hverify : s.issuer.verify clock token = .ok c) (hkind : c.core.kind = .refresh)
    (hext : c.ext = some (.of r.userId r.role r.parentId))
    (hget : Session.get (x.store.reader clock) c.core.id = .ok (some r)) {tx : Txn}
    {evicted : List Record}
    (hremoval : (removal (Session.evict (Session.remove (x.store.reader clock) r)
      r.identity)).result = .ok (tx, evicted))
    (hissue : (s.issueTokens clock fresh (.of r.userId r.role r.parentId)).result = .ok pair) :
    (s.extend x clock fresh token r.fingerprint).outcome.result =
      ((x.apply clock (Session.insert tx (rotated r fresh.id now)
        s.issuer.config.refreshTtl).pending).outcome.result.mapError (Halt.map .storage)).map
          fun _ => pair := by
  have hsigns := issueTokens_eq_ok hissue
  have hstart := verifyKind_of_verify hverify
  rw [hkind] at hstart
  have hrecord : (onStore (Session.get (x.store.reader clock) c.core.id)).result =
      .ok (some r) := onStore_eq_ok.2 hget
  unfold extend
  dsimp only
  rw [Site.perform_result_of_idle hidle (a := c)]
  · simp only [Traced.result_bind, hrecord, Except.bind, demandRecord, Traced.result_pure,
      checkOwner_of_ext hext, checkFingerprint_self, hremoval, hissue, Traced.result_lift, hread,
      Halt.ofAbort_ok, hsigns.id, hsigns.lifetime]
    rfl
  · simp only [Traced.result_bind, Traced.result_enter, h.ensureLive, Except.bind, hstart]

/-- **A session that is held can be rotated with its refresh token exactly if what is stored for
the new session fits.** -/
theorem Ready.extend_ok_iff {kept : Book (Option Instant)} (h : s.Ready x clock now)
    (hfree : x.Free) (hkept : Intact texts ids x ⟨clock.nanos⟩ kept) (hc : CollisionFree texts)
    (hr : x.Holds now r e) {token : String} {fresh : Draw} {c : Claims}
    (hverify : s.issuer.verify clock token = .ok c) (hkind : c.core.kind = .refresh)
    (hid : c.core.id = r.id) (hext : c.ext = some (.of r.userId r.role r.parentId))
    (hle : s.issuer.config.accessTtl.seconds ≤ s.issuer.config.refreshTtl.seconds)
    (haccepts : s.issuer.Accepts now (rotated r fresh.id now)) :
    (∃ pair, (s.extend x clock fresh token r.fingerprint).outcome.result = .ok pair) ↔
      (rotated r fresh.id now).FitsIn x.store.limits := by
  obtain rfl := Clock.eq_of_read h.read
  have hrecord := hkept.holds_iff.1 hr
  obtain ⟨-, hwithin, -⟩ := hkept.keys.sound _ _ _ hrecord
  have hget : Session.get (x.store.reader clock) r.id = .ok (some r) := by
    rw [hkept.get hc hwithin.id h.read, hrecord]
    rfl
  obtain ⟨tx, evicted, hremoval, hputs⟩ :=
    removal_evict_remove (hkept.keys.shows_reader h.read) hc hwithin.id hget
  obtain ⟨pair, hissue⟩ : ∃ pair,
      (s.issueTokens clock fresh (.of r.userId r.role r.parentId)).result = .ok pair :=
    h.exists_issueTokens hle haccepts rfl
  have hidle := hfree.idle h.isOpen.storeOpen
  have hpos : 0 ≤ clock.nanos := (Clock.read_eq_ok_iff.1 h.read).2.1
  have hresult := h.isOpen.extend_result hidle h.read hverify hkind hext (hid ▸ hget) hremoval
    hissue
  have hstored : (x.apply clock (Session.insert tx (rotated r fresh.id ⟨clock.nanos⟩)
      s.issuer.config.refreshTtl).pending).outcome.result = .ok () ↔
        (rotated r fresh.id ⟨clock.nanos⟩).FitsIn x.store.limits := by
    rw [Site.apply_eq_ok_iff h.isOpen.storeOpen h.read, allAcceptable_insert_iff hputs]
    simp only [acceptable_iff hpos h.inRange, h.saves, and_true, Record.FitsIn]
  rw [hresult, ← hstored]
  generalize (x.apply clock (Session.insert tx (rotated r fresh.id ⟨clock.nanos⟩)
    s.issuer.config.refreshTtl).pending).outcome.result = stored
  cases stored with
  | error e => simp [mapError_error, Except.map]
  | ok u => simp [mapError_ok, Except.map]

end Service

/-! ## Rotations in a run -/

/-- How a service answers at a site when a client asks it to rotate the session of a record, with
its refresh token and its fingerprint: it does so exactly if what is stored for the new session
fits. That is certain if the store has the limits under which it took the old record, and the new
id and the new timestamp are written no longer than the old ones. -/
structure Site.Renews (x : Site) (s : Service) (clock : Clock) (now : Instant) (limits : Limits)
    (pair : TokenPair) (r : Record) (fresh : Draw) : Prop where
  ok_iff : (∃ pair', (s.extend x clock fresh pair.refresh.token r.fingerprint).outcome.result =
    .ok pair') ↔ (Service.rotated r fresh.id now).FitsIn x.store.limits
  of_no_longer : x.store.limits = limits →
    (Json.text fresh.id).render.length ≤ (Json.text r.id).render.length →
    (Timestamp.ofInstant now).write.length ≤ r.createdAt.write.length →
    ∃ pair', (s.extend x clock fresh pair.refresh.token r.fingerprint).outcome.result = .ok pair'

/-- **A live session can be rotated if and only if the record of the new one fits**, whatever has
happened since its tokens were issued. -/
theorem Lawful.rotates_until_expiry {texts : Set String} {x : Site} {past future : List Step}
    {st : Step} {s : Service} {pair : TokenPair} {config : IssuerConfig} {keys : TokenKeys}
    (h : Lawful texts x (past ++ st :: future)) (hissuer : Issuer.of config keys = .ok s.issuer)
    (hissues : st.Issues (x.run past) s pair) :
    ∃ r q, r.id = pair.id ∧ Lineage x q (past ++ [st]) pair.id ∧ r.Follows q ∧
      r.createdAt = .ofInstant st.instant ∧
      (x.run (past ++ [st])).Holds st.instant r (s.lapse st.instant) ∧
      (s.issuer.Accepts st.instant r → (x.run (past ++ [st])).Spares future r →
        ∀ (s' : Service) (clock : Clock) (now : Instant) (fresh : Draw),
          s'.issuer = s.issuer → s'.Ready (x.run (past ++ st :: future)) clock now →
          (∀ st' ∈ st :: future, st'.clock.nanos ≤ clock.nanos) →
          now.seconds < st.instant.seconds + s.issuer.config.refreshTtl.seconds →
          s.issuer.Accepts now (Service.rotated r fresh.id now) →
          (x.run (past ++ st :: future)).Renews s' clock now (x.run past).store.limits pair r
            fresh) := by
  obtain ⟨hpos, -⟩ := Issuer.lifetimes_of_of hissuer
  have hsteps : past ++ st :: future = past ++ [st] ++ future := List.append_cons past st future
  rw [hsteps] at h ⊢
  have hissued := h.of_append
  obtain ⟨hread, r, hopens, hcreated, hr⟩ := hissued.opened hissues hpos
  obtain ⟨drawn, hdrawn, htokens⟩ := hopens.tokens
  have hid := (Service.issueTokens_eq_ok htokens).id.trans hdrawn
  obtain ⟨kept, hkept, htrace⟩ := hissued.traceable hissued.until_last
  obtain ⟨q, hq, hfollows⟩ := htrace _ _ _ (hkept.holds_iff.1 hr)
  refine ⟨r, q, hid.symm, hid ▸ hq, hfollows, hcreated, hr, ?_⟩
  intro haccepts hspares s' clock now fresh hs' hready hclock halive haccepts'
  obtain rfl := Clock.eq_of_read hready.read
  -- The record is still there, and it is nobody's turn.
  obtain ⟨e, he⟩ := h.holds_until_expiry hr hspares hclock (Nat.le_refl _) halive
  have hbefore : ∀ st' ∈ past ++ [st] ++ future, st'.clock.nanos ≤ clock.nanos := by
    obtain ⟨hst, hfuture⟩ := List.forall_mem_cons.1 hclock
    rw [List.forall_mem_append]
    exact ⟨fun st' hst' => Int.le_trans (hissued.until_last st' hst') hst, hfuture⟩
  obtain ⟨kept', hkept'⟩ := h.intact (t := ⟨clock.nanos⟩) hbefore
  have hfree : (x.run (past ++ [st] ++ future)).Free := by
    rw [List.append_assoc, Site.run_append]
    exact (Site.Free.of_idle hopens.idle).run _
  have hverify := hopens.verify_refresh hread haccepts hready.read halive
  have hle := Issuer.accessSeconds_le hissuer
  rw [← hs'] at hverify hle haccepts'
  have hiff := hready.extend_ok_iff hfree hkept' h.collisionFree he hverify rfl rfl rfl hle
    haccepts'
  refine ⟨hiff, fun hlimits hfresh hwrite => hiff.2 ?_⟩
  rw [hlimits]
  exact (hopens.fitsIn hread).renewed hfresh hwrite

namespace Sample

/-- The last full second of the second session's refresh token. -/
def lastSecond : Clock := ⟨172799000000000⟩

theorem accepts_second : service.issuer.Accepts ⟨0⟩ (request.record "b" ⟨0⟩) := by
  refine ⟨fun salt => ?_, acceptsOwn⟩
  rw [TokenKeys.acceptsOwn_of_ne_rsa (by decide) salt (.replicate 64 0)]
  decide +kernel

theorem ready_checked :
    service.Ready (site.run (opening ++ [checking])) lastSecond ⟨lastSecond.nanos⟩ := by
  refine ⟨isOpen_checked, rfl, by decide, fun p path hpath => ?_⟩
  rw [medium_run rfl] at hpath
  cases hpath

/-- The second session of the small run can be rotated up to the last second of its refresh
token. -/
theorem rotates_second : ∃ pair pair',
    (service.create (site.run (opening.take 1)) clock "b" request).outcome.result = .ok pair ∧
      (service.extend (site.run (opening ++ [checking])) lastSecond "c" pair.refresh.token
        "f").outcome.result = .ok pair' := by
  obtain ⟨pair, hok⟩ := exists_second
  have hrun : Lawful {s | s ∈ texts} site
      (opening.take 1 ++ ⟨clock, .create service "b" request⟩ :: [checking]) := lawful
  have hissuer : Issuer.of service.issuer.config service.issuer.keys = .ok service.issuer := rfl
  obtain ⟨-, -, hsigns, -⟩ := Service.create_eq_ok hok
  obtain ⟨r, q, hid, hlineage, hfollows, hcreated, -, hrotates⟩ :=
    Lawful.rotates_until_expiry hrun hissuer (Step.issues_create hok)
  rw [hsigns.id] at hid
  obtain rfl : q = request := by
    obtain ⟨clock', s', fresh, hmem⟩ := hlineage.descends.exists_create
    simp only [opening, List.take_succ_cons, List.take_zero, List.cons_append, List.nil_append,
      List.mem_cons, List.not_mem_nil, or_false] at hmem
    obtain heq | heq := hmem <;> cases heq <;> rfl
  have haccepts : service.issuer.Accepts ⟨lastSecond.nanos⟩ (request.record "c" ⟨0⟩) := by
    constructor <;> intro salt <;>
      rw [TokenKeys.acceptsOwn_of_ne_rsa (by decide) salt (.replicate 64 0)] <;>
      decide +kernel
  have hanswer := hrotates (accepts_second.of_follows hid (request.follows_record _ _) hfollows)
    (spares_checking _ r) service lastSecond ⟨lastSecond.nanos⟩ "c" rfl ready_checked
    (by simp [checking, clock, lastSecond]) (by decide)
    (haccepts.of_follows rfl (request.follows_record _ _) (hfollows.rotated _ _))
  have hclients : ∀ st ∈ opening.take 1 ++ ⟨clock, .create service "b" request⟩ :: [checking],
      st.action.OfClient := by simp [opening, checking, Action.OfClient]
  have hlimits := (limits_run_of_client site hclients).trans (limits_run_of_client site
    fun st hst => hclients st (List.mem_append_left _ hst)).symm
  obtain ⟨pair', hrotated⟩ := hanswer.of_no_longer hlimits (by rw [hid]; decide +kernel)
    (by rw [hcreated]; decide +kernel)
  rw [hfollows.fingerprint] at hrotated
  exact ⟨pair, pair', hok, hrotated⟩

/-- A store that takes values just as long as the record of a session that is opened on the full
second. -/
def tightSite : Site :=
  ⟨.inMemory { Limits.default with value := 279, value_pos := by decide }, .empty⟩

/-- A session is opened. -/
def tightOpening : List Step := [⟨clock, .create service "b" request⟩]

/-- The record of the session. -/
abbrev tightRecord : Record := request.record "b" ⟨clock.nanos⟩

/-- **A live session cannot always be rotated.** A millisecond after it was opened, the timestamp of
the new session takes three more digits and a point, so its record is too long. -/
theorem rotation_tooLarge : ∃ pair,
    (service.create tightSite clock "b" request).outcome.result = .ok pair ∧
      service.Ready (tightSite.run tightOpening) ⟨1000000⟩ ⟨1000000⟩ ∧
      (Instant.mk 1000000).seconds <
        (Instant.mk clock.nanos).seconds + service.issuer.config.refreshTtl.seconds ∧
      (service.extend (tightSite.run tightOpening) ⟨1000000⟩ "c" pair.refresh.token
        "f").outcome.result = .error (.failed (.storage (.tooLarge .value 283 279))) := by
  obtain ⟨pair, hok⟩ : ∃ pair,
      (service.create tightSite clock "b" request).outcome.result = .ok pair :=
    exists_eq_ok (by decide +kernel)
  obtain ⟨now, hread, hopens⟩ := Service.opens_of_create hok
  obtain rfl := Clock.eq_of_read hread
  have hphase : (tightSite.run tightOpening).store.phase = .idle := by
    simp only [tightOpening, Site.run, List.foldl_cons, List.foldl_nil, Site.step, Service.create,
      Site.phase_perform]
    rfl
  have hready : service.Ready (tightSite.run tightOpening) ⟨1000000⟩ ⟨1000000⟩ := by
    refine ⟨⟨rfl, rfl, by rw [Store.isClosed, hphase]⟩, rfl, by decide, fun p path hpath => ?_⟩
    rw [medium_run rfl] at hpath
    cases hpath
  have hverify := hopens.verify_refresh hread accepts_second hready.read (by decide)
  obtain ⟨pair', hissue⟩ : ∃ pair',
      (service.issueTokens ⟨1000000⟩ "c" (.of "u" "" none)).result = .ok pair' :=
    exists_eq_ok (by decide +kernel)
  obtain ⟨hget, hevicted, hstored⟩ :
      Session.get ((tightSite.run tightOpening).store.reader ⟨1000000⟩) "b" =
          .ok (some tightRecord) ∧
        (Session.evict (Session.remove ((tightSite.run tightOpening).store.reader ⟨1000000⟩)
          tightRecord) tightRecord.identity).2.result = .ok [] ∧
        ((tightSite.run tightOpening).apply ⟨1000000⟩ (Session.insert
          (Session.evict (Session.remove ((tightSite.run tightOpening).store.reader ⟨1000000⟩)
            tightRecord) tightRecord.identity).1
          (Service.rotated tightRecord "c" ⟨1000000⟩)
          service.issuer.config.refreshTtl).pending).outcome.result =
            .error (.failed (.tooLarge .value 283 279)) := by decide +kernel
  have hremoval := Service.removal_eq hevicted
  have hanswer := hready.isOpen.extend_result hphase hready.read hverify rfl rfl hget hremoval
    hissue
  refine ⟨pair, hok, hready, by decide, hanswer.trans ?_⟩
  rw [Draw.id_unsalted, Draw.id_unsalted, hstored]
  rfl

end Sample

end SessionTokens
