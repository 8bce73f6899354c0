import SessionTokens.Proofs.Session.Operations
import SessionTokens.Proofs.Store.Durable
import SessionTokens.Proofs.Token.Issued
import SessionTokens.Service.Basic
/-!
# What the operations of the service do

Each operation that changes sessions is taken apart here once: what has to hold for it to succeed,
and what it does to the book of sessions that the store's keys represent.

* `create_effect`, `extend_effect`: **the new session takes the place of all sessions of its
  identity**, and rotation also removes the session of the token.
* `delete_effect`, `deleteUser_effect`: the sessions that are revoked are gone, all others stay.

An operation that fails leaves the store as it was.
-/

namespace SessionTokens

open Session

/-! ## Success -/

/-- **What a successful operation has gone through.** -/
theorem Site.perform_eq_ok {ε α β : Type} {x : Site} {clock : Clock} {lift : StorageError → ε}
    {start : Traced (Halt ε) β} {plan : β → Txn → Traced (Halt ε) (Plan α)} {a : α}
    (h : (x.perform clock lift start plan).outcome.result = .ok a) :
    ∃ b p, start.result = .ok b ∧ x.store.phase = .idle ∧
      (plan b (x.store.reader clock)).result = .ok p ∧ p.answer = a ∧
      (x.apply clock p.pending).outcome.result = .ok () ∧
      (x.perform clock lift start plan).site = (x.apply clock p.pending).site := by
  unfold perform at h ⊢
  cases hs : start.result with
  | error e => simp [hs] at h
  | ok b =>
    cases hp : x.store.phase with
    | writing q => simp [hs, hp] at h
    | closed => simp [hs, hp] at h
    | idle =>
      simp only [hs, hp] at h ⊢
      cases hplan : (plan b ⟨x.store.entries, clock, ∅⟩).result with
      | error e => simp [hplan] at h
      | ok p =>
        simp only [hplan] at h ⊢
        cases ha : (x.apply clock p.pending).outcome.result with
        | error e => simp [ha] at h
        | ok u =>
          simp only [ha] at h ⊢
          exact ⟨b, p, rfl, trivial, hplan, Except.ok.inj h, ha, rfl⟩

namespace Service

variable {s : Service} {x : Site} {clock : Clock} {now : Instant} {token : String}

/-- Whether the tokens of a pair were signed with what was drawn for their session, each for its
lifetime. -/
structure Signs (s : Service) (clock : Clock) (fresh : Draw) (pair : TokenPair) : Prop where
  access : s.issuer.sign clock fresh.accessSalt fresh.id .access s.issuer.config.accessTtl none =
    .ok pair.access
  refresh : ∃ ext, s.issuer.sign clock fresh.refreshSalt fresh.id .refresh
    s.issuer.config.refreshTtl ext = .ok pair.refresh

/-- The tokens of a session have its id. -/
theorem Signs.id {fresh : Draw} {pair : TokenPair} (h : s.Signs clock fresh pair) :
    pair.id = fresh.id := by
  obtain ⟨ext, hr⟩ := h.refresh
  exact (Issuer.sign_eq_ok hr).1

theorem Signs.lifetime {fresh : Draw} {pair : TokenPair} (h : s.Signs clock fresh pair) :
    pair.refresh.lifetime = s.issuer.config.refreshTtl := by
  obtain ⟨ext, hr⟩ := h.refresh
  exact (Issuer.sign_eq_ok hr).2

theorem issueTokens_eq_ok {fresh : Draw} {ext : Extension} {pair : TokenPair}
    (h : (s.issueTokens clock fresh ext).result = .ok pair) : s.Signs clock fresh pair := by
  rw [issueTokens, Traced.result_mapError, mapError_eq_ok, Issuer.issue_eq_ok] at h
  exact ⟨h.2, some ext, h.1⟩

theorem verifyKind_eq_ok {kind : TokenKind} {c : Claims}
    (h : (s.verifyKind clock token kind).result = .ok c) :
    s.issuer.verify clock token = .ok c ∧ c.core.kind = kind := by
  unfold verifyKind at h
  simp only [Traced.result_bind, Traced.result_lift, bind_eq_ok, mapError_eq_ok] at h
  obtain ⟨c', hv, h⟩ := h
  split at h
  · next hk =>
    cases h
    exact ⟨hv, hk⟩
  · cases h

theorem demandRecord_eq_ok {r? : Option Record} {r : Record}
    (h : (demandRecord r?).result = .ok r) : r? = some r := by
  cases r? with
  | none => cases h
  | some r' =>
    cases h
    rfl

theorem onStore_eq_ok {α : Type} {r : Outcome α} {a : α} :
    (onStore r).result = .ok a ↔ r = .ok a := mapError_eq_ok

theorem removal_eq_ok {r : Txn × Traced (Halt StorageError) (List Record)}
    {done : Txn × List Record} (h : (removal r).result = .ok done) : done.1 = r.1 := by
  simp only [removal, Traced.result_bind, bind_eq_ok] at h
  obtain ⟨rs, -, h⟩ := h
  cases h
  rfl

/-- What a successful check has gone through. -/
theorem check_eq_ok {store : Store} {userAgent ip fingerprint : String} {cs : CheckedSession}
    (h : (s.check store clock token userAgent ip fingerprint).result = .ok cs) :
    ∃ c r, s.issuer.verify clock token = .ok c ∧ c.core.kind = .access ∧
      Session.find store clock c.core.id = .ok (some r) ∧ r.ip = ip ∧
      r.fingerprint = fingerprint ∧
      (Grant.load r.namespaceAccess : Course (List Grant)).result = .ok cs.namespaceAccess ∧
      (Grant.load r.volumeAccess : Course (List Grant)).result = .ok cs.volumeAccess ∧
      cs.id = r.id ∧ cs.userId = r.userId ∧ cs.role = r.role ∧ cs.rwAccess = r.rwAccess ∧
      cs.parentId = r.parentId := by
  unfold check at h
  simp only [Traced.result_bind, Traced.result_enter, bind_eq_ok, onStore_eq_ok] at h
  obtain ⟨_, -, _, -, c, hverify, r?, hfind, r, hr, h⟩ := h
  obtain ⟨hv, hkind⟩ := verifyKind_eq_ok hverify
  obtain rfl := demandRecord_eq_ok hr
  split at h
  · simp only [Traced.result_bind, bind_eq_ok] at h
    obtain ⟨_, -, _, hrefuse, -⟩ := h
    cases hrefuse
  · next hmatch =>
    have hsignals : r.ip = ip ∧ r.fingerprint = fingerprint := by simpa using hmatch
    have hloaded : ∃ ns vs, (Grant.load r.namespaceAccess : Course (List Grant)).result = .ok ns ∧
        (Grant.load r.volumeAccess : Course (List Grant)).result = .ok vs ∧
        (⟨r.id, r.userId, r.role, r.rwAccess, ns, vs, r.parentId⟩ : CheckedSession) = cs := by
      split at h <;> simp only [Traced.result_bind, Traced.result_pure, bind_eq_ok,
        Except.ok.injEq] at h
      · obtain ⟨_, -, ns, hns, vs, hvs, hcs⟩ := h
        exact ⟨ns, vs, hns, hvs, hcs⟩
      · obtain ⟨ns, hns, vs, hvs, hcs⟩ := h
        exact ⟨ns, vs, hns, hvs, hcs⟩
    obtain ⟨ns, vs, hns, hvs, rfl⟩ := hloaded
    exact ⟨c, r, hv, hkind, hfind, hsignals.1, hsignals.2, hns, hvs, rfl, rfl, rfl, rfl, rfl⟩

/-! ## What is written -/

/-- What opening a session writes: the sessions of its identity are evicted, then it is inserted. -/
def createTxn (s : Service) (x : Site) (clock : Clock) (r : Record) : Txn :=
  Session.insert (Session.evict (x.store.reader clock) r.identity).1 r s.issuer.config.refreshTtl

theorem create_eq_ok {fresh : Draw} {q : SessionRequest} {pair : TokenPair}
    (h : (s.create x clock fresh q).outcome.result = .ok pair) :
    ∃ now, clock.read = .ok now ∧ s.Signs clock fresh pair ∧
      (x.apply clock (s.createTxn x clock (q.record fresh.id now)).pending).outcome.result =
        .ok () ∧
      (s.create x clock fresh q).site =
        (x.apply clock (s.createTxn x clock (q.record fresh.id now)).pending).site ∧
      x.store.phase = .idle ∧
      (s.issueTokens clock fresh (.of q.userId q.role q.parentId)).result = .ok pair := by
  obtain ⟨pair', p, hstart, hidle, hplan, hanswer, hok, hsite⟩ := Site.perform_eq_ok h
  simp only [Traced.result_bind, Traced.result_enter, bind_eq_ok] at hstart
  obtain ⟨_, -, _, -, hissue⟩ := hstart
  have hsigns := issueTokens_eq_ok hissue
  simp only [Traced.result_bind, Traced.result_lift, bind_eq_ok, Halt.ofAbort_eq_ok,
    Traced.result_pure] at hplan
  obtain ⟨now, hnow, ⟨t, evicted⟩, hevict, hp⟩ := hplan
  obtain rfl : t = _ := removal_eq_ok hevict
  cases hp
  subst hanswer
  rw [hsigns.id, hsigns.lifetime] at hok hsite
  exact ⟨now, hnow, hsigns, hok, hsite, hidle, hissue⟩

/-- The session that a rotation leaves: it has a new id and a new beginning. -/
def rotated (old : Record) (id : String) (now : Instant) : Record :=
  { old with id := id, createdAt := Timestamp.ofInstant now }

/-- What a rotation writes: the old session is removed, those of its identity are evicted, then
the new one is inserted. -/
def extendTxn (s : Service) (x : Site) (clock : Clock) (old r : Record) : Txn :=
  Session.insert (Session.evict (Session.remove (x.store.reader clock) old) old.identity).1 r
    s.issuer.config.refreshTtl

/-- A refresh token passes for a session of which its extension, if it has one, names the user. -/
theorem checkOwner_eq_ok {c : Claims} {old : Record} :
    (checkOwner c old).result = .ok () ↔ ∀ e ∈ c.ext, e.userIdHash = hashUserId old.userId := by
  unfold checkOwner
  cases c.ext with
  | none => simp
  | some e => by_cases howner : e.userIdHash = hashUserId old.userId <;>
      simp [howner, refuse, Except.bind]

theorem checkFingerprint_eq_ok {old : Record} {fingerprint : String} :
    (checkFingerprint old fingerprint).result = .ok () ↔ old.fingerprint = fingerprint := by
  unfold checkFingerprint
  by_cases hshown : old.fingerprint = fingerprint <;>
    simp [hshown, refuse, Except.bind]

theorem extend_eq_ok {fresh : Draw} {fingerprint : String} {pair : TokenPair}
    (h : (s.extend x clock fresh token fingerprint).outcome.result = .ok pair) :
    ∃ now c old, clock.read = .ok now ∧ s.issuer.verify clock token = .ok c ∧
      c.core.kind = .refresh ∧ Session.get (x.store.reader clock) c.core.id = .ok (some old) ∧
      s.Signs clock fresh pair ∧
      (x.apply clock (s.extendTxn x clock old (rotated old fresh.id now)).pending).outcome.result =
        .ok () ∧
      (s.extend x clock fresh token fingerprint).site =
        (x.apply clock (s.extendTxn x clock old (rotated old fresh.id now)).pending).site ∧
      x.store.phase = .idle ∧
      (s.issueTokens clock fresh (.of old.userId old.role old.parentId)).result = .ok pair ∧
      (∀ e ∈ c.ext, e.userIdHash = hashUserId old.userId) ∧ old.fingerprint = fingerprint := by
  obtain ⟨c, p, hstart, hidle, hplan, hanswer, hok, hsite⟩ := Site.perform_eq_ok h
  simp only [Traced.result_bind, Traced.result_enter, bind_eq_ok] at hstart
  obtain ⟨_, -, _, -, hverify⟩ := hstart
  obtain ⟨hv, hkind⟩ := verifyKind_eq_ok hverify
  simp only [Traced.result_bind, Traced.result_lift, bind_eq_ok, Halt.ofAbort_eq_ok, onStore_eq_ok,
    Traced.result_pure] at hplan
  obtain ⟨old?, hget, old, hold, _, howner, _, hfingerprint, ⟨t, evicted⟩, hevict, pair', hissue,
    now, hnow, hp⟩ := hplan
  obtain rfl := demandRecord_eq_ok hold
  obtain rfl : t = _ := removal_eq_ok hevict
  have hsigns := issueTokens_eq_ok hissue
  cases hp
  subst hanswer
  dsimp only at hok hsite
  rw [hsigns.id, hsigns.lifetime] at hok hsite
  exact ⟨now, c, old, hnow, hv, hkind, hget, hsigns, hok, hsite, hidle, hissue,
    checkOwner_eq_ok.1 howner, checkFingerprint_eq_ok.1 hfingerprint⟩

theorem delete_eq_ok {id userId : String}
    (h : (s.delete x clock id userId).outcome.result = .ok ()) :
    ∃ r, Session.get (x.store.reader clock) id = .ok (some r) ∧ r.userId = userId ∧
      (x.apply clock (Session.remove (x.store.reader clock) r).pending).outcome.result = .ok () ∧
      (s.delete x clock id userId).site =
        (x.apply clock (Session.remove (x.store.reader clock) r).pending).site := by
  obtain ⟨_, p, -, -, hplan, -, hok, hsite⟩ := Site.perform_eq_ok h
  simp only [Traced.result_bind, bind_eq_ok, onStore_eq_ok] at hplan
  obtain ⟨r?, hget, r, hr, hp⟩ := hplan
  obtain rfl := demandRecord_eq_ok hr
  split at hp
  · simp only [Traced.result_bind, bind_eq_ok] at hp
    obtain ⟨_, -, _, hrefuse, -⟩ := hp
    cases hrefuse
  · next howner =>
    cases hp
    exact ⟨r, hget, Decidable.not_not.1 howner, hok, hsite⟩

theorem deleteUser_eq_ok {userId : String} {n : Nat}
    (h : (s.deleteUser x clock userId).outcome.result = .ok n) :
    ∃ rs, (Session.removeUser (x.store.reader clock) userId).2.result = .ok rs ∧ rs.length = n ∧
      (x.apply clock (Session.removeUser (x.store.reader clock) userId).1.pending).outcome.result =
        .ok () ∧
      (s.deleteUser x clock userId).site =
        (x.apply clock (Session.removeUser (x.store.reader clock) userId).1.pending).site := by
  obtain ⟨_, p, -, -, hplan, hanswer, hok, hsite⟩ := Site.perform_eq_ok h
  simp only [Traced.result_bind, bind_eq_ok, Traced.result_pure] at hplan
  obtain ⟨⟨t, removed⟩, hremove, hp⟩ := hplan
  obtain rfl : t = _ := removal_eq_ok hremove
  cases hp
  simp only [removal, Traced.result_bind, Traced.result_mapError, bind_eq_ok,
    mapError_eq_ok] at hremove
  obtain ⟨rs, hrs, heq⟩ := hremove
  cases heq
  exact ⟨_, hrs, hanswer, hok, hsite⟩

/-! ## What becomes of the book -/

variable {texts : Set String} {t : Instant} {kept : Book (Option Instant)}

/-- What a store holds at a later time, seen by a transaction without writes. -/
theorem shows_reader_later (hk : Represents False texts (x.store.entries.held? t) kept)
    (ht : t.nanos ≤ clock.nanos) (hr : clock.read = .ok now) :
    Shows False texts (x.store.reader clock) now ((kept.filter now.isBefore).map Lease.upTo) := by
  have hle : t.nanos ≤ now.nanos := (Clock.read_eq_ok_iff.1 hr).1 ▸ ht
  have hlater := hk.filter now.isBefore
  rw [← funext (x.store.entries.held?_later hle)] at hlater
  exact hlater.shows_reader hr

theorem settle_upTo (b : Book (Option Instant)) :
    (b.map Lease.upTo).map (Lease.settle now) = b :=
  Book.map_map_of_inverse fun _ => rfl

theorem valid_of_read (hr : clock.read = .ok now) : (Timestamp.ofInstant now).Valid := by
  obtain ⟨-, h0, h1⟩ := Clock.read_eq_ok_iff.1 hr
  refine Timestamp.valid_ofInstant ?_
  simp only [Instant.inRange, Bool.and_eq_true, decide_eq_true_eq]
  exact ⟨Int.le_trans (by decide) h0, h1⟩

/-- The instant at which a session that is opened now lapses. -/
def lapse (s : Service) (now : Instant) : Option Instant :=
  some ⟨now.nanos + s.issuer.config.refreshTtl.nanos⟩

/-- A session that is opened now has not lapsed. -/
theorem isBefore_lapse_self (hpos : 0 < s.issuer.config.refreshTtl.nanos) (now : Instant) :
    now.isBefore (s.lapse now) = true := by
  simp only [lapse, Instant.isBefore, decide_eq_true_eq]
  omega

/-- **A session that is opened takes the place of all sessions of its identity.** -/
theorem create_effect (hc : CollisionFree texts)
    (hk : Represents False texts (x.store.entries.held? t) kept) (ht : t.nanos ≤ clock.nanos)
    {fresh : Draw} {q : SessionRequest} {pair : TokenPair}
    (hw : ∀ now, (q.record fresh.id now).Within texts) (hfresh : kept fresh.id = none)
    (h : (s.create x clock fresh q).outcome.result = .ok pair) :
    ∃ now, clock.read = .ok now ∧ pair.id = fresh.id ∧
      Represents False texts ((s.create x clock fresh q).site.store.entries.held? now)
        (((kept.filter now.isBefore).install (q.record fresh.id now) (s.lapse now)).filter
          now.isBefore) := by
  obtain ⟨now, hr, hsigns, hok, hsite, -⟩ := create_eq_ok h
  refine ⟨now, hr, hsigns.id, ?_⟩
  have hshows := shows_reader_later hk ht hr
  obtain ⟨_, -, -, hentries, hevicted⟩ := hshows.evict hc (hw now).identity
  have hroom := hevicted.room hc (hw now).id
    (by simp [Book.without, Book.map, Book.filter, SessionRequest.record, hfresh])
  have hinserted := hevicted.insert hc (hw now) (valid_of_read hr) hroom
    s.issuer.config.refreshTtl
  have hfinal := hinserted.keys.commit hr hentries hok
  rw [Book.set_map, Book.map_without, settle_upTo] at hfinal
  rw [hsite]
  exact hfinal

/-- **A rotation removes the session of its token**, and the new session takes the place of all
others of the identity. -/
theorem extend_effect (hc : CollisionFree texts)
    (hk : Represents False texts (x.store.entries.held? t) kept) (ht : t.nanos ≤ clock.nanos)
    {fresh : Draw} {fingerprint : String} {pair : TokenPair} (hfresh : fresh.id ∈ texts)
    (hid : ∀ c, s.issuer.verify clock token = .ok c → c.core.id ∈ texts)
    (hnone : kept fresh.id = none)
    (h : (s.extend x clock fresh token fingerprint).outcome.result = .ok pair) :
    ∃ now c old expiry, clock.read = .ok now ∧ s.issuer.verify clock token = .ok c ∧
      c.core.kind = .refresh ∧ kept c.core.id = some (old, expiry) ∧ pair.id = fresh.id ∧
      Represents False texts
        ((s.extend x clock fresh token fingerprint).site.store.entries.held? now)
        ((((kept.filter now.isBefore).remove c.core.id).install (rotated old fresh.id now)
          (s.lapse now)).filter now.isBefore) := by
  obtain ⟨now, c, old, hr, hv, hkind, hget, hsigns, hok, hsite, -⟩ := extend_eq_ok h
  have hshows := shows_reader_later hk ht hr
  rw [hshows.get hc (hid c hv), Except.ok.injEq] at hget
  obtain ⟨⟨r, lease⟩, hb, rfl⟩ := Option.map_eq_some_iff.1 hget
  obtain ⟨⟨old, expiry⟩, hold, heq⟩ := Option.map_eq_some_iff.1 hb
  cases heq
  have hkept := (Option.filter_eq_some_iff.1 hold).1
  obtain ⟨hold', hw, -⟩ := hk.sound _ _ _ hkept
  refine ⟨now, c, old, expiry, hr, hv, hkind, hkept, hsigns.id, ?_⟩
  rw [← hold'] at hb
  have hremoved := hshows.remove hc hb
  obtain ⟨_, -, -, hentries, hevicted⟩ := hremoved.evict hc hw.identity
  have hw' : (rotated old fresh.id now).Within texts := ⟨hfresh, hw.userId, hw.identity⟩
  have hroom := hevicted.room hc hw'.id
    (by simp [Book.without, Book.remove, Book.map, Book.filter, rotated, hnone])
  have hinserted := hevicted.insert hc hw' (valid_of_read hr) hroom s.issuer.config.refreshTtl
  have hfinal := hinserted.keys.commit hr hentries hok
  rw [Book.set_map, Book.map_remove, Book.map_without, settle_upTo] at hfinal
  rw [hsite, ← hold']
  exact hfinal

/-- **A session that is revoked is gone**, and all others stay. -/
theorem delete_effect (hc : CollisionFree texts)
    (hk : Represents False texts (x.store.entries.held? t) kept) (ht : t.nanos ≤ clock.nanos)
    {id userId : String} (hid : id ∈ texts)
    (h : (s.delete x clock id userId).outcome.result = .ok ()) :
    ∃ now r expiry, clock.read = .ok now ∧ kept id = some (r, expiry) ∧ r.userId = userId ∧
      Represents False texts ((s.delete x clock id userId).site.store.entries.held? now)
        (((kept.filter now.isBefore).remove id).filter now.isBefore) := by
  obtain ⟨r, hget, howner, hok, hsite⟩ := delete_eq_ok h
  obtain ⟨now, hr⟩ := read_of_get hget
  have hshows := shows_reader_later hk ht hr
  rw [hshows.get hc hid, Except.ok.injEq] at hget
  obtain ⟨⟨r', lease⟩, hb, rfl⟩ := Option.map_eq_some_iff.1 hget
  obtain ⟨⟨r, expiry⟩, hold, heq⟩ := Option.map_eq_some_iff.1 hb
  cases heq
  have hkept := (Option.filter_eq_some_iff.1 hold).1
  obtain ⟨rfl, -, -⟩ := hk.sound _ _ _ hkept
  refine ⟨now, r, expiry, hr, hkept, howner, ?_⟩
  have hfinal := (hshows.remove hc hb).keys.commit hr rfl hok
  rw [Book.map_remove, settle_upTo] at hfinal
  rw [hsite]
  exact hfinal

/-- **The sessions of a user who is revoked are gone**, and all others stay. -/
theorem deleteUser_effect (hc : CollisionFree texts)
    (hk : Represents False texts (x.store.entries.held? t) kept) (ht : t.nanos ≤ clock.nanos)
    {userId : String} {n : Nat} (hid : userId ∈ texts)
    (h : (s.deleteUser x clock userId).outcome.result = .ok n) :
    ∃ now, clock.read = .ok now ∧
      Represents False texts ((s.deleteUser x clock userId).site.store.entries.held? now)
        (((kept.filter now.isBefore).without fun r => r.userId = userId).filter now.isBefore) := by
  obtain ⟨rs, hrs, -, hok, hsite⟩ := deleteUser_eq_ok h
  obtain ⟨now, hr⟩ := read_of_removeUser hrs
  refine ⟨now, hr, ?_⟩
  obtain ⟨_, -, -, hentries, hremoved⟩ := (shows_reader_later hk ht hr).removeUser hc hid
  have hfinal := hremoved.keys.commit hr hentries hok
  rw [Book.map_without, settle_upTo] at hfinal
  rw [hsite]
  exact hfinal

end Service

end SessionTokens
