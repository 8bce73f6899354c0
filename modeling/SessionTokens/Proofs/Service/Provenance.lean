import SessionTokens.Proofs.Service.Invariant
/-!
# Where a checked session comes from

**Theorem (`exists_lineage_of_check`).** If a token passes the check in a run, then the run holds a
request that opened a session, and a chain of rotations leads from that session to the one of the
token. What the check tells, grants included, is what the request said, and the client has shown the
address and the fingerprint of the request.

Signatures play no part in this: a record is only reached through the store.
-/

namespace SessionTokens

open Session

/-- Whether the session of an id goes back to a request in a run: the request opened it, or it is
what a rotation made of a session that goes back to the request. -/
inductive Lineage (x : Site) (q : SessionRequest) : List Step → String → Prop
  | opened {past : List Step} {s : Service} {clock : Clock} {fresh : Draw} {pair : TokenPair} :
    (s.create (x.run past) clock fresh q).outcome.result = .ok pair →
    Lineage x q (past ++ [⟨clock, .create s fresh q⟩]) pair.id
  | rotated {past : List Step} {s : Service} {clock : Clock} {fresh : Draw}
      {token fingerprint : String} {c : Claims} {pair : TokenPair} :
    Lineage x q past c.core.id → s.issuer.verify clock token = .ok c →
    (s.extend (x.run past) clock fresh token fingerprint).outcome.result = .ok pair →
    Lineage x q (past ++ [⟨clock, .extend s fresh token fingerprint⟩]) pair.id
  | later {past : List Step} {id : String} (st : Step) :
    Lineage x q past id → Lineage x q (past ++ [st]) id

/-- Whether a record holds what a request asked for. -/
structure Record.Follows (r : Record) (q : SessionRequest) : Prop where
  userId : r.userId = q.userId
  platform : r.platform = Platform.ofUserAgent q.userAgent
  fingerprint : r.fingerprint = q.fingerprint
  ip : r.ip = q.ip
  role : r.role = q.role
  rwAccess : r.rwAccess = q.rwAccess
  namespaceAccess : r.namespaceAccess = Grant.store q.namespaceAccess
  volumeAccess : r.volumeAccess = Grant.store q.volumeAccess
  parentId : r.parentId = q.parentId

theorem SessionRequest.follows_record (q : SessionRequest) (id : String) (now : Instant) :
    (q.record id now).Follows q := ⟨rfl, rfl, rfl, rfl, rfl, rfl, rfl, rfl, rfl⟩

/-- A rotation hands on everything that the request said. -/
theorem Record.Follows.rotated {r : Record} {q : SessionRequest} (h : r.Follows q) (id : String)
    (now : Instant) : (Service.rotated r id now).Follows q :=
  ⟨h.userId, h.platform, h.fingerprint, h.ip, h.role, h.rwAccess, h.namespaceAccess,
    h.volumeAccess, h.parentId⟩

/-- A session is of the device that asked for it. -/
theorem Record.Follows.identity {r : Record} {q : SessionRequest} (h : r.Follows q) :
    r.identity = q.identity := by
  rw [Record.identity, h.platform, h.fingerprint, h.ip, SessionRequest.identity]

/-- Whether every session of a book goes back to a request of a run and holds what it asked for. -/
def Book.Traceable (x : Site) (steps : List Step) (b : Book (Option Instant)) : Prop :=
  ∀ id r expiry, b id = some (r, expiry) → ∃ q, Lineage x q steps id ∧ r.Follows q

variable {texts : Set String} {ids : List String} {x : Site} {t : Instant}
  {kept kept' : Book (Option Instant)} {past : List Step} {st : Step}

/-- The session that a step brings goes back to a request. -/
theorem Book.Traceable.brings (h : Book.Traceable x past kept)
    (hp : Intact texts ids (x.run past) st.instant kept) {r : Record}
    (hr : st.Brings (x.run past) r) : ∃ q, Lineage x q (past ++ [st]) r.id ∧ r.Follows q := by
  obtain ⟨clock, action⟩ := st
  cases action with
  | create s fresh q =>
    obtain ⟨pair, now, hok, hid, rfl⟩ := hr
    have hfresh : (q.record fresh.id now).id = pair.id := hid.symm
    refine ⟨q, ?_, q.follows_record fresh.id now⟩
    rw [hfresh]
    exact .opened hok
  | extend s fresh token fingerprint =>
    obtain ⟨pair, now, c, old, expiry, hok, hid, hv, hold, holdid, rfl⟩ := hr
    obtain ⟨q, hq, hfollows⟩ := h old.id old expiry (hp.holds_iff.1 hold)
    have hfresh : (Service.rotated old fresh.id now).id = pair.id := hid.symm
    rw [holdid] at hq
    refine ⟨q, ?_, hfollows.rotated fresh.id now⟩
    rw [hfresh]
    exact .rotated hq hv hok
  | _ => exact hr.elim

/-- **Every session goes back to a request**, at every instant of a run. -/
theorem Lawful.traceable {steps : List Step} (h : Lawful texts x steps)
    (ht : ∀ st ∈ steps, st.clock.nanos ≤ t.nanos) :
    ∃ kept, Intact texts (freshIds steps) (x.run steps) t kept ∧ kept.Traceable x steps := by
  induction steps using List.reverseRecOn generalizing t with
  | nil => exact ⟨_, h.vacant.intact t, nofun⟩
  | append_singleton past st ih =>
    obtain ⟨kept, hp, htrace⟩ := ih h.of_append h.before
    obtain ⟨kept', hkept', hevolves⟩ :=
      h.step hp (ht st (List.mem_append_right _ List.mem_cons_self))
    refine ⟨kept', hkept', fun id r expiry hr => ?_⟩
    obtain ⟨expiry', hold⟩ | hbrings := hevolves.origin id r expiry hr
    · obtain ⟨q, hq, hfollows⟩ := htrace id r expiry' hold
      exact ⟨q, .later st hq, hfollows⟩
    · obtain ⟨rfl, -, -⟩ := hkept'.keys.sound _ _ _ hr
      exact htrace.brings hp hbrings

/-- **A session that passes the check goes back to a request**, through a chain of rotations, and
is what the request asked for. -/
theorem exists_lineage_of_check {steps : List Step} {s : Service} {clock : Clock}
    {token userAgent ip fingerprint : String}
    (h : Lawful texts x (steps ++ [⟨clock, .check s token userAgent ip fingerprint⟩]))
    {cs : CheckedSession}
    (hok : (s.check (x.run steps).store clock token userAgent ip fingerprint).result = .ok cs) :
    ∃ q, Lineage x q steps cs.id ∧ cs.userId = q.userId ∧ cs.role = q.role ∧
      cs.rwAccess = q.rwAccess ∧ cs.parentId = q.parentId ∧
      cs.namespaceAccess = q.namespaceAccess ∧ cs.volumeAccess = q.volumeAccess ∧
      ip = q.ip ∧ fingerprint = q.fingerprint := by
  obtain ⟨c, r, hv, -, hfind, rfl, rfl, hns, hvs, hid, huser, hrole, hrw, hparent⟩ :=
    Service.check_eq_ok hok
  obtain ⟨kept, hkept, htrace⟩ := h.of_append.traceable h.before
  obtain ⟨hopen, now, hr⟩ := open_of_find hfind
  have hctexts : c.core.id ∈ texts := by
    refine h.hashed_last _ ?_
    exact Option.mem_toList.2 (Service.tokenId?_eq_some.2 ⟨c, hv, rfl⟩)
  rw [hkept.find h.collisionFree hctexts hopen hr, Except.ok.injEq] at hfind
  obtain ⟨⟨r', expiry⟩, hrec, rfl⟩ := Option.map_eq_some_iff.1 hfind
  obtain ⟨hrid, -, -⟩ := hkept.keys.sound _ _ _ hrec
  obtain ⟨q, hq, hfollows⟩ := htrace _ _ _ hrec
  rw [hfollows.namespaceAccess, Grant.load_store] at hns
  rw [hfollows.volumeAccess, Grant.load_store] at hvs
  rw [← hrid, ← hid] at hq
  refine ⟨q, hq, ?_, ?_, ?_, ?_, (Except.ok.inj hns).symm, (Except.ok.inj hvs).symm, hfollows.ip,
    hfollows.fingerprint⟩
  · rw [huser, hfollows.userId]
  · rw [hrole, hfollows.role]
  · rw [hrw, hfollows.rwAccess]
  · rw [hparent, hfollows.parentId]

theorem Sample.exists_checked : ∃ cs, (Sample.service.check (Sample.site.run Sample.opening).store
    Sample.clock Sample.token "" "p" "f").result = .ok cs :=
  exists_eq_ok (by decide +kernel)

/-- The session that is checked in the small run goes back to a request. -/
theorem exists_lineage_of_sample : ∃ cs q,
    (Sample.service.check (Sample.site.run Sample.opening).store Sample.clock Sample.token "" "p"
      "f").result = .ok cs ∧ Lineage Sample.site q Sample.opening cs.id ∧
      cs.namespaceAccess = q.namespaceAccess := by
  obtain ⟨cs, hok⟩ := Sample.exists_checked
  obtain ⟨q, hq, -, -, -, -, hns, -⟩ := exists_lineage_of_check Sample.lawful hok
  exact ⟨cs, q, hok, hq, hns⟩

end SessionTokens
