import SessionTokens.Proofs.Service.Holdings
import SessionTokens.Proofs.Service.Isolation
import SessionTokens.Proofs.Token.Pair
/-!
# What a rotation does

**Theorem (`Lawful.rotation_exact`).** If a rotation succeeds, then the token was verified as a
refresh token for a live session, the client showed the fingerprint of the session, and the token
names the session's user if it names any. Afterwards the live sessions are those from before, with
one session in place of all of that identity. It is the old session with the id of the new tokens,
begun now and kept for the lifetime of refresh tokens. Both tokens say the new id, and the refresh
token says the user, the role and the parent of the session once more.

The old session is removed before the sessions of its identity are evicted, so the eviction meets
keys that are already deleted. It makes no difference: a session that is replaced anyway may be
removed first (`Book.install_remove`).
-/

namespace SessionTokens

open Session

/-! ## What is asked of a client, and what it is given -/

/-- Whether a service takes a token and a fingerprint for those of a session: it verifies the
token as a refresh token for the session, which names the session's user if it has an extension,
and the fingerprint is that of the session. -/
structure Service.Admits (s : Service) (clock : Clock) (token fingerprint : String)
    (old : Record) : Prop where
  token : ∃ c, s.issuer.verify clock token = .ok c ∧ c.core.kind = .refresh ∧
    c.core.id = old.id ∧ ∀ e ∈ c.ext, e.userIdHash = hashUserId old.userId
  fingerprint : old.fingerprint = fingerprint

/-- Whether the tokens of a pair are those of a session and say of it what they should. -/
structure Issuer.Describes (i : Issuer) (now : Instant) (pair : TokenPair) (r : Record) :
    Prop where
  access_id : pair.access.id = r.id
  refresh_id : pair.refresh.id = r.id
  access : said? pair.access.token =
    some (i.claimsFor now r.id .access i.config.accessTtl none)
  refresh : said? pair.refresh.token =
    some (i.claimsFor now r.id .refresh i.config.refreshTtl
      (some (.of r.userId r.role r.parentId)))

namespace Service

variable {s : Service} {clock : Clock} {now : Instant} {pair : TokenPair} {r : Record}

theorem describes_of_issueTokens (hread : clock.read = .ok now) {fresh : Draw}
    (hid : fresh.id = r.id)
    (h : (s.issueTokens clock fresh (.of r.userId r.role r.parentId)).result = .ok pair) :
    s.issuer.Describes now pair r := by
  rw [issueTokens, Traced.result_mapError, mapError_eq_ok, Issuer.issue_eq_ok, hid] at h
  obtain ⟨hrefresh, haccess⟩ := h
  exact ⟨(Issuer.sign_eq_ok haccess).1, (Issuer.sign_eq_ok hrefresh).1,
    Issuer.said?_of_sign haccess hread, Issuer.said?_of_sign hrefresh hread⟩

end Service

/-! ## The rotation of a session -/

section

variable {texts : Set String} {ids : List String} {x : Site} {clock : Clock}
  {kept : Book (Option Instant)} {s : Service} {fresh : Draw} {token fingerprint : String}

/-- **What a rotation does to the book**: removing the old session first is of no account. -/
theorem Intact.change_eq_install (h : Intact texts ids x ⟨clock.nanos⟩ kept) {c : Claims}
    {old : Record} {expiry : Option Instant} (hverify : s.issuer.verify clock token = .ok c)
    (hold : kept c.core.id = some (old, expiry)) :
    (Step.mk clock (.extend s fresh token fingerprint)).change kept =
      kept.install (Service.rotated old fresh.id ⟨clock.nanos⟩) (s.lapse ⟨clock.nanos⟩) := by
  have htoken : s.tokenId? clock token = some c.core.id :=
    Service.tokenId?_eq_some.2 ⟨c, hverify, rfl⟩
  obtain ⟨hid, -, -⟩ := h.keys.sound _ _ _ hold
  simp only [Step.change, htoken, hold]
  rw [← hid] at hold ⊢
  exact Book.install_remove hold rfl

/-- What a rotation that succeeds has found in the store. -/
theorem Intact.admits_of_extend (h : Intact texts ids x ⟨clock.nanos⟩ kept)
    (hc : CollisionFree texts)
    (hid : ∀ c, s.issuer.verify clock token = .ok c → c.core.id ∈ texts) {pair : TokenPair}
    (hok : (s.extend x clock fresh token fingerprint).outcome.result = .ok pair) :
    ∃ c old expiry, s.issuer.verify clock token = .ok c ∧
      kept c.core.id = some (old, expiry) ∧ s.Admits clock token fingerprint old ∧
      pair.id = fresh.id ∧
      s.issuer.Describes ⟨clock.nanos⟩ pair (Service.rotated old fresh.id ⟨clock.nanos⟩) := by
  obtain ⟨now, c, old, hread, hverify, hkind, hget, hsigns, -, -, -, htokens, howner,
    hfingerprint⟩ := Service.extend_eq_ok hok
  obtain rfl := Clock.eq_of_read hread
  rw [h.get hc (hid c hverify) hread, Except.ok.injEq] at hget
  obtain ⟨⟨r, expiry⟩, hrec, rfl⟩ := Option.map_eq_some_iff.1 hget
  have hold := (h.keys.sound _ _ _ hrec).1
  exact ⟨c, r, expiry, hverify, hrec, ⟨⟨c, hverify, hkind, hold.symm, howner⟩, hfingerprint⟩,
    hsigns.id, Service.describes_of_issueTokens hread rfl htokens⟩

end

/-- **The exact effect of a rotation**, in every run. -/
theorem Lawful.rotation_exact {texts : Set String} {x : Site} {past : List Step} {clock : Clock}
    {s : Service} {fresh : Draw} {token fingerprint : String} {pair : TokenPair}
    {config : IssuerConfig} {keys : TokenKeys}
    (h : Lawful texts x (past ++ [⟨clock, .extend s fresh token fingerprint⟩]))
    (hissuer : Issuer.of config keys = .ok s.issuer)
    (hok : (s.extend (x.run past) clock fresh token fingerprint).outcome.result = .ok pair) :
    ∃ old expiry, (x.run past).Holds ⟨clock.nanos⟩ old expiry ∧
      s.Admits clock token fingerprint old ∧
      (x.run past).Installs (x.run (past ++ [⟨clock, .extend s fresh token fingerprint⟩]))
        ⟨clock.nanos⟩ { old with id := pair.id, createdAt := .ofInstant ⟨clock.nanos⟩ }
        (s.lapse ⟨clock.nanos⟩) ∧
      s.issuer.Describes ⟨clock.nanos⟩ pair
        { old with id := pair.id, createdAt := .ofInstant ⟨clock.nanos⟩ } := by
  obtain ⟨kept, hkept⟩ := h.of_append.intact h.before
  obtain ⟨c, old, expiry, hverify, hrec, hadmits, hid, hdescribes⟩ :=
    hkept.admits_of_extend h.collisionFree (Service.id_mem_of_extend h.hashed_last) hok
  rw [hid]
  obtain ⟨hold, -⟩ := hkept.eq_some_iff.1 hrec
  have hlive := s.isBefore_lapse_self (Issuer.lifetimes_of_of hissuer).1 ⟨clock.nanos⟩
  refine ⟨old, expiry, hold, hadmits, ?_, hdescribes⟩
  exact h.installs hkept trivial ⟨pair, hok⟩ rfl (hkept.change_eq_install hverify hrec) hlive

namespace Sample

/-- A refresh token for the session that is opened second. -/
def refreshToken : String :=
  "eyJ0eXAiOiJKV1QiLCJhbGciOiJFZERTQSJ9." ++
    "eyJqdGkiOiJiIiwiaXNzIjoiaSIsImlhdCI6MCwiZXhwIjoxNzI4MDAsImtpbmQiOiJyZWZyZXNoIiwidXNlcl9pZF9" ++
    "oYXNoIjoiMGJmZTkzNWU3MGMzMjFjN2NhM2FmYzc1Y2UwZDBjYTJmOThiNTQyMmUwMDhiYjMxYzAwYzZkN2YxZjFjMG" ++
    "FkNiIsInJvbGUiOiIifQ." ++
    "3IgWGh8ebw9qmBAhW_Qs5jWPqwkkZH1jJj5VasCLoupzCtrfInZjpwrtRvk7MqYtCB7FCUTSZbIkglH5b0AKDg"

/-- The second session is rotated. -/
def renewing : Step := ⟨clock, .extend service "c" refreshToken "f"⟩

set_option maxRecDepth 10000 in
theorem lawful_renewing : Lawful {s | s ∈ names} site (opening ++ [renewing]) := by
  have hhashed : ∀ st ∈ opening ++ [renewing], ∀ s ∈ st.texts, s ∈ names := by decide +kernel
  exact ⟨⟨rfl, nofun⟩, by decide, by decide, collisionFree_names, hhashed⟩

/-- After a rotation in the small run the rotated session is there, and the old one is not. -/
theorem rotation_exact_second : ∃ pair old expiry,
    (service.extend (site.run opening) clock "c" refreshToken "f").outcome.result = .ok pair ∧
      (site.run opening).Holds ⟨0⟩ old expiry ∧
      (site.run (opening ++ [renewing])).Holds ⟨0⟩
        { old with id := pair.id, createdAt := .ofInstant ⟨0⟩ } (service.lapse ⟨0⟩) ∧
      ¬(site.run (opening ++ [renewing])).Holds ⟨0⟩ old expiry := by
  obtain ⟨pair, hok⟩ : ∃ pair,
      (service.extend (site.run opening) clock "c" refreshToken "f").outcome.result = .ok pair :=
    exists_eq_ok (by decide +kernel)
  have hrun : Lawful {s | s ∈ names} site
      (opening ++ [⟨clock, .extend service "c" refreshToken "f"⟩]) := lawful_renewing
  have hissuer : Issuer.of service.issuer.config service.issuer.keys = .ok service.issuer := rfl
  obtain ⟨old, expiry, hold, -, hinstalls, -⟩ := Lawful.rotation_exact hrun hissuer hok
  obtain ⟨kept, hkept⟩ := hrun.of_append.intact hrun.before
  have hknown : old.id ∈ freshIds opening := hkept.known _ _ (hkept.holds_iff.1 hold)
  obtain ⟨_, _, _, -, -, -, -, hsigns, -⟩ := Service.extend_eq_ok hok
  refine ⟨pair, old, expiry, hok, hold, (hinstalls _ _).2 (.inl ⟨rfl, rfl⟩), fun hstill => ?_⟩
  obtain ⟨heq, -⟩ | ⟨-, hne⟩ := (hinstalls _ _).1 hstill
  · have hid : old.id = "c" := (congrArg Record.id heq).trans hsigns.id
    rw [hid] at hknown
    exact absurd hknown (by decide)
  · exact hne rfl

end Sample

end SessionTokens
