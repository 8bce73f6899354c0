import SessionTokens.Proofs.Token.Genuine
/-!
# The pair of tokens of a session

A token *lasts* from an instant for a lifetime if it is verified at exactly the instants whose
second comes before the second of the first instant and the whole seconds of the lifetime together,
and then says what it was signed to say. What is lost by counting in whole seconds is lost at the
end: a token never outlasts its lifetime (`Lasts.lt_of_verify`).

**Theorem (`issue_lasts_exactly`).** Whatever the configuration and the extension, issuing succeeds
if and only if the second of the refresh token's expiry can be written with sixty-four bits, and
fails for that lifetime otherwise. The tokens of a pair have one id. The refresh token lasts for the
lifetime of refresh tokens and says the extension, the access token lasts for that of access tokens
and says none; the extension does not change the payload of the access token.

The keys have to make signatures of the two messages, and to accept them.
-/

namespace SessionTokens

theorem TokenKeys.acceptsOwn_iff {k : TokenKeys} {salt : Rsa.Salt} {message : Bytes} :
    k.acceptsOwn salt message = true ↔ ∃ signature check,
      k.sign salt message = .ok (some signature) ∧ k.checker = .ok check ∧
        check message signature = true := by
  unfold acceptsOwn
  constructor
  · intro h
    split at h
    · next signature check hsign hcheck => exact ⟨signature, check, hsign, hcheck, h⟩
    · cases h
  · rintro ⟨signature, check, hsign, hcheck, hvalid⟩
    rw [hsign, hcheck]
    exact hvalid

namespace Issuer

variable {i : Issuer} {clock : Clock} {now : Instant} {salt : Rsa.Salt} {id : String}
  {kind : TokenKind} {lifetime : Duration} {ext : Option Extension}

/-! ## A single token -/

/-- From 1970 on, the sum of the seconds decides alone whether there is an expiry. -/
theorem expiry?_of_read (hread : clock.read = .ok now) (lifetime : Duration) :
    expiry? now lifetime = if now.seconds + lifetime.seconds ≤ maxSeconds then
      some (now.seconds + lifetime.seconds) else none := by
  have hpos : 0 ≤ now.seconds := Int.ediv_nonneg (Clock.read_eq_ok_iff.1 hread).2.1 (by decide)
  unfold expiry?
  dsimp only
  by_cases hfits : now.seconds + (lifetime.seconds : Int) ≤ maxSeconds
  · have hlifetime : (lifetime.seconds : Int) ≤ maxSeconds := by omega
    simp [hfits, hlifetime]
  · simp [hfits]

/-- A token is signed if its expiry can be written. -/
theorem exists_sign_of_le (hread : clock.read = .ok now)
    (hfits : now.seconds + lifetime.seconds ≤ maxSeconds)
    (hown : i.keys.acceptsOwn salt (i.signedPart (i.claimsFor now id kind lifetime ext)) = true) :
    ∃ issued, i.sign clock salt id kind lifetime ext = .ok issued := by
  obtain ⟨signature, -, hsign, -⟩ := TokenKeys.acceptsOwn_iff.1 hown
  let message := i.signedPart (i.claimsFor now id kind lifetime ext)
  refine ⟨⟨Text.ascii (Compact.join message (Compact.part signature)), id, lifetime⟩, ?_⟩
  unfold claimsFor at hsign
  simp only [sign, hread, Halt.ofAbort_ok, expiry?_of_read hread, if_pos hfits, hsign, bind,
    Except.bind, pure, Except.pure]
  rfl

theorem sign_of_lt (hread : clock.read = .ok now)
    (hfits : maxSeconds < now.seconds + lifetime.seconds) :
    i.sign clock salt id kind lifetime ext =
      .error (.failed (.signing (.lifetime lifetime) none)) := by
  simp only [sign, hread, Halt.ofAbort_ok, expiry?_of_read hread, if_neg (Int.not_le.2 hfits), bind,
    Except.bind]
  rfl

/-- Whether a token that says certain claims lasts from an instant for a lifetime. -/
structure Lasts (i : Issuer) (now : Instant) (lifetime : Duration) (c : Claims) (token : String) :
    Prop where
  verify_iff : ∀ {later t}, Clock.read later = .ok t → ∀ c',
    i.verify later token = .ok c' ↔ t.seconds < now.seconds + lifetime.seconds ∧ c' = c
  expired : ∀ {later t}, Clock.read later = .ok t → now.seconds + lifetime.seconds ≤ t.seconds →
    i.verify later token = .error (.failed .expired)
  lt_of_verify : ∀ {later c'}, i.verify later token = .ok c' →
    later.nanos < now.nanos + lifetime.nanos

/-- Whole seconds are rounded down, so their sum comes before the sum of the nanoseconds. -/
theorem lt_of_seconds_lt {t now : Instant} {lifetime : Duration}
    (h : t.seconds < now.seconds + lifetime.seconds) : t.nanos < now.nanos + lifetime.nanos := by
  unfold Instant.seconds Duration.seconds nanosPerSecond at h
  omega

/-- **A token that was signed lasts for its lifetime.** -/
theorem lasts_of_sign {issued : IssuedToken}
    (h : i.sign clock salt id kind lifetime ext = .ok issued) (hread : clock.read = .ok now)
    (hown : i.keys.acceptsOwn salt (i.signedPart (i.claimsFor now id kind lifetime ext)) = true) :
    i.Lasts now lifetime (i.claimsFor now id kind lifetime ext) issued.token := by
  have hverify {later : Clock} {t : Instant} (hlater : later.read = .ok t) :=
    verify_sign h hread (TokenKeys.acceptsOwn_sound hown) hlater
  have hiff {later : Clock} {t : Instant} (hlater : later.read = .ok t) (c' : Claims) :
      i.verify later issued.token = .ok c' ↔ t.seconds < now.seconds + lifetime.seconds ∧
        c' = i.claimsFor now id kind lifetime ext := by
    rw [hverify hlater]
    split
    · next halive => simp [halive, eq_comm]
    · next hexpired => simp [hexpired]
  refine ⟨hiff, fun hlater hexpired => ?_, fun {later c'} hok => ?_⟩
  · rw [hverify hlater, if_neg (Int.not_lt.2 hexpired)]
  · obtain ⟨-, t, hlater⟩ := verify_eq_ok hok
    rw [← (Clock.read_eq_ok_iff.1 hlater).1]
    exact lt_of_seconds_lt ((hiff hlater c').1 hok).1

/-- The payload of a token, as the bytes that it stands for. -/
def payload? (token : String) : Option Bytes :=
  (parts? (Text.utf8 token)).bind fun parts => Compact.bytes? parts.2.1

theorem payload?_of_sign {issued : IssuedToken}
    (h : i.sign clock salt id kind lifetime ext = .ok issued) (hread : clock.read = .ok now) :
    payload? issued.token = some (i.claimsFor now id kind lifetime ext).encode := by
  obtain ⟨now', signature, hread', -, -, htoken⟩ := token_of_sign h
  rw [hread] at hread'
  cases hread'
  rw [payload?, htoken, parts?_signed, Option.bind_some]
  exact Compact.bytes?_part _

/-- The claims that stand in a token, whether it can be verified or not. -/
def said? (token : String) : Option Claims := (payload? token).bind claimsOf?

/-- A token says what it was signed to say. -/
theorem said?_of_sign {issued : IssuedToken}
    (h : i.sign clock salt id kind lifetime ext = .ok issued) (hread : clock.read = .ok now) :
    said? issued.token = some (i.claimsFor now id kind lifetime ext) := by
  obtain ⟨now', -, hread', hle, -⟩ := token_of_sign h
  rw [hread] at hread'
  cases hread'
  rw [said?, payload?_of_sign h hread, Option.bind_some]
  exact Claims.claimsOf?_encode (inSeconds_claimsFor hread hle id kind ext)

/-! ## Both tokens -/

/-- Whether the tokens of a pair are what they should be for an id, an extension and the instant
of their issue. -/
structure Pairs (i : Issuer) (now : Instant) (id : String) (ext : Extension) (pair : TokenPair) :
    Prop where
  refresh_id : pair.refresh.id = id
  access_id : pair.access.id = id
  refresh : i.Lasts now i.config.refreshTtl
    (i.claimsFor now id .refresh i.config.refreshTtl (some ext)) pair.refresh.token
  access : i.Lasts now i.config.accessTtl
    (i.claimsFor now id .access i.config.accessTtl none) pair.access.token
  payload : payload? pair.access.token =
    some (i.claimsFor now id .access i.config.accessTtl none).encode

/-- The lifetime of access tokens is no longer than that of refresh tokens. -/
theorem accessSeconds_le {config : IssuerConfig} {keys : TokenKeys}
    (hof : Issuer.of config keys = .ok i) :
    i.config.accessTtl.seconds ≤ i.config.refreshTtl.seconds := by
  obtain ⟨rfl, hvalid, -⟩ := eq_of_of hof
  exact Nat.div_le_div_right (IssuerConfig.validate_eq_ok hvalid).2.2

/-- **A pair is issued if and only if the expiry of its refresh token can be written, and each of
its tokens lasts for its lifetime.** -/
theorem issue_lasts_exactly {config : IssuerConfig} {keys : TokenKeys}
    (hof : Issuer.of config keys = .ok i) (hread : clock.read = .ok now) (fresh : Draw)
    (ext : Extension)
    (hrefresh : i.keys.acceptsOwn fresh.refreshSalt (i.signedPart
      (i.claimsFor now fresh.id .refresh i.config.refreshTtl (some ext))) = true)
    (haccess : i.keys.acceptsOwn fresh.accessSalt (i.signedPart
      (i.claimsFor now fresh.id .access i.config.accessTtl none)) = true) :
    ((∃ pair, (i.issue clock fresh ext).result = .ok pair) ↔
      now.seconds + i.config.refreshTtl.seconds ≤ maxSeconds) ∧
    (maxSeconds < now.seconds + i.config.refreshTtl.seconds → (i.issue clock fresh ext).result =
      .error (.failed (.signing (.lifetime i.config.refreshTtl) none))) ∧
    ∀ pair, (i.issue clock fresh ext).result = .ok pair → i.Pairs now fresh.id ext pair ∧
      ∀ fresh' ext' pair', fresh'.id = fresh.id → (i.issue clock fresh' ext').result = .ok pair' →
        payload? pair'.access.token = payload? pair.access.token := by
  have hlate (hlt : maxSeconds < now.seconds + i.config.refreshTtl.seconds) :
      (i.issue clock fresh ext).result =
        .error (.failed (.signing (.lifetime i.config.refreshTtl) none)) := by
    rw [issue, Traced.result_bind, Traced.result_liftM, sign_of_lt hread hlt]
    rfl
  refine ⟨⟨?_, fun hfits => ?_⟩, hlate, fun pair hok => ?_⟩
  · rintro ⟨pair, hok⟩
    by_contra hlt
    rw [hlate (Int.not_le.1 hlt)] at hok
    cases hok
  · have hle := accessSeconds_le hof
    obtain ⟨refresh, hr⟩ := exists_sign_of_le hread hfits hrefresh
    obtain ⟨access, ha⟩ := exists_sign_of_le hread (by omega) haccess
    exact ⟨⟨access, refresh⟩, issue_eq_ok.2 ⟨hr, ha⟩⟩
  · obtain ⟨hr, ha⟩ := issue_eq_ok.1 hok
    have hpayload := payload?_of_sign ha hread
    refine ⟨⟨(sign_eq_ok hr).1, (sign_eq_ok ha).1, lasts_of_sign hr hread hrefresh,
      lasts_of_sign ha hread haccess, hpayload⟩, fun fresh' ext' pair' hid hok' => ?_⟩
    rw [hpayload, payload?_of_sign (issue_eq_ok.1 hok').2 hread, hid]

end Issuer

namespace Sample

/-- An extension with a quote, a backslash and a letter beyond ASCII in its texts. -/
def genuineExtension : Extension := .of "ü" "a\"b\\c" none

/-- A pair that is issued in the middle of a second. Its access token lasts through the second of
its issue and the 7199 seconds after it, half a second less than its lifetime. -/
theorem issue_lasts_of_genuineKeys :
    Issuer.of genuineConfig genuineKeys = .ok ⟨genuineConfig, genuineKeys⟩ ∧
    Clock.read ⟨1500000000⟩ = .ok ⟨1500000000⟩ ∧
    ∃ pair, (Issuer.issue ⟨genuineConfig, genuineKeys⟩ ⟨1500000000⟩ "b" genuineExtension).result =
        .ok pair ∧
      (∃ c, Issuer.verify ⟨genuineConfig, genuineKeys⟩ ⟨7200999999999⟩ pair.access.token = .ok c ∧
        c.core.kind = .access ∧ c.ext = none) ∧
      Issuer.verify ⟨genuineConfig, genuineKeys⟩ ⟨7201000000000⟩ pair.access.token =
        .error (.failed .expired) ∧
      ∃ c, Issuer.verify ⟨genuineConfig, genuineKeys⟩ ⟨7201000000000⟩ pair.refresh.token = .ok c ∧
        c.core.kind = .refresh ∧ c.ext = some genuineExtension := by
  have hof : Issuer.of genuineConfig genuineKeys = .ok ⟨genuineConfig, genuineKeys⟩ := rfl
  have hread : Clock.read ⟨1500000000⟩ = .ok ⟨1500000000⟩ := rfl
  obtain ⟨hiff, -, hpairs⟩ := Issuer.issue_lasts_exactly hof hread "b" genuineExtension
    (by decide +kernel) (by decide +kernel)
  obtain ⟨pair, hok⟩ := hiff.2 (by decide)
  obtain ⟨hpair, -⟩ := hpairs pair hok
  refine ⟨hof, hread, pair, hok, ⟨_, (hpair.access.verify_iff rfl _).2 ⟨by decide, rfl⟩, rfl, rfl⟩,
    hpair.access.expired rfl (by decide), _,
    (hpair.refresh.verify_iff rfl _).2 ⟨by decide, rfl⟩, rfl, rfl⟩

end Sample

end SessionTokens
