import SessionTokens.Proofs.Service.Invariant
import SessionTokens.Proofs.Token.Verify
/-!
# Revocation is permanent

**Theorem (`Lawful.revokes_for_good`).** In every run:

- a step that opens a session for a device, rotates a session or revokes sessions ends every session
  that it is meant to end;
- once a session that was live is live no longer, for whatever reason, no token for it passes a
  check or is rotated, and nobody is told more than of a forged token: that it is invalid;
- a token is rotated at most once.

A session lives on in the store only, under an id that is generated once. An id that is not in the
book can come back only as a fresh one, and ids of the past are never fresh again.
-/

namespace SessionTokens

open Session

/-! ## Answers that give nothing away -/

/-- Whether an end gives nothing away: it is not that the client does not own the session, and it is
that the token is invalid if the service serves. -/
def Discreet (serves : Prop) (h : Halt TokenError) : Prop :=
  h ≠ .failed .notOwned ∧ (serves → h = .failed .invalidToken)

/-- Whether an answer refuses a token and gives nothing away. -/
def Rejects {α : Type} (serves : Prop) (r : Except (Halt TokenError) α) : Prop :=
  ∃ h, r = .error h ∧ Discreet serves h

section

variable {serves : Prop} {α β : Type}

theorem discreet_invalidToken : Discreet serves (.failed .invalidToken) :=
  ⟨by simp, fun _ => rfl⟩

/-- An end that does not concern the token is no secret of the session. -/
theorem discreet_of_not {h : Halt TokenError} (hne : h ≠ .failed .notOwned) (hs : ¬serves) :
    Discreet serves h := ⟨hne, fun hs' => absurd hs' hs⟩

theorem Rejects.eq_invalidToken {r : Except (Halt TokenError) α} (h : Rejects serves r)
    (hs : serves) : r = .error (.failed .invalidToken) := by
  obtain ⟨e, rfl, -, he⟩ := h
  rw [he hs]

theorem Rejects.bind {r : Except (Halt TokenError) α} {f : α → Except (Halt TokenError) β}
    (he : ∀ h, r = .error h → Discreet serves h) (hf : ∀ a, r = .ok a → Rejects serves (f a)) :
    Rejects serves (r.bind f) := by
  cases r with
  | error h => exact ⟨h, rfl, he h rfl⟩
  | ok a => exact hf a rfl

/-- An operation on the store rejects if it gives nothing away before its turn and rejects in it. -/
theorem Site.rejects_perform {x : Site} {clock : Clock} {start : Traced (Halt TokenError) β}
    {plan : β → Txn → Traced (Halt TokenError) (Plan α)}
    (hstart : ∀ h, start.result = .error h → Discreet serves h)
    (hidle : serves → x.store.phase = .idle)
    (hplan : ∀ b, start.result = .ok b → Rejects serves (plan b (x.store.reader clock)).result) :
    Rejects serves (x.perform clock .storage start plan).outcome.result := by
  unfold perform
  cases hs : start.result with
  | error h => exact ⟨h, rfl, hstart h hs⟩
  | ok b =>
    cases hp : x.store.phase with
    | writing p => exact ⟨_, rfl, discreet_of_not (by simp) fun hs => by simp [hidle hs] at hp⟩
    | closed => exact ⟨_, rfl, discreet_of_not (by simp) fun hs => by simp [hidle hs] at hp⟩
    | idle =>
      obtain ⟨h, hh, hdiscreet⟩ := hplan b hs
      have hh' : (plan b ⟨x.store.entries, clock, ∅⟩).result = .error h := hh
      simp only [hh']
      exact ⟨h, rfl, hdiscreet⟩

end

namespace Service

variable {s : Service} {x : Site} {clock : Clock} {token : String}

/-- Whether a service answers a token as it should: it is neither closed nor cancelled, its store
is not busy and not closed, and the token can be told valid or not. -/
structure Serves (s : Service) (x : Site) (clock : Clock) (token : String) : Prop where
  notClosed : s.closed = false
  notCancelled : s.cancelled = false
  idle : x.store.phase = .idle
  decides : ∀ h, s.issuer.verify clock token = .error h → ∃ fault, h = .failed fault

/-- Whether a service refuses a token: the token passes no check, it is not rotated, and neither
answer gives anything away. -/
structure Refuses (s : Service) (x : Site) (clock : Clock) (token : String) : Prop where
  check : ∀ userAgent ip fingerprint, Rejects (s.Serves x clock token)
    (s.check x.store clock token userAgent ip fingerprint).result
  extend : ∀ fresh fingerprint, Rejects (s.Serves x clock token)
    (s.extend x clock fresh token fingerprint).outcome.result

theorem discreet_ensureLive {h : Halt TokenError} (he : s.ensureLive.result = .error h) :
    Discreet (s.Serves x clock token) h := by
  unfold ensureLive at he
  split at he
  · next hclosed =>
    cases he
    exact discreet_of_not (by simp) fun hs => by simp [hs.notClosed] at hclosed
  · split at he
    · next hcancelled =>
      cases he
      exact discreet_of_not (by simp) fun hs => by simp [hs.notCancelled] at hcancelled
    · cases he

theorem discreet_verifyKind {kind : TokenKind} {h : Halt TokenError}
    (he : (s.verifyKind clock token kind).result = .error h) :
    Discreet (s.Serves x clock token) h := by
  unfold verifyKind at he
  simp only [Traced.result_bind, Traced.result_lift] at he
  cases hv : s.issuer.verify clock token with
  | ok c =>
    simp only [hv, mapError_ok, Except.bind] at he
    split at he
    · cases he
    · cases he
      exact discreet_invalidToken
  | error h' =>
    simp only [hv, mapError_error, Except.bind, Except.error.injEq] at he
    subst he
    cases h' with
    | failed fault => exact discreet_invalidToken
    | waiting =>
      exact discreet_of_not (by simp [Halt.map]) fun hs => by simpa using hs.decides _ hv
    | aborted cause =>
      exact discreet_of_not (by simp [Halt.map]) fun hs => by simpa using hs.decides _ hv

end Service

/-! ## A session that is not there -/

section

variable {texts : Set String} {ids : List String} {x : Site} {t : Instant}
  {kept : Book (Option Instant)} {s : Service} {clock : Clock} {token : String}

/-- **A token for no session passes no check.** -/
theorem Intact.rejects_check (h : Intact texts ids x ⟨clock.nanos⟩ kept) (hc : CollisionFree texts)
    (hnone : ∀ c, s.issuer.verify clock token = .ok c →
      c.core.id ∈ texts ∧ kept c.core.id = none)
    (userAgent ip fingerprint : String) :
    Rejects (s.Serves x clock token)
      (s.check x.store clock token userAgent ip fingerprint).result := by
  unfold Service.check
  simp only [Traced.result_bind, Traced.result_enter]
  refine .bind (fun _ he => by cases he) fun _ _ => ?_
  refine .bind (fun _ => Service.discreet_ensureLive) fun _ _ => ?_
  refine .bind (fun _ => Service.discreet_verifyKind) fun c hverify => ?_
  obtain ⟨hv, -⟩ := Service.verifyKind_eq_ok hverify
  obtain ⟨hid, hkept⟩ := hnone c hv
  obtain ⟨-, now, hr⟩ := Issuer.verify_eq_ok hv
  cases hclosed : x.store.isClosed with
  | false =>
    have hfind : (Service.onStore (Session.find x.store clock c.core.id)).result = .ok none := by
      rw [Service.onStore_eq_ok, h.find hc hid hclosed hr, hkept]
      rfl
    rw [hfind]
    exact ⟨_, rfl, discreet_invalidToken⟩
  | true =>
    rw [find_of_isClosed hclosed]
    refine ⟨_, rfl, discreet_of_not (by simp [Halt.map]) fun hs => ?_⟩
    simp [Store.isClosed, hs.idle] at hclosed

/-- **A token for no session is not rotated.** -/
theorem Intact.rejects_extend (h : Intact texts ids x ⟨clock.nanos⟩ kept)
    (hc : CollisionFree texts)
    (hnone : ∀ c, s.issuer.verify clock token = .ok c →
      c.core.id ∈ texts ∧ kept c.core.id = none)
    (fresh : Draw) (fingerprint : String) :
    Rejects (s.Serves x clock token)
      (s.extend x clock fresh token fingerprint).outcome.result := by
  refine Site.rejects_perform (fun e he => ?_) Service.Serves.idle fun c hstart => ?_
  · simp only [Traced.result_bind, Traced.result_enter, bind_eq_error] at he
    obtain he | ⟨_, -, he | ⟨_, -, he⟩⟩ := he
    · cases he
    · exact Service.discreet_ensureLive he
    · exact Service.discreet_verifyKind he
  · simp only [Traced.result_bind, Traced.result_enter, bind_eq_ok] at hstart
    obtain ⟨_, -, _, -, hverify⟩ := hstart
    obtain ⟨hv, -⟩ := Service.verifyKind_eq_ok hverify
    obtain ⟨hid, hkept⟩ := hnone c hv
    obtain ⟨-, now, hr⟩ := Issuer.verify_eq_ok hv
    have hget : (Service.onStore (Session.get (x.store.reader clock) c.core.id)).result =
        .ok none := by
      rw [Service.onStore_eq_ok, h.get hc hid hr, hkept]
      rfl
    simp only [Traced.result_bind, hget]
    exact ⟨_, rfl, discreet_invalidToken⟩

theorem Intact.refuses (h : Intact texts ids x ⟨clock.nanos⟩ kept) (hc : CollisionFree texts)
    (hnone : ∀ c, s.issuer.verify clock token = .ok c →
      c.core.id ∈ texts ∧ kept c.core.id = none) : s.Refuses x clock token :=
  ⟨h.rejects_check hc hnone, h.rejects_extend hc hnone⟩

end

/-! ## The end of a session -/

namespace Site

/-- Whether the session of an id was live at an instant of a run. -/
def WasLive (x : Site) (steps : List Step) (id : String) : Prop :=
  ∃ before after t, steps = before ++ after ∧ (∀ st ∈ before, st.clock.nanos ≤ t.nanos) ∧
    (x.run before).Live t id

/-- Whether a session that was live in a run is live no longer at an instant after it. -/
structure Ended (x : Site) (steps : List Step) (t : Instant) (id : String) : Prop where
  after : ∀ st ∈ steps, st.clock.nanos ≤ t.nanos
  wasLive : x.WasLive steps id
  notLive : ¬(x.run steps).Live t id

/-- Whether the step of a run at an index rotates a token. -/
def Rotates (x : Site) (steps : List Step) (i : Nat) (token : String) : Prop :=
  ∃ s clock fresh fingerprint pair,
    steps[i]? = some ⟨clock, .extend s fresh token fingerprint⟩ ∧
      (s.extend (x.run (steps.take i)) clock fresh token fingerprint).outcome.result = .ok pair

/-- Whether sessions that end in a run have ended for good. -/
structure RevokesForGood (x : Site) (steps : List Step) : Prop where
  /-- A step that is meant to end a session ends it. -/
  ends : ∀ past st future r expiry, steps = past ++ st :: future →
    (x.run past).Holds st.instant r expiry → st.Ends (x.run past) r →
      ¬(x.run (past ++ [st])).Live st.instant r.id
  /-- A session that has ended does not come back. -/
  stays : ∀ past future t later id, steps = past ++ future → x.Ended past t id →
    (∀ st ∈ future, t.nanos ≤ st.clock.nanos) → (∀ st ∈ future, st.clock.nanos ≤ later.nanos) →
      t.nanos ≤ later.nanos → ¬(x.run steps).Live later id
  /-- Every token for a session that has ended is refused. -/
  refuses : ∀ past future t id, steps = past ++ future → x.Ended past t id →
    (∀ st ∈ future, t.nanos ≤ st.clock.nanos) → ∀ s' clock' token,
      Service.tokenId? s' clock' token = some id → ∀ (s : Service) (clock : Clock),
        (∀ st ∈ future, st.clock.nanos ≤ clock.nanos) → t.nanos ≤ clock.nanos →
          s.Refuses (x.run steps) clock token
  /-- So is every token that is not verified. -/
  forged : ∀ (s : Service) (clock : Clock) token, (∀ st ∈ steps, st.clock.nanos ≤ clock.nanos) →
    s.tokenId? clock token = none → s.Refuses (x.run steps) clock token
  /-- No token is rotated twice. -/
  once : ∀ token i j, x.Rotates steps i token → x.Rotates steps j token → i = j

end Site

section

variable {texts : Set String} {x : Site} {t later : Instant} {past future steps : List Step}
  {st : Step} {id : String}

/-- The record of a session that a step brings has the id that is generated for the step. -/
theorem Step.Brings.id_mem {r : Record} (h : st.Brings x r) : r.id ∈ st.action.fresh? := by
  obtain ⟨clock, action⟩ := st
  cases action with
  | create s fresh q =>
    obtain ⟨pair, now, -, -, rfl⟩ := h
    exact rfl
  | extend s fresh token fingerprint =>
    obtain ⟨pair, now, c, old, expiry, -, -, -, -, -, rfl⟩ := h
    exact rfl
  | _ => exact h.elim

/-- The ids that are generated in a run are hashed. -/
theorem Lawful.mem_texts (h : Lawful texts x steps) (hid : id ∈ freshIds steps) : id ∈ texts := by
  obtain ⟨⟨clock, action⟩, hst, hfresh⟩ := List.mem_filterMap.1 hid
  refine h.hashed _ hst _ ?_
  cases action with
  | create s fresh q =>
    cases hfresh
    exact List.mem_cons_self
  | extend s fresh token fingerprint =>
    cases hfresh
    exact List.mem_cons_self
  | _ => cases hfresh

/-- The id of a session that was live was generated in the run. -/
theorem Lawful.mem_of_wasLive (h : Lawful texts x steps) (hw : x.WasLive steps id) :
    id ∈ freshIds steps := by
  obtain ⟨before, after, t, rfl, ht, hlive⟩ := hw
  obtain ⟨kept, hkept⟩ := h.of_append.intact ht
  obtain ⟨s, hs⟩ := hkept.live_iff.1 hlive
  rw [freshIds_append]
  exact List.mem_append_left _ (hkept.known _ _ hs)

/-- **An id of the past without a session does not get one.** -/
theorem Lawful.stays_away (h : Lawful texts x (past ++ future)) (hid : id ∈ freshIds past)
    (hpast : ∀ st ∈ past, st.clock.nanos ≤ t.nanos) (hnot : ¬(x.run past).Live t id)
    (hfuture : ∀ st ∈ future, t.nanos ≤ st.clock.nanos)
    (hlater : ∀ st ∈ future, st.clock.nanos ≤ later.nanos) (hle : t.nanos ≤ later.nanos) :
    ¬(x.run (past ++ future)).Live later id := by
  induction future using List.reverseRecOn generalizing later with
  | nil =>
    rw [List.append_nil] at h ⊢
    obtain ⟨kept, hkept⟩ := h.intact hpast
    intro hlive
    obtain ⟨s, hs⟩ := (hkept.stay hle rfl (hkept.durable.mono hle)).live_iff.1 hlive
    exact hnot (hkept.live_iff.2 ⟨s, kept.filter_sub _ id s hs⟩)
  | append_singleton future st ih =>
    rw [← List.append_assoc] at h ⊢
    obtain ⟨hbefore, hst⟩ := List.forall_mem_append.1 hfuture
    have hnone := ih h.of_append hbefore
      (fun st' hst' => h.before st' (List.mem_append_right _ hst')) (hst st List.mem_cons_self)
    obtain ⟨kept, hkept⟩ := h.of_append.intact h.before
    obtain ⟨kept', hkept', hevolves⟩ :=
      h.step hkept (hlater st (List.mem_append_right _ List.mem_cons_self))
    intro hlive
    obtain ⟨⟨r, expiry⟩, hr⟩ := hkept'.live_iff.1 hlive
    obtain ⟨expiry', hold⟩ | hbrings := hevolves.origin id r expiry hr
    · exact hnone (hkept.live_iff.2 ⟨_, hold⟩)
    · obtain ⟨rfl, -, -⟩ := hkept'.keys.sound _ _ _ hr
      refine h.notMem_freshIds hbrings.id_mem ?_
      rw [freshIds_append]
      exact List.mem_append_left _ hid

/-- **A session that has ended does not come back.** -/
theorem Lawful.stays_ended (h : Lawful texts x (past ++ future)) (he : x.Ended past t id)
    (hfuture : ∀ st ∈ future, t.nanos ≤ st.clock.nanos)
    (hlater : ∀ st ∈ future, st.clock.nanos ≤ later.nanos) (hle : t.nanos ≤ later.nanos) :
    ¬(x.run (past ++ future)).Live later id :=
  h.stays_away (h.of_append.mem_of_wasLive he.wasLive) he.after he.notLive hfuture hlater hle

/-- **A step ends the sessions that it is meant to end.** -/
theorem Lawful.ends (h : Lawful texts x (past ++ [st])) {r : Record} {expiry : Option Instant}
    (hr : (x.run past).Holds st.instant r expiry) (he : st.Ends (x.run past) r) :
    ¬(x.run (past ++ [st])).Live st.instant r.id := by
  obtain ⟨kept, hkept⟩ := h.of_append.intact h.before
  obtain ⟨kept', hkept', hevolves⟩ := h.step hkept (Int.le_refl st.instant.nanos)
  intro hlive
  obtain ⟨s, hs⟩ := hkept'.live_iff.1 hlive
  rw [hevolves.ended _ _ _ (hkept.holds_iff.1 hr) he] at hs
  cases hs

/-- **Every token that names an id without a session is refused.** -/
theorem Lawful.refuses_of_not_live (h : Lawful texts x steps) {clock : Clock}
    (hclock : ∀ st ∈ steps, st.clock.nanos ≤ clock.nanos) (hid : id ∈ texts)
    (hnot : ¬(x.run steps).Live ⟨clock.nanos⟩ id) {token : String}
    (htoken : Issuer.namedId? token = some id) (s : Service) :
    s.Refuses (x.run steps) clock token := by
  obtain ⟨kept, hkept⟩ := h.intact (t := ⟨clock.nanos⟩) hclock
  refine hkept.refuses h.collisionFree fun c hv => ?_
  rw [Issuer.namedId?_of_verify hv] at htoken
  cases htoken
  refine ⟨hid, ?_⟩
  rw [Option.eq_none_iff_forall_ne_some]
  intro r hr
  exact hnot (hkept.live_iff.2 ⟨r, hr⟩)

/-- **Every token for a session that has ended is refused.** -/
theorem Lawful.refuses (h : Lawful texts x (past ++ future)) (he : x.Ended past t id)
    (hfuture : ∀ st ∈ future, t.nanos ≤ st.clock.nanos) {s' : Service} {clock' : Clock}
    {token : String} (htoken : s'.tokenId? clock' token = some id) (s : Service) {clock : Clock}
    (hclock : ∀ st ∈ future, st.clock.nanos ≤ clock.nanos) (hle : t.nanos ≤ clock.nanos) :
    s.Refuses (x.run (past ++ future)) clock token := by
  have hall : ∀ st ∈ past ++ future, st.clock.nanos ≤ clock.nanos := by
    rw [List.forall_mem_append]
    exact ⟨fun st hst => Int.le_trans (he.after st hst) hle, hclock⟩
  obtain ⟨c, hv, rfl⟩ := Service.tokenId?_eq_some.1 htoken
  have hid := h.of_append.mem_texts (h.of_append.mem_of_wasLive he.wasLive)
  exact h.refuses_of_not_live hall hid (h.stays_ended he hfuture hclock hle)
    (Issuer.namedId?_of_verify hv) s

/-- **Every token that is not verified is refused.** -/
theorem Lawful.refuses_forged (h : Lawful texts x steps) {s : Service} {clock : Clock}
    {token : String} (hclock : ∀ st ∈ steps, st.clock.nanos ≤ clock.nanos)
    (htoken : s.tokenId? clock token = none) : s.Refuses (x.run steps) clock token := by
  obtain ⟨kept, hkept⟩ := h.intact (t := ⟨clock.nanos⟩) hclock
  refine hkept.refuses h.collisionFree fun c hv => ?_
  rw [Service.tokenId?_eq_some.2 ⟨c, hv, rfl⟩] at htoken
  cases htoken

/-- A token that is rotated is for a session that is live, and that the rotation ends. -/
theorem Lawful.ended_of_extend (h : Lawful texts x (past ++ [st])) {s : Service} {clock : Clock}
    {fresh : Draw} {token fingerprint : String} {pair : TokenPair}
    (hst : st = ⟨clock, .extend s fresh token fingerprint⟩)
    (hok : (s.extend (x.run past) clock fresh token fingerprint).outcome.result = .ok pair) :
    ∃ id, s.tokenId? clock token = some id ∧ x.Ended (past ++ [st]) st.instant id := by
  subst hst
  obtain ⟨kept, hkept⟩ := h.of_append.intact h.before
  obtain ⟨now, c, old, hr, hv, -, hget, -⟩ := Service.extend_eq_ok hok
  have hid : s.tokenId? clock token = some c.core.id := Service.tokenId?_eq_some.2 ⟨c, hv, rfl⟩
  have hctexts : c.core.id ∈ texts := by
    refine h.hashed_last _ ?_
    exact List.mem_cons_of_mem _ (Option.mem_toList.2 hid)
  rw [hkept.get h.collisionFree hctexts hr, Except.ok.injEq] at hget
  obtain ⟨⟨r, expiry⟩, hrec, rfl⟩ := Option.map_eq_some_iff.1 hget
  obtain ⟨hholds, hrid⟩ := hkept.eq_some_iff.1 hrec
  refine ⟨c.core.id, hid, h.until_last, ?_, ?_⟩
  · exact ⟨past, _, ⟨clock.nanos⟩, rfl, h.before, r, expiry, hholds, hrid⟩
  · rw [← hrid]
    exact h.ends hholds ⟨pair, c, r, expiry, hok, hv, hholds, hrid, rfl⟩

theorem take_concat {i : Nat} (h : steps[i]? = some st) :
    steps.take i ++ [st] = steps.take (i + 1) := by
  rw [List.take_add_one, h]
  rfl

theorem Lawful.of_take (h : Lawful texts x steps) (n : Nat) : Lawful texts x (steps.take n) := by
  rw [← List.take_append_drop n steps] at h
  exact h.of_append

/-- **After a token has been rotated, it is not rotated again.** -/
theorem Lawful.not_rotates_later (h : Lawful texts x steps) {token : String} {i j : Nat}
    (hi : x.Rotates steps i token) (hj : x.Rotates steps j token) : ¬i < j := by
  intro hlt
  obtain ⟨s, clock, fresh, fingerprint, pair, hsi, hoki⟩ := hi
  obtain ⟨s', clock', fresh', fingerprint', pair', hsj, hokj⟩ := hj
  have hrun := h.of_take (j + 1)
  rw [← take_concat hsj] at hrun
  have hfirst := h.of_take (i + 1)
  rw [← take_concat hsi] at hfirst
  obtain ⟨id, hid, hended⟩ := hfirst.ended_of_extend rfl hoki
  have hsplit : steps.take i ++ [⟨clock, .extend s fresh token fingerprint⟩] ++
      (steps.take j).drop (i + 1) = steps.take j := by
    rw [take_concat hsi]
    conv_rhs => rw [← List.take_append_drop (i + 1) (steps.take j)]
    rw [List.take_take, Nat.min_eq_left hlt]
  have hlawful := hrun.of_append
  have hbefore := hrun.before
  rw [← hsplit] at hlawful hbefore hokj
  obtain ⟨hpast, hmiddle⟩ := List.forall_mem_append.1 hbefore
  have hrefuses := hlawful.refuses hended hlawful.after hid s' hmiddle
    (hpast _ (List.mem_append_right _ List.mem_cons_self))
  obtain ⟨e, he, -⟩ := hrefuses.extend fresh' fingerprint'
  rw [hokj] at he
  cases he

/-- **Revocation is permanent**, in every run. -/
theorem Lawful.revokes_for_good (h : Lawful texts x steps) : x.RevokesForGood steps where
  ends := by
    rintro past st future r expiry rfl hr he
    rw [List.append_cons] at h
    exact h.of_append.ends hr he
  stays := by
    rintro past future t later id rfl he hfuture hlater hle
    exact h.stays_ended he hfuture hlater hle
  refuses := by
    rintro past future t id rfl he hfuture s' clock' token htoken s clock hclock hle
    exact h.refuses he hfuture htoken s hclock hle
  forged := by
    intro s clock token hclock htoken
    exact h.refuses_forged hclock htoken
  once := by
    intro token i j hi hj
    exact Nat.le_antisymm (Nat.not_lt.1 (h.not_rotates_later hj hi))
      (Nat.not_lt.1 (h.not_rotates_later hi hj))

end

/-! ## The small run -/

namespace Sample

/-- An access token for the session that is opened first. -/
def staleToken : String :=
  "eyJ0eXAiOiJKV1QiLCJhbGciOiJFZERTQSJ9." ++
    "eyJqdGkiOiJhIiwiaXNzIjoiaSIsImlhdCI6MCwiZXhwIjo3MjAwLCJraW5kIjoiYWNjZXNzIn0." ++
    "KQK6EzQ6h2_3b5xW4P_vocd-9o3TBAiTlbjhih6edQ04gtM4lJ03ct-uLFxrOpauE8EccrLKVFMGRGJyktE9Bg"

theorem tokenId?_staleToken : service.tokenId? clock staleToken = some "a" := by
  decide +kernel

theorem live_first : (site.run (opening.take 1)).Live ⟨0⟩ "a" := by
  have hfind : ((site.run (opening.take 1)).store.entries.live ⟨0⟩).find? (recordKey "a") =
      some ⟨(request.record "a" ⟨0⟩).encode, service.lapse ⟨0⟩⟩ := by
    decide +kernel
  have hvalid : (Timestamp.ofInstant ⟨0⟩).Valid :=
    Service.valid_of_read (rfl : clock.read = .ok ⟨0⟩)
  exact ⟨request.record "a" ⟨0⟩, _, ⟨_, hfind, Record.decode?_encode hvalid⟩, rfl⟩

theorem not_live_first : ¬(site.run opening).Live ⟨0⟩ "a" := by
  have hnone : ((site.run opening).store.entries.live ⟨0⟩).find? (recordKey "a") = none := by
    decide +kernel
  rintro ⟨r, expiry, ⟨v, hfind, -⟩, hid⟩
  rw [hid, hnone] at hfind
  cases hfind

end Sample

/-- The token of a session in whose place another has been opened is refused. -/
theorem revokes_for_good_of_sample :
    (Sample.service.check (Sample.site.run Sample.opening).store Sample.clock Sample.staleToken
      "" "p" "f").result = .error (.failed .invalidToken) := by
  have hgood := Lawful.revokes_for_good Sample.lawful.of_append
  have htoken := Sample.tokenId?_staleToken
  have hended : Sample.site.Ended Sample.opening ⟨0⟩ "a" :=
    ⟨by decide, ⟨_, _, ⟨0⟩, (List.take_append_drop 1 Sample.opening).symm, by decide,
      Sample.live_first⟩, Sample.not_live_first⟩
  have hrefuses := hgood.refuses Sample.opening [] ⟨0⟩ "a" (List.append_nil _).symm hended
    (by simp) Sample.service Sample.clock Sample.staleToken htoken Sample.service Sample.clock
    (by simp) (Int.le_refl _)
  refine (hrefuses.check "" "p" "f").eq_invalidToken ⟨rfl, rfl,
    Sample.phase_opening Sample.site, fun e he => ?_⟩
  obtain ⟨c, hv, -⟩ := Service.tokenId?_eq_some.1 htoken
  rw [hv] at he
  cases he

end SessionTokens
