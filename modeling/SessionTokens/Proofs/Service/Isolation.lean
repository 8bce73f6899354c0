import SessionTokens.Proofs.Service.Change
import SessionTokens.Proofs.Service.Descent
/-!
# Users do not notice each other

Take a run on a store without a file, and leave out every operation that was made for one user.

**Theorem (`Lawful.reply_eq_of_others`).** The operations that were made for another user are
answered as before, if the two never open a session from the same device.

**What both runs share.** Books of the two runs agree on every device from which the first user
never opens a session. An operation that was left out changes sessions of other devices only, and
one that takes place in both runs changes the same sessions of these devices in both.

**Third users.** Devices of the first user may also be devices of a third one, whose sessions
evict and are evicted there. A revocation by id tells whether somebody else's session is there, so
it is answered as before only for sessions of other devices (`reply_ne_of_shared_device`).
-/

namespace SessionTokens

open Session

/-! ## Who an operation is made for -/

/-- Whether a step of a run is an operation that is made for a user: by name, or by a token for one
of the user's sessions. -/
def Step.MadeFor (x : Site) (steps : List Step) (st : Step) (u : String) : Prop :=
  match st.action with
  | .create _ _ q => q.userId = u
  | .extend _ _ token _ => ∃ id, Issuer.namedId? token = some id ∧ SessionOf x steps u id
  | .check _ token _ _ _ => ∃ id, Issuer.namedId? token = some id ∧ SessionOf x steps u id
  | .list _ userId => userId = u
  | .delete _ _ userId => userId = u
  | .deleteUser _ userId => userId = u
  | _ => False

open Classical in
/-- The steps of a part of a run that are not made for a user. -/
noncomputable def others (x : Site) (steps : List Step) (u : String) (part : List Step) :
    List Step :=
  part.filter fun st => ¬st.MadeFor x steps u

/-- Whether a user never opens a session from a device in a run. -/
def ApartFrom (steps : List Step) (u : String) (i : Identity) : Prop :=
  ∀ clock s fresh q, ⟨clock, .create s fresh q⟩ ∈ steps → q.userId = u → q.identity ≠ i

/-- The answer to a step. -/
inductive Reply
  | pair (r : Except (Halt TokenError) TokenPair)
  | checked (r : Except (Halt TokenError) CheckedSession)
  | sessions (r : Except (Halt TokenError) (List SessionInfo))
  | done (r : Except (Halt TokenError) Unit)
  | count (r : Except (Halt TokenError) Nat)
  | silent

/-- What a step is answered at a site. -/
def Step.reply (st : Step) (x : Site) : Reply :=
  match st.action with
  | .create s fresh q => .pair (s.create x st.clock fresh q).outcome.result
  | .extend s fresh token fingerprint =>
    .pair (s.extend x st.clock fresh token fingerprint).outcome.result
  | .check s token userAgent ip fingerprint =>
    .checked (s.check x.store st.clock token userAgent ip fingerprint).result
  | .list s userId => .sessions (s.list x.store st.clock userId).result
  | .delete s id userId => .done (s.delete x st.clock id userId).outcome.result
  | .deleteUser s userId => .count (s.deleteUser x st.clock userId).outcome.result
  | .close s => .done (s.close x st.clock).2.outcome.result
  | _ => .silent

/-! ## Steps and the devices that two runs share -/

variable {texts : Set String} {x y : Site} {apart : Identity → Prop}
  {b c : Book (Option Instant)} {st : Step}

/-- A step that changes sessions of other devices only, if it succeeds, keeps the rest. -/
theorem Step.outcome_other (h : st.Succeeds x → (st.change b).Agrees apart b) :
    (st.outcome x b).Agrees apart b := by
  by_cases hsucceeds : st.Succeeds x
  · rw [outcome_of_succeeds hsucceeds]
    exact h hsucceeds
  · rw [outcome_of_not hsucceeds]
    exact .refl apart b

theorem Step.outcome_congr (hsucceeds : st.Succeeds x ↔ st.Succeeds y) (h : b.Agrees apart c)
    (hchange : (st.change b).Agrees apart (st.change c)) :
    (st.outcome x b).Agrees apart (st.outcome y c) := by
  by_cases hx : st.Succeeds x
  · rw [outcome_of_succeeds hx, outcome_of_succeeds (hsucceeds.1 hx)]
    exact hchange
  · rw [outcome_of_not hx, outcome_of_not fun hy => hx (hsucceeds.2 hy)]
    exact h

/-- Rotating a session of another device keeps the rest. -/
theorem Step.change_extend_other {clock : Clock} {s : Service}
    {fresh : Draw} {token fingerprint : String} (hfresh : b fresh.id = none)
    (hid : ∀ id, s.tokenId? clock token = some id → ∀ r m, b id = some (r, m) →
      ¬apart r.identity) :
    ((Step.mk clock (.extend s fresh token fingerprint)).change b).Agrees apart b := by
  simp only [change]
  cases htoken : s.tokenId? clock token with
  | none => exact .refl apart b
  | some id =>
    dsimp only
    cases hold : b id with
    | none => exact .refl apart b
    | some entry =>
      obtain ⟨old, expiry⟩ := entry
      have hnone : b.remove id fresh.id = none := (b.remove_sub id).eq_none hfresh
      have hold' : ¬apart (Service.rotated old fresh.id ⟨clock.nanos⟩).identity :=
        hid id htoken old expiry hold
      exact (Book.Agrees.install_other hold' hnone).trans (.remove_other (hid id htoken))

/-- A rotation that takes place in both runs does the same on the devices that they share. -/
theorem extend_agrees (hc : CollisionFree texts) {clock : Clock} {s : Service}
    {fresh : Draw} {token fingerprint : String} (h : Beside texts x y ⟨clock.nanos⟩ b c)
    (hagree : b.Agrees apart c) (htexts : ∀ id, s.tokenId? clock token = some id → id ∈ texts)
    (hb : b fresh.id = none) (hc' : c fresh.id = none) :
    ((Step.mk clock (.extend s fresh token fingerprint)).outcome x b).Agrees apart
      ((Step.mk clock (.extend s fresh token fingerprint)).outcome y c) := by
  have hof : (∀ id, s.tokenId? clock token = some id → b id = c id) ∨
      (∀ id, s.tokenId? clock token = some id → ∀ r m, b id = some (r, m) → ¬apart r.identity) ∧
        ∀ id, s.tokenId? clock token = some id → ∀ r m, c id = some (r, m) →
          ¬apart r.identity := by
    cases s.tokenId? clock token with
    | none => exact .inl nofun
    | some id =>
      simp only [Option.some.injEq, forall_eq']
      exact hagree.eq_or_other id
  obtain hsame | ⟨hotherb, hotherc⟩ := hof
  · have hreply : (s.extend x clock fresh token fingerprint).outcome.result =
        (s.extend y clock fresh token fingerprint).outcome.result :=
      s.extend_result_eq h hc fun claims hv =>
        have hid := Service.tokenId?_eq_some.2 ⟨claims, hv, rfl⟩
        ⟨htexts _ hid, hsame _ hid⟩
    refine Step.outcome_congr (by simp only [Step.Succeeds, hreply]) hagree ?_
    simp only [Step.change]
    cases htoken : s.tokenId? clock token with
    | none => exact hagree
    | some id =>
      dsimp only
      rw [hsame id htoken]
      cases c id with
      | none => exact hagree
      | some entry => exact (hagree.remove id).install _ _
  · exact (Step.outcome_other fun _ => Step.change_extend_other hb hotherb).trans <|
      hagree.trans (Step.outcome_other fun _ => Step.change_extend_other hc' hotherc).symm

/-- A revocation that takes place in both runs does the same on the devices that they share. -/
theorem delete_agrees (hc : CollisionFree texts) {clock : Clock} {s : Service}
    {id userId : String} (h : Beside texts x y ⟨clock.nanos⟩ b c) (hagree : b.Agrees apart c)
    (hid : id ∈ texts) :
    ((Step.mk clock (.delete s id userId)).outcome x b).Agrees apart
      ((Step.mk clock (.delete s id userId)).outcome y c) := by
  obtain hsame | ⟨hotherb, hotherc⟩ := hagree.eq_or_other id
  · have hreply : (s.delete x clock id userId).outcome.result =
        (s.delete y clock id userId).outcome.result := s.delete_result_eq h hc hid hsame
    exact Step.outcome_congr (by simp only [Step.Succeeds, hreply]) hagree (hagree.remove id)
  · exact (Step.outcome_other fun _ => .remove_other hotherb).trans <|
      hagree.trans (Step.outcome_other fun _ => .remove_other hotherc).symm

/-- **A step that takes place in both runs does the same on the devices that they share.** -/
theorem Step.outcome_agrees (hc : CollisionFree texts) (h : Beside texts x y st.instant b c)
    (hagree : b.Agrees apart c) (htexts : ∀ a ∈ st.texts, a ∈ texts)
    (hb : ∀ id ∈ st.action.fresh?, b id = none) (hc' : ∀ id ∈ st.action.fresh?, c id = none) :
    (st.outcome x b).Agrees apart (st.outcome y c) := by
  obtain ⟨clock, action⟩ := st
  cases action with
  | create s fresh q =>
    have hreply : (s.create x clock fresh q).outcome.result =
        (s.create y clock fresh q).outcome.result :=
      s.create_result_eq h hc (Service.within_of_create htexts ⟨clock.nanos⟩).identity
    exact outcome_congr (by simp only [Succeeds, hreply]) hagree (hagree.install _ _)
  | extend s fresh token fingerprint =>
    refine extend_agrees hc h hagree (fun id hid => ?_) (hb fresh.id rfl) (hc' fresh.id rfl)
    exact htexts id (List.mem_cons_of_mem _ (Option.mem_toList.2 hid))
  | delete s id userId => exact delete_agrees hc h hagree (htexts id List.mem_cons_self)
  | deleteUser s userId =>
    have hok := s.deleteUser_ok_iff h hc (htexts userId List.mem_cons_self)
    exact outcome_congr hok hagree (hagree.without fun r => r.userId = userId)
  | _ => exact outcome_congr .rfl hagree hagree

/-! ## The two runs -/

/-- A request for a user is from a device of the user. -/
theorem Descends.not_apart {steps : List Step} {q : SessionRequest} {id u : String}
    (h : Descends steps q id) (hu : q.userId = u) : ¬ApartFrom steps u q.identity := by
  intro hapart
  obtain ⟨clock, s, fresh, hmem⟩ := h.exists_create
  exact hapart clock s fresh q hmem hu rfl

/-- The sessions of a user are of devices of the user. -/
theorem Book.Descended.not_apart {steps : List Step} (h : b.Descended steps) {id u : String}
    {r : Record} {m : Option Instant} (hr : b id = some (r, m)) (hu : r.userId = u) :
    ¬ApartFrom steps u r.identity := by
  obtain ⟨q, hq, huser, hidentity⟩ := h id r m hr
  rw [hidentity]
  exact hq.not_apart (huser ▸ hu)

theorem Lawful.of_sublist {steps part : List Step} (h : Lawful texts x steps)
    (hsub : part.Sublist steps) : Lawful texts x part :=
  ⟨h.vacant, h.ascending.sublist hsub, h.fresh.sublist (hsub.filterMap _), h.collisionFree,
    fun st hst => h.hashed st (hsub.subset hst)⟩

section Runs

variable {steps past rest : List Step} {u v : String} {t : Instant}

theorem others_sublist (x : Site) (steps : List Step) (u : String) (part : List Step) :
    (others x steps u part).Sublist part := List.filter_sublist

theorem others_append (x : Site) (steps : List Step) (u : String) (a b : List Step) :
    others x steps u (a ++ b) = others x steps u a ++ others x steps u b := List.filter_append ..

theorem others_concat_of_madeFor (h : st.MadeFor x steps u) :
    others x steps u (past ++ [st]) = others x steps u past := by
  simp [others, h]

theorem others_concat_of_not (h : ¬st.MadeFor x steps u) :
    others x steps u (past ++ [st]) = others x steps u past ++ [st] := by
  simp [others, h]

theorem Step.MadeFor.ofClient (h : st.MadeFor x steps u) : st.action.OfClient := by
  obtain ⟨clock, action⟩ := st
  cases action with
  | close | sweep | reopen | disturb => exact h.elim
  | _ => trivial

/-- Both runs leave the same frame. -/
theorem frame_run_others (hmemory : x.store.medium = .memory) (past : List Step) :
    (x.run past).frame = (x.run (others x steps u past)).frame := by
  induction past using List.reverseRecOn with
  | nil => rfl
  | append_singleton past st ih =>
    rw [Site.run_concat]
    by_cases hmade : st.MadeFor x steps u
    · rw [others_concat_of_madeFor hmade, frame_step_of_client _ hmade.ofClient, ih]
    · rw [others_concat_of_not hmade, Site.run_concat]
      exact frame_step_congr ih (medium_run hmemory past) st

/-- **An operation that is made for a user changes sessions of the user's devices only.** -/
theorem Lawful.outcome_other (h : Lawful texts x steps) (hst : st ∈ steps)
    (hmade : st.MadeFor x steps u) {z : Site}
    (hkeys : Represents False texts (z.store.entries.held? st.instant) b)
    (hdescended : b.Descended steps) (hfresh : ∀ id ∈ st.action.fresh?, b id = none) :
    (st.outcome z b).Agrees (ApartFrom steps u) b := by
  refine Step.outcome_other fun hsucceeds => ?_
  have htexts := h.hashed st hst
  obtain ⟨clock, action⟩ := st
  cases action with
  | create s fresh q =>
    have hq : ¬ApartFrom steps u q.identity := fun hapart => hapart clock s fresh q hst hmade rfl
    exact .install_other hq (hfresh fresh.id rfl)
  | extend s fresh token fingerprint =>
    obtain ⟨id, hnamed, q, hq, hu⟩ := hmade
    refine Step.change_extend_other (hfresh fresh.id rfl) fun id' htoken r m hr => ?_
    obtain ⟨claims, hv, rfl⟩ := Service.tokenId?_eq_some.1 htoken
    obtain rfl : claims.core.id = id := by
      rw [Issuer.namedId?_of_verify hv] at hnamed
      exact Option.some.inj hnamed
    obtain ⟨q', hq', huser, -⟩ := hdescended _ r m hr
    obtain rfl := hq.descends.unique h.fresh hq'
    exact hdescended.not_apart hr (huser.trans hu)
  | delete s id userId =>
    obtain ⟨-, r, m, -, hr, huser, -⟩ := s.delete_effect h.collisionFree hkeys (Int.le_refl _)
      (htexts id List.mem_cons_self) hsucceeds
    refine .remove_other fun r' m' hr' => ?_
    rw [hr] at hr'
    cases hr'
    exact hdescended.not_apart hr (huser.trans hmade)
  | deleteUser s userId =>
    show (b.without fun r => r.userId = userId).Agrees _ b
    refine .without_other fun id r m hr huser => hdescended.not_apart hr ?_
    exact (of_decide_eq_true huser).trans hmade
  | _ => exact hsucceeds.elim

/-- **The books of both runs agree on the devices from which the user never opens a session.** -/
theorem Lawful.agrees (h : Lawful texts x steps) (hmemory : x.store.medium = .memory)
    (hsteps : steps = past ++ rest) (ht : ∀ st ∈ past, st.clock.nanos ≤ t.nanos)
    (hb : Represents False texts ((x.run past).store.entries.held? t) b)
    (hc : Represents False texts ((x.run (others x steps u past)).store.entries.held? t) c) :
    b.Agrees (ApartFrom steps u) c := by
  induction past using List.reverseRecOn generalizing rest t b c with
  | nil =>
    rw [hb.unique hc]
    exact .refl _ c
  | append_singleton past st ih =>
    rw [List.append_assoc] at hsteps
    have hpast : past.Sublist steps := hsteps ▸ List.sublist_append_left _ _
    have hst : st ∈ steps := hsteps ▸ List.mem_append_right _ List.mem_cons_self
    have hconcat : Lawful texts x (past ++ [st]) :=
      h.of_sublist (hsteps ▸ (List.append_assoc past [st] rest) ▸ List.sublist_append_left _ _)
    have hle : st.instant.nanos ≤ t.nanos := ht st (List.mem_append_right _ List.mem_cons_self)
    obtain ⟨b', hb', htrace⟩ := hconcat.of_append.traceable hconcat.before
    obtain ⟨c', hc', -⟩ := (hconcat.of_append.of_sublist (others_sublist x steps u past)).traceable
      fun st' hst' => hconcat.before st' ((others_sublist x steps u past).subset hst')
    have hagree := ih hsteps hconcat.before hb'.keys hc'.keys
    have hfresh : ∀ id ∈ st.action.fresh?, b' id = none := fun id hid =>
      hb'.notMem (hconcat.notMem_freshIds hid)
    have hnew := represents_step h.collisionFree (fun _ _ => medium_run hmemory past) hb'.keys
      (h.hashed st hst) hfresh hle
    rw [Site.run_concat] at hb
    obtain rfl := hb.unique hnew
    by_cases hmade : st.MadeFor x steps u
    · rw [others_concat_of_madeFor hmade] at hc
      obtain rfl := hc.unique (hc'.keys.later hle)
      exact ((h.outcome_other hst hmade hb'.keys (htrace.descended hpast.subset) hfresh).trans
        hagree).filter _
    · have hfresh' : ∀ id ∈ st.action.fresh?, c' id = none := fun id hid =>
        hc'.notMem fun hmem => hconcat.notMem_freshIds hid
          (((others_sublist x steps u past).filterMap _).subset hmem)
      have hnew' := represents_step h.collisionFree (fun _ _ => medium_run hmemory _) hc'.keys
        (h.hashed st hst) hfresh' hle
      rw [others_concat_of_not hmade, Site.run_concat] at hc
      obtain rfl := hc.unique hnew'
      have hbeside : Beside texts (x.run past) (x.run (others x steps u past)) st.instant b' c' :=
        ⟨frame_run_others hmemory past, medium_run hmemory past, hb'.keys, hc'.keys⟩
      exact (Step.outcome_agrees h.collisionFree hbeside hagree (h.hashed st hst) hfresh
        hfresh').filter _

/-! ## Answers in both runs -/

/-- What is known of both runs at the same instant. -/
structure Twins (texts : Set String) (x : Site) (steps : List Step) (u : String)
    (past : List Step) (t : Instant) (b c : Book (Option Instant)) : Prop where
  beside : Beside texts (x.run past) (x.run (others x steps u past)) t b c
  agrees : b.Agrees (ApartFrom steps u) c
  left : b.Traceable x past
  right : c.Traceable x (others x steps u past)

/-- The part of a run before a step, and the same part without what was made for a user. -/
theorem Lawful.exists_twins (h : Lawful texts x steps) (hmemory : x.store.medium = .memory)
    (hsteps : steps = past ++ st :: rest) : ∃ b c, Twins texts x steps u past st.instant b c := by
  have hpast : Lawful texts x past := h.of_sublist (hsteps ▸ List.sublist_append_left _ _)
  have hothers := others_sublist x steps u past
  have hbefore : ∀ st' ∈ past, st'.clock.nanos ≤ st.instant.nanos := by
    have hascending := hsteps ▸ h.ascending
    exact fun st' hst' => (List.pairwise_append.1 hascending).2.2 st' hst' st List.mem_cons_self
  obtain ⟨b, hb, hleft⟩ := hpast.traceable hbefore
  obtain ⟨c, hc, hright⟩ := (hpast.of_sublist hothers).traceable fun st' hst' =>
    hbefore st' (hothers.subset hst')
  exact ⟨b, c, ⟨frame_run_others hmemory past, medium_run hmemory past, hb.keys, hc.keys⟩,
    h.agrees hmemory hsteps hbefore hb.keys hc.keys, hleft, hright⟩

/-- Whether a user never opens a session from a device from which another does. -/
def SharesNoDevice (steps : List Step) (u v : String) : Prop :=
  ∀ clock s fresh q, ⟨clock, .create s fresh q⟩ ∈ steps → q.userId = v →
    ApartFrom steps u q.identity

/-- The sessions of a user who shares no device with another are on devices apart. -/
theorem Book.Descended.apartFrom (h : b.Descended steps) (hdevices : SharesNoDevice steps u v)
    {id : String} {r : Record} {m : Option Instant} (hr : b id = some (r, m)) (hv : r.userId = v) :
    ApartFrom steps u r.identity := by
  obtain ⟨q, hq, huser, hidentity⟩ := h id r m hr
  obtain ⟨clock, s, fresh, hmem⟩ := hq.exists_create
  rw [hidentity]
  exact hdevices clock s fresh q hmem (huser ▸ hv)

namespace Twins

variable {id : String}

theorem descended (h : Twins texts x steps u past t b c) (hsub : past ⊆ steps) :
    b.Descended steps ∧ c.Descended steps :=
  ⟨h.left.descended hsub,
    h.right.descended fun _ hst => hsub ((others_sublist x steps u past).subset hst)⟩

/-- Both runs hold the same session of an id of a user who shares no device. -/
theorem eq_of_session (h : Twins texts x steps u past t b c) (hsub : past ⊆ steps)
    (hfresh : (freshIds steps).Nodup) (hdevices : SharesNoDevice steps u v)
    (hid : SessionOf x steps v id) : b id = c id := by
  obtain ⟨hb, hc⟩ := h.descended hsub
  refine h.agrees.eq_at (fun r m hr => ?_) fun r m hr => ?_
  · exact hb.apartFrom hdevices hr (hid.userId_eq hfresh hb hr)
  · exact hc.apartFrom hdevices hr (hid.userId_eq hfresh hc hr)

/-- Both runs hold the same sessions of a user who shares no device. -/
theorem iff_of_user (h : Twins texts x steps u past t b c) (hsub : past ⊆ steps)
    (hdevices : SharesNoDevice steps u v) {r : Record} (hr : r.userId = v) (m : Option Instant) :
    b r.id = some (r, m) ↔ c r.id = some (r, m) := by
  obtain ⟨hb, hc⟩ := h.descended hsub
  constructor
  · exact fun hs => (h.agrees _ r m (hb.apartFrom hdevices hs hr)).1 hs
  · exact fun hs => (h.agrees _ r m (hc.apartFrom hdevices hs hr)).2 hs

/-- Both runs hold the same session of an id that is on a device apart in each. -/
theorem eq_of_lineage (h : Twins texts x steps u past t b c)
    (hid : ∀ q, Lineage x q past id ∨ Lineage x q (others x steps u past) id →
      ApartFrom steps u q.identity) : b id = c id := by
  refine h.agrees.eq_at (fun r m hr => ?_) fun r m hr => ?_
  · obtain ⟨q, hq, hfollows⟩ := h.left id r m hr
    exact hfollows.identity ▸ hid q (.inl hq)
  · obtain ⟨q, hq, hfollows⟩ := h.right id r m hr
    exact hfollows.identity ▸ hid q (.inr hq)

end Twins

/-- **Users do not notice each other.** Leave out of a run all that was made for one user. Then
whatever was made for another, who shares no device with the first, is answered as before. A
revocation by id has to be of no session on a device of the first user, in either run. -/
theorem Lawful.reply_eq_of_others (h : Lawful texts x steps) (hmemory : x.store.medium = .memory)
    (hdevices : SharesNoDevice steps u v) (hsteps : steps = past ++ st :: rest)
    (hv : st.MadeFor x steps v)
    (hdelete : ∀ s id userId, st.action = .delete s id userId → ∀ q,
      Lineage x q steps id ∨ Lineage x q (others x steps u steps) id →
        ApartFrom steps u q.identity) :
    st.reply (x.run past) = st.reply (x.run (others x steps u past)) := by
  obtain ⟨b, c, htwins⟩ := h.exists_twins (u := u) hmemory hsteps
  have hsub : past ⊆ steps := hsteps ▸ List.subset_append_left _ _
  have htexts := h.hashed st (hsteps ▸ List.mem_append_right _ List.mem_cons_self)
  have hc := h.collisionFree
  have hbeside := htwins.beside
  have htoken : ∀ {s : Service} {clock : Clock} {token id : String} {claims : Claims},
      Issuer.namedId? token = some id → SessionOf x steps v id →
      s.issuer.verify clock token = .ok claims → b claims.core.id = c claims.core.id := by
    intro s clock token id claims hnamed hid hverify
    rw [Issuer.namedId?_of_verify hverify] at hnamed
    cases hnamed
    exact htwins.eq_of_session hsub h.fresh hdevices hid
  obtain ⟨clock, action⟩ := st
  cases action with
  | create s fresh q =>
    have hw := Service.within_of_create htexts ⟨clock.nanos⟩
    exact congrArg Reply.pair (s.create_result_eq hbeside hc hw.identity)
  | extend s fresh token fingerprint =>
    obtain ⟨id, hnamed, hid⟩ := hv
    refine congrArg Reply.pair (s.extend_result_eq hbeside hc fun claims hverify => ⟨?_, ?_⟩)
    · refine htexts _ (List.mem_cons_of_mem _ (Option.mem_toList.2 ?_))
      exact Service.tokenId?_eq_some.2 ⟨claims, hverify, rfl⟩
    · exact htoken hnamed hid hverify
  | check s token userAgent ip fingerprint =>
    obtain ⟨id, hnamed, hid⟩ := hv
    refine congrArg Reply.checked (s.check_result_eq hbeside hc fun claims hverify => ⟨?_, ?_⟩)
    · exact htexts _ (Option.mem_toList.2 (Service.tokenId?_eq_some.2 ⟨claims, hverify, rfl⟩))
    · exact htoken hnamed hid hverify
  | list s userId =>
    obtain rfl : userId = v := hv
    exact congrArg Reply.sessions (s.list_result_eq hbeside hc (htexts userId List.mem_cons_self)
      fun r hr => htwins.iff_of_user hsub hdevices hr)
  | delete s id userId =>
    refine congrArg Reply.done
      (s.delete_result_eq hbeside hc (htexts id List.mem_cons_self) (htwins.eq_of_lineage ?_))
    rintro q (hq | hq)
    · exact hdelete s id userId rfl q (.inl (hsteps ▸ hq.append _))
    · refine hdelete s id userId rfl q (.inr ?_)
      have happend := hq.append (others x steps u (⟨clock, .delete s id userId⟩ :: rest))
      rwa [← others_append, ← hsteps] at happend
  | deleteUser s userId =>
    obtain rfl : userId = v := hv
    exact congrArg Reply.count (s.deleteUser_result_eq hbeside hc (htexts userId List.mem_cons_self)
      fun r hr => htwins.iff_of_user hsub hdevices hr)
  | _ => exact hv.elim

end Runs

namespace Sample

/-- A few more texts. -/
def names : List String := ["a", "b", "c", "u", "v", "w", "unknown", "f", "p"]

theorem collisionFree_names : CollisionFree {s | s ∈ names} := by decide +kernel

/-- A request of a user on a device. -/
def requestOf (userId fingerprint ip : String) : SessionRequest :=
  ⟨"", fingerprint, userId, ip, "", [], [], true, none⟩

/-- Two users open a session on the same device, one after the other, and a third one opens one on
a device of their own. -/
def neighbours : List Step :=
  [⟨clock, .create service "a" (requestOf "w" "f" "p")⟩,
    ⟨clock, .create service "b" (requestOf "u" "f" "p")⟩,
    ⟨clock, .create service "c" (requestOf "v" "p" "f")⟩]

/-- The third user asks for a session to be revoked. -/
def revokingOf (id : String) : Step := ⟨clock, .delete service id "v"⟩

theorem lawful_neighbours {id : String} (hid : id ∈ names) :
    Lawful {s | s ∈ names} site (neighbours ++ [revokingOf id]) := by
  have hbefore : ∀ st ∈ neighbours, ∀ s ∈ st.texts, s ∈ names := by decide +kernel
  refine ⟨⟨rfl, nofun⟩, ?_, ?_, collisionFree_names, fun st hst s hs => ?_⟩
  · simp [neighbours, revokingOf]
  · simp [freshIds, neighbours, revokingOf, Action.fresh?]
  · obtain hst | hst := List.mem_append.1 hst
    · exact hbefore st hst s hs
    · obtain rfl := List.mem_singleton.1 hst
      obtain rfl := List.mem_singleton.1 hs
      exact hid

theorem eq_of_create_mem {id : String} {fresh : Draw} {c : Clock} {s : Service} {q : SessionRequest}
    (h : ⟨c, .create s fresh q⟩ ∈ neighbours ++ [revokingOf id]) :
    q = requestOf "w" "f" "p" ∨ q = requestOf "u" "f" "p" ∨ q = requestOf "v" "p" "f" := by
  simp only [neighbours, revokingOf, List.cons_append, List.nil_append, List.mem_cons,
    List.not_mem_nil, or_false, Step.mk.injEq, Action.create.injEq, reduceCtorEq, and_false] at h
  tauto

theorem sharesNoDevice (id : String) :
    SharesNoDevice (neighbours ++ [revokingOf id]) "u" "v" := by
  intro _ _ _ q hq hv _ _ _ q' hq' hu
  obtain rfl | rfl | rfl := eq_of_create_mem hq <;>
    obtain rfl | rfl | rfl := eq_of_create_mem hq' <;> revert hu hv <;> decide

theorem others_neighbours (id : String) :
    others site (neighbours ++ [revokingOf id]) "u" neighbours =
      [⟨clock, .create service "a" (requestOf "w" "f" "p")⟩,
        ⟨clock, .create service "c" (requestOf "v" "p" "f")⟩] := by
  simp [others, neighbours, Step.MadeFor, requestOf]

/-- The third user revokes their own session, whether the second one is there or not. -/
theorem reply_eq_of_own_session :
    (revokingOf "c").reply (site.run neighbours) =
      (revokingOf "c").reply (site.run (others site (neighbours ++ [revokingOf "c"]) "u"
        neighbours)) := by
  have hlawful : Lawful _ site (neighbours ++ [revokingOf "c"]) := lawful_neighbours (by decide)
  have hopening : ⟨clock, .create service "c" (requestOf "v" "p" "f")⟩ ∈
      neighbours ++ [revokingOf "c"] := by simp [neighbours]
  refine hlawful.reply_eq_of_others rfl (sharesNoDevice "c") rfl rfl ?_
  rintro s id userId ⟨rfl⟩ q hq
  have hdescends : Descends (neighbours ++ [revokingOf "c"]) q "c" := by
    obtain hq | hq := hq
    · exact hq.descends
    · exact hq.descends.mono (others_sublist ..).subset
  obtain rfl := hdescends.unique hlawful.fresh (.opened hopening)
  exact sharesNoDevice "c" _ _ _ _ hopening rfl

/-- **A revocation can tell that somebody else has opened a session.** The second user has evicted
the session of the first, which the third one, who shares no device with the second, asks to
revoke. -/
theorem reply_ne_of_shared_device :
    Lawful {s | s ∈ names} site (neighbours ++ [revokingOf "a"]) ∧
      site.store.medium = .memory ∧
      SharesNoDevice (neighbours ++ [revokingOf "a"]) "u" "v" ∧
      (revokingOf "a").MadeFor site (neighbours ++ [revokingOf "a"]) "v" ∧
      ¬SessionOf site (neighbours ++ [revokingOf "a"]) "u" "a" ∧
      (revokingOf "a").reply (site.run neighbours) ≠
        (revokingOf "a").reply (site.run (others site (neighbours ++ [revokingOf "a"]) "u"
          neighbours)) := by
  have hlawful : Lawful _ site (neighbours ++ [revokingOf "a"]) := lawful_neighbours (by decide)
  have hopening : ⟨clock, .create service "a" (requestOf "w" "f" "p")⟩ ∈
      neighbours ++ [revokingOf "a"] := by simp [neighbours]
  refine ⟨hlawful, rfl, sharesNoDevice "a", rfl, ?_, ?_⟩
  · rintro ⟨q, hq, hu⟩
    obtain rfl := hq.descends.unique hlawful.fresh (.opened hopening)
    exact absurd hu (by decide)
  · have hmissing : (service.delete (site.run neighbours) clock "a" "v").outcome.result =
        .error (.failed .invalidToken) := by decide +kernel
    have hthere : (service.delete (site.run (others site (neighbours ++ [revokingOf "a"]) "u"
        neighbours)) clock "a" "v").outcome.result = .error (.failed .notOwned) := by
      rw [others_neighbours]
      decide +kernel
    simp only [Step.reply, revokingOf] at hthere ⊢
    rw [hmissing, hthere]
    simp

end Sample

end SessionTokens
