import SessionTokens.Proofs.Service.BulkRevocation
import SessionTokens.Proofs.Service.Rotation
/-!
# Whose session it is

**Theorem (`Lawful.respects_owners`).** In every run:

- a service that works answers a request to revoke a session by what is live at that instant: the
  token is invalid if no session of the id is, it is not owned if one is and belongs to another
  user, and the session is revoked if one is and belongs to the user who asks;
- a session that is revoked takes its three keys with it and no other key, and a request that is
  refused changes nothing;
- no request, for one session or for all of a user, takes the session of anybody but the user it
  names. Nothing is needed for this of the service, the clock or the files.

**What it takes to answer.** The service has to be open and its work not cancelled, the clock
readable, and snapshots have to be written. Nothing that is deleted is too large for a store.
-/

namespace SessionTokens

open Session

/-! ## Requests and answers -/

/-- Whether nothing around a service stands in the way of a revocation: it is open, the clock can
be read, and snapshots are written. -/
structure Service.Works (s : Service) (x : Site) (clock : Clock) : Prop where
  isOpen : s.IsOpen x
  read : clock.read = .ok ⟨clock.nanos⟩
  saves : ∀ p : Pending, x.CanSave ⟨clock.nanos⟩ p.find?

/-- How a service answers the request of a user to revoke the session of an id, and what is left
after it. -/
structure Service.RevokesOwned (s : Service) (x : Site) (clock : Clock) (id u : String) :
    Prop where
  invalid_iff : (s.delete x clock id u).outcome.result = .error (.failed .invalidToken) ↔
    ¬x.Live ⟨clock.nanos⟩ id
  notOwned_iff : (s.delete x clock id u).outcome.result = .error (.failed .notOwned) ↔
    ∃ r e, x.Holds ⟨clock.nanos⟩ r e ∧ r.id = id ∧ r.userId ≠ u
  ok_iff : (s.delete x clock id u).outcome.result = .ok () ↔
    ∃ r e, x.Holds ⟨clock.nanos⟩ r e ∧ r.id = id ∧ r.userId = u
  loses : (s.delete x clock id u).outcome.result = .ok () →
    x.Loses (s.delete x clock id u).site ⟨clock.nanos⟩ fun r => r.id = id
  untouched : (s.delete x clock id u).outcome.result ≠ .ok () →
    x.Untouched (s.delete x clock id u).site

/-- Whether an action revokes sessions, one or all, on behalf of a user. -/
def Action.RevokesFor (v : String) : Action → Prop
  | .delete _ _ userId => userId = v
  | .deleteUser _ userId => userId = v
  | _ => False

/-- Whether the revocations of a run take no session but from the user on whose behalf they are
made. -/
structure Site.RespectsOwners (x : Site) (steps : List Step) : Prop where
  /-- A service that works answers by who owns the session, and revokes it for its owner only. -/
  answers : ∀ past clock s id u future, steps = past ++ ⟨clock, .delete s id u⟩ :: future →
    s.Works (x.run past) clock → s.RevokesOwned (x.run past) clock id u
  /-- The sessions of others stay, however the service fares. -/
  keeps : ∀ past st future v r e, steps = past ++ st :: future → st.action.RevokesFor v →
    r.userId ≠ v → (x.run past).Holds st.instant r e →
      (x.run (past ++ [st])).Holds st.instant r e

/-! ## One request -/

section

variable {texts : Set String} {ids : List String} {x : Site} {clock : Clock}
  {kept : Book (Option Instant)} {s : Service} {past steps : List Step} {st : Step}
  {id u v : String} {r : Record} {e : Option Instant}

/-- What deletes only is committed. -/
theorem Service.Works.apply_remove (h : s.Works x clock) (r : Record) :
    (x.apply clock (Session.remove (x.store.reader clock) r).pending).outcome.result = .ok () := by
  rw [Site.apply_eq_ok_iff h.isOpen.storeOpen h.read]
  exact ⟨allAcceptable_of_puts (puts_remove (puts_reader x.store clock) r) _ _, h.saves _⟩

/-- **A request is answered by the session that the book holds.** -/
theorem Service.Works.delete_result (h : s.Works x clock) (hfree : x.Free)
    (hkept : Intact texts ids x ⟨clock.nanos⟩ kept) (hc : CollisionFree texts) (hid : id ∈ texts) :
    (s.delete x clock id u).outcome.result =
      match kept id with
      | none => .error (.failed .invalidToken)
      | some (r, _) => if r.userId = u then .ok () else .error (.failed .notOwned) := by
  have hrecord : (Service.onStore (Session.get (x.store.reader clock) id)).result =
      .ok ((kept id).map (·.1)) := Service.onStore_eq_ok.2 (hkept.get hc hid h.read)
  unfold Service.delete
  dsimp only
  rw [Site.perform_result_of_idle (hfree.idle h.isOpen.storeOpen) (a := ())]
  · simp only [Traced.result_bind, hrecord, Except.bind]
    cases kept id with
    | none => rfl
    | some held =>
      obtain ⟨r, e⟩ := held
      simp only [Option.map_some, Service.demandRecord, Traced.result_pure]
      by_cases howner : r.userId = u
      · simp only [howner, ne_eq, not_true_eq_false, if_true, if_false, Traced.result_pure,
          h.apply_remove, mapError_ok, Except.map]
      · simp only [howner, ne_eq, not_false_eq_true, if_true, if_false]
        rfl
  · simp only [Traced.result_bind, Traced.result_enter, h.isOpen.ensureLive, Except.bind]

/-- **A session that is revoked is gone**, and all others stay. -/
theorem Lawful.loses_of_delete (h : Lawful texts x (past ++ [⟨clock, .delete s id u⟩]))
    (hok : (s.delete (x.run past) clock id u).outcome.result = .ok ()) :
    (x.run past).Loses (s.delete (x.run past) clock id u).site ⟨clock.nanos⟩
      fun r => r.id = id := by
  obtain ⟨kept, hkept⟩ := h.of_append.intact h.before
  have hchange (r : Record) (e : Option Instant) :
      (Step.mk clock (.delete s id u)).change kept r.id = some (r, e) ↔
        kept r.id = some (r, e) ∧ ¬r.id = id := by
    by_cases hid : r.id = id <;> simp [Step.change, Book.remove, hid]
  have hloses := h.loses hkept trivial hok hchange
  rwa [Site.run_concat] at hloses

/-- A session is revoked alone on behalf of its owner only. -/
theorem Lawful.holds_of_delete (h : Lawful texts x (past ++ [⟨clock, .delete s id u⟩]))
    (hok : (s.delete (x.run past) clock id u).outcome.result = .ok ()) :
    ∃ r e, (x.run past).Holds ⟨clock.nanos⟩ r e ∧ r.id = id ∧ r.userId = u := by
  obtain ⟨kept, hkept⟩ := h.of_append.intact h.before
  have hid : id ∈ texts := h.hashed_last id List.mem_cons_self
  obtain ⟨_, r, e, -, hr, howner, -⟩ :=
    s.delete_effect h.collisionFree hkept.keys (Int.le_refl _) hid hok
  obtain ⟨hr, hrid⟩ := hkept.eq_some_iff.1 hr
  exact ⟨r, e, hr, hrid, howner⟩

/-- **A service that works answers by who owns the session**, and revokes it for its owner. -/
theorem Lawful.revokesOwned (h : Lawful texts x (past ++ [⟨clock, .delete s id u⟩]))
    (hfree : x.Free) (hworks : s.Works (x.run past) clock) :
    s.RevokesOwned (x.run past) clock id u := by
  obtain ⟨kept, hkept⟩ := h.of_append.intact (t := ⟨clock.nanos⟩) h.before
  have hid : id ∈ texts := h.hashed_last id List.mem_cons_self
  have hresult := hworks.delete_result (u := u) (hfree.run past) hkept h.collisionFree hid
  have hheld (p : Record → Prop) : (∃ r e, (x.run past).Holds ⟨clock.nanos⟩ r e ∧ r.id = id ∧
      p r) ↔ ∃ held, kept id = some held ∧ p held.1 := by
    simp only [Prod.exists, hkept.eq_some_iff, and_assoc]
  refine ⟨?_, ?_, ?_, h.loses_of_delete, fun hne => ?_⟩
  · rw [hresult, hkept.live_iff]
    cases kept id with
    | none => simp
    | some held => by_cases howner : held.1.userId = u <;> simp [howner]
  · rw [hresult, hheld fun r => r.userId ≠ u]
    cases kept id with
    | none => simp
    | some held => by_cases howner : held.1.userId = u <;> simp [howner]
  · rw [hresult, hheld fun r => r.userId = u]
    cases kept id with
    | none => simp
    | some held => by_cases howner : held.1.userId = u <;> simp [howner]
  · cases hres : (s.delete (x.run past) clock id u).outcome.result with
    | ok a => exact absurd hres hne
    | error e => exact .of_perform hres

/-- **No request takes the session of anybody but the user it names**, whatever its answer. -/
theorem Lawful.holds_of_revokesFor (h : Lawful texts x (past ++ [st]))
    (hfor : st.action.RevokesFor v) (hother : r.userId ≠ v)
    (hr : (x.run past).Holds st.instant r e) : (x.run (past ++ [st])).Holds st.instant r e := by
  obtain ⟨clock, action⟩ := st
  cases action with
  | delete s id userId =>
    obtain rfl : userId = v := hfor
    rw [Site.run_concat]
    cases hres : (s.delete (x.run past) clock id userId).outcome.result with
    | ok a =>
      -- The session that is revoked is of the user, so it is another one.
      obtain ⟨kept, hkept⟩ := h.of_append.intact h.before
      obtain ⟨r', e', hr', hid', howner⟩ := h.holds_of_delete hres
      refine ((h.loses_of_delete hres).sessions r e).2 ⟨hr, fun hid => hother ?_⟩
      have hrec := hkept.eq_some_iff.2 ⟨hr, hid⟩
      rw [hkept.eq_some_iff.2 ⟨hr', hid'⟩] at hrec
      cases hrec
      exact howner
    | error e =>
      have hstore := ((x.run past).step_untouched ⟨clock, .delete s id userId⟩
        (.inl ⟨e, hres⟩)).store
      rwa [Site.Holds, hstore]
  | deleteUser s userId =>
    obtain rfl : userId = v := hfor
    refine (h.holds_deleteUser ⟨s, userId, rfl⟩).2 ⟨hr, ?_⟩
    rintro ⟨n, s', haction, -⟩
    cases haction
    exact hother rfl
  | _ => exact hfor.elim

/-- **Revocations take sessions from their owners only**, in every run of a store whose turn is
free. -/
theorem Lawful.respects_owners (h : Lawful texts x steps) (hfree : x.Free) :
    x.RespectsOwners steps where
  answers := by
    rintro past clock s id u future rfl hworks
    rw [List.append_cons] at h
    exact h.of_append.revokesOwned hfree hworks
  keeps := by
    rintro past st future v r e rfl hfor hother hr
    rw [List.append_cons] at h
    exact h.of_append.holds_of_revokesFor hfor hother hr

end

namespace Sample

theorem works_neighbours : service.Works (site.run neighbours) clock := by
  have hclients : ∀ st ∈ neighbours, st.action.OfClient := by simp [neighbours, Action.OfClient]
  have hphase := phase_run_of_client site hclients
  refine ⟨⟨rfl, rfl, by rw [Store.isClosed, hphase]; rfl⟩, rfl, fun p path hpath => ?_⟩
  rw [medium_run rfl] at hpath
  cases hpath

/-- The third user cannot revoke the session of the second, which stays. -/
theorem respects_owners_of_neighbours : ∃ r e,
    (service.delete (site.run neighbours) clock "b" "v").outcome.result =
        .error (.failed .notOwned) ∧
      (site.run neighbours).Holds ⟨0⟩ r e ∧ r.id = "b" ∧ r.userId ≠ "v" ∧
      (site.run (neighbours ++ [revokingOf "b"])).Holds ⟨0⟩ r e := by
  have hrefused : (service.delete (site.run neighbours) clock "b" "v").outcome.result =
      .error (.failed .notOwned) := by decide +kernel
  have hlawful : Lawful {s | s ∈ names} site (neighbours ++ [revokingOf "b"]) :=
    lawful_neighbours (by decide)
  have howners := Lawful.respects_owners hlawful (.of_idle rfl)
  have hanswers := howners.answers neighbours clock service "b" "v" [] rfl works_neighbours
  obtain ⟨r, e, hr, hid, hother⟩ := hanswers.notOwned_iff.1 hrefused
  exact ⟨r, e, hrefused, hr, hid, hother,
    howners.keeps neighbours (revokingOf "b") [] "v" r e rfl rfl hother hr⟩

end Sample

end SessionTokens
