import SessionTokens.Proofs.Service.Availability
import SessionTokens.Proofs.Service.Consistency
/-!
# What an operation leaves

The effect of an operation is told by what the store holds before it and after it, at one instant.

**Installing (`Site.Installs`).** A session takes the place of all sessions of its identity, and
every other session keeps its record and its expiry.

**Losing (`Site.Loses`).** Some sessions are gone. Of the live keys, exactly the three keys of each
of them are gone, and every other key keeps its value and its expiry (`Intact.loses`).

**Listing (`Site.Listing`).** What an open service lists for a user are exactly the live sessions
of the user, each once and in order (`IsOpen.list_eq`), and there is only one such list
(`Listing.unique`).
-/

namespace SessionTokens

open Session

/-! ## Books in which a session is installed -/

namespace Book

variable {τ : Type} {b : Book τ} {r r' : Record} {m m' : τ}

/-- What a book holds once a session with a new id has taken the place of those of its identity. -/
theorem install_eq_some_iff (hnone : b r.id = none) :
    b.install r m r'.id = some (r', m') ↔
      (r' = r ∧ m' = m) ∨ (b r'.id = some (r', m') ∧ r'.identity ≠ r.identity) := by
  constructor
  · intro h
    by_cases hid : r'.id = r.id
    · rw [hid, install_self, Option.some.injEq, Prod.mk.injEq] at h
      exact .inl ⟨h.1.symm, h.2.symm⟩
    · obtain ⟨heq, -⟩ | hother := of_install h
      · exact absurd heq hid
      · exact .inr hother
  · rintro (⟨rfl, rfl⟩ | ⟨hr', hi⟩)
    · exact b.install_self r' m'
    · refine install_of_ne hr' (fun hid => ?_) hi
      rw [hid, hnone] at hr'
      cases hr'

/-- A session that is replaced anyway may be removed first. -/
theorem install_remove {old : Record} (hold : b old.id = some (old, m'))
    (hi : old.identity = r.identity) : (b.remove old.id).install r m = b.install r m := by
  funext id
  by_cases hid : id = old.id
  · subst hid
    simp [install, set, without, remove, hold, hi, Option.filter_some]
  · simp [install, set, without, remove, hid]

end Book

/-! ## Effects -/

namespace Site

/-- Whether a session has taken the place of all sessions of its identity in a store, and every
other session is there with its record and its expiry. -/
def Installs (x y : Site) (t : Instant) (r : Record) (expiry : Option Instant) : Prop :=
  ∀ r' e, y.Holds t r' e ↔
    (r' = r ∧ e = expiry) ∨ (x.Holds t r' e ∧ r'.identity ≠ r.identity)

/-- Whether some sessions are gone from a store: all others are there with their records and
expiries, and exactly the keys of those that are gone have left the live keys. -/
structure Loses (x y : Site) (t : Instant) (gone : Record → Prop) : Prop where
  sessions : ∀ r e, y.Holds t r e ↔ x.Holds t r e ∧ ¬gone r
  keys : ∀ k e, (y.store.entries.live t).find? k = some e ↔
    (x.store.entries.live t).find? k = some e ∧
      ∀ r expiry, x.Holds t r expiry → gone r → ∀ v, (k, v) ∉ r.bindings

/-- Whether a list holds exactly the live sessions of a user, each once and in order. -/
structure Listing (x : Site) (t : Instant) (u : String) (rs : List Record) : Prop where
  nodup : rs.Nodup
  mem_iff : ∀ r, r ∈ rs ↔ r.userId = u ∧ ∃ e, x.Holds t r e
  inOrder : Record.InOrder rs

end Site

section

variable {texts : Set String} {ids : List String} {x y : Site} {t later : Instant}
  {past : List Step} {st : Step} {kept : Book (Option Instant)} {r : Record}
  {e expiry : Option Instant} {gone : Record → Prop}

/-! ## Time -/

/-- A session that is held has not lapsed. -/
theorem Intact.isBefore (h : Intact texts ids x t kept) (hr : kept r.id = some (r, e)) :
    t.isBefore e = true := by
  rw [← h.keys.filter_eq] at hr
  exact (Option.filter_eq_some_iff.1 hr).2

/-- As time passes, a store holds what has not lapsed. -/
theorem Intact.holds_later (h : Intact texts ids x t kept) (hle : t.nanos ≤ later.nanos) :
    x.Holds later r e ↔ x.Holds t r e ∧ later.isBefore e = true := by
  rw [(h.keys.later hle).holds_iff, h.holds_iff]
  exact Option.filter_eq_some_iff

/-! ## Steps -/

/-- What a store holds after an operation of a client. -/
theorem Lawful.holds_step (h : Lawful texts x (past ++ [st]))
    (hkept : Intact texts (freshIds past) (x.run past) st.instant kept)
    (hclient : st.action.OfClient) :
    (x.run (past ++ [st])).Holds st.instant r e ↔
      st.outcome (x.run past) kept r.id = some (r, e) ∧ st.instant.isBefore e = true := by
  have hreopen : ∀ limits, st.action = .reopen limits →
      (x.run past).store.medium = .memory := by
    intro limits hl
    rw [hl] at hclient
    exact hclient.elim
  have hkeys := represents_step h.collisionFree hreopen hkept.keys h.hashed_last
    (fun id hid => hkept.notMem (h.notMem_freshIds hid)) (Int.le_refl st.instant.nanos)
  rw [Site.run_concat, hkeys.holds_iff]
  exact Option.filter_eq_some_iff

/-- **An operation that installs a session under a fresh id.** -/
theorem Lawful.installs (h : Lawful texts x (past ++ [st]))
    (hkept : Intact texts (freshIds past) (x.run past) st.instant kept)
    (hclient : st.action.OfClient) (hsucceeds : st.Succeeds (x.run past))
    (hid : r.id ∈ st.action.fresh?) (hchange : st.change kept = kept.install r expiry)
    (hlive : st.instant.isBefore expiry = true) :
    (x.run past).Installs (x.run (past ++ [st])) st.instant r expiry := by
  intro r' e
  rw [h.holds_step hkept hclient, Step.outcome_of_succeeds hsucceeds, hchange,
    Book.install_eq_some_iff (hkept.notMem (h.notMem_freshIds hid)), hkept.holds_iff]
  constructor
  · exact fun hr' => hr'.1
  · rintro (⟨rfl, rfl⟩ | ⟨hr', hi⟩)
    · exact ⟨.inl ⟨rfl, rfl⟩, hlive⟩
    · exact ⟨.inr ⟨hr', hi⟩, hkept.isBefore hr'⟩

/-- **Sessions that are gone take their three keys with them**, and no other key. -/
theorem Intact.loses (h : Intact texts ids x t kept) (hc : CollisionFree texts)
    (hy : y.Consistent t) (hsessions : ∀ r e, y.Holds t r e ↔ x.Holds t r e ∧ ¬gone r) :
    x.Loses y t gone := by
  refine ⟨hsessions, fun k e => ?_⟩
  rw [hy.keys, h.consistent.keys]
  constructor
  · rintro ⟨r, hr, hmem⟩
    obtain ⟨hr, hstays⟩ := (hsessions _ _).1 hr
    refine ⟨⟨r, hr, hmem⟩, fun r' expiry hr' hgone v hv => ?_⟩
    have hrec := h.holds_iff.1 hr
    have hrec' := h.holds_iff.1 hr'
    -- Two sessions that share a key are the same.
    by_cases hid : r.id = r'.id
    · rw [hid, hrec'] at hrec
      cases hrec
      exact hstays hgone
    · exact notMem_bindings_of_ne hc (h.keys.sound _ _ _ hrec').2.1 (h.keys.sound _ _ _ hrec).2.1
        hid hmem v hv
  · rintro ⟨⟨r, hr, hmem⟩, hrest⟩
    exact ⟨r, (hsessions _ _).2 ⟨hr, fun hgone => hrest r _ hr hgone _ hmem⟩, hmem⟩

/-- An operation of a client that takes sessions out of the book. -/
theorem Lawful.loses (h : Lawful texts x (past ++ [st]))
    (hkept : Intact texts (freshIds past) (x.run past) st.instant kept)
    (hclient : st.action.OfClient) (hsucceeds : st.Succeeds (x.run past))
    (hchange : ∀ r e, st.change kept r.id = some (r, e) ↔ kept r.id = some (r, e) ∧ ¬gone r) :
    (x.run past).Loses (x.run (past ++ [st])) st.instant gone := by
  obtain ⟨kept', hkept'⟩ := h.intact h.until_last
  refine hkept.loses h.collisionFree hkept'.consistent fun r e => ?_
  rw [h.holds_step hkept hclient, Step.outcome_of_succeeds hsucceeds, hchange, hkept.holds_iff]
  constructor
  · exact fun hr => hr.1
  · exact fun hr => ⟨hr, hkept.isBefore hr.1⟩

/-! ## Listings -/

variable {u : String} {rs rs' : List Record} {s : Service} {clock : Clock} {now : Instant}

theorem Intact.listing_iff (h : Intact texts ids x t kept) :
    x.Listing t u rs ↔ kept.Lists (fun r => r.userId = u) rs ∧ Record.InOrder rs := by
  constructor
  · rintro ⟨hnodup, hmem, ho⟩
    exact ⟨⟨hnodup, fun r => by simp only [hmem, h.holds_iff, decide_eq_true_eq]⟩, ho⟩
  · rintro ⟨⟨hnodup, hmem⟩, ho⟩
    exact ⟨hnodup, fun r => by simp only [hmem, h.holds_iff, decide_eq_true_eq], ho⟩

/-- **There is only one list of the live sessions of a user in their order.** -/
theorem Site.Listing.unique (hl : x.Listing t u rs) (hl' : x.Listing t u rs')
    (h : Intact texts ids x t kept) : rs = rs' := by
  obtain ⟨hrs, ho⟩ := h.listing_iff.1 hl
  obtain ⟨hrs', ho'⟩ := h.listing_iff.1 hl'
  exact hrs.eq_of_inOrder hrs' (fun _ _ _ => .rfl) ho ho'

/-- **An open service lists the live sessions of a user.** -/
theorem Service.IsOpen.list_eq (hopen : s.IsOpen x) (h : Intact texts ids x ⟨clock.nanos⟩ kept)
    (hc : CollisionFree texts) (hu : u ∈ texts) (hr : clock.read = .ok now) :
    ∃ rs, (s.list x.store clock u).result = .ok (rs.map Record.info) ∧ x.Listing now u rs := by
  obtain rfl := Clock.eq_of_read hr
  obtain ⟨rs, hlist, hrs, ho⟩ := (h.keys.shows_reader hr).listUser hc hu
  refine ⟨rs, ?_, h.listing_iff.2 ⟨hrs.of_map, ho⟩⟩
  simp only [Service.list, Traced.result_bind, Traced.result_enter, hopen.ensureLive, Except.bind,
    Traced.result_mapError, ofUser_eq_listUser hopen.storeOpen hr, hlist, mapError_ok,
    Traced.result_pure]

/-- Operations of clients close no store. -/
theorem Service.IsOpen.step_of_client (h : s.IsOpen x) (hclient : st.action.OfClient) :
    s.IsOpen (x.step st) := by
  have hphase : (x.step st).store.phase = x.store.phase :=
    congrArg Prod.fst (frame_step_of_client x hclient)
  refine ⟨h.notClosed, h.notCancelled, ?_⟩
  rw [Store.isClosed, hphase]
  exact h.storeOpen

end

end SessionTokens
