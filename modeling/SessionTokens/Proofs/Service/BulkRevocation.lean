import Mathlib.Data.List.Nodup
import SessionTokens.Proofs.Service.Failure
import SessionTokens.Proofs.Service.Holdings
import SessionTokens.Proofs.Service.Isolation
import SessionTokens.Proofs.Service.Revocation
/-!
# What revoking all sessions of a user does

**Theorem (`Lawful.bulk_revocation_exact`).** In every run:

- a call that revokes all sessions of a user tells how many the user is shown before it, and the
  user is shown none after it;
- of the live keys, exactly the three keys of each of these sessions are gone, and every other key
  keeps its value and its expiry;
- every token for a session that the user has ever had until then is refused, at once and for good;
- the numbers that are told in a part of a run add up to the number of different sessions that were
  revoked in it, so each session is counted exactly once. If nothing but such calls is made, they
  are the sessions from before the calls whose user was revoked before they lapsed.

**Why no session is counted twice.** A call counts what the store holds, and what it counts is gone
after it. A session that is gone does not come back, so no later call finds it.
-/

namespace SessionTokens

open Session

/-! ## Calls and what they count -/

namespace Step

/-- Whether a step revokes all sessions of a user, and tells how many there were. -/
def RevokesAll (x : Site) (st : Step) (u : String) (n : Nat) : Prop :=
  ∃ s, st.action = .deleteUser s u ∧ (s.deleteUser x st.clock u).outcome.result = .ok n

/-- Whether a step revokes the session of an id as one of all of its user. -/
def Revokes (x : Site) (st : Step) (id : String) : Prop :=
  ∃ r e n, x.Holds st.instant r e ∧ r.id = id ∧ st.RevokesAll x r.userId n

/-- The number of sessions that a step tells it has revoked as all of a user. -/
def counted (x : Site) (st : Step) : Nat :=
  match st.action with
  | .deleteUser s u => (s.deleteUser x st.clock u).outcome.result.toOption.getD 0
  | _ => 0

variable {x : Site} {st : Step} {u v : String} {n m : Nat}

theorem RevokesAll.counted_eq (h : st.RevokesAll x u n) : st.counted x = n := by
  obtain ⟨s, haction, hok⟩ := h
  rw [counted, haction]
  simp only [hok]
  rfl

theorem counted_of_not (h : ¬∃ u n, st.RevokesAll x u n) : st.counted x = 0 := by
  unfold counted
  split
  · next s u haction =>
    cases hres : (s.deleteUser x st.clock u).outcome.result with
    | error e => rfl
    | ok n => exact absurd ⟨u, n, s, haction, hres⟩ h
  · rfl

/-- A step revokes all sessions of one user only. -/
theorem RevokesAll.user_eq (h : st.RevokesAll x u n) (h' : st.RevokesAll x v m) : u = v := by
  obtain ⟨s, haction, -⟩ := h
  obtain ⟨s', haction', -⟩ := h'
  rw [haction] at haction'
  cases haction'
  rfl

end Step

namespace Site

/-- The number of sessions that the steps of a list tell they have revoked as all of a user. -/
def counted (x : Site) : List Step → Nat
  | [] => 0
  | st :: rest => st.counted x + (x.step st).counted rest

/-- Whether one of some steps revokes the session of an id as one of all of its user. -/
def RevokedIn (x : Site) (steps : List Step) (id : String) : Prop :=
  ∃ before st after, steps = before ++ st :: after ∧ st.Revokes (x.run before) id

/-- Whether one of some steps revokes all sessions of a user, before an expiry. -/
def DismissedIn (x : Site) (steps : List Step) (u : String) (e : Option Instant) : Prop :=
  ∃ before st after n, steps = before ++ st :: after ∧ st.RevokesAll (x.run before) u n ∧
    st.instant.isBefore e = true

/-- Whether the calls of a run that revoke all sessions of a user do so exactly. -/
structure RevokesInBulk (x : Site) (steps : List Step) : Prop where
  /-- A call tells how many sessions the user is shown before it. None is shown after it. -/
  counts : ∀ past st future u n, steps = past ++ st :: future → st.RevokesAll (x.run past) u n →
    (∃ s, st.action = .deleteUser s u ∧ s.IsOpen (x.run past)) ∧
      ∀ s : Service, s.IsOpen (x.run past) → ∃ infos : List SessionInfo,
        (s.list (x.run past).store st.clock u).result = .ok infos ∧ infos.length = n ∧
          (s.list (x.run (past ++ [st])).store st.clock u).result = .ok []
  /-- The sessions of the user are gone with their keys, and nothing else. -/
  loses : ∀ past st future u n, steps = past ++ st :: future → st.RevokesAll (x.run past) u n →
    (x.run past).Loses (x.run (past ++ [st])) st.instant fun r => r.userId = u
  /-- Every token for a session that the user has had is refused from then on. -/
  refuses : ∀ past st future u n id, steps = past ++ st :: future →
    st.RevokesAll (x.run past) u n → SessionOf x past u id → ∀ token,
      Issuer.namedId? token = some id → ∀ (s : Service) (clock : Clock),
        (∀ st' ∈ steps, st'.clock.nanos ≤ clock.nanos) → s.Refuses (x.run steps) clock token
  /-- Every session that is revoked is counted once, whatever else happens in between. -/
  once : ∀ past later, steps = past ++ later →
    ∃ ids : List String, ids.Nodup ∧ ids.length = (x.run past).counted later ∧
      ∀ id, id ∈ ids ↔ (x.run past).RevokedIn later id
  /-- If there are such calls only, every session whose user is revoked in time is counted once. -/
  onceOfCalls : ∀ past calls t, steps = past ++ calls →
    (∀ st ∈ calls, ∃ s u, st.action = .deleteUser s u) →
    (∀ st ∈ past, st.clock.nanos ≤ t.nanos) → (∀ st ∈ calls, t.nanos ≤ st.clock.nanos) →
      ∃ ids : List String, ids.Nodup ∧ ids.length = (x.run past).counted calls ∧
        ∀ id, id ∈ ids ↔ ∃ r e, (x.run past).Holds t r e ∧ r.id = id ∧
          (x.run past).DismissedIn calls r.userId e

variable {x : Site} {st : Step} {rest : List Step} {id u : String} {e : Option Instant}

theorem revokedIn_nil : ¬x.RevokedIn [] id := by
  rintro ⟨before, st, after, heq, -⟩
  simp at heq

theorem revokedIn_cons :
    x.RevokedIn (st :: rest) id ↔ st.Revokes x id ∨ (x.step st).RevokedIn rest id := by
  constructor
  · rintro ⟨_ | ⟨st', before⟩, st'', after, heq, hrevokes⟩
    · cases heq
      exact .inl hrevokes
    · cases heq
      exact .inr ⟨before, st'', after, rfl, hrevokes⟩
  · rintro (hrevokes | ⟨before, st', after, rfl, hrevokes⟩)
    · exact ⟨[], st, rest, rfl, hrevokes⟩
    · exact ⟨st :: before, st', after, rfl, hrevokes⟩

theorem dismissedIn_nil : ¬x.DismissedIn [] u e := by
  rintro ⟨before, st, after, n, heq, -⟩
  simp at heq

theorem dismissedIn_cons :
    x.DismissedIn (st :: rest) u e ↔
      (∃ n, st.RevokesAll x u n ∧ st.instant.isBefore e = true) ∨
        (x.step st).DismissedIn rest u e := by
  constructor
  · rintro ⟨_ | ⟨st', before⟩, st'', after, n, heq, hrevokes, hlive⟩
    · cases heq
      exact .inl ⟨n, hrevokes, hlive⟩
    · cases heq
      exact .inr ⟨before, st'', after, n, rfl, hrevokes, hlive⟩
  · rintro (⟨n, hrevokes, hlive⟩ | ⟨before, st', after, n, rfl, hrevokes, hlive⟩)
    · exact ⟨[], st, rest, n, rfl, hrevokes, hlive⟩
    · exact ⟨st :: before, st', after, n, rfl, hrevokes, hlive⟩

/-- What is revoked in time has not lapsed before. -/
theorem DismissedIn.isBefore (h : x.DismissedIn rest u e) {t : Instant}
    (hafter : ∀ st ∈ rest, t.nanos ≤ st.clock.nanos) : t.isBefore e = true := by
  obtain ⟨before, st, after, n, rfl, -, hlive⟩ := h
  exact Instant.isBefore_mono (hafter st (List.mem_append_right _ List.mem_cons_self)) hlive

end Site

/-! ## One call -/

section

variable {texts : Set String} {ids : List String} {x : Site} {clock : Clock} {t : Instant}
  {kept : Book (Option Instant)} {s : Service} {past rest steps : List Step} {st : Step}
  {u id : String} {n : Nat} {r : Record} {e : Option Instant}

theorem Service.isOpen_of_deleteUser (hok : (s.deleteUser x clock u).outcome.result = .ok n) :
    s.IsOpen x := by
  obtain ⟨_, _, hstart, hidle, -⟩ := Site.perform_eq_ok hok
  simp only [Traced.result_bind, Traced.result_enter, bind_eq_ok] at hstart
  obtain ⟨_, -, hlive⟩ := hstart
  unfold Service.ensureLive at hlive
  split at hlive
  · cases hlive
  · next hclosed =>
    split at hlive
    · cases hlive
    · next hcancelled =>
      exact ⟨by simpa using hclosed, by simpa using hcancelled, by rw [Store.isClosed, hidle]⟩

/-- **A call counts the sessions of the user that the book holds.** -/
theorem Intact.lists_of_deleteUser (h : Intact texts ids x ⟨clock.nanos⟩ kept)
    (hc : CollisionFree texts) (hu : u ∈ texts)
    (hok : (s.deleteUser x clock u).outcome.result = .ok n) :
    clock.read = .ok ⟨clock.nanos⟩ ∧
      ∃ rs, rs.length = n ∧ kept.Lists (fun r => r.userId = u) rs := by
  obtain ⟨rs, hrs, hlength, -⟩ := Service.deleteUser_eq_ok hok
  obtain ⟨now, hr⟩ := read_of_removeUser hrs
  obtain rfl := Clock.eq_of_read hr
  obtain ⟨rs', hrs', hlists, -⟩ := (h.keys.shows_reader hr).removeUser hc hu
  rw [hrs'] at hrs
  cases hrs
  exact ⟨hr, _, hlength, hlists.of_map⟩

/-- **The sessions of the user are gone**, and all others stay. -/
theorem Lawful.loses_of_revokesAll (h : Lawful texts x (past ++ [st]))
    (hrevokes : st.RevokesAll (x.run past) u n) :
    (x.run past).Loses (x.run (past ++ [st])) st.instant fun r => r.userId = u := by
  obtain ⟨clock, action⟩ := st
  obtain ⟨s, rfl, hok⟩ := hrevokes
  obtain ⟨kept, hkept⟩ := h.of_append.intact h.before
  refine h.loses hkept trivial ⟨n, hok⟩ fun r e => ?_
  simp only [Step.change, Book.without, Option.filter_eq_some_iff, Bool.not_eq_true',
    decide_eq_false_iff_not]

/-- **A call takes the sessions of the user it names, if it succeeds**, and no others. -/
theorem Lawful.holds_deleteUser (h : Lawful texts x (past ++ [st]))
    (hcall : ∃ s u, st.action = .deleteUser s u) :
    (x.run (past ++ [st])).Holds st.instant r e ↔
      (x.run past).Holds st.instant r e ∧ ¬∃ n, st.RevokesAll (x.run past) r.userId n := by
  by_cases hsome : ∃ u n, st.RevokesAll (x.run past) u n
  · obtain ⟨u, n, hrevokes⟩ := hsome
    rw [(h.loses_of_revokesAll hrevokes).sessions]
    refine and_congr_right fun _ => not_congr ⟨?_, ?_⟩
    · rintro rfl
      exact ⟨n, hrevokes⟩
    · rintro ⟨m, hrevokes'⟩
      exact hrevokes'.user_eq hrevokes
  · obtain ⟨clock, action⟩ := st
    obtain ⟨s, u, rfl⟩ := hcall
    have hfails : Step.Fails (x.run past) ⟨clock, .deleteUser s u⟩ := by
      cases hres : (s.deleteUser (x.run past) clock u).outcome.result with
      | ok n => exact absurd ⟨u, n, s, rfl, hres⟩ hsome
      | error e => exact ⟨e, hres⟩
    have hstore := ((x.run past).step_untouched _ (.inl hfails)).store
    rw [Site.run_concat, Site.Holds, hstore]
    exact (and_iff_left fun hnamed => hsome ⟨_, hnamed⟩).symm

/-- **What the user is shown** before a call and after it. -/
theorem Lawful.list_of_revokesAll (h : Lawful texts x (past ++ [st]))
    (hrevokes : st.RevokesAll (x.run past) u n) (hopen : s.IsOpen (x.run past)) :
    ∃ infos : List SessionInfo, (s.list (x.run past).store st.clock u).result = .ok infos ∧
      infos.length = n ∧ (s.list (x.run (past ++ [st])).store st.clock u).result = .ok [] := by
  have hloses := h.loses_of_revokesAll hrevokes
  obtain ⟨clock, action⟩ := st
  obtain ⟨s', rfl, hok⟩ := hrevokes
  obtain ⟨kept, hkept⟩ := h.of_append.intact h.before
  obtain ⟨kept', hkept'⟩ := h.intact h.until_last
  have hu : u ∈ texts := h.hashed_last u List.mem_cons_self
  obtain ⟨hread, rs, hlength, hrs⟩ := hkept.lists_of_deleteUser h.collisionFree hu hok
  have hopen' : s.IsOpen (x.run (past ++ [⟨clock, .deleteUser s' u⟩])) := by
    rw [Site.run_concat]
    exact hopen.step_of_client trivial
  obtain ⟨rs₁, hlist, hbefore⟩ := hopen.list_eq hkept h.collisionFree hu hread
  obtain ⟨rs₂, hlist', hafter⟩ := hopen'.list_eq hkept' h.collisionFree hu hread
  refine ⟨_, hlist, ?_, ?_⟩
  · have hperm := (hkept.listing_iff.1 hbefore).1.perm hrs fun _ _ _ => .rfl
    rw [List.length_map, hperm.length_eq, hlength]
  · obtain rfl : rs₂ = [] := by
      rw [List.eq_nil_iff_forall_not_mem]
      intro r hr
      obtain ⟨huser, e, he⟩ := (hafter.mem_iff r).1 hr
      exact ((hloses.sessions r e).1 he).2 huser
    exact hlist'

/-! ## Tokens of the user -/

/-- An id that descends from a request was generated. -/
theorem Descends.mem_freshIds {q : SessionRequest} (h : Descends steps q id) :
    id ∈ freshIds steps := by
  cases h with
  | opened hmem => exact List.mem_filterMap.2 ⟨_, hmem, rfl⟩
  | rotated hmem _ _ => exact List.mem_filterMap.2 ⟨_, hmem, rfl⟩

/-- After a call, no session that the user has had is live. -/
theorem Lawful.not_live_of_sessionOf (h : Lawful texts x (past ++ [st]))
    (hrevokes : st.RevokesAll (x.run past) u n) (hid : SessionOf x past u id) :
    ¬(x.run (past ++ [st])).Live st.instant id := by
  rintro ⟨r, e, hr, rfl⟩
  obtain ⟨hr, hstays⟩ := ((h.loses_of_revokesAll hrevokes).sessions r e).1 hr
  obtain ⟨kept, hkept, htrace⟩ := h.of_append.traceable h.before
  exact hstays (hid.userId_eq h.of_append.fresh (htrace.descended fun _ hst => hst)
    (hkept.holds_iff.1 hr))

/-- **Every token for a session that the user has had is refused** from a call on. -/
theorem Lawful.refuses_of_revokesAll (h : Lawful texts x (past ++ [st] ++ rest))
    (hrevokes : st.RevokesAll (x.run past) u n) (hid : SessionOf x past u id) {token : String}
    (htoken : Issuer.namedId? token = some id)
    (hclock : ∀ st' ∈ past ++ [st] ++ rest, st'.clock.nanos ≤ clock.nanos) (s : Service) :
    s.Refuses (x.run (past ++ [st] ++ rest)) clock token := by
  have hmem : st ∈ past ++ [st] := List.mem_append_right _ List.mem_cons_self
  have hfresh : id ∈ freshIds (past ++ [st]) := by
    obtain ⟨q, hq, -⟩ := hid
    rw [freshIds_append]
    exact List.mem_append_left _ hq.descends.mem_freshIds
  obtain ⟨hpast, hrest⟩ := List.forall_mem_append.1 hclock
  have hnot : ¬(x.run (past ++ [st] ++ rest)).Live ⟨clock.nanos⟩ id :=
    h.stays_away hfresh h.of_append.until_last (h.of_append.not_live_of_sessionOf hrevokes hid)
      h.after hrest (hpast st hmem)
  exact h.refuses_of_not_live hclock (h.of_append.mem_texts hfresh) hnot htoken s

/-! ## Counting -/

/-- **A step counts each session that it revokes once.** -/
theorem Lawful.exists_counted_step (h : Lawful texts x (past ++ [st])) :
    ∃ ids : List String, ids.Nodup ∧ ids.length = st.counted (x.run past) ∧
      ∀ id, id ∈ ids ↔ st.Revokes (x.run past) id := by
  by_cases hsome : ∃ u n, st.RevokesAll (x.run past) u n
  · obtain ⟨u, n, hrevokes⟩ := hsome
    have hcounted := hrevokes.counted_eq
    have hall := hrevokes
    obtain ⟨clock, action⟩ := st
    obtain ⟨s, rfl, hok⟩ := hrevokes
    obtain ⟨kept, hkept⟩ := h.of_append.intact h.before
    have hu : u ∈ texts := h.hashed_last u List.mem_cons_self
    obtain ⟨-, rs, hlength, hrs⟩ := hkept.lists_of_deleteUser h.collisionFree hu hok
    refine ⟨rs.map Record.id, .map_on (fun r hr r' hr' hid => ?_) hrs.nodup, ?_, fun id => ?_⟩
    · obtain ⟨-, m, hm⟩ := (hrs.mem_iff r).1 hr
      obtain ⟨-, m', hm'⟩ := (hrs.mem_iff r').1 hr'
      rw [hid, hm'] at hm
      cases hm
      rfl
    · rw [List.length_map, hlength, hcounted]
    · rw [List.mem_map]
      constructor
      · rintro ⟨r, hr, rfl⟩
        obtain ⟨huser, m, hm⟩ := (hrs.mem_iff r).1 hr
        obtain rfl : r.userId = u := by simpa using huser
        exact ⟨r, m, n, hkept.holds_iff.2 hm, rfl, hall⟩
      · rintro ⟨r, e, m, hr, rfl, hrevokes'⟩
        refine ⟨r, (hrs.mem_iff r).2 ⟨?_, e, hkept.holds_iff.1 hr⟩, rfl⟩
        simpa using hrevokes'.user_eq hall
  · refine ⟨[], List.nodup_nil, (Step.counted_of_not hsome).symm, fun id => ?_⟩
    refine iff_of_false List.not_mem_nil ?_
    rintro ⟨r, e, n, -, -, hrevokes⟩
    exact hsome ⟨_, n, hrevokes⟩

/-- A session that a step revokes has ended. -/
theorem Lawful.ended_of_revokes (h : Lawful texts x (past ++ [st]))
    (hrevokes : st.Revokes (x.run past) id) : x.Ended (past ++ [st]) st.instant id := by
  obtain ⟨r, e, n, hr, rfl, hall⟩ := hrevokes
  refine ⟨h.until_last, ⟨past, [st], st.instant, rfl, h.before, r, e, hr, rfl⟩, ?_⟩
  rintro ⟨r', e', hr', hid⟩
  obtain ⟨kept, hkept⟩ := h.of_append.intact h.before
  obtain ⟨hheld, hstays⟩ := ((h.loses_of_revokesAll hall).sessions r' e').1 hr'
  have hrec := hkept.eq_some_iff.2 ⟨hheld, hid⟩
  rw [hkept.holds_iff.1 hr] at hrec
  cases hrec
  exact hstays rfl

/-- **What a step revokes, no later step revokes.** -/
theorem Lawful.not_revokedIn_later (h : Lawful texts x (past ++ [st] ++ rest))
    (hrevokes : st.Revokes (x.run past) id) : ¬(x.run (past ++ [st])).RevokedIn rest id := by
  rintro ⟨before, st', after, rfl, r, e, n, hr, rfl, -⟩
  rw [List.append_cons before, ← List.append_assoc, ← List.append_assoc] at h
  have hrun := h.of_append
  obtain ⟨hpast, hbefore⟩ := List.forall_mem_append.1 hrun.before
  have hended := hrun.of_append.of_append.ended_of_revokes hrevokes
  rw [← Site.run_append] at hr
  exact hrun.of_append.stays_ended hended hrun.of_append.after hbefore
    (hpast st (List.mem_append_right _ List.mem_cons_self)) ⟨r, e, hr, rfl⟩

/-- **Every session that is revoked is counted once.** -/
theorem Lawful.exists_counted (h : Lawful texts x (past ++ steps)) :
    ∃ ids : List String, ids.Nodup ∧ ids.length = (x.run past).counted steps ∧
      ∀ id, id ∈ ids ↔ (x.run past).RevokedIn steps id := by
  induction steps generalizing past with
  | nil => exact ⟨[], List.nodup_nil, rfl, fun id =>
      iff_of_false List.not_mem_nil Site.revokedIn_nil⟩
  | cons st rest ih =>
    rw [List.append_cons] at h
    obtain ⟨now, hnow, hlength, hmem⟩ := h.of_append.exists_counted_step
    obtain ⟨later, hlater, hlength', hmem'⟩ := ih h
    rw [Site.run_concat] at hlength'
    refine ⟨now ++ later, List.nodup_append.2 ⟨hnow, hlater, ?_⟩, ?_, fun id => ?_⟩
    · rintro id hid _ hid' rfl
      exact h.not_revokedIn_later ((hmem id).1 hid) ((hmem' id).1 hid')
    · rw [List.length_append, hlength, hlength']
      rfl
    · rw [List.mem_append, hmem, hmem', Site.revokedIn_cons, Site.run_concat]

/-- **If there are such calls only, they revoke the sessions from before them** whose user is
revoked before they lapse. -/
theorem Lawful.revokedIn_iff_of_calls {calls : List Step} (h : Lawful texts x (past ++ calls))
    (hcalls : ∀ st ∈ calls, ∃ s u, st.action = .deleteUser s u)
    (hpast : ∀ st ∈ past, st.clock.nanos ≤ t.nanos)
    (hafter : ∀ st ∈ calls, t.nanos ≤ st.clock.nanos) :
    (x.run past).RevokedIn calls id ↔ ∃ r e, (x.run past).Holds t r e ∧ r.id = id ∧
      (x.run past).DismissedIn calls r.userId e := by
  induction calls generalizing past t with
  | nil =>
    refine iff_of_false Site.revokedIn_nil ?_
    rintro ⟨r, e, -, -, hdismissed⟩
    exact Site.dismissedIn_nil hdismissed
  | cons st calls ih =>
    obtain ⟨hcall, hrest⟩ := List.forall_mem_cons.1 hcalls
    have hle : t.nanos ≤ st.instant.nanos := hafter st List.mem_cons_self
    rw [List.append_cons] at h
    have hstep := ih h hrest h.of_append.until_last h.after
    obtain ⟨kept, hkept⟩ := h.of_append.of_append.intact hpast
    rw [Site.run_concat] at hstep
    rw [Site.revokedIn_cons, hstep]
    simp only [← Site.run_concat, h.of_append.holds_deleteUser hcall, hkept.holds_later hle,
      Site.dismissedIn_cons, Step.Revokes]
    constructor
    · rintro (⟨r, e, n, ⟨hr, hlive⟩, hid, hrevokes⟩ | ⟨r, e, ⟨⟨hr, -⟩, -⟩, hid, hdismissed⟩)
      · exact ⟨r, e, hr, hid, .inl ⟨n, hrevokes, hlive⟩⟩
      · exact ⟨r, e, hr, hid, .inr hdismissed⟩
    · rintro ⟨r, e, hr, hid, ⟨n, hrevokes, hlive⟩ | hdismissed⟩
      · exact .inl ⟨r, e, n, ⟨hr, hlive⟩, hid, hrevokes⟩
      · -- The first call that revokes the user takes the session.
        have hlive := hdismissed.isBefore h.after
        by_cases hnow : ∃ n, st.RevokesAll (x.run past) r.userId n
        · obtain ⟨n, hrevokes⟩ := hnow
          exact .inl ⟨r, e, n, ⟨hr, hlive⟩, hid, hrevokes⟩
        · exact .inr ⟨r, e, ⟨⟨hr, hlive⟩, hnow⟩, hid, hdismissed⟩

/-- **The exact effect of revoking all sessions of a user**, in every run. -/
theorem Lawful.bulk_revocation_exact (h : Lawful texts x steps) : x.RevokesInBulk steps where
  counts := by
    rintro past st future u n rfl hrevokes
    rw [List.append_cons] at h
    refine ⟨?_, fun s hopen => h.of_append.list_of_revokesAll hrevokes hopen⟩
    obtain ⟨s, haction, hok⟩ := hrevokes
    exact ⟨s, haction, Service.isOpen_of_deleteUser hok⟩
  loses := by
    rintro past st future u n rfl hrevokes
    rw [List.append_cons] at h
    exact h.of_append.loses_of_revokesAll hrevokes
  refuses := by
    rintro past st future u n id rfl hrevokes hid token htoken s clock hclock
    rw [List.append_cons] at h hclock ⊢
    exact h.refuses_of_revokesAll hrevokes hid htoken hclock s
  once := by
    rintro past later rfl
    exact h.exists_counted
  onceOfCalls := by
    rintro past calls t rfl hcalls hpast hafter
    obtain ⟨ids, hnodup, hlength, hmem⟩ := h.exists_counted
    refine ⟨ids, hnodup, hlength, fun id => ?_⟩
    rw [hmem, h.revokedIn_iff_of_calls hcalls hpast hafter]

end

namespace Sample

/-- A user opens sessions on two devices. -/
def twoDevices : List Step :=
  [⟨clock, .create service "a" (requestOf "u" "f" "p")⟩,
    ⟨clock, .create service "b" (requestOf "u" "p" "f")⟩]

set_option maxRecDepth 10000 in
/-- The sessions of the user are revoked twice. -/
theorem lawful_twoDevices : Lawful {s | s ∈ names} site (twoDevices ++ [revoking, revoking]) := by
  have hhashed : ∀ st ∈ twoDevices ++ [revoking, revoking], ∀ s ∈ st.texts, s ∈ names := by
    decide +kernel
  exact ⟨⟨rfl, nofun⟩, by decide, by decide, collisionFree_names, hhashed⟩

/-- Of two calls, the first counts both sessions of the user, and the second none. -/
theorem bulk_revocation_exact_of_twoDevices :
    revoking.RevokesAll (site.run twoDevices) "u" 2 ∧
      (service.list (site.run (twoDevices ++ [revoking])).store clock "u").result = .ok [] ∧
      ∃ ids : List String, ids.Nodup ∧ ids.length = 2 ∧
        ∀ id, id ∈ ids ↔ (site.run twoDevices).RevokedIn [revoking, revoking] id := by
  obtain ⟨hok, hcounted⟩ :
      (service.deleteUser (site.run twoDevices) revoking.clock "u").outcome.result = .ok 2 ∧
        (site.run twoDevices).counted [revoking, revoking] = 2 := by decide +kernel
  have hall : revoking.RevokesAll (site.run twoDevices) "u" 2 := ⟨service, rfl, hok⟩
  have hexact := Lawful.bulk_revocation_exact lawful_twoDevices
  obtain ⟨-, hlist⟩ := hexact.counts twoDevices revoking [revoking] "u" 2 rfl hall
  obtain ⟨_, -, -, hempty⟩ := hlist service (Service.isOpen_of_deleteUser hok)
  obtain ⟨ids, hnodup, hlength, hmem⟩ := hexact.once twoDevices [revoking, revoking] rfl
  exact ⟨hall, hempty, ids, hnodup, hlength.trans hcounted, hmem⟩

end Sample

end SessionTokens
