import SessionTokens.Proofs.Session.Agreement
import SessionTokens.Proofs.Service.Run
import SessionTokens.Proofs.Store.Outcome
/-!
# What the operations answer

Two stores without files stand *beside* each other at an instant if they have the same phase and the
same limits, and the keys of each represent a book.

* `create_result_eq`: **opening a session is answered alike by both**, whatever they hold.
* `check_result_eq`, `extend_result_eq`, `delete_result_eq`: an operation on one session is answered
  alike if both books hold the same under its id.
* `list_result_eq`, `deleteUser_result_eq`: an operation on a user is answered alike if both books
  hold the same sessions of the user.

The sessions that an operation evicts or removes are deleted, and what is deleted has no say in the
outcome of a commit.
-/

namespace SessionTokens

open Session

/-! ## Plans -/

/-- What a plan comes to: what is looked at of its answer, and the values that it writes. -/
def Plan.gist {α γ : Type} (f : α → γ) (p : Plan α) : γ × Pending :=
  (f p.answer, p.pending.puts)

/-- What an operation answers whose turn it is. -/
theorem Site.perform_result_of_idle {ε α β : Type} {x : Site} {clock : Clock}
    {lift : StorageError → ε} {start : Traced (Halt ε) β}
    {plan : β → Txn → Traced (Halt ε) (Plan α)} (hidle : x.store.phase = .idle) {a : β}
    (hstart : start.result = .ok a) :
    (x.perform clock lift start plan).outcome.result =
      (plan a (x.store.reader clock)).result.bind fun p =>
        ((x.apply clock p.pending).outcome.result.mapError (Halt.map lift)).map
          fun _ => p.answer := by
  unfold Site.perform
  rw [hstart, hidle, Store.reader]
  dsimp only
  cases (plan a ⟨x.store.entries, clock, ∅⟩).result with
  | error h => rfl
  | ok p =>
    dsimp only [Except.bind]
    cases (x.apply clock p.pending).outcome.result <;> rfl

/-- Results that come to the same are one error, or values that come to the same. -/
theorem cases_of_map_eq {ε α γ : Type} {f : α → γ} {r r' : Except ε α} (h : r.map f = r'.map f) :
    (∃ e, r = .error e ∧ r' = .error e) ∨ ∃ a b, r = .ok a ∧ r' = .ok b ∧ f a = f b := by
  cases r with
  | error e =>
    cases r' with
    | error e' =>
      cases h
      exact .inl ⟨e, rfl, rfl⟩
    | ok b => cases h
  | ok a =>
    cases r' with
    | error e' => cases h
    | ok b => exact .inr ⟨a, b, rfl, rfl, Except.ok.inj h⟩

/-- **Stores with the same frame give the same answer to plans of the same gist.** -/
theorem Site.perform_result_congr {ε α β γ : Type} {x y : Site} {clock : Clock}
    (hframe : x.frame = y.frame) (hmemory : x.store.medium = .memory) (f : α → γ)
    {lift : StorageError → ε} {start : Traced (Halt ε) β}
    {plan : β → Txn → Traced (Halt ε) (Plan α)}
    (hread : ∀ a p, (plan a (x.store.reader clock)).result = .ok p →
      ∃ now, clock.read = .ok now)
    (hplan : ∀ a, start.result = .ok a →
      (plan a (x.store.reader clock)).result.map (Plan.gist f) =
        (plan a (y.store.reader clock)).result.map (Plan.gist f)) :
    (x.perform clock lift start plan).outcome.result.map f =
      (y.perform clock lift start plan).outcome.result.map f := by
  obtain ⟨hphase, hlimits, hmedium⟩ : x.store.phase = y.store.phase ∧
      x.store.limits = y.store.limits ∧ x.store.medium = y.store.medium := by
    simpa [Site.frame] using hframe
  cases hstart : start.result with
  | error h => simp only [Site.perform, hstart]
  | ok a =>
    cases hidle : x.store.phase with
    | writing p => simp only [Site.perform, hstart, ← hphase, hidle]
    | closed => simp only [Site.perform, hstart, ← hphase, hidle]
    | idle =>
      have hx : x.store.isClosed = false := by rw [Store.isClosed, hidle]
      have hy : y.store.isClosed = false := by rw [Store.isClosed, ← hphase, hidle]
      rw [Site.perform_result_of_idle hidle hstart,
        Site.perform_result_of_idle (hphase ▸ hidle) hstart]
      obtain ⟨e, hp, hq⟩ | ⟨p, q, hp, hq, hgist⟩ := cases_of_map_eq (hplan a hstart)
      · rw [hp, hq]
        rfl
      · obtain ⟨hanswer, hputs⟩ := Prod.mk.inj hgist
        obtain ⟨now, hnow⟩ := hread a p hp
        rw [hp, hq]
        dsimp only [Except.bind]
        rw [Site.apply_result_of_memory _ hx hmemory hnow,
          Site.apply_result_of_memory _ hy (hmedium ▸ hmemory) hnow, hputs, hlimits]
        cases q.pending.puts.settle y.store.limits now with
        | error e => rfl
        | ok settled => exact congrArg Except.ok hanswer

theorem Site.perform_result_eq {ε α β : Type} {x y : Site} {clock : Clock}
    (hframe : x.frame = y.frame) (hmemory : x.store.medium = .memory)
    {lift : StorageError → ε} {start : Traced (Halt ε) β}
    {plan : β → Txn → Traced (Halt ε) (Plan α)}
    (hread : ∀ a p, (plan a (x.store.reader clock)).result = .ok p →
      ∃ now, clock.read = .ok now)
    (hplan : ∀ a, start.result = .ok a →
      (plan a (x.store.reader clock)).result.map (Plan.gist id) =
        (plan a (y.store.reader clock)).result.map (Plan.gist id)) :
    (x.perform clock lift start plan).outcome.result =
      (y.perform clock lift start plan).outcome.result := by
  have hmap : (x.perform clock lift start plan).outcome.result.map id =
      (y.perform clock lift start plan).outcome.result.map id :=
    Site.perform_result_congr hframe hmemory id hread hplan
  simpa [Except.map_id] using hmap

/-! ## Removals write no values -/

namespace Session

theorem puts_reader (s : Store) (clock : Clock) : (s.reader clock).pending.puts = ∅ := rfl

theorem puts_delete {t : Txn} (h : t.pending.puts = ∅) (key : Bytes) :
    (t.delete key).pending.puts = ∅ := by
  show Pending.puts (t.pending.insert key .delete) = ∅
  rw [Pending.puts_insert_delete, h]
  rfl

theorem puts_remove {t : Txn} (h : t.pending.puts = ∅) (r : Record) :
    (Session.remove t r).pending.puts = ∅ :=
  puts_delete (puts_delete (puts_delete h _) _) _

theorem puts_removeEach {t : Txn} (h : t.pending.puts = ∅) (found : List (Bytes × String)) :
    (removeEach t found).1.pending.puts = ∅ := by
  induction found generalizing t with
  | nil => exact h
  | cons p rest ih =>
    unfold removeEach
    split
    · exact h
    · exact ih (puts_delete h _)
    · next r _ => exact ih (puts_remove h r)

theorem puts_removeIndexed {t : Txn} (h : t.pending.puts = ∅) (start : Bytes) :
    (removeIndexed t start).1.pending.puts = ∅ := by
  unfold removeIndexed
  split
  · exact h
  · exact puts_removeEach h _

theorem puts_evict {t : Txn} (h : t.pending.puts = ∅) (i : Identity) :
    (Session.evict t i).1.pending.puts = ∅ := puts_removeIndexed h _

theorem puts_removeUser {t : Txn} (h : t.pending.puts = ∅) (u : String) :
    (Session.removeUser t u).1.pending.puts = ∅ := puts_removeIndexed h _

/-- Inserting a record writes the same values whatever was deleted before. -/
theorem puts_insert_congr {t t' : Txn} (h : t.pending.puts = t'.pending.puts) (r : Record)
    (ttl : Duration) :
    (Session.insert t r ttl).pending.puts = (Session.insert t' r ttl).pending.puts := by
  simp [Session.insert, Txn.set, Txn.buffer, h]

end Session

theorem SessionRequest.identity_record (q : SessionRequest) (id : String) (now : Instant) :
    (q.record id now).identity = q.identity := rfl

/-! ## Two stores -/

/-- Whether two stores without files have the same phase and limits, and represent two books. -/
structure Beside (texts : Set String) (x y : Site) (t : Instant) (b c : Book (Option Instant)) :
    Prop where
  frame : x.frame = y.frame
  memory : x.store.medium = .memory
  left : Represents False texts (x.store.entries.held? t) b
  right : Represents False texts (y.store.entries.held? t) c

variable {texts : Set String} {x y : Site} {clock : Clock} {b c : Book (Option Instant)}

namespace Beside

theorem phase_eq (h : Beside texts x y ⟨clock.nanos⟩ b c) : x.store.phase = y.store.phase :=
  congrArg Prod.fst h.frame

theorem isClosed_eq (h : Beside texts x y ⟨clock.nanos⟩ b c) :
    x.store.isClosed = y.store.isClosed := by
  rw [Store.isClosed, h.phase_eq, Store.isClosed]

theorem readingTime_eq (h : Beside texts x y ⟨clock.nanos⟩ b c) :
    x.store.readingTime clock = y.store.readingTime clock := by
  simp only [Store.readingTime, Store.ensureOpen, h.isClosed_eq]

theorem shows_left (h : Beside texts x y ⟨clock.nanos⟩ b c) {now : Instant}
    (hr : clock.read = .ok now) :
    Shows False texts (x.store.reader clock) now (b.map Lease.upTo) := by
  obtain rfl := Clock.eq_of_read hr
  exact h.left.shows_reader hr

theorem symm (h : Beside texts x y ⟨clock.nanos⟩ b c) : Beside texts y x ⟨clock.nanos⟩ c b :=
  ⟨h.frame.symm, (congrArg (·.2.2) h.frame).symm.trans h.memory, h.right, h.left⟩

/-- Both give the same session of an id. -/
theorem get_eq (h : Beside texts x y ⟨clock.nanos⟩ b c) (hc : CollisionFree texts) {id : String}
    (hid : id ∈ texts) (hsame : b id = c id) :
    Session.get (x.store.reader clock) id = Session.get (y.store.reader clock) id := by
  cases hr : clock.read with
  | error cause => rw [get_of_read_error hr, get_of_read_error hr]
  | ok now =>
    rw [(h.shows_left hr).get hc hid, (h.symm.shows_left hr).get hc hid, Book.map, hsame, Book.map]

theorem find_eq (h : Beside texts x y ⟨clock.nanos⟩ b c) (hc : CollisionFree texts) {id : String}
    (hid : id ∈ texts) (hsame : b id = c id) :
    Session.find x.store clock id = Session.find y.store clock id := by
  cases hr : x.store.readingTime clock with
  | error e => rw [find_of_error hr, find_of_error (h.readingTime_eq ▸ hr)]
  | ok now =>
    obtain ⟨hopen, hread⟩ := Store.readingTime_eq_ok hr
    rw [find_eq_get hopen hread, find_eq_get (h.isClosed_eq ▸ hopen) hread,
      h.get_eq hc hid hsame]

end Beside

namespace Service

variable {s : Service}

theorem removal_eq {r : Txn × Traced (Halt StorageError) (List Record)} {rs : List Record}
    (h : r.2.result = .ok rs) : (removal r).result = .ok (r.1, rs) := by
  simp [removal, h, mapError_ok, Except.bind]

/-- An eviction succeeds and writes no values. -/
theorem removal_evict {t : Txn} {now : Instant} {b : Book Lease}
    (h : Shows False texts t now b) (hc : CollisionFree texts) {i : Identity}
    (hi : i.Within texts) (hputs : t.pending.puts = ∅) :
    ∃ t' rs, (removal (Session.evict t i)).result = .ok (t', rs) ∧ t'.pending.puts = ∅ := by
  obtain ⟨rs, hrs, -⟩ := h.evict hc hi
  exact ⟨_, rs, removal_eq hrs, puts_evict hputs i⟩

/-- **Opening a session is answered alike**, whatever the stores hold. -/
theorem create_result_eq (h : Beside texts x y ⟨clock.nanos⟩ b c) (hc : CollisionFree texts)
    {fresh : Draw} {q : SessionRequest} (hw : q.identity.Within texts) :
    (s.create x clock fresh q).outcome.result = (s.create y clock fresh q).outcome.result := by
  refine Site.perform_result_eq h.frame h.memory (fun pair p hp => ?_) fun pair _ => ?_
  · simp only [Traced.result_bind, Traced.result_lift, bind_eq_ok, Halt.ofAbort_eq_ok] at hp
    obtain ⟨now, hnow, -⟩ := hp
    exact ⟨now, hnow⟩
  · simp only [Traced.result_bind, Traced.result_lift]
    cases hr : clock.read with
    | error cause => rfl
    | ok now =>
      obtain ⟨t, rs, hx, ht⟩ := removal_evict (h.shows_left hr) hc hw (puts_reader _ _)
      obtain ⟨t', rs', hy, ht'⟩ := removal_evict (h.symm.shows_left hr) hc hw (puts_reader _ _)
      have hputs := puts_insert_congr (ht.trans ht'.symm) (q.record pair.id now)
        pair.refresh.lifetime
      simp only [Halt.ofAbort_ok, Except.bind, SessionRequest.identity_record, hx, hy,
        Traced.result_pure, Except.map, Plan.gist, hputs]

/-- A session that a transaction is given can be removed, and those of its identity evicted. -/
theorem removal_evict_remove {store : Store} {now : Instant} {b : Book Lease} {id : String}
    {old : Record} (h : Shows False texts (store.reader clock) now b) (hc : CollisionFree texts)
    (hid : id ∈ texts) (hget : Session.get (store.reader clock) id = .ok (some old)) :
    ∃ t rs, (removal (Session.evict (Session.remove (store.reader clock) old)
      old.identity)).result = .ok (t, rs) ∧ t.pending.puts = ∅ := by
  rw [h.get hc hid, Except.ok.injEq] at hget
  obtain ⟨⟨r, lease⟩, hr, rfl⟩ := Option.map_eq_some_iff.1 hget
  obtain ⟨rfl, hw, -⟩ := h.keys.sound id r lease hr
  exact removal_evict (h.remove hc hr) hc hw.identity (puts_remove (puts_reader store clock) r)

/-- **A rotation is answered alike** if both stores hold the same under the id of the token. -/
theorem extend_result_eq (h : Beside texts x y ⟨clock.nanos⟩ b c) (hc : CollisionFree texts)
    {fresh : Draw} {token fingerprint : String}
    (hid : ∀ claims, s.issuer.verify clock token = .ok claims →
      claims.core.id ∈ texts ∧ b claims.core.id = c claims.core.id) :
    (s.extend x clock fresh token fingerprint).outcome.result =
      (s.extend y clock fresh token fingerprint).outcome.result := by
  refine Site.perform_result_eq h.frame h.memory (fun claims p hp => ?_) fun claims hstart => ?_
  · simp only [Traced.result_bind, bind_eq_ok, onStore_eq_ok] at hp
    obtain ⟨old?, hget, -⟩ := hp
    exact read_of_get hget
  · simp only [Traced.result_bind, Traced.result_enter, bind_eq_ok] at hstart
    obtain ⟨_, -, _, -, hverify⟩ := hstart
    obtain ⟨htexts, hsame⟩ := hid claims (verifyKind_eq_ok hverify).1
    have hget := h.get_eq hc htexts hsame
    simp only [Traced.result_bind, onStore, Traced.result_lift, ← hget]
    cases hx : Session.get (x.store.reader clock) claims.core.id with
    | error e => simp only [mapError_error, Except.bind]
    | ok old? =>
      cases old? with
      | none => simp only [mapError_ok, Except.bind, demandRecord, refuse, Traced.result_throw]
      | some old =>
        obtain ⟨now, hr⟩ := read_of_get hx
        obtain ⟨t, rs, hxt, ht⟩ := removal_evict_remove (h.shows_left hr) hc htexts hx
        obtain ⟨t', rs', hyt, ht'⟩ :=
          removal_evict_remove (h.symm.shows_left hr) hc htexts (hget ▸ hx)
        have hputs := puts_insert_congr (ht.trans ht'.symm)
        simp only [mapError_ok, demandRecord, Traced.result_pure, Except.bind, hxt, hyt, hr,
          Halt.ofAbort_ok]
        cases (checkOwner claims old).result with
        | error e => rfl
        | ok u =>
          cases (checkFingerprint old fingerprint).result with
          | error e => rfl
          | ok u =>
            cases (s.issueTokens clock fresh
                (Extension.of old.userId old.role old.parentId)).result with
            | error e => rfl
            | ok pair => simp only [Except.map, Plan.gist, hputs]

/-- **A revocation is answered alike** if both stores hold the same under the id. -/
theorem delete_result_eq (h : Beside texts x y ⟨clock.nanos⟩ b c) (hc : CollisionFree texts)
    {id userId : String} (hid : id ∈ texts) (hsame : b id = c id) :
    (s.delete x clock id userId).outcome.result = (s.delete y clock id userId).outcome.result := by
  refine Site.perform_result_eq h.frame h.memory (fun _ p hp => ?_) fun _ _ => ?_
  · simp only [Traced.result_bind, bind_eq_ok, onStore_eq_ok] at hp
    obtain ⟨r?, hget, -⟩ := hp
    exact read_of_get hget
  · simp only [Traced.result_bind, onStore, Traced.result_lift, ← h.get_eq hc hid hsame]
    cases Session.get (x.store.reader clock) id with
    | error e => rfl
    | ok r? =>
      cases r? with
      | none => rfl
      | some r =>
        simp only [mapError_ok, demandRecord, Traced.result_pure, Except.bind]
        split
        · rfl
        · simp only [Traced.result_pure, Except.map, Plan.gist,
            puts_remove (puts_reader _ clock)]

/-- The plan to revoke all sessions of a user writes no values. -/
theorem removal_removeUser {t : Txn} {now : Instant} {b : Book Lease}
    (h : Shows False texts t now b) (hc : CollisionFree texts) {u : String} (hu : u ∈ texts)
    (hputs : t.pending.puts = ∅) :
    ∃ t' rs, (removal (Session.removeUser t u)).result = .ok (t', rs) ∧ t'.pending.puts = ∅ ∧
      b.Lists (fun r => r.userId = u) rs := by
  obtain ⟨rs, hrs, hlists, -⟩ := h.removeUser hc hu
  exact ⟨_, rs, removal_eq hrs, puts_removeUser hputs u, hlists⟩

/-- What is looked at of the answer to a revocation of all sessions of a user is alike if it is
alike for the numbers of sessions that the books hold. -/
theorem deleteUser_result_congr {γ : Type} (h : Beside texts x y ⟨clock.nanos⟩ b c)
    (hc : CollisionFree texts) {userId : String} (hu : userId ∈ texts) (f : Nat → γ)
    (hf : ∀ rs rs', b.Lists (fun r => r.userId = userId) rs →
      c.Lists (fun r => r.userId = userId) rs' → f rs.length = f rs'.length) :
    (s.deleteUser x clock userId).outcome.result.map f =
      (s.deleteUser y clock userId).outcome.result.map f := by
  refine Site.perform_result_congr h.frame h.memory f (fun _ p hp => ?_) fun _ _ => ?_
  · simp only [Traced.result_bind, bind_eq_ok, removal, Traced.result_mapError,
      mapError_eq_ok] at hp
    obtain ⟨_, ⟨rs, hrs, -⟩, -⟩ := hp
    exact read_of_removeUser hrs
  · cases hr : clock.read with
    | error cause =>
      simp only [Traced.result_bind, removal, Traced.result_mapError,
        removeUser_of_read_error hr, mapError_error, Except.bind]
    | ok now =>
      obtain ⟨t, rs, hx, ht, hrs⟩ :=
        removal_removeUser (h.shows_left hr) hc hu (puts_reader _ clock)
      obtain ⟨t', rs', hy, ht', hrs'⟩ :=
        removal_removeUser (h.symm.shows_left hr) hc hu (puts_reader _ clock)
      simp only [Traced.result_bind, hx, hy, Except.bind, Traced.result_pure, Except.map,
        Plan.gist, ht, ht', hf rs rs' hrs.of_map hrs'.of_map]

/-- **The revocation of all sessions of a user is answered alike** if both stores hold the same
sessions of the user. -/
theorem deleteUser_result_eq (h : Beside texts x y ⟨clock.nanos⟩ b c) (hc : CollisionFree texts)
    {userId : String} (hu : userId ∈ texts)
    (hsame : ∀ r, r.userId = userId → ∀ m, b r.id = some (r, m) ↔ c r.id = some (r, m)) :
    (s.deleteUser x clock userId).outcome.result =
      (s.deleteUser y clock userId).outcome.result := by
  have hmap := deleteUser_result_congr (s := s) h hc hu id fun rs rs' hrs hrs' =>
    (hrs.perm hrs' fun r hr => hsame r (by simpa using hr)).length_eq
  simpa [Except.map_id] using hmap

/-- **Whether all sessions of a user can be revoked is answered alike**, whatever the stores
hold. -/
theorem deleteUser_ok_iff (h : Beside texts x y ⟨clock.nanos⟩ b c) (hc : CollisionFree texts)
    {userId : String} (hu : userId ∈ texts) :
    (∃ n, (s.deleteUser x clock userId).outcome.result = .ok n) ↔
      ∃ n, (s.deleteUser y clock userId).outcome.result = .ok n := by
  have hmap : (s.deleteUser x clock userId).outcome.result.map (fun _ => ()) =
      (s.deleteUser y clock userId).outcome.result.map fun _ => () :=
    deleteUser_result_congr h hc hu _ fun _ _ _ _ => rfl
  have hok (r : Except (Halt TokenError) Nat) :
      (∃ n, r = .ok n) ↔ r.map (fun _ => ()) = .ok () := by
    cases r <;> simp [Except.map]
  rw [hok, hok, hmap]

/-! ## Reading -/

/-- **A check is answered alike** if both stores hold the same under the id of the token. -/
theorem check_result_eq (h : Beside texts x y ⟨clock.nanos⟩ b c) (hc : CollisionFree texts)
    {token userAgent ip fingerprint : String}
    (hid : ∀ claims, s.issuer.verify clock token = .ok claims →
      claims.core.id ∈ texts ∧ b claims.core.id = c claims.core.id) :
    (s.check x.store clock token userAgent ip fingerprint).result =
      (s.check y.store clock token userAgent ip fingerprint).result := by
  unfold check
  simp only [Traced.result_bind]
  cases hverify : (s.verifyKind clock token .access).result with
  | error e => rfl
  | ok claims =>
    obtain ⟨htexts, hsame⟩ := hid claims (verifyKind_eq_ok hverify).1
    simp only [Except.bind, onStore, h.find_eq hc htexts hsame]

/-- **A listing is answered alike** if both stores hold the same sessions of the user. -/
theorem list_result_eq (h : Beside texts x y ⟨clock.nanos⟩ b c) (hc : CollisionFree texts)
    {userId : String} (hu : userId ∈ texts)
    (hsame : ∀ r, r.userId = userId → ∀ m, b r.id = some (r, m) ↔ c r.id = some (r, m)) :
    (s.list x.store clock userId).result = (s.list y.store clock userId).result := by
  have hfound : (Session.ofUser x.store clock userId).result =
      (Session.ofUser y.store clock userId).result := by
    cases hr : x.store.readingTime clock with
    | error e => rw [ofUser_of_error hr, ofUser_of_error (h.readingTime_eq ▸ hr)]
    | ok now =>
      obtain ⟨hopen, hread⟩ := Store.readingTime_eq_ok hr
      obtain ⟨rs, hx, hrs, ho⟩ := (h.shows_left hread).listUser hc hu
      obtain ⟨rs', hy, hrs', ho'⟩ := (h.symm.shows_left hread).listUser hc hu
      rw [ofUser_eq_listUser hopen hread, ofUser_eq_listUser (h.isClosed_eq ▸ hopen) hread, hx, hy,
        hrs.of_map.eq_of_inOrder hrs'.of_map (fun r hr => hsame r (by simpa using hr)) ho ho']
  simp only [list, Traced.result_bind, Traced.result_mapError, hfound]

end Service

end SessionTokens
