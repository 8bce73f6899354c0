import SessionTokens.Proofs.Service.Run
/-!
# The invariant of a run

**Invariant (`Intact`).** The keys of the store represent a book without stray keys, no two
sessions of the book have the same identity, every id in the book was generated in the run, and the
file of the store keeps what the store holds.

**Theorem (`Intact.step`).** Every step keeps the invariant. A session that is in the book
afterwards was there before or is one that the step brings, and none that the step ends is there.

**Theorem (`Lawful.intact`).** The invariant holds at every instant of a run from an empty store.
-/

namespace SessionTokens

open Session

/-! ## Fewer sessions, and other identities -/

namespace Book

variable {τ : Type}

/-- Whether the sessions of one book are in another, with the same marks. -/
def Sub (b b' : Book τ) : Prop := ∀ id s, b id = some s → b' id = some s

/-- Whether no two sessions have the same identity. -/
def Distinct (b : Book τ) : Prop :=
  ∀ id id' r r' m m', b id = some (r, m) → b id' = some (r', m') → r.identity = r'.identity →
    id = id'

theorem Sub.trans {a b c : Book τ} (hab : a.Sub b) (hbc : b.Sub c) : a.Sub c := fun id s h =>
  hbc id s (hab id s h)

theorem Sub.eq_none {b b' : Book τ} (h : b.Sub b') {id : String} (hb : b' id = none) :
    b id = none := by
  rw [Option.eq_none_iff_forall_ne_some]
  intro s hs
  rw [h id s hs] at hb
  cases hb

theorem filter_sub (b : Book τ) (keep : τ → Bool) : (b.filter keep).Sub b := fun _ _ h =>
  (Option.filter_eq_some_iff.1 h).1

theorem without_sub (b : Book τ) (p : Record → Bool) : (b.without p).Sub b := fun _ _ h =>
  (Option.filter_eq_some_iff.1 h).1

theorem remove_sub (b : Book τ) (id : String) : (b.remove id).Sub b := by
  intro id' s h
  unfold remove at h
  split at h
  · cases h
  · exact h

theorem distinct_empty : (empty : Book τ).Distinct := by
  intro id id' r r' m m' h
  cases h

theorem Distinct.of_sub {b b' : Book τ} (h : b'.Distinct) (hs : b.Sub b') : b.Distinct :=
  fun id id' r r' m m' hr hr' hi => h id id' r r' m m' (hs id _ hr) (hs id' _ hr') hi

theorem of_install {b : Book τ} {r r' : Record} {m m' : τ} {id : String}
    (h : b.install r m id = some (r', m')) :
    (id = r.id ∧ r' = r) ∨ (b id = some (r', m') ∧ r'.identity ≠ r.identity) := by
  unfold install set at h
  split at h
  · next hid =>
    cases h
    exact .inl ⟨hid, rfl⟩
  · obtain ⟨hb, hi⟩ := Option.filter_eq_some_iff.1 h
    exact .inr ⟨hb, by simpa using hi⟩

/-- **A session that takes the place of those of its identity is the only one of it.** -/
theorem Distinct.install {b : Book τ} (h : b.Distinct) (r : Record) (m : τ) :
    (b.install r m).Distinct := by
  intro id id' r₁ r₂ m₁ m₂ h₁ h₂ hi
  obtain ⟨rfl, rfl⟩ | ⟨hb₁, hne₁⟩ := of_install h₁
  · obtain ⟨rfl, -⟩ | ⟨-, hne₂⟩ := of_install h₂
    · rfl
    · exact absurd hi.symm hne₂
  · obtain ⟨-, rfl⟩ | ⟨hb₂, -⟩ := of_install h₂
    · exact absurd hi hne₁
    · exact h id id' r₁ r₂ m₁ m₂ hb₁ hb₂ hi

end Book

/-! ## The invariant -/

/-- **The invariant of a run.** -/
structure Intact (texts : Set String) (ids : List String) (x : Site) (t : Instant)
    (kept : Book (Option Instant)) : Prop where
  keys : Represents False texts (x.store.entries.held? t) kept
  distinct : kept.Distinct
  known : ∀ id s, kept id = some s → id ∈ ids
  durable : x.Durable t

/-- How a step may change the book. -/
structure Evolves (x : Site) (st : Step) (kept kept' : Book (Option Instant)) : Prop where
  origin : ∀ id r expiry, kept' id = some (r, expiry) →
    (∃ expiry', kept id = some (r, expiry')) ∨ st.Brings x r
  ended : ∀ id r expiry, kept id = some (r, expiry) → st.Ends x r → kept' id = none

variable {texts : Set String} {ids : List String} {x y : Site} {t now later : Instant}
  {kept kept' : Book (Option Instant)} {clock : Clock}

/-- The sessions of a book whose keys a store holds are live records. -/
theorem Represents.holds (h : Represents False texts (x.store.entries.held? t) kept) {r : Record}
    {expiry : Option Instant} (hr : kept r.id = some (r, expiry)) : x.Holds t r expiry := by
  have hheld := h.present _ r expiry hr (recordKey r.id, r.encode) List.mem_cons_self
  exact ⟨r.encode, Entries.held?_eq_some.1 hheld, Record.decode?_encode (h.sound _ _ _ hr).2.2⟩

/-- What a store holds as a live record are the sessions of the book. -/
theorem Represents.holds_iff (h : Represents False texts (x.store.entries.held? t) kept)
    {r : Record} {expiry : Option Instant} :
    x.Holds t r expiry ↔ kept r.id = some (r, expiry) := by
  constructor
  · rintro ⟨v, hfind, hdecode⟩
    obtain ⟨r', hr', hmem⟩ | ⟨hf, -⟩ := h.only _ v expiry (Entries.held?_eq_some.2 hfind)
    · simp only [Record.bindings, List.mem_cons, Prod.mk.injEq, List.not_mem_nil, or_false] at hmem
      obtain ⟨-, rfl⟩ | ⟨hk, -⟩ | ⟨hk, -⟩ := hmem
      · rw [Record.decode?_encode (h.sound _ _ _ hr').2.2] at hdecode
        cases hdecode
        exact hr'
      · exact absurd hk (recordKey_ne_identity _ _ _)
      · exact absurd hk (recordKey_ne_user _ _ _)
    · exact hf.elim
  · exact h.holds

namespace Intact

theorem notMem (h : Intact texts ids x t kept) {id : String} (hid : id ∉ ids) :
    kept id = none := by
  rw [Option.eq_none_iff_forall_ne_some]
  exact fun s hs => hid (h.known id s hs)

theorem holds_iff (h : Intact texts ids x t kept) {r : Record} {expiry : Option Instant} :
    x.Holds t r expiry ↔ kept r.id = some (r, expiry) := h.keys.holds_iff

/-- The session of an id in the book is the one that the store holds under it. -/
theorem eq_some_iff (h : Intact texts ids x t kept) {id : String} {r : Record}
    {expiry : Option Instant} : kept id = some (r, expiry) ↔ x.Holds t r expiry ∧ r.id = id := by
  constructor
  · intro hr
    obtain ⟨rfl, -, -⟩ := h.keys.sound _ _ _ hr
    exact ⟨h.holds_iff.2 hr, rfl⟩
  · rintro ⟨hr, rfl⟩
    exact h.holds_iff.1 hr

theorem live_iff (h : Intact texts ids x t kept) {id : String} :
    x.Live t id ↔ ∃ s, kept id = some s := by
  simp only [Site.Live, Prod.exists, h.eq_some_iff]

/-- A transaction that has written nothing is given the session of an id. -/
theorem get (h : Intact texts ids x ⟨clock.nanos⟩ kept) (hc : CollisionFree texts) {id : String}
    (hid : id ∈ texts) (hr : clock.read = .ok now) :
    Session.get (x.store.reader clock) id = .ok ((kept id).map (·.1)) := by
  obtain rfl := Clock.eq_of_read hr
  rw [(h.keys.shows_reader hr).get hc hid, Book.map, Option.map_map]
  rfl

/-- A reader of a store that is not closed is given the session of an id. -/
theorem find (h : Intact texts ids x ⟨clock.nanos⟩ kept) (hc : CollisionFree texts) {id : String}
    (hid : id ∈ texts) (hopen : x.store.isClosed = false) (hr : clock.read = .ok now) :
    Session.find x.store clock id = .ok ((kept id).map (·.1)) := by
  rw [find_eq_get hopen hr, h.get hc hid hr]

/-- What an operation does at an instant holds later, except for sessions that lapse until then. -/
theorem of_keys (hkeys : Represents False texts (x.store.entries.held? t) kept)
    (hle : t.nanos ≤ later.nanos) (hdistinct : kept.Distinct)
    (hknown : ∀ id s, kept id = some s → id ∈ ids) (hd : x.Durable later) :
    Intact texts ids x later (kept.filter later.isBefore) := by
  have hsub := kept.filter_sub later.isBefore
  refine ⟨?_, hdistinct.of_sub hsub, fun id s hs => hknown id s (hsub id s hs), hd⟩
  rw [funext (x.store.entries.held?_later hle)]
  exact hkeys.filter later.isBefore

/-- An operation that changes nothing that is held only lets sessions lapse. -/
theorem stay (h : Intact texts ids x t kept) (hle : t.nanos ≤ later.nanos)
    (hheld : y.store.entries.held? t = x.store.entries.held? t) (hd : y.Durable later) :
    Intact texts ids y later (kept.filter later.isBefore) :=
  of_keys (hheld ▸ h.keys) hle h.distinct h.known hd

/-- More ids do no harm. -/
theorem append (h : Intact texts ids x t kept) (more : List String) :
    Intact texts (ids ++ more) x t kept :=
  ⟨h.keys, h.distinct, fun id s hs => List.mem_append_left _ (h.known id s hs), h.durable⟩

end Intact

/-! ## Ways to change the book -/

section

variable {st : Step}

/-- A step that changes nothing that is held and ends no session. -/
theorem Intact.idle (h : Intact texts ids x t kept) (more : List String)
    (hle : t.nanos ≤ later.nanos) (hheld : y.store.entries.held? t = x.store.entries.held? t)
    (hd : y.Durable later) (hends : ∀ r, ¬st.Ends x r) :
    ∃ kept', Intact texts (ids ++ more) y later kept' ∧ Evolves x st kept kept' := by
  refine ⟨_, (h.stay hle hheld hd).append more, fun id r expiry hr => ?_, ?_⟩
  · exact .inl ⟨expiry, kept.filter_sub _ id _ hr⟩
  · exact fun _ r _ _ he => (hends r he).elim

/-- A step after which fewer sessions are left. -/
theorem Intact.revoke (h : Intact texts ids x t kept) {b : Book (Option Instant)}
    (hsub : b.Sub kept) {keep : Option Instant → Bool}
    (hkeys : Represents False texts (y.store.entries.held? now) (b.filter keep))
    (hle : now.nanos ≤ later.nanos) (hd : y.Durable later)
    (hends : ∀ id old expiry, kept id = some (old, expiry) → st.Ends x old → b id = none) :
    ∃ kept', Intact texts (ids ++ []) y later kept' ∧ Evolves x st kept kept' := by
  have hleft : ((b.filter keep).filter later.isBefore).Sub b :=
    (Book.filter_sub _ _).trans (Book.filter_sub _ _)
  have hfilter := (b.filter_sub keep).trans hsub
  rw [List.append_nil]
  refine ⟨_, .of_keys hkeys hle (h.distinct.of_sub hfilter) ?_ hd, fun id r expiry hr => ?_, ?_⟩
  · exact fun id s hs => h.known id s (hfilter id s hs)
  · exact .inl ⟨expiry, hsub id _ (hleft id _ hr)⟩
  · exact fun id old expiry hold he => hleft.eq_none (hends id old expiry hold he)

/-- A step that installs a session under a fresh id, in place of those of its identity. -/
theorem Intact.install (h : Intact texts ids x t kept) {b : Book (Option Instant)}
    (hsub : b.Sub kept) {r : Record} (hfresh : r.id ∉ ids) {expiry : Option Instant}
    {keep : Option Instant → Bool}
    (hkeys : Represents False texts (y.store.entries.held? now)
      ((b.install r expiry).filter keep))
    (hle : now.nanos ≤ later.nanos) (hd : y.Durable later) (hbrings : st.Brings x r)
    (hends : ∀ old, st.Ends x old → old.identity = r.identity) :
    ∃ kept', Intact texts (ids ++ [r.id]) y later kept' ∧ Evolves x st kept kept' := by
  have hfilter := (b.install r expiry).filter_sub keep
  have hleft := (Book.filter_sub ((b.install r expiry).filter keep) later.isBefore).trans hfilter
  have hdistinct := ((h.distinct.of_sub hsub).install r expiry).of_sub hfilter
  refine ⟨_, .of_keys hkeys hle hdistinct (fun id s hs => ?_) hd, fun id r' expiry' hr' => ?_,
    fun id old expiry' hold he => ?_⟩
  · obtain ⟨rfl, -⟩ | ⟨hb, -⟩ := Book.of_install (hfilter id s hs)
    · exact List.mem_append_right _ List.mem_cons_self
    · exact List.mem_append_left _ (h.known id _ (hsub id _ hb))
  · obtain ⟨-, rfl⟩ | ⟨hb, -⟩ := Book.of_install (hleft id _ hr')
    · exact .inr hbrings
    · exact .inl ⟨expiry', hsub id _ hb⟩
  · rw [Option.eq_none_iff_forall_ne_some]
    rintro ⟨r', m'⟩ hr'
    obtain ⟨rfl, -⟩ | ⟨hb, hne⟩ := Book.of_install (hleft id _ hr')
    · exact hfresh (h.known _ _ hold)
    · have hsame := hsub id _ hb
      rw [hold] at hsame
      cases hsame
      exact hne (hends old he)

end

/-! ## What each step keeps -/

namespace Service

variable {s : Service}

theorem tokenId?_eq_some {token id : String} :
    s.tokenId? clock token = some id ↔
      ∃ c, s.issuer.verify clock token = .ok c ∧ c.core.id = id := by
  unfold tokenId?
  cases s.issuer.verify clock token <;> simp

/-- What is hashed for a session that is opened is among the texts that the step hashes. -/
theorem within_of_create {fresh : Draw} {q : SessionRequest}
    (htexts : ∀ a ∈ (Step.mk clock (.create s fresh q)).texts, a ∈ texts) (now : Instant) :
    (q.record fresh.id now).Within texts := by
  simp only [Step.texts, List.forall_mem_cons, List.not_mem_nil, false_implies, implies_true,
    and_true] at htexts
  obtain ⟨hid, huser, hplatform, hfingerprint, hip⟩ := htexts
  exact ⟨hid, huser, hplatform, hfingerprint, hip⟩

/-- The id that a rotated token is for is among the texts that the step hashes. -/
theorem id_mem_of_extend {fresh : Draw} {token fingerprint : String}
    (htexts : ∀ a ∈ (Step.mk clock (.extend s fresh token fingerprint)).texts, a ∈ texts)
    (c : Claims) (hv : s.issuer.verify clock token = .ok c) : c.core.id ∈ texts := by
  refine htexts _ (List.mem_cons_of_mem _ ?_)
  exact Option.mem_toList.2 (tokenId?_eq_some.2 ⟨c, hv, rfl⟩)

theorem create_keeps (hc : CollisionFree texts) (h : Intact texts ids x ⟨clock.nanos⟩ kept)
    (hl : clock.nanos ≤ later.nanos) {fresh : Draw} {q : SessionRequest}
    (htexts : ∀ a ∈ (Step.mk clock (.create s fresh q)).texts, a ∈ texts)
    (hfresh : fresh.id ∉ ids) :
    ∃ kept', Intact texts (ids ++ [fresh.id]) (s.create x clock fresh q).site later kept' ∧
      Evolves x ⟨clock, .create s fresh q⟩ kept kept' := by
  have hd : (s.create x clock fresh q).site.Durable later := h.durable.perform hl hl _ _ _
  cases hres : (s.create x clock fresh q).outcome.result with
  | error e =>
    exact h.idle [fresh.id] hl (by rw [create_store_of_error hres]) hd (by simp [Step.Ends, hres])
  | ok pair =>
    obtain ⟨now, hr, hid, hkeys⟩ := s.create_effect hc h.keys (Int.le_refl _)
      (within_of_create htexts) (h.notMem hfresh) hres
    have hnow : now.nanos ≤ later.nanos := (Clock.read_eq_ok_iff.1 hr).1 ▸ hl
    refine h.install (kept.filter_sub _) hfresh hkeys hnow hd ⟨pair, now, hres, hid, rfl⟩ ?_
    rintro old ⟨pair', -, hi⟩
    exact hi.symm

theorem extend_keeps (hc : CollisionFree texts) (h : Intact texts ids x ⟨clock.nanos⟩ kept)
    (hl : clock.nanos ≤ later.nanos) {fresh : Draw} {token fingerprint : String}
    (htexts : ∀ a ∈ (Step.mk clock (.extend s fresh token fingerprint)).texts, a ∈ texts)
    (hfresh : fresh.id ∉ ids) :
    ∃ kept', Intact texts (ids ++ [fresh.id]) (s.extend x clock fresh token fingerprint).site later
        kept' ∧
      Evolves x ⟨clock, .extend s fresh token fingerprint⟩ kept kept' := by
  have hd : (s.extend x clock fresh token fingerprint).site.Durable later :=
    h.durable.perform hl hl _ _ _
  cases hres : (s.extend x clock fresh token fingerprint).outcome.result with
  | error e =>
    exact h.idle [fresh.id] hl (by rw [extend_store_of_error hres]) hd (by simp [Step.Ends, hres])
  | ok pair =>
    obtain ⟨now, c, old, expiry, hr, hv, -, hold, hpair, hkeys⟩ :=
      s.extend_effect hc h.keys (Int.le_refl _) (htexts _ List.mem_cons_self)
        (id_mem_of_extend htexts) (h.notMem hfresh) hres
    have hnow : now.nanos ≤ later.nanos := (Clock.read_eq_ok_iff.1 hr).1 ▸ hl
    have hsub : ((kept.filter now.isBefore).remove c.core.id).Sub kept :=
      (Book.remove_sub _ _).trans (Book.filter_sub _ _)
    obtain ⟨hholds, holdid⟩ := h.eq_some_iff.1 hold
    refine h.install hsub hfresh hkeys hnow hd
      ⟨pair, now, c, old, expiry, hres, hpair, hv, hholds, holdid, rfl⟩ ?_
    rintro r ⟨pair', c', old', expiry', -, hv', hholds', holdid', hi⟩
    rw [hv] at hv'
    cases hv'
    have hold' := h.eq_some_iff.2 ⟨hholds', holdid'⟩
    rw [hold] at hold'
    cases hold'
    exact hi.symm

theorem delete_keeps (hc : CollisionFree texts) (h : Intact texts ids x ⟨clock.nanos⟩ kept)
    (hl : clock.nanos ≤ later.nanos) {id userId : String} (hid : id ∈ texts) :
    ∃ kept', Intact texts (ids ++ []) (s.delete x clock id userId).site later kept' ∧
      Evolves x ⟨clock, .delete s id userId⟩ kept kept' := by
  have hd : (s.delete x clock id userId).site.Durable later := h.durable.perform hl hl _ _ _
  cases hres : (s.delete x clock id userId).outcome.result with
  | error e =>
    exact h.idle [] hl (by rw [delete_store_of_error hres]) hd (by simp [Step.Ends, hres])
  | ok u =>
    obtain ⟨now, r, expiry, hr, -, -, hkeys⟩ := s.delete_effect hc h.keys (Int.le_refl _) hid hres
    have hnow : now.nanos ≤ later.nanos := (Clock.read_eq_ok_iff.1 hr).1 ▸ hl
    refine h.revoke ((Book.remove_sub _ _).trans (Book.filter_sub _ _)) hkeys hnow hd ?_
    rintro id' old expiry' hold ⟨-, rfl⟩
    obtain ⟨rfl, -, -⟩ := h.keys.sound _ _ _ hold
    simp [Book.remove]

theorem deleteUser_keeps (hc : CollisionFree texts) (h : Intact texts ids x ⟨clock.nanos⟩ kept)
    (hl : clock.nanos ≤ later.nanos) {userId : String} (hid : userId ∈ texts) :
    ∃ kept', Intact texts (ids ++ []) (s.deleteUser x clock userId).site later kept' ∧
      Evolves x ⟨clock, .deleteUser s userId⟩ kept kept' := by
  have hd : (s.deleteUser x clock userId).site.Durable later := h.durable.perform hl hl _ _ _
  cases hres : (s.deleteUser x clock userId).outcome.result with
  | error e =>
    exact h.idle [] hl (by rw [deleteUser_store_of_error hres]) hd (by simp [Step.Ends, hres])
  | ok n =>
    obtain ⟨now, hr, hkeys⟩ := s.deleteUser_effect hc h.keys (Int.le_refl _) hid hres
    have hnow : now.nanos ≤ later.nanos := (Clock.read_eq_ok_iff.1 hr).1 ▸ hl
    refine h.revoke ((Book.without_sub _ _).trans (Book.filter_sub _ _)) hkeys hnow hd ?_
    rintro id old expiry hold ⟨n', -, huser⟩
    have hsub := kept.filter_sub now.isBefore
    rw [Option.eq_none_iff_forall_ne_some]
    rintro ⟨r, e⟩ hr
    obtain ⟨hr, hne⟩ := Option.filter_eq_some_iff.1 hr
    have hsame := hsub id _ hr
    rw [hold] at hsame
    cases hsame
    simp [huser] at hne

end Service

namespace Site

theorem close_keeps (h : Intact texts ids x ⟨clock.nanos⟩ kept) (hl : clock.nanos ≤ later.nanos)
    (s : Service) :
    ∃ kept', Intact texts (ids ++ []) (s.close x clock).2.site later kept' ∧
      Evolves x ⟨clock, .close s⟩ kept kept' := by
  have hsite : (s.close x clock).2.site = x ∨ (s.close x clock).2.site = (x.close clock).site := by
    unfold Service.close
    split
    · exact .inl rfl
    · exact .inr rfl
  obtain heq | heq := hsite <;> rw [heq]
  · exact h.idle [] hl rfl (h.durable.mono hl) fun _ he => he
  · exact h.idle [] hl (by rw [entries_close]) (h.durable.close hl hl) fun _ he => he

theorem sweep_keeps (h : Intact texts ids x ⟨clock.nanos⟩ kept) (hl : clock.nanos ≤ later.nanos) :
    ∃ kept', Intact texts (ids ++ []) { x with store := (x.store.tick clock).1 } later kept' ∧
      Evolves x ⟨clock, .sweep⟩ kept kept' := by
  have hheld : (x.store.tick clock).1.entries.held? ⟨clock.nanos⟩ =
      x.store.entries.held? ⟨clock.nanos⟩ :=
    Entries.held?_congr (x.store.live_entries_tick clock)
  exact h.idle [] hl hheld (h.durable.tick hl hl) fun _ he => he

/-- **The next instance holds what the file keeps**, so only marks change, to be rounded down. -/
theorem represents_reopen (h : Intact texts ids x ⟨clock.nanos⟩ kept) {path : String}
    (hmedium : x.store.medium = .file path) {limits : Limits} {store : Store}
    (hopen : (openFile x.files path limits clock).result = .ok store) :
    Represents False texts (store.entries.held? ⟨clock.nanos⟩)
        ((kept.map (Option.map Instant.truncate)).filter (Instant.mk clock.nanos).isBefore) ∧
      (Site.mk store x.files).Durable ⟨clock.nanos⟩ := by
  obtain ⟨now, hr, rfl, hdurable⟩ := h.durable.openFile hmedium (Int.le_refl _) hopen
  obtain rfl := Clock.eq_of_read hr
  have hkeys := (h.keys.map (Option.map Instant.truncate)).filter (Instant.mk clock.nanos).isBefore
  rw [← funext (x.store.entries.held?_truncate (Int.le_refl _)),
    ← funext (x.store.entries.truncate.held?_live ⟨clock.nanos⟩)] at hkeys
  exact ⟨hkeys, hdurable⟩

theorem reopen_keeps (h : Intact texts ids x ⟨clock.nanos⟩ kept) (hl : clock.nanos ≤ later.nanos)
    (limits : Limits) :
    ∃ kept', Intact texts (ids ++ []) (x.reopen clock limits) later kept' ∧
      Evolves x ⟨clock, .reopen limits⟩ kept kept' := by
  have hd := h.durable.mono hl
  unfold reopen
  split
  · exact h.idle [] hl rfl hd fun _ he => he
  · next path hmedium =>
    split
    · next store hopen =>
      obtain ⟨hkeys, hdurable⟩ := represents_reopen h hmedium hopen
      have hback : ∀ id r e, (kept.map (Option.map Instant.truncate)).filter
          (Instant.mk clock.nanos).isBefore id = some (r, e) → ∃ e', kept id = some (r, e') := by
        intro id r e hr'
        obtain ⟨e', hkept, -⟩ := Book.map_eq_some.1 (Book.filter_sub _ _ id _ hr')
        exact ⟨e', hkept⟩
      rw [List.append_nil]
      refine ⟨_, .of_keys hkeys hl ?_ ?_ (hdurable.mono hl), ?_, ?_⟩
      · intro id id' r r' e e' hr' hr'' hi
        obtain ⟨m, hm⟩ := hback id r e hr'
        obtain ⟨m', hm'⟩ := hback id' r' e' hr''
        exact h.distinct id id' r r' m m' hm hm' hi
      · rintro id ⟨r, e⟩ hr'
        obtain ⟨m, hm⟩ := hback id r e hr'
        exact h.known id _ hm
      · intro id r e hr'
        exact .inl (hback id r e (Book.filter_sub _ _ id _ hr'))
      · exact fun _ _ _ _ he => he.elim
    · exact h.idle [] hl rfl hd fun _ he => he

theorem disturb_keeps (h : Intact texts ids x ⟨clock.nanos⟩ kept) (hl : clock.nanos ≤ later.nanos)
    (files : FileTree) :
    ∃ kept', Intact texts (ids ++ []) (x.disturb files) later kept' ∧
      Evolves x ⟨clock, .disturb files⟩ kept kept' := by
  have hheld : (x.disturb files).store.entries.held? = x.store.entries.held? := by
    rw [x.store_disturb files]
  exact h.idle [] hl (congrFun hheld _) ((h.durable.mono hl).disturb files) fun _ he => he

end Site

/-! ## Every step and every run -/

/-- **Every step keeps the invariant.** -/
theorem Intact.step {st : Step} (hc : CollisionFree texts) (h : Intact texts ids x st.instant kept)
    (hl : st.clock.nanos ≤ later.nanos) (htexts : ∀ a ∈ st.texts, a ∈ texts)
    (hfresh : ∀ id ∈ st.action.fresh?, id ∉ ids) :
    ∃ kept', Intact texts (ids ++ st.action.fresh?.toList) (x.step st) later kept' ∧
      Evolves x st kept kept' := by
  obtain ⟨clock, action⟩ := st
  cases action with
  | create s fresh q => exact s.create_keeps hc h hl htexts (hfresh fresh.id rfl)
  | extend s fresh token fingerprint => exact s.extend_keeps hc h hl htexts (hfresh fresh.id rfl)
  | check s token userAgent ip fingerprint =>
    exact h.idle [] hl rfl (h.durable.mono hl) fun _ he => he
  | list s userId => exact h.idle [] hl rfl (h.durable.mono hl) fun _ he => he
  | delete s id userId => exact s.delete_keeps hc h hl (htexts id List.mem_cons_self)
  | deleteUser s userId => exact s.deleteUser_keeps hc h hl (htexts userId List.mem_cons_self)
  | close s => exact Site.close_keeps h hl s
  | sweep => exact Site.sweep_keeps h hl
  | reopen limits => exact Site.reopen_keeps h hl limits
  | disturb files => exact Site.disturb_keeps h hl files

theorem freshIds_append (a b : List Step) : freshIds (a ++ b) = freshIds a ++ freshIds b :=
  List.filterMap_append

theorem freshIds_singleton (st : Step) : freshIds [st] = st.action.fresh?.toList := by
  cases h : st.action.fresh? <;> simp [freshIds, h]

theorem Site.run_concat (x : Site) (past : List Step) (st : Step) :
    x.run (past ++ [st]) = (x.run past).step st := by
  rw [run_append]
  rfl

/-- A store that holds nothing keeps the invariant with the empty book. -/
theorem Site.Vacant.intact (h : x.Vacant) (t : Instant) : Intact texts [] x t Book.empty := by
  have hfind : ∀ k, x.store.entries.find? k = none := by
    intro k
    rw [h.entries]
    rfl
  refine ⟨?_, Book.distinct_empty, nofun, ?_, fun path hpath now hnow => ?_⟩
  · rw [h.entries, Entries.held?_empty]
    exact .empty
  · intro k e he
    rw [hfind] at he
    cases he
  · rw [h.file path hpath, h.entries]
    rfl

namespace Lawful

variable {past future : List Step} {st : Step}

theorem of_append (h : Lawful texts x (past ++ future)) : Lawful texts x past := by
  refine ⟨h.vacant, (List.pairwise_append.1 h.ascending).1, ?_, h.collisionFree, ?_⟩
  · have hf := h.fresh
    rw [freshIds_append] at hf
    exact (List.nodup_append.1 hf).1
  · exact fun st hst => h.hashed st (List.mem_append_left _ hst)

/-- All steps of a run are before its last. -/
theorem before (h : Lawful texts x (past ++ [st])) :
    ∀ st' ∈ past, st'.clock.nanos ≤ st.instant.nanos := fun st' hst' =>
  (List.pairwise_append.1 h.ascending).2.2 st' hst' st List.mem_cons_self

/-- No step of a run is after its last. -/
theorem until_last (h : Lawful texts x (past ++ [st])) :
    ∀ st' ∈ past ++ [st], st'.clock.nanos ≤ st.instant.nanos := by
  rw [List.forall_mem_append]
  exact ⟨h.before, by simp [Step.instant]⟩

/-- What comes after a step of a run is not before it. -/
theorem after (h : Lawful texts x (past ++ [st] ++ future)) :
    ∀ st' ∈ future, st.instant.nanos ≤ st'.clock.nanos :=
  (List.pairwise_append.1 h.ascending).2.2 st (List.mem_append_right _ List.mem_cons_self)

/-- The texts of the last step of a run are hashed. -/
theorem hashed_last (h : Lawful texts x (past ++ [st])) : ∀ a ∈ st.texts, a ∈ texts :=
  h.hashed st (List.mem_append_right _ List.mem_cons_self)

/-- The id that is generated last was not generated before. -/
theorem notMem_freshIds (h : Lawful texts x (past ++ [st])) {id : String}
    (hid : id ∈ st.action.fresh?) : id ∉ freshIds past := by
  intro hmem
  have hf := h.fresh
  rw [freshIds_append, freshIds_singleton] at hf
  exact (List.nodup_append.1 hf).2.2 id hmem id (Option.mem_toList.2 hid) rfl

/-- The last step of a run keeps the invariant. -/
theorem step (h : Lawful texts x (past ++ [st]))
    (hp : Intact texts (freshIds past) (x.run past) st.instant kept)
    (hl : st.clock.nanos ≤ later.nanos) :
    ∃ kept', Intact texts (freshIds (past ++ [st])) (x.run (past ++ [st])) later kept' ∧
      Evolves (x.run past) st kept kept' := by
  rw [Site.run_concat, freshIds_append, freshIds_singleton]
  exact hp.step h.collisionFree hl h.hashed_last fun _ => h.notMem_freshIds

/-- **The invariant holds at every instant of a run from an empty store.** -/
theorem intact {steps : List Step} (h : Lawful texts x steps)
    (ht : ∀ st ∈ steps, st.clock.nanos ≤ t.nanos) :
    ∃ kept, Intact texts (freshIds steps) (x.run steps) t kept := by
  induction steps using List.reverseRecOn generalizing t with
  | nil => exact ⟨_, h.vacant.intact t⟩
  | append_singleton past st ih =>
    obtain ⟨kept, hp⟩ := ih h.of_append h.before
    obtain ⟨kept', hkept', -⟩ := h.step hp (ht st (List.mem_append_right _ List.mem_cons_self))
    exact ⟨kept', hkept'⟩

end Lawful

end SessionTokens
