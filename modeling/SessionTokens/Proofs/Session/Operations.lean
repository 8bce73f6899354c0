import Mathlib.Data.List.Basic
import SessionTokens.Proofs.Session.Book
import SessionTokens.Proofs.Store.Durable
import SessionTokens.Session.Store
/-!
# Operations on a book

A transaction *shows* a book if the keys that it sees represent the book. The operations on sessions
then do to the book what their names say.

**Theorem (`Shows.get`).** Reading an id gives the session of the id.

**Theorem (`Shows.removeIndexed`).** Removing through an index gives exactly the sessions that
belong to the index, each once, and removes them from the book.

**Theorem (`Shows.listUser`).** A listing gives exactly the sessions of the user, each once, by
creation and id.

An index is dealt with by what belongs to it, so that one argument does for identities and users.
-/

namespace SessionTokens

open Session

variable {texts : Set String} {strays : Prop} {t : Txn} {now : Instant} {b : Book Lease}

/-- Whether a transaction sees, at an instant, keys that represent a book. -/
structure Shows (strays : Prop) (texts : Set String) (t : Txn) (now : Instant) (b : Book Lease) :
    Prop where
  read : t.clock.read = .ok now
  keys : Represents strays texts (t.seen? now) b

/-- Whether a list holds exactly the sessions of a book that pass a test, each once. -/
structure Book.Lists {τ : Type} (b : Book τ) (p : Record → Bool) (rs : List Record) : Prop where
  nodup : rs.Nodup
  mem_iff : ∀ r, r ∈ rs ↔ p r = true ∧ ∃ mark, b r.id = some (r, mark)

/-! ## Single sessions -/

/-- **Reading an id gives the session of the id.** -/
theorem Shows.get (hc : CollisionFree texts) (h : Shows strays texts t now b) {id : String}
    (hid : id ∈ texts) : Session.get t id = .ok ((b id).map (·.1)) := by
  unfold Session.get
  rw [Txn.get_eq h.read, h.keys.seen_recordKey hc hid]
  cases hb : b id with
  | none => rfl
  | some s =>
    have hvalid := (h.keys.sound id s.1 s.2 hb).2.2
    simp [bind, Except.bind, readOptional, readRecord, Record.decode?_encode hvalid, Except.map]

theorem seen?_insert (t : Txn) (r : Record) (ttl : Duration) (now : Instant) (k : Bytes) :
    (Session.insert t r ttl).seen? now k =
      if k = userKey r.userId r.id then some (Text.utf8 r.id, .awaiting (some ttl))
      else if k = identityKey r.identity r.id then some (Text.utf8 r.id, .awaiting (some ttl))
      else if k = recordKey r.id then some (r.encode, .awaiting (some ttl))
      else t.seen? now k := by
  simp [Session.insert, Txn.set, Write.seen?]

theorem seen?_remove (t : Txn) (r : Record) (now : Instant) (k : Bytes) :
    (Session.remove t r).seen? now k =
      if k = userKey r.userId r.id then none
      else if k = identityKey r.identity r.id then none
      else if k = recordKey r.id then none
      else t.seen? now k := by
  simp [Session.remove, Txn.delete, Write.seen?]

theorem forall_notMem_bindings {r : Record} {k : Bytes} (h : ∀ v, (k, v) ∉ r.bindings) :
    k ≠ recordKey r.id ∧ k ≠ identityKey r.identity r.id ∧ k ≠ userKey r.userId r.id := by
  refine ⟨?_, ?_, ?_⟩ <;> rintro rfl
  · exact h r.encode (by simp [Record.bindings])
  · exact h (Text.utf8 r.id) (by simp [Record.bindings])
  · exact h (Text.utf8 r.id) (by simp [Record.bindings])

/-- **Inserting a session puts it into the book.** -/
theorem Shows.insert (hc : CollisionFree texts) (h : Shows strays texts t now b) {r : Record}
    (hw : r.Within texts) (hv : r.createdAt.Valid)
    (hroom : Represents.Room (t.seen? now) b r) (ttl : Duration) :
    Shows strays texts (Session.insert t r ttl) now (b.set r (.awaiting (some ttl))) := by
  refine ⟨h.read, h.keys.set hc hw hv hroom ?_ fun k hk => ?_⟩
  · have h1 : recordKey r.id ≠ identityKey r.identity r.id := recordKey_ne_identity _ _ _
    have h2 : recordKey r.id ≠ userKey r.userId r.id := recordKey_ne_user _ _ _
    have h3 : identityKey r.identity r.id ≠ userKey r.userId r.id := identity_ne_user _ _ _ _
    simp only [Record.bindings, List.forall_mem_cons, List.not_mem_nil, false_implies,
      implies_true, and_true, seen?_insert]
    refine ⟨?_, ?_, ?_⟩ <;> simp [h1, h2, h3]
  · obtain ⟨h1, h2, h3⟩ := forall_notMem_bindings hk
    rw [seen?_insert, if_neg h3, if_neg h2, if_neg h1]

/-- Without stray keys there is room for a session whose id has none. -/
theorem Shows.room (hc : CollisionFree texts) (h : Shows False texts t now b) {r : Record}
    (hid : r.id ∈ texts) (hb : b r.id = none) : Represents.Room (t.seen? now) b r :=
  .inl fun _ hk => h.keys.seen_eq_none hc hid hb hk

/-- **Removing a session takes it out of the book.** -/
theorem Shows.remove (hc : CollisionFree texts) (h : Shows strays texts t now b) {r : Record}
    {lease : Lease} (hr : b r.id = some (r, lease)) :
    Shows strays texts (Session.remove t r) now (b.remove r.id) := by
  refine ⟨h.read, h.keys.remove hc hr ?_ fun k hk => ?_⟩
  · simp only [Record.bindings, List.forall_mem_cons, List.not_mem_nil, false_implies,
      implies_true, and_true, seen?_remove]
    refine ⟨?_, ?_, ?_⟩ <;> simp
  · obtain ⟨h1, h2, h3⟩ := forall_notMem_bindings hk
    rw [seen?_remove, if_neg h3, if_neg h2, if_neg h1]

/-- **Deleting an id gives its session and takes it out of the book.** -/
theorem Shows.delete (hc : CollisionFree texts) (h : Shows strays texts t now b) {id : String}
    (hid : id ∈ texts) :
    ∃ t', Session.delete t id = .ok (t', (b id).map (·.1)) ∧ t'.entries = t.entries ∧
      Shows strays texts t' now (b.remove id) := by
  unfold Session.delete
  rw [h.get hc hid]
  cases hb : b id with
  | none =>
    refine ⟨t, rfl, rfl, ?_⟩
    have heq : b.remove id = b := by
      funext id'
      by_cases hid' : id' = id <;> simp [Book.remove, hid', hb]
    rw [heq]
    exact h
  | some s =>
    obtain ⟨r, lease⟩ := s
    obtain ⟨rfl, -, -⟩ := h.keys.sound id r lease hb
    exact ⟨Session.remove t r, rfl, rfl, h.remove hc hb⟩

/-! ## Indices -/

/-- Whether the keys with a common beginning are an index of the records that pass a test: each of
those has one key there, which is made from its id and holds it. -/
structure IsIndex (texts : Set String) (start : Bytes) (belongs : Record → Bool) : Prop where
  isKeyOf : ∀ id, IsKeyOf id (start ++ component id)
  binding : ∀ r, belongs r = true → (start ++ component r.id, Text.utf8 r.id) ∈ r.bindings
  only : ∀ r, r.Within texts → ∀ k v, (k, v) ∈ r.bindings → start <+: k →
    belongs r = true ∧ k = start ++ component r.id ∧ v = Text.utf8 r.id
  stray : ∀ id k, ((∃ i, i.Within texts ∧ k = identityKey i id) ∨ ∃ u ∈ texts, k = userKey u id) →
    start <+: k → k = start ++ component id

/-- **The keys of a scope are an index of the records that belong to it**, unless it is that of all
sessions. -/
theorem Session.Scope.isIndex (hc : CollisionFree texts) {c : Scope} (hcw : c.Within texts)
    (hall : c ≠ .all) {belongs : Record → Bool}
    (hbelongs : ∀ r, belongs r = true ↔ c = .identity r.identity ∨ c = .user r.userId) :
    IsIndex texts c.start belongs where
  isKeyOf id := by
    rw [← Scope.key_eq]
    cases c with
    | all => exact absurd rfl hall
    | identity i => exact .inr (.inl ⟨i, rfl⟩)
    | user u => exact .inr (.inr ⟨u, rfl⟩)
  binding r hr := by
    rw [← Scope.key_eq]
    obtain rfl | rfl := (hbelongs r).1 hr <;> simp [Record.bindings, Scope.key]
  only r hw k v hk hp := by
    obtain ⟨rest, rfl⟩ := hp
    simp only [Record.bindings, List.mem_cons, Prod.mk.injEq, List.not_mem_nil, or_false] at hk
    obtain ⟨hk, -⟩ | ⟨hk, rfl⟩ | ⟨hk, rfl⟩ := hk
    · exact absurd (Scope.start_append_inj (d := .all) hc hcw trivial hk).1 hall
    · obtain ⟨hscope, rfl⟩ :=
        Scope.start_append_inj (d := .identity r.identity) hc hcw hw.identity hk
      exact ⟨(hbelongs r).2 (.inl hscope), rfl, rfl⟩
    · obtain ⟨hscope, rfl⟩ := Scope.start_append_inj (d := .user r.userId) hc hcw hw.userId hk
      exact ⟨(hbelongs r).2 (.inr hscope), rfl, rfl⟩
  stray id k hk hp := by
    obtain ⟨rest, rfl⟩ := hp
    obtain ⟨j, hj, hk⟩ | ⟨v, hv, hk⟩ := hk
    · rw [(Scope.start_append_inj (d := .identity j) hc hcw hj hk).2]
    · rw [(Scope.start_append_inj (d := .user v) hc hcw hv hk).2]

theorem isIndex_identity (hc : CollisionFree texts) {i : Identity} (hi : i.Within texts) :
    IsIndex texts (identityStart i) fun r => r.identity = i :=
  Scope.isIndex (c := .identity i) hc hi nofun fun r => by simp [eq_comm]

theorem isIndex_user (hc : CollisionFree texts) {u : String} (hu : u ∈ texts) :
    IsIndex texts (userStart u) fun r => r.userId = u :=
  Scope.isIndex (c := .user u) hc hu nofun fun r => by simp [eq_comm]

/-- What a scan of an index finds: ids of sessions that belong to it, each under its key, and
perhaps ids that have no session. -/
structure Found (texts : Set String) (b : Book Lease) (start : Bytes) (belongs : Record → Bool)
    (found : List (Bytes × String)) : Prop where
  nodup : (found.map (·.2)).Nodup
  key : ∀ p ∈ found, p.2 ∈ texts ∧ p.1 = start ++ component p.2
  sound : ∀ p ∈ found, ∀ r lease, b p.2 = some (r, lease) → belongs r = true
  complete : ∀ r lease, b r.id = some (r, lease) → belongs r = true → r.id ∈ found.map (·.2)

variable {start : Bytes} {belongs : Record → Bool}

/-- A key that is seen in an index holds the id that it is made from. -/
theorem Represents.of_index {τ : Type} {seen : Bytes → Option (Bytes × τ)} {b : Book τ}
    (h : Represents strays texts seen b) (hix : IsIndex texts start belongs) {k v : Bytes}
    {mark : τ} (hs : seen k = some (v, mark)) (hp : start <+: k) :
    ∃ id ∈ texts, k = start ++ component id ∧ v = Text.utf8 id ∧
      ∀ r mark', b id = some (r, mark') → belongs r = true := by
  obtain ⟨r, hr, hmem⟩ | ⟨-, id, hid, hnone, rfl, hkey⟩ := h.only k v mark hs
  · obtain ⟨-, hw, -⟩ := h.sound _ r mark hr
    obtain ⟨hbelongs, rfl, rfl⟩ := hix.only r hw k v hmem hp
    refine ⟨r.id, hw.id, rfl, rfl, fun r' mark' hr' => ?_⟩
    rw [hr] at hr'
    cases hr'
    exact hbelongs
  · refine ⟨id, hid, hix.stray id k hkey hp, rfl, fun r mark' hr => ?_⟩
    rw [hnone] at hr
    cases hr

/-- **A scan of an index finds the ids of all sessions that belong to it.** -/
theorem Shows.index (h : Shows strays texts t now b) (hix : IsIndex texts start belongs) :
    ∃ found, Session.index t start = .ok found ∧ Found texts b start belongs found := by
  obtain ⟨ps, hps, hsorted, hmem⟩ := Txn.beginning_eq h.read start
  have hof : ∀ p ∈ ps, ∃ id ∈ texts, p.1 = start ++ component id ∧ p.2 = Text.utf8 id ∧
      ∀ r lease, b id = some (r, lease) → belongs r = true := by
    intro p hp
    obtain ⟨hpre, lease, hseen⟩ := (hmem p.1 p.2).1 hp
    exact h.keys.of_index hix hseen hpre
  refine ⟨indexIds ps, ?_, ?_, fun q hq => ?_, fun q hq r lease hr => ?_, fun r lease hr hb => ?_⟩
  · rw [Session.index, hps]
    rfl
  · -- Different keys of an index are made from different ids.
    rw [indexIds, List.map_map, List.nodup_iff_pairwise_ne, List.pairwise_map]
    refine hsorted.imp_of_mem fun {p q} hp hq hlt heq => ?_
    obtain ⟨a, -, hka, hva, -⟩ := hof p hp
    obtain ⟨c, -, hkc, hvc, -⟩ := hof q hq
    simp only [Function.comp_apply, hva, hvc, Text.lossy_utf8] at heq
    rw [hka, hkc, heq] at hlt
    exact KeyMap.lt_irrefl _ hlt
  · obtain ⟨p, hp, rfl⟩ := List.mem_map.1 hq
    obtain ⟨id, hid, hk, hv, -⟩ := hof p hp
    simp only [hv, Text.lossy_utf8]
    exact ⟨hid, hk⟩
  · obtain ⟨p, hp, rfl⟩ := List.mem_map.1 hq
    obtain ⟨id, -, -, hv, hbelongs⟩ := hof p hp
    simp only [hv, Text.lossy_utf8] at hr
    exact hbelongs r lease hr
  · have hseen := h.keys.present _ r lease hr _ (hix.binding r hb)
    have hp := (hmem _ _).2 ⟨List.prefix_append start (component r.id), lease, hseen⟩
    refine List.mem_map.2 ⟨_, List.mem_map.2 ⟨_, hp, rfl⟩, ?_⟩
    exact Text.lossy_utf8 r.id

/-! ## Removal through an index -/

theorem Book.removeAll_cons_of_none {τ : Type} {b : Book τ} {id : String} (h : b id = none)
    (ids : List String) : b.removeAll (id :: ids) = b.removeAll ids := by
  funext id'
  by_cases hid : id' = id
  · subst hid
    simp [Book.removeAll, h]
  · simp [Book.removeAll, hid]

theorem Book.removeAll_cons {τ : Type} (b : Book τ) (id : String) (ids : List String) :
    b.removeAll (id :: ids) = (b.remove id).removeAll ids := by
  funext id'
  by_cases hid : id' = id
  · subst hid
    simp [Book.removeAll, Book.remove]
  · simp [Book.removeAll, Book.remove, hid]

/-- Deleting a key of an id that has no session takes nothing out of the book. -/
theorem Shows.delete_stray (hc : CollisionFree texts) (h : Shows strays texts t now b)
    {id : String} (hid : id ∈ texts) (hb : b id = none) {key : Bytes} (hkey : IsKeyOf id key) :
    Shows strays texts (t.delete key) now b := by
  refine ⟨h.read, h.keys.drop key (fun r lease hr v hmem => ?_) ?_ fun k hk => ?_⟩
  · have hw := (h.keys.sound _ r lease hr).2.1
    have heq := (isKeyOf_of_mem_bindings hmem).inj hc hw.id hid hkey
    rw [heq, hb] at hr
    cases hr
  · simp [Txn.delete, Write.seen?]
  · simp [Txn.delete, hk]

/-- **The ids that an index leads to lose their sessions**, one after the other. -/
theorem Shows.removeEach (hc : CollisionFree texts) (h : Shows strays texts t now b)
    (hix : IsIndex texts start belongs) {found : List (Bytes × String)}
    (hnodup : (found.map (·.2)).Nodup)
    (hkey : ∀ p ∈ found, p.2 ∈ texts ∧ p.1 = start ++ component p.2) :
    ∃ t', Session.removeEach t found = (t', .ok (found.filterMap fun p => (b p.2).map (·.1))) ∧
      t'.entries = t.entries ∧ Shows strays texts t' now (b.removeAll (found.map (·.2))) := by
  induction found generalizing t b with
  | nil =>
    refine ⟨t, rfl, rfl, ?_⟩
    have heq : b.removeAll [] = b := by
      funext id
      simp [Book.removeAll]
    rw [List.map_nil, heq]
    exact h
  | cons p rest ih =>
    obtain ⟨key, id⟩ := p
    rw [List.map_cons, List.nodup_cons] at hnodup
    rw [List.forall_mem_cons] at hkey
    dsimp only at hkey
    obtain ⟨⟨hid, rfl⟩, hrest⟩ := hkey
    unfold Session.removeEach
    rw [h.get hc hid, List.map_cons]
    cases hb : b id with
    | none =>
      have hdrop := h.delete_stray hc hid hb (hix.isKeyOf id)
      obtain ⟨t', heq, hentries, hshows⟩ := ih hdrop hnodup.2 hrest
      refine ⟨t', ?_, hentries, ?_⟩
      · simp only [Option.map_none, heq, List.filterMap_cons, hb]
      · rw [Book.removeAll_cons_of_none hb]
        exact hshows
    | some s =>
      obtain ⟨r, lease⟩ := s
      obtain ⟨rfl, -, -⟩ := h.keys.sound id r lease hb
      obtain ⟨t', heq, hentries, hshows⟩ := ih (h.remove hc hb) hnodup.2 hrest
      -- The ids that come later are others, so their sessions are still there.
      have hsame : (rest.filterMap fun p => (b.remove r.id p.2).map (·.1)) =
          rest.filterMap fun p => (b p.2).map (·.1) := by
        refine List.filterMap_congr fun p hp => ?_
        have hne : p.2 ≠ r.id := fun h' => hnodup.1 (List.mem_map.2 ⟨p, hp, h'⟩)
        simp [Book.remove, hne]
      refine ⟨t', ?_, hentries, ?_⟩
      · simp only [Option.map_some, heq, List.filterMap_cons, hb, hsame]
        rfl
      · rw [Book.removeAll_cons]
        exact hshows

/-- The sessions that found ids lead to are exactly those that belong to the index. -/
theorem Found.lists {found : List (Bytes × String)} (h : Found texts b start belongs found)
    (hsound : ∀ id r lease, b id = some (r, lease) → r.id = id) :
    b.Lists belongs (found.filterMap fun p => (b p.2).map (·.1)) := by
  refine ⟨?_, fun r => ?_⟩
  · rw [List.nodup_iff_pairwise_ne, List.pairwise_filterMap]
    have hids := h.nodup
    rw [List.nodup_iff_pairwise_ne, List.pairwise_map] at hids
    refine hids.imp fun {p q} hne r hr r' hr' heq => hne ?_
    obtain ⟨⟨r₁, l₁⟩, hb₁, rfl⟩ := Option.map_eq_some_iff.1 hr
    obtain ⟨⟨r₂, l₂⟩, hb₂, rfl⟩ := Option.map_eq_some_iff.1 hr'
    rw [← hsound _ _ _ hb₁, ← hsound _ _ _ hb₂]
    exact congrArg Record.id heq
  · rw [List.mem_filterMap]
    constructor
    · rintro ⟨p, hp, hr⟩
      obtain ⟨⟨r', lease⟩, hb, rfl⟩ := Option.map_eq_some_iff.1 hr
      refine ⟨h.sound p hp r' lease hb, lease, ?_⟩
      rw [hsound _ _ _ hb]
      exact hb
    · rintro ⟨hbelongs, lease, hr⟩
      obtain ⟨p, hp, hid⟩ := List.mem_map.1 (h.complete r lease hr hbelongs)
      refine ⟨p, hp, ?_⟩
      rw [hid, hr]
      rfl

theorem Found.removeAll {found : List (Bytes × String)} (h : Found texts b start belongs found)
    (hsound : ∀ id r lease, b id = some (r, lease) → r.id = id) :
    b.removeAll (found.map (·.2)) = b.without belongs := by
  funext id
  unfold Book.removeAll Book.without
  cases hb : b id with
  | none => simp
  | some s =>
    obtain ⟨r, lease⟩ := s
    obtain rfl := hsound id r lease hb
    by_cases hmem : r.id ∈ found.map (·.2)
    · obtain ⟨p, hp, hid⟩ := List.mem_map.1 hmem
      have hbelongs := h.sound p hp r lease (hid ▸ hb)
      rw [if_pos hmem]
      simp [Option.filter_some, hbelongs]
    · have hbelongs : belongs r = false := by
        rw [← Bool.not_eq_true]
        exact fun hb' => hmem (h.complete r lease hb hb')
      rw [if_neg hmem]
      simp [Option.filter_some, hbelongs]

/-- **Removal through an index gives exactly the sessions that belong to it and takes them out of
the book.** -/
theorem Shows.removeIndexed (hc : CollisionFree texts) (h : Shows strays texts t now b)
    (hix : IsIndex texts start belongs) :
    ∃ t' rs, Session.removeIndexed t start = (t', .ok rs) ∧ b.Lists belongs rs ∧
      t'.entries = t.entries ∧ Shows strays texts t' now (b.without belongs) := by
  obtain ⟨found, hindex, hfound⟩ := h.index hix
  obtain ⟨t', heq, hentries, hshows⟩ := h.removeEach hc hix hfound.nodup hfound.key
  have hsound : ∀ id r lease, b id = some (r, lease) → r.id = id := fun id r lease hr =>
    (h.keys.sound id r lease hr).1
  refine ⟨t', _, ?_, hfound.lists hsound, hentries, ?_⟩
  · rw [Session.removeIndexed, hindex]
    exact heq
  · rw [← hfound.removeAll hsound]
    exact hshows

/-- Evicting an identity removes exactly its sessions. -/
theorem Shows.evict (hc : CollisionFree texts) (h : Shows strays texts t now b) {i : Identity}
    (hi : i.Within texts) :
    ∃ rs, (Session.evict t i).2.result = .ok rs ∧ b.Lists (fun r => r.identity = i) rs ∧
      (Session.evict t i).1.entries = t.entries ∧
      Shows strays texts (Session.evict t i).1 now (b.without fun r => r.identity = i) := by
  obtain ⟨t', rs, heq, hlists, hentries, hshows⟩ := h.removeIndexed hc (isIndex_identity hc hi)
  refine ⟨rs, ?_, hlists, ?_, ?_⟩
  · rw [Session.evict, heq]
    cases rs <;> rfl
  · rw [Session.evict, heq]
    exact hentries
  · rw [Session.evict, heq]
    exact hshows

/-- Removing a user removes exactly the user's sessions. -/
theorem Shows.removeUser (hc : CollisionFree texts) (h : Shows strays texts t now b) {u : String}
    (hu : u ∈ texts) :
    ∃ rs, (Session.removeUser t u).2.result = .ok rs ∧ b.Lists (fun r => r.userId = u) rs ∧
      (Session.removeUser t u).1.entries = t.entries ∧
      Shows strays texts (Session.removeUser t u).1 now (b.without fun r => r.userId = u) := by
  obtain ⟨t', rs, heq, hlists, hentries, hshows⟩ := h.removeIndexed hc (isIndex_user hc hu)
  refine ⟨rs, ?_, hlists, ?_, ?_⟩
  · rw [Session.removeUser, heq]
    rfl
  · rw [Session.removeUser, heq]
    exact hentries
  · rw [Session.removeUser, heq]
    exact hshows

/-! ## Listings -/

theorem Timestamp.before_iff {a b : Timestamp} :
    a.before b = true ↔ a.seconds < b.seconds ∨ (a.seconds = b.seconds ∧ a.nanos < b.nanos) := by
  simp [Timestamp.before]

theorem Record.notAfter_iff {a b : Record} :
    a.notAfter b = true ↔ a.createdAt.before b.createdAt = true ∨
      (¬b.createdAt.before a.createdAt = true ∧ ¬b.id.toList < a.id.toList) := by
  simp only [Record.notAfter, Bool.or_eq_true, Bool.and_eq_true, Bool.not_eq_true',
    decide_eq_false_iff_not, Bool.not_eq_true]

theorem Record.notAfter_total (a b : Record) : (a.notAfter b || b.notAfter a) = true := by
  rw [Bool.or_eq_true, Record.notAfter_iff, Record.notAfter_iff]
  by_cases hab : a.createdAt.before b.createdAt = true
  · exact .inl (.inl hab)
  by_cases hba : b.createdAt.before a.createdAt = true
  · exact .inr (.inl hba)
  · obtain h | h := List.le_total a.id.toList b.id.toList
    · exact .inl (.inr ⟨hba, List.not_lt.2 h⟩)
    · exact .inr (.inr ⟨hab, List.not_lt.2 h⟩)

theorem Record.notAfter_trans {a b c : Record} (hab : a.notAfter b = true)
    (hbc : b.notAfter c = true) : a.notAfter c = true := by
  rw [Record.notAfter_iff] at hab hbc ⊢
  simp only [Timestamp.before_iff] at hab hbc ⊢
  obtain hab | ⟨hab, hab'⟩ := hab
  · obtain hbc | ⟨hbc, -⟩ := hbc
    · exact .inl (by omega)
    · exact .inl (by omega)
  · obtain hbc | ⟨hbc, hbc'⟩ := hbc
    · exact .inl (by omega)
    · have hle := List.le_trans (List.not_lt.1 hab') (List.not_lt.1 hbc')
      exact .inr ⟨by omega, List.not_lt.2 hle⟩

/-- Whether a list is in the order of listings. -/
def Record.InOrder (rs : List Record) : Prop := rs.Pairwise fun a b => a.notAfter b = true

theorem Record.inOrder_sorted (rs : List Record) : Record.InOrder (Record.sorted rs) :=
  List.pairwise_mergeSort (fun a b c => @Record.notAfter_trans a b c) Record.notAfter_total rs

theorem Book.Lists.sorted {τ : Type} {b : Book τ} {p : Record → Bool} {rs : List Record}
    (h : b.Lists p rs) : b.Lists p (Record.sorted rs) := by
  have hperm := List.mergeSort_perm rs Record.notAfter
  exact ⟨hperm.nodup_iff.2 h.nodup, fun r => by rw [← h.mem_iff r]; exact hperm.mem_iff⟩

theorem collect_eq {get : String → Outcome (Option Record)} {ids : List String}
    {b : Book Lease} (h : ∀ id ∈ ids, get id = .ok ((b id).map (·.1))) :
    collect get ids = .ok (ids.filterMap fun id => (b id).map (·.1)) := by
  induction ids with
  | nil => rfl
  | cons id ids ih =>
    rw [List.forall_mem_cons] at h
    rw [collect, h.1, ih h.2]
    cases hb : b id <;> simp [bind, Except.bind, pure, Except.pure, hb]

/-- **A listing gives exactly the sessions of the user, in their order.** -/
theorem Shows.listUser (hc : CollisionFree texts) (h : Shows strays texts t now b) {u : String}
    (hu : u ∈ texts) :
    ∃ rs, Session.listUser t u = .ok rs ∧ b.Lists (fun r => r.userId = u) rs ∧
      Record.InOrder rs := by
  obtain ⟨found, hindex, hfound⟩ := h.index (isIndex_user hc hu)
  have hids : ∀ id ∈ found.map (·.2), Session.get t id = .ok ((b id).map (·.1)) := by
    intro id hid
    obtain ⟨p, hp, rfl⟩ := List.mem_map.1 hid
    exact h.get hc (hfound.key p hp).1
  refine ⟨_, ?_, (hfound.lists fun id r lease hr => (h.keys.sound id r lease hr).1).sorted,
    Record.inOrder_sorted _⟩
  rw [Session.listUser, hindex]
  simp only [bind, Except.bind, collect_eq hids, List.filterMap_map]
  rfl

/-! ## Reading outside of a transaction -/

/-- Outside of a transaction a store is read as by a transaction without writes. -/
def Store.reader (s : Store) (clock : Clock) : Txn := ⟨s.entries, clock, ∅⟩

theorem find_eq_get {s : Store} {clock : Clock} (hopen : s.isClosed = false)
    (hr : clock.read = .ok now) (id : String) :
    Session.find s clock id = Session.get (s.reader clock) id := by
  unfold Session.find Session.get Store.get
  rw [Store.readingTime_of_read hopen hr, Txn.get_of_read hr]
  rfl

theorem beginning_eq_reader {s : Store} {clock : Clock} (hopen : s.isClosed = false)
    (hr : clock.read = .ok now) (start : Bytes) :
    s.beginning clock start = Halt.ofAbort ((s.reader clock).beginning start) := by
  unfold Store.beginning Store.range Txn.beginning
  rw [Store.readingTime_of_read hopen hr, Bounds.isRange_ofPrefix]
  simp only [Store.reader, hr, Bool.not_true, Bool.and_false]
  rfl

theorem ofUser_eq_listUser {s : Store} {clock : Clock} (hopen : s.isClosed = false)
    (hr : clock.read = .ok now) (u : String) :
    (Session.ofUser s clock u).result = Session.listUser (s.reader clock) u := by
  have hget : Session.find s clock = Session.get (s.reader clock) :=
    funext (find_eq_get hopen hr)
  unfold Session.ofUser Session.listUser Session.index
  rw [hget, beginning_eq_reader hopen hr]
  simp only [Traced.result_bind, Traced.result_enter, Traced.result_liftM, Traced.result_pure]
  cases Txn.beginning (s.reader clock) (userStart u) <;> rfl

/-- Outside of a transaction a store shows what it holds. -/
theorem Represents.shows_reader {s : Store} {clock : Clock} {kept : Book (Option Instant)}
    (h : Represents strays texts (s.entries.held? now) kept) (hr : clock.read = .ok now) :
    Shows strays texts (s.reader clock) now (kept.map Lease.upTo) :=
  ⟨hr, h.map Lease.upTo⟩

theorem Book.Lists.of_map {τ σ : Type} {b : Book τ} {g : τ → σ} {p : Record → Bool}
    {rs : List Record} (h : (b.map g).Lists p rs) : b.Lists p rs := by
  refine ⟨h.nodup, fun r => ?_⟩
  rw [h.mem_iff r]
  simp [Book.map]

theorem get_of_read_error {s : Store} {clock : Clock} {cause : Abort}
    (h : clock.read = .error cause) (id : String) :
    Session.get (s.reader clock) id = .error (.aborted cause) := by
  have hget : (s.reader clock).get (recordKey id) = .error cause := by
    show clock.read.bind _ = _
    rw [h]
    rfl
  rw [Session.get, hget]
  rfl

theorem read_of_get {s : Store} {clock : Clock} {id : String} {r? : Option Record}
    (h : Session.get (s.reader clock) id = .ok r?) : ∃ now, clock.read = .ok now := by
  cases hr : clock.read with
  | ok now => exact ⟨now, rfl⟩
  | error cause =>
    rw [get_of_read_error hr] at h
    cases h

theorem find_of_error {s : Store} {clock : Clock} {h : Halt StorageError}
    (he : s.readingTime clock = .error h) (id : String) : Session.find s clock id = .error h := by
  rw [Session.find, Store.get, he]
  rfl

theorem ofUser_of_error {s : Store} {clock : Clock} {h : Halt StorageError}
    (he : s.readingTime clock = .error h) (u : String) :
    (Session.ofUser s clock u).result = .error h := by
  have hscan : s.beginning clock (userStart u) = .error h := by
    rw [Store.beginning, Store.range, he]
    rfl
  simp [Session.ofUser, hscan, Except.bind]

theorem find_of_isClosed {s : Store} {clock : Clock} (h : s.isClosed = true) (id : String) :
    Session.find s clock id = .error (.failed .closed) :=
  find_of_error (Store.readingTime_of_isClosed h clock) id

theorem open_of_find {s : Store} {clock : Clock} {id : String} {r? : Option Record}
    (h : Session.find s clock id = .ok r?) :
    s.isClosed = false ∧ ∃ now, clock.read = .ok now := by
  cases hr : s.readingTime clock with
  | error e =>
    rw [find_of_error hr] at h
    cases h
  | ok now => exact ⟨(Store.readingTime_eq_ok hr).1, now, (Store.readingTime_eq_ok hr).2⟩

theorem removeUser_of_read_error {s : Store} {clock : Clock} {cause : Abort}
    (h : clock.read = .error cause) (u : String) :
    (Session.removeUser (s.reader clock) u).2.result = .error (.aborted cause) := by
  have hscan : (s.reader clock).beginning (userStart u) = .error cause := by
    show clock.read.bind _ = _
    rw [h]
    rfl
  rw [Session.removeUser, Session.removeIndexed, Session.index, hscan]
  rfl

theorem read_of_removeUser {s : Store} {clock : Clock} {u : String} {rs : List Record}
    (h : (Session.removeUser (s.reader clock) u).2.result = .ok rs) :
    ∃ now, clock.read = .ok now := by
  cases hr : clock.read with
  | ok now => exact ⟨now, rfl⟩
  | error cause =>
    rw [removeUser_of_read_error hr] at h
    cases h

/-! ## Commits -/

/-- **After a commit the keys represent what the transaction showed**, without what lapses at
once. -/
theorem Represents.commit {x : Site} {clock : Clock} {tx : Txn} (hr : clock.read = .ok now)
    (h : Represents strays texts (tx.seen? now) b) (hentries : tx.entries = x.store.entries)
    (hok : (x.apply clock tx.pending).outcome.result = .ok ()) :
    Represents strays texts ((x.apply clock tx.pending).site.store.entries.held? now)
      ((b.map (Lease.settle now)).filter now.isBefore) := by
  rw [Site.entries_apply_of_ok hr hok, ← hentries, funext (Txn.held?_apply tx now)]
  exact (h.map (Lease.settle now)).filter now.isBefore

end SessionTokens
