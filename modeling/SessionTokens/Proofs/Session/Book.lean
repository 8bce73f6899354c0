import SessionTokens.Proofs.Session.Codec
import SessionTokens.Proofs.Session.Families
/-!
# Books of sessions

A *book* is the map that the three families of keys stand for: sessions under their ids, each with
a mark that says how long it is kept. The keys *represent* a book if every session of it has its
three keys, all with its mark, and no other key is there. Where stray keys are allowed, a key of an
index may also hold the id of a session that is not in the book.

**Theorems (`Represents.set`, `remove`, `drop`, `filter`, `map`).** Writing the three keys of a
session, deleting them, deleting a stray key, the passing of time and a change of all marks turn
keys that represent a book into keys that represent the book so changed.
-/

namespace SessionTokens

open Session

/-- Sessions under their ids, each with a mark. -/
abbrev Book (τ : Type) := String → Option (Record × τ)

namespace Book

variable {τ σ : Type}

/-- The book without sessions. -/
def empty : Book τ := fun _ => none

/-- The book with a session under its id. -/
def set (b : Book τ) (r : Record) (mark : τ) : Book τ :=
  fun id => if id = r.id then some (r, mark) else b id

/-- The book without the session of an id. -/
def remove (b : Book τ) (id : String) : Book τ := fun id' => if id' = id then none else b id'

/-- The book without the sessions of some ids. -/
def removeAll (b : Book τ) (ids : List String) : Book τ := fun id => if id ∈ ids then none else b id

/-- The book without the sessions that pass a test. -/
def without (b : Book τ) (p : Record → Bool) : Book τ := fun id => (b id).filter fun s => !p s.1

/-- The sessions whose marks pass a test. -/
def filter (keep : τ → Bool) (b : Book τ) : Book τ := fun id => (b id).filter fun s => keep s.2

/-- The book with its marks replaced by their images. -/
def map (g : τ → σ) (b : Book τ) : Book σ := fun id => (b id).map fun s => (s.1, g s.2)

/-- The book with a session in place of all sessions of its identity. -/
def install (b : Book τ) (r : Record) (mark : τ) : Book τ :=
  (b.without fun o => o.identity = r.identity).set r mark

theorem filter_filter {b : Book τ} {p q : τ → Bool} (h : ∀ m, q m = true → p m = true) :
    (b.filter p).filter q = b.filter q := by
  funext id
  simp only [filter, Option.filter_filter]
  congr 1
  funext s
  cases hq : q s.2
  · simp
  · simp [h _ hq]

theorem set_filter (b : Book τ) (keep : τ → Bool) (r : Record) {m : τ} (h : keep m = true) :
    (b.set r m).filter keep = (b.filter keep).set r m := by
  funext id
  by_cases hid : id = r.id <;> simp [set, filter, hid, h, Option.filter_some]

theorem remove_filter (b : Book τ) (keep : τ → Bool) (id : String) :
    (b.remove id).filter keep = (b.filter keep).remove id := by
  funext id'
  by_cases hid : id' = id <;> simp [remove, filter, hid]

theorem without_filter (b : Book τ) (keep : τ → Bool) (p : Record → Bool) :
    (b.without p).filter keep = (b.filter keep).without p := by
  funext id
  simp only [without, filter, Option.filter_filter]
  congr 1
  funext s
  rw [Bool.and_comm]

theorem map_filter (b : Book τ) (g : τ → σ) (keep : σ → Bool) :
    (b.map g).filter keep = (b.filter fun m => keep (g m)).map g :=
  funext fun _ => Option.filter_map

theorem map_without (b : Book τ) (g : τ → σ) (p : Record → Bool) :
    (b.map g).without p = (b.without p).map g :=
  funext fun _ => Option.filter_map

theorem map_remove (b : Book τ) (g : τ → σ) (id : String) :
    (b.map g).remove id = (b.remove id).map g := by
  funext id'
  by_cases hid : id' = id <;> simp [remove, map, hid]

theorem set_map (b : Book τ) (g : τ → σ) (r : Record) (m : τ) :
    (b.set r m).map g = (b.map g).set r (g m) := by
  funext id
  by_cases hid : id = r.id <;> simp [set, map, hid]

theorem map_eq_some {b : Book τ} {g : τ → σ} {id : String} {r : Record} {m : σ} :
    b.map g id = some (r, m) ↔ ∃ m', b id = some (r, m') ∧ g m' = m := by
  simp [map, Option.map_eq_some_iff]

theorem map_map_of_inverse {b : Book τ} {f : τ → σ} {g : σ → τ} (h : ∀ m, g (f m) = m) :
    (b.map f).map g = b := by
  funext id
  simp [map, Function.comp_def, h]

end Book

namespace Record

/-- The keys of a record with the values that they hold. -/
def bindings (r : Record) : List (Bytes × Bytes) :=
  [(recordKey r.id, r.encode), (identityKey r.identity r.id, Text.utf8 r.id),
   (userKey r.userId r.id, Text.utf8 r.id)]

/-- Whether the texts of a record that are hashed belong to a set. -/
structure Within (r : Record) (texts : Set String) : Prop where
  id : r.id ∈ texts
  userId : r.userId ∈ texts
  identity : r.identity.Within texts

end Record

/-- Whether a key is made from an id. -/
def IsKeyOf (id : String) (k : Bytes) : Prop :=
  k = recordKey id ∨ (∃ i, k = identityKey i id) ∨ ∃ u, k = userKey u id

theorem isKeyOf_of_mem_bindings {r : Record} {k v : Bytes} (h : (k, v) ∈ r.bindings) :
    IsKeyOf r.id k := by
  simp only [Record.bindings, List.mem_cons, Prod.mk.injEq, List.not_mem_nil, or_false] at h
  obtain ⟨rfl, -⟩ | ⟨rfl, -⟩ | ⟨rfl, -⟩ := h
  · exact .inl rfl
  · exact .inr (.inl ⟨_, rfl⟩)
  · exact .inr (.inr ⟨_, rfl⟩)

variable {texts : Set String}

/-- A key is made from one id only. -/
theorem IsKeyOf.inj (hc : CollisionFree texts) {a b : String} (ha : a ∈ texts) (hb : b ∈ texts)
    {k : Bytes} (hka : IsKeyOf a k) (hkb : IsKeyOf b k) : a = b := by
  obtain rfl | ⟨i, rfl⟩ | ⟨u, rfl⟩ := hka
  · obtain h | ⟨j, h⟩ | ⟨v, h⟩ := hkb
    · exact recordKey_inj hc ha hb h
    · exact absurd h (recordKey_ne_identity a j _)
    · exact absurd h (recordKey_ne_user a v _)
  · obtain h | ⟨j, h⟩ | ⟨v, h⟩ := hkb
    · exact absurd h.symm (recordKey_ne_identity b i _)
    · exact component_inj hc ha hb (identityStart_append_inj h).2
    · exact absurd h (identity_ne_user i v _ _)
  · obtain h | ⟨j, h⟩ | ⟨v, h⟩ := hkb
    · exact absurd h.symm (recordKey_ne_user b u _)
    · exact absurd h.symm (identity_ne_user j u _ _)
    · exact component_inj hc ha hb (userStart_append_inj h).2

/-- Records with different ids have no key in common. -/
theorem notMem_bindings_of_ne (hc : CollisionFree texts) {r r' : Record} (hw : r.Within texts)
    (hw' : r'.Within texts) (hne : r'.id ≠ r.id) {k v : Bytes} (h : (k, v) ∈ r'.bindings)
    (v' : Bytes) : (k, v') ∉ r.bindings := fun h' =>
  hne ((isKeyOf_of_mem_bindings h).inj hc hw'.id hw.id (isKeyOf_of_mem_bindings h'))

/-- Records with the same id, identity and user have the same keys. -/
theorem exists_mem_bindings_of_eq {r r' : Record} (hid : r.id = r'.id)
    (hi : r.identity = r'.identity) (hu : r.userId = r'.userId) {k v : Bytes}
    (h : (k, v) ∈ r.bindings) : ∃ v', (k, v') ∈ r'.bindings := by
  simp only [Record.bindings, List.mem_cons, Prod.mk.injEq, List.not_mem_nil, or_false, hid, hi,
    hu] at h ⊢
  obtain ⟨rfl, -⟩ | ⟨rfl, -⟩ | ⟨rfl, -⟩ := h
  · exact ⟨_, .inl ⟨rfl, rfl⟩⟩
  · exact ⟨_, .inr (.inl ⟨rfl, rfl⟩)⟩
  · exact ⟨_, .inr (.inr ⟨rfl, rfl⟩)⟩

/-- Whether a key with its value is of an index and holds an id that is not in a book. -/
def IsStray {τ : Type} (texts : Set String) (b : Book τ) (k v : Bytes) : Prop :=
  ∃ id ∈ texts, b id = none ∧ v = Text.utf8 id ∧
    ((∃ i, i.Within texts ∧ k = identityKey i id) ∨ ∃ u ∈ texts, k = userKey u id)

/-- Whether the keys that are seen, each with its value and its mark, represent a book. The texts
that have been hashed belong to a set, and stray keys are there only if they are allowed. -/
structure Represents {τ : Type} (strays : Prop) (texts : Set String)
    (seen : Bytes → Option (Bytes × τ)) (b : Book τ) : Prop where
  sound : ∀ id r mark, b id = some (r, mark) →
    r.id = id ∧ r.Within texts ∧ r.createdAt.Valid
  present : ∀ id r mark, b id = some (r, mark) → ∀ p ∈ r.bindings, seen p.1 = some (p.2, mark)
  only : ∀ k v mark, seen k = some (v, mark) →
    (∃ r, b r.id = some (r, mark) ∧ (k, v) ∈ r.bindings) ∨ (strays ∧ IsStray texts b k v)

namespace Represents

variable {τ σ : Type} {strays : Prop} {seen seen' : Bytes → Option (Bytes × τ)} {b : Book τ}

theorem isKeyOf_of_isStray {k v : Bytes} (h : IsStray texts b k v) :
    ∃ id ∈ texts, b id = none ∧ v = Text.utf8 id ∧ IsKeyOf id k ∧ k ≠ recordKey id := by
  obtain ⟨id, hid, hnone, rfl, ⟨i, -, rfl⟩ | ⟨u, -, rfl⟩⟩ := h
  · exact ⟨id, hid, hnone, rfl, .inr (.inl ⟨i, rfl⟩), (recordKey_ne_identity id i _).symm⟩
  · exact ⟨id, hid, hnone, rfl, .inr (.inr ⟨u, rfl⟩), (recordKey_ne_user id u _).symm⟩

/-- **What stands under the key of an id is the session of the id.** -/
theorem seen_recordKey (hc : CollisionFree texts) (h : Represents strays texts seen b)
    {id : String} (hid : id ∈ texts) :
    seen (recordKey id) = (b id).map fun s => (s.1.encode, s.2) := by
  cases hb : b id with
  | some s =>
    obtain ⟨r, mark⟩ := s
    obtain ⟨rfl, -, -⟩ := h.sound id r mark hb
    exact h.present _ r mark hb (recordKey r.id, r.encode) List.mem_cons_self
  | none =>
    rw [Option.map_none, Option.eq_none_iff_forall_ne_some]
    rintro ⟨v, mark⟩ hv
    obtain ⟨r, hr, hmem⟩ | ⟨-, hstray⟩ := h.only _ v mark hv
    · have hw := (h.sound _ _ _ hr).2.1
      rw [(isKeyOf_of_mem_bindings hmem).inj hc hw.id hid (.inl rfl), hb] at hr
      cases hr
    · obtain ⟨id', hid', -, -, hk, hne⟩ := isKeyOf_of_isStray hstray
      exact hne (congrArg recordKey (hk.inj hc hid' hid (.inl rfl)).symm)

/-- Without stray keys, no key is made from an id that has no session. -/
theorem seen_eq_none (hc : CollisionFree texts) (h : Represents False texts seen b) {id : String}
    (hid : id ∈ texts) (hb : b id = none) {k : Bytes} (hk : IsKeyOf id k) : seen k = none := by
  rw [Option.eq_none_iff_forall_ne_some]
  rintro ⟨v, mark⟩ hv
  obtain ⟨r, hr, hmem⟩ | ⟨hf, -⟩ := h.only _ v mark hv
  · have hw := (h.sound _ _ _ hr).2.1
    rw [(isKeyOf_of_mem_bindings hmem).inj hc hw.id hid hk, hb] at hr
    cases hr
  · exact hf

/-! ## Changes -/

/-- Whether nothing that is seen stands in the way of a session: no key is made from its id, or
they are the keys of a session with the same identity and user. -/
def Room (seen : Bytes → Option (Bytes × τ)) (b : Book τ) (r : Record) : Prop :=
  (∀ k, IsKeyOf r.id k → seen k = none) ∨
    ∃ old mark, b r.id = some (old, mark) ∧ old.identity = r.identity ∧ old.userId = r.userId

theorem Room.stray_ne {r : Record} (hroom : Room seen b r) {k v : Bytes} {mark : τ}
    (hseen : seen k = some (v, mark)) {id : String} (hb : b id = none) (hk : IsKeyOf id k) :
    id ≠ r.id := by
  rintro rfl
  obtain hnone | ⟨old, m, hold, -⟩ := hroom
  · rw [hnone k hk] at hseen
    cases hseen
  · rw [hb] at hold
    cases hold

/-- A session with a key that is not written is not the one that is written. -/
theorem Room.record_ne {r r' : Record} (hroom : Room seen b r) {k v : Bytes} {mark : τ}
    (hseen : seen k = some (v, mark)) (hr' : b r'.id = some (r', mark))
    (hk : (k, v) ∈ r'.bindings) (hmem : ∀ v', (k, v') ∉ r.bindings) : r'.id ≠ r.id := by
  intro hid
  obtain hnone | ⟨old, m, hold, hi, hu⟩ := hroom
  · rw [hnone k (hid ▸ isKeyOf_of_mem_bindings hk)] at hseen
    cases hseen
  · rw [hid, hold] at hr'
    cases hr'
    obtain ⟨v', hv'⟩ := exists_mem_bindings_of_eq hid hi hu hk
    exact hmem v' hv'

/-- **Writing the keys of a session puts it into the book.** -/
theorem set (hc : CollisionFree texts) (h : Represents strays texts seen b) {r : Record} {mark : τ}
    (hw : r.Within texts) (hv : r.createdAt.Valid) (hroom : Room seen b r)
    (hset : ∀ p ∈ r.bindings, seen' p.1 = some (p.2, mark))
    (hrest : ∀ k, (∀ v, (k, v) ∉ r.bindings) → seen' k = seen k) :
    Represents strays texts seen' (b.set r mark) := by
  refine ⟨fun id r' mark' hr' => ?_, fun id r' mark' hr' p hp => ?_, fun k v mark' hk => ?_⟩
  · by_cases hid : id = r.id
    · simp only [Book.set, hid, if_true, Option.some.injEq, Prod.mk.injEq] at hr'
      obtain ⟨rfl, -⟩ := hr'
      exact ⟨hid.symm, hw, hv⟩
    · simp only [Book.set, hid, if_false] at hr'
      exact h.sound id r' mark' hr'
  · by_cases hid : id = r.id
    · simp only [Book.set, hid, if_true, Option.some.injEq, Prod.mk.injEq] at hr'
      obtain ⟨rfl, rfl⟩ := hr'
      exact hset p hp
    · simp only [Book.set, hid, if_false] at hr'
      obtain ⟨hid', hw', -⟩ := h.sound id r' mark' hr'
      rw [hrest p.1 (notMem_bindings_of_ne hc hw hw' (hid' ▸ hid) hp)]
      exact h.present id r' mark' hr' p hp
  · by_cases hmem : ∃ v', (k, v') ∈ r.bindings
    · obtain ⟨v', hv'⟩ := hmem
      rw [hset _ hv'] at hk
      cases hk
      exact .inl ⟨r, by simp [Book.set], hv'⟩
    · have hmem : ∀ v', (k, v') ∉ r.bindings := fun v' hv' => hmem ⟨v', hv'⟩
      rw [hrest k hmem] at hk
      obtain ⟨r', hr', hk'⟩ | ⟨hs, hstray⟩ := h.only k v mark' hk
      · have hne := hroom.record_ne hk hr' hk' hmem
        exact .inl ⟨r', by simpa [Book.set, hne] using hr', hk'⟩
      · obtain ⟨id, hid, hb, rfl, hkey⟩ := hstray
        have hne : id ≠ r.id := by
          obtain ⟨i, -, rfl⟩ | ⟨u, -, rfl⟩ := hkey
          · exact hroom.stray_ne hk hb (.inr (.inl ⟨i, rfl⟩))
          · exact hroom.stray_ne hk hb (.inr (.inr ⟨u, rfl⟩))
        exact .inr ⟨hs, id, hid, by simpa [Book.set, hne] using hb, rfl, hkey⟩

/-- A stray key stays one as long as sessions only leave the book. -/
theorem isStray_of_le {b' : Book σ} (hle : ∀ id, b id = none → b' id = none) {k v : Bytes}
    (h : IsStray texts b k v) : IsStray texts b' k v := by
  obtain ⟨id, hid, hb, hv, hk⟩ := h
  exact ⟨id, hid, hle id hb, hv, hk⟩

/-- **Deleting the keys of a session removes it from the book.** -/
theorem remove (hc : CollisionFree texts) (h : Represents strays texts seen b) {r : Record}
    {mark : τ} (hr : b r.id = some (r, mark)) (hdel : ∀ p ∈ r.bindings, seen' p.1 = none)
    (hrest : ∀ k, (∀ v, (k, v) ∉ r.bindings) → seen' k = seen k) :
    Represents strays texts seen' (b.remove r.id) := by
  have hw := (h.sound _ r mark hr).2.1
  have hsub : ∀ id r' mark', b.remove r.id id = some (r', mark') →
      id ≠ r.id ∧ b id = some (r', mark') := by
    intro id r' mark' hr'
    simp only [Book.remove] at hr'
    split at hr'
    · cases hr'
    · next hne => exact ⟨hne, hr'⟩
  refine ⟨fun id r' mark' hr' => ?_, fun id r' mark' hr' p hp => ?_, fun k v mark' hk => ?_⟩
  · exact h.sound id r' mark' (hsub id r' mark' hr').2
  · obtain ⟨hne, hb⟩ := hsub id r' mark' hr'
    obtain ⟨hid', hw', -⟩ := h.sound id r' mark' hb
    rw [hrest p.1 (notMem_bindings_of_ne hc hw hw' (hid' ▸ hne) hp)]
    exact h.present id r' mark' hb p hp
  · have hmem : ∀ v', (k, v') ∉ r.bindings := by
      intro v' hv'
      rw [hdel _ hv'] at hk
      cases hk
    rw [hrest k hmem] at hk
    obtain ⟨r', hr', hk'⟩ | ⟨hs, hstray⟩ := h.only k v mark' hk
    · have hne : r'.id ≠ r.id := by
        intro hid
        rw [hid, hr] at hr'
        cases hr'
        exact hmem v hk'
      exact .inl ⟨r', by simpa [Book.remove, hne] using hr', hk'⟩
    · refine .inr ⟨hs, isStray_of_le (fun id hb => ?_) hstray⟩
      simp [Book.remove, hb]

/-- **Deleting a key that is not of a session changes nothing in the book.** -/
theorem drop (h : Represents strays texts seen b) (key : Bytes)
    (hkey : ∀ r mark, b r.id = some (r, mark) → ∀ v, (key, v) ∉ r.bindings)
    (hdel : seen' key = none) (hrest : ∀ k, k ≠ key → seen' k = seen k) :
    Represents strays texts seen' b := by
  refine ⟨h.sound, fun id r mark hr p hp => ?_, fun k v mark hk => ?_⟩
  · rw [hrest p.1 ?_]
    · exact h.present id r mark hr p hp
    · rintro rfl
      obtain ⟨rfl, -, -⟩ := h.sound id r mark hr
      exact hkey r mark hr p.2 hp
  · have hne : k ≠ key := by
      rintro rfl
      rw [hdel] at hk
      cases hk
    exact h.only k v mark (hrest k hne ▸ hk)

/-- **The passing of time takes the keys of a session together with the session.** -/
theorem filter (h : Represents strays texts seen b) (keep : τ → Bool) :
    Represents strays texts (fun k => (seen k).filter fun s => keep s.2) (b.filter keep) := by
  refine ⟨fun id r mark hr => ?_, fun id r mark hr p hp => ?_, fun k v mark hk => ?_⟩
  · exact h.sound id r mark (Option.filter_eq_some_iff.1 hr).1
  · obtain ⟨hb, hkeep⟩ := Option.filter_eq_some_iff.1 hr
    exact Option.filter_eq_some_iff.2 ⟨h.present id r mark hb p hp, hkeep⟩
  · obtain ⟨hs, hkeep⟩ := Option.filter_eq_some_iff.1 hk
    obtain ⟨r, hr, hmem⟩ | ⟨hs, hstray⟩ := h.only k v mark hs
    · exact .inl ⟨r, Option.filter_eq_some_iff.2 ⟨hr, hkeep⟩, hmem⟩
    · refine .inr ⟨hs, isStray_of_le (fun id hb => ?_) hstray⟩
      simp [Book.filter, hb]

/-- **A change of all marks changes the marks in the book.** -/
theorem map (h : Represents strays texts seen b) (g : τ → σ) :
    Represents strays texts (fun k => (seen k).map fun s => (s.1, g s.2)) (b.map g) := by
  refine ⟨fun id r mark hr => ?_, fun id r mark hr p hp => ?_, fun k v mark hk => ?_⟩
  · obtain ⟨mark', hb, rfl⟩ := Book.map_eq_some.1 hr
    exact h.sound id r mark' hb
  · obtain ⟨mark', hb, rfl⟩ := Book.map_eq_some.1 hr
    simp [h.present id r mark' hb p hp]
  · obtain ⟨⟨v', mark'⟩, hs, heq⟩ := Option.map_eq_some_iff.1 hk
    cases heq
    obtain ⟨r, hr, hmem⟩ | ⟨hs, hstray⟩ := h.only k v' mark' hs
    · exact .inl ⟨r, by simp [Book.map, hr], hmem⟩
    · refine .inr ⟨hs, isStray_of_le (fun id hb => ?_) hstray⟩
      simp [Book.map, hb]

/-- Nothing that is seen represents the empty book. -/
theorem empty : Represents strays texts (fun _ => (none : Option (Bytes × τ))) Book.empty :=
  ⟨nofun, nofun, nofun⟩

end Represents

end SessionTokens
