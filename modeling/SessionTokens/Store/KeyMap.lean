import SessionTokens.Text.Utf8
/-!
# Maps with ordered keys

Entries, buffered writes and snapshots are maps from byte strings, always listed in ascending
order of their keys. A `KeyMap` is its list of bindings together with the proof that the keys
ascend, so it holds each key once and two maps with the same bindings are equal.

* `find?_insert`, `find?_erase`, `find?_filter`: **what each operation does to a look-up**.
* `ext_find?`: **two maps that answer every look-up alike are equal**.
* `mem_pairs_iff`: a binding is listed exactly if the look-up of its key finds it.
-/

namespace SessionTokens

/-- A map from byte strings: its bindings in ascending order of the keys. -/
structure KeyMap (β : Type) where
  pairs : List (Bytes × β)
  sorted : pairs.Pairwise fun a b => a.1 < b.1

namespace KeyMap

variable {β γ : Type}

/-! ## The order of keys -/

theorem lt_irrefl (k : Bytes) : ¬k < k := List.lt_irrefl k

theorem lt_trans {a b c : Bytes} (hab : a < b) (hbc : b < c) : a < c := List.lt_trans hab hbc

theorem lt_of_not_lt {a b : Bytes} (hne : a ≠ b) (h : ¬a < b) : b < a := by
  apply Decidable.byContradiction
  intro h'
  exact hne (List.le_antisymm (List.not_lt.1 h') (List.not_lt.1 h))

/-! ## Operations -/

/-- The map without bindings. -/
def empty : KeyMap β := ⟨[], .nil⟩

instance : EmptyCollection (KeyMap β) := ⟨empty⟩

instance : Inhabited (KeyMap β) := ⟨empty⟩

/-- The value bound to a key in a list of bindings. -/
def lookup (k : Bytes) : List (Bytes × β) → Option β
  | [] => none
  | (k', v) :: rest => if k = k' then some v else lookup k rest

/-- A list of ascending bindings with one more, which takes the place of one with its key. -/
def insertPair (k : Bytes) (v : β) : List (Bytes × β) → List (Bytes × β)
  | [] => [(k, v)]
  | (k', v') :: rest =>
    if k = k' then (k, v) :: rest
    else if k < k' then (k, v) :: (k', v') :: rest
    else (k', v') :: insertPair k v rest

theorem mem_insertPair {k : Bytes} {v : β} {ps : List (Bytes × β)} {p : Bytes × β}
    (h : p ∈ insertPair k v ps) : p = (k, v) ∨ p ∈ ps := by
  induction ps with
  | nil => simpa [insertPair] using h
  | cons q rest ih =>
    obtain ⟨k', v'⟩ := q
    unfold insertPair at h
    split at h
    · rcases List.mem_cons.1 h with h | h
      · exact .inl h
      · exact .inr (List.mem_cons_of_mem _ h)
    · split at h
      · rcases List.mem_cons.1 h with h | h
        · exact .inl h
        · exact .inr h
      · rcases List.mem_cons.1 h with h | h
        · exact .inr (h ▸ List.mem_cons_self)
        · exact (ih h).imp id (List.mem_cons_of_mem _)

theorem sorted_insertPair (k : Bytes) (v : β) {ps : List (Bytes × β)}
    (h : ps.Pairwise fun a b => a.1 < b.1) :
    (insertPair k v ps).Pairwise fun a b => a.1 < b.1 := by
  induction ps with
  | nil => simp [insertPair]
  | cons q rest ih =>
    obtain ⟨k', v'⟩ := q
    rw [List.pairwise_cons] at h
    unfold insertPair
    split
    · rename_i hk
      subst hk
      exact List.pairwise_cons.2 h
    · split
      · rename_i hk
        refine List.pairwise_cons.2 ⟨fun p hp => ?_, List.pairwise_cons.2 h⟩
        rcases List.mem_cons.1 hp with rfl | hp
        · exact hk
        · exact lt_trans hk (h.1 p hp)
      · rename_i hne hk
        refine List.pairwise_cons.2 ⟨fun p hp => ?_, ih h.2⟩
        rcases mem_insertPair hp with rfl | hp
        · exact lt_of_not_lt hne hk
        · exact h.1 p hp

/-- The value bound to a key. -/
def find? (m : KeyMap β) (k : Bytes) : Option β := lookup k m.pairs

/-- The map with a binding added, in place of one with the same key. -/
def insert (m : KeyMap β) (k : Bytes) (v : β) : KeyMap β :=
  ⟨insertPair k v m.pairs, sorted_insertPair k v m.sorted⟩

/-- The bindings that pass a test. -/
def filter (m : KeyMap β) (keep : Bytes → β → Bool) : KeyMap β :=
  ⟨m.pairs.filter fun p => keep p.1 p.2, m.sorted.filter _⟩

/-- The map without the binding of a key. -/
def erase (m : KeyMap β) (k : Bytes) : KeyMap β := m.filter fun k' _ => k' ≠ k

/-- The map with each value replaced by its image. -/
def map (f : β → γ) (m : KeyMap β) : KeyMap γ :=
  ⟨m.pairs.map fun p => (p.1, f p.2), m.sorted.map _ fun _ _ h => h⟩

/-- The map with the binding of a key set, or removed for `none`. -/
def alter (m : KeyMap β) (k : Bytes) : Option β → KeyMap β
  | some v => m.insert k v
  | none => m.erase k

/-- The map of a list of bindings, of which a later one replaces an earlier one. -/
def ofList (ps : List (Bytes × β)) : KeyMap β :=
  ps.foldl (fun m p => m.insert p.1 p.2) empty

/-- The number of bindings. -/
def size (m : KeyMap β) : Nat := m.pairs.length

/-- Whether there are no bindings. -/
def isEmpty (m : KeyMap β) : Bool := m.pairs.isEmpty

/-! ## Look-ups -/

theorem lookup_insertPair (k k' : Bytes) (v : β) (ps : List (Bytes × β)) :
    lookup k' (insertPair k v ps) = if k' = k then some v else lookup k' ps := by
  induction ps with
  | nil => simp [insertPair, lookup]
  | cons q rest ih =>
    obtain ⟨q, w⟩ := q
    unfold insertPair
    by_cases h : k = q
    · subst h
      by_cases h' : k' = k <;> simp [lookup, h']
    · by_cases hlt : k < q
      · simp [h, hlt, lookup]
      · by_cases h' : k' = q
        · simp [h, hlt, lookup, h', Ne.symm h]
        · simp [h, hlt, lookup, h', ih]

@[simp]
theorem find?_empty (k : Bytes) : (∅ : KeyMap β).find? k = none := rfl

@[simp]
theorem find?_insert (m : KeyMap β) (k k' : Bytes) (v : β) :
    (m.insert k v).find? k' = if k' = k then some v else m.find? k' :=
  lookup_insertPair k k' v m.pairs

theorem lookup_eq_some_iff {ps : List (Bytes × β)} (h : ps.Pairwise fun a b => a.1 < b.1)
    {k : Bytes} {v : β} : lookup k ps = some v ↔ (k, v) ∈ ps := by
  induction ps with
  | nil => simp [lookup]
  | cons q rest ih =>
    obtain ⟨q, w⟩ := q
    rw [List.pairwise_cons] at h
    by_cases hk : k = q
    · subst hk
      constructor
      · intro hv
        simp [lookup] at hv
        simp [hv]
      · intro hv
        rcases List.mem_cons.1 hv with hv | hv
        · cases hv
          simp [lookup]
        · exact absurd (h.1 _ hv) (lt_irrefl k)
    · simp [lookup, hk, ih h.2]

theorem mem_pairs_iff {m : KeyMap β} {k : Bytes} {v : β} :
    (k, v) ∈ m.pairs ↔ m.find? k = some v :=
  (lookup_eq_some_iff m.sorted).symm

theorem find?_filter (m : KeyMap β) (keep : Bytes → β → Bool) (k : Bytes) :
    (m.filter keep).find? k = (m.find? k).filter (keep k) := by
  apply Option.ext
  intro v
  rw [← mem_pairs_iff, Option.filter_eq_some_iff, ← mem_pairs_iff]
  simp [filter]

@[simp]
theorem find?_erase (m : KeyMap β) (k k' : Bytes) :
    (m.erase k).find? k' = if k' = k then none else m.find? k' := by
  rw [erase, find?_filter]
  by_cases h : k' = k <;> simp [h, Option.filter] <;> split <;> simp_all

theorem lookup_map (f : β → γ) (k : Bytes) (ps : List (Bytes × β)) :
    lookup k (ps.map fun p => (p.1, f p.2)) = (lookup k ps).map f := by
  induction ps with
  | nil => rfl
  | cons q rest ih =>
    obtain ⟨q, w⟩ := q
    by_cases h : k = q <;> simp [lookup, h, ih]

@[simp]
theorem find?_map (f : β → γ) (m : KeyMap β) (k : Bytes) :
    (m.map f).find? k = (m.find? k).map f := lookup_map f k m.pairs

@[simp]
theorem find?_alter (m : KeyMap β) (k k' : Bytes) (v : Option β) :
    (m.alter k v).find? k' = if k' = k then v else m.find? k' := by
  cases v with
  | none => simp [alter]
  | some v => simp [alter]

/-! ## Equality -/

theorem eq_of_mem_iff {ps qs : List (Bytes × β)} (hp : ps.Pairwise fun a b => a.1 < b.1)
    (hq : qs.Pairwise fun a b => a.1 < b.1) (h : ∀ p, p ∈ ps ↔ p ∈ qs) : ps = qs := by
  induction ps generalizing qs with
  | nil =>
    cases qs with
    | nil => rfl
    | cons q _ => exact absurd ((h q).2 List.mem_cons_self) (by simp)
  | cons p ps ih =>
    cases qs with
    | nil => exact absurd ((h p).1 List.mem_cons_self) (by simp)
    | cons q qs =>
      rw [List.pairwise_cons] at hp hq
      have hpq : p = q := by
        rcases List.mem_cons.1 ((h p).1 List.mem_cons_self) with h1 | h1
        · exact h1
        · rcases List.mem_cons.1 ((h q).2 List.mem_cons_self) with h2 | h2
          · exact h2.symm
          · exact absurd (lt_trans (hp.1 q h2) (hq.1 p h1)) (lt_irrefl p.1)
      subst hpq
      congr 1
      refine ih hp.2 hq.2 fun r => ⟨fun hr => ?_, fun hr => ?_⟩
      · rcases List.mem_cons.1 ((h r).1 (List.mem_cons_of_mem _ hr)) with rfl | h'
        · exact absurd (hp.1 r hr) (lt_irrefl r.1)
        · exact h'
      · rcases List.mem_cons.1 ((h r).2 (List.mem_cons_of_mem _ hr)) with rfl | h'
        · exact absurd (hq.1 r hr) (lt_irrefl r.1)
        · exact h'

theorem ext_find? {m n : KeyMap β} (h : ∀ k, m.find? k = n.find? k) : m = n := by
  obtain ⟨ps, hp⟩ := m
  obtain ⟨qs, hq⟩ := n
  have : ps = qs := eq_of_mem_iff hp hq fun ⟨k, v⟩ => by
    rw [← lookup_eq_some_iff hp, ← lookup_eq_some_iff hq]
    have hk : lookup k ps = lookup k qs := h k
    rw [hk]
  subst this
  rfl

end KeyMap

end SessionTokens
