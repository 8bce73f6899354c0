import SessionTokens.Proofs.Session.Operations
/-!
# Books that agree

Two books *agree* on some identities if they hold the same sessions of them, with the same marks,
whatever else they hold.

**Change by change.** Books that agree still agree when the same is done to both. A change that
concerns other identities only may also be made to one of them.

**What is read.** The keys of a store represent one book only, and a listing of it is determined by
what it lists.

Main results: `Represents.unique`, `Agrees.install`, `Agrees.install_other` and their like, and
`Book.Lists.eq_of_inOrder`.
-/

namespace SessionTokens

open Session

/-- Records that come neither before nor after each other have the same id. -/
theorem Record.id_eq_of_notAfter {a b : Record} (hab : a.notAfter b = true)
    (hba : b.notAfter a = true) : a.id = b.id := by
  rw [Record.notAfter_iff] at hab hba
  simp only [Timestamp.before_iff] at hab hba
  obtain hab | ⟨hab, hab'⟩ := hab
  · obtain hba | ⟨hba, -⟩ := hba <;> omega
  · obtain hba | ⟨-, hba'⟩ := hba
    · omega
    · have heq := List.le_antisymm (List.not_lt.1 hab') (List.not_lt.1 hba')
      exact String.toList_injective heq

namespace Book

variable {τ : Type} {apart : Identity → Prop} {b c d : Book τ} {r : Record} {m : τ}

/-- Whether two books hold the same sessions of some identities. -/
def Agrees (apart : Identity → Prop) (b c : Book τ) : Prop :=
  ∀ id r m, apart r.identity → (b id = some (r, m) ↔ c id = some (r, m))

namespace Agrees

theorem refl (apart : Identity → Prop) (b : Book τ) : b.Agrees apart b := fun _ _ _ _ => .rfl

theorem symm (h : b.Agrees apart c) : c.Agrees apart b := fun id r m hr => (h id r m hr).symm

theorem trans (h : b.Agrees apart c) (h' : c.Agrees apart d) : b.Agrees apart d :=
  fun id r m hr => (h id r m hr).trans (h' id r m hr)

/-- Where all sessions of an id are of the identities on which books agree, they are the same. -/
theorem eq_at (h : b.Agrees apart c) {id : String}
    (hb : ∀ r m, b id = some (r, m) → apart r.identity)
    (hc : ∀ r m, c id = some (r, m) → apart r.identity) : b id = c id := by
  apply Option.ext
  rintro ⟨r, m⟩
  exact ⟨fun hr => (h id r m (hb r m hr)).1 hr, fun hr => (h id r m (hc r m hr)).2 hr⟩

/-- Where books agree, they hold the same under an id, or both hold at most a session of another
identity there. -/
theorem eq_or_other (h : b.Agrees apart c) (id : String) :
    b id = c id ∨ ((∀ r m, b id = some (r, m) → ¬apart r.identity) ∧
      ∀ r m, c id = some (r, m) → ¬apart r.identity) := by
  by_cases hid : ∃ r m, (b id = some (r, m) ∨ c id = some (r, m)) ∧ apart r.identity
  · obtain ⟨r, m, hb | hc, hr⟩ := hid
    · exact .inl (hb.trans ((h id r m hr).1 hb).symm)
    · exact .inl (((h id r m hr).2 hc).trans hc.symm)
  · exact .inr ⟨fun r m hb hr => hid ⟨r, m, .inl hb, hr⟩, fun r m hc hr => hid ⟨r, m, .inr hc, hr⟩⟩

/-! ## The same change to both -/

theorem filter (h : b.Agrees apart c) (keep : τ → Bool) :
    (b.filter keep).Agrees apart (c.filter keep) := by
  intro id r m hr
  rw [Book.filter, Book.filter, Option.filter_eq_some_iff, Option.filter_eq_some_iff, h id r m hr]

theorem without (h : b.Agrees apart c) (p : Record → Bool) :
    (b.without p).Agrees apart (c.without p) := by
  intro id r m hr
  rw [Book.without, Book.without, Option.filter_eq_some_iff, Option.filter_eq_some_iff,
    h id r m hr]

theorem remove (h : b.Agrees apart c) (id : String) :
    (b.remove id).Agrees apart (c.remove id) := by
  intro id' r m hr
  by_cases hid : id' = id
  · simp [Book.remove, hid]
  · simpa [Book.remove, hid] using h id' r m hr

theorem set (h : b.Agrees apart c) (r : Record) (m : τ) :
    (b.set r m).Agrees apart (c.set r m) := by
  intro id r' m' hr
  by_cases hid : id = r.id
  · simp [Book.set, hid]
  · simpa [Book.set, hid] using h id r' m' hr

theorem install (h : b.Agrees apart c) (r : Record) (m : τ) :
    (b.install r m).Agrees apart (c.install r m) := (h.without _).set r m

/-! ## Changes to other sessions -/

theorem without_other {p : Record → Bool}
    (hp : ∀ id r m, b id = some (r, m) → p r = true → ¬apart r.identity) :
    (b.without p).Agrees apart b := by
  intro id r m hr
  rw [Book.without, Option.filter_eq_some_iff]
  constructor
  · exact fun h => h.1
  · intro h
    refine ⟨h, ?_⟩
    cases hpr : p r with
    | false => rfl
    | true => exact absurd hr (hp id r m h hpr)

theorem remove_other {id : String} (hid : ∀ r m, b id = some (r, m) → ¬apart r.identity) :
    (b.remove id).Agrees apart b := by
  intro id' r m hr
  by_cases h : id' = id
  · subst h
    simp only [Book.remove, if_true]
    constructor
    · intro hnone
      cases hnone
    · exact fun hsome => absurd hr (hid r m hsome)
  · simp [Book.remove, h]

theorem set_other (hr : ¬apart r.identity) (hid : b r.id = none) :
    (b.set r m).Agrees apart b := by
  intro id r' m' hr'
  by_cases h : id = r.id
  · subst h
    simp only [Book.set, if_true, hid]
    constructor
    · intro heq
      cases heq
      exact absurd hr' hr
    · intro hnone
      cases hnone
  · simp [Book.set, h]

/-- **A session of another identity makes no difference**, nor do those that it replaces. -/
theorem install_other (hr : ¬apart r.identity) (hid : b r.id = none) :
    (b.install r m).Agrees apart b := by
  have hwithout : (b.without fun o => o.identity = r.identity).Agrees apart b :=
    without_other fun id o m' _ ho => by
      simp only [decide_eq_true_eq] at ho
      rw [ho]
      exact hr
  refine (set_other hr ?_).trans hwithout
  rw [Book.without, hid]
  rfl

end Agrees

/-! ## Lists of a book -/

/-- Lists of the sessions that pass a test have the same members if the books agree on those. -/
theorem Lists.perm {p : Record → Bool} {rs rs' : List Record} (h : b.Lists p rs)
    (h' : c.Lists p rs')
    (hsame : ∀ r, p r = true → ∀ m, b r.id = some (r, m) ↔ c r.id = some (r, m)) :
    rs.Perm rs' := by
  rw [List.perm_ext_iff_of_nodup h.nodup h'.nodup]
  intro r
  rw [h.mem_iff, h'.mem_iff]
  constructor
  · rintro ⟨hp, m, hr⟩
    exact ⟨hp, m, (hsame r hp m).1 hr⟩
  · rintro ⟨hp, m, hr⟩
    exact ⟨hp, m, (hsame r hp m).2 hr⟩

/-- **A listing is determined by what it lists.** -/
theorem Lists.eq_of_inOrder {p : Record → Bool} {rs rs' : List Record} (h : b.Lists p rs)
    (h' : c.Lists p rs')
    (hsame : ∀ r, p r = true → ∀ m, b r.id = some (r, m) ↔ c r.id = some (r, m))
    (ho : Record.InOrder rs) (ho' : Record.InOrder rs') : rs = rs' := by
  refine List.Perm.eq_of_pairwise (fun r r' hr hr' hle hle' => ?_) ho ho' (h.perm h' hsame)
  obtain ⟨hp, m, hb⟩ := (h.mem_iff r).1 hr
  obtain ⟨-, m', hc⟩ := (h'.mem_iff r').1 hr'
  have hb' := (hsame r hp m).1 hb
  rw [Record.id_eq_of_notAfter hle hle', hc] at hb'
  cases hb'
  rfl

end Book

/-! ## The book of a store -/

variable {texts texts' : Set String} {τ : Type} {seen : Bytes → Option (Bytes × τ)} {b c : Book τ}

theorem Represents.sub (h : Represents False texts seen b) (h' : Represents False texts' seen c)
    {id : String} {r : Record} {m : τ} (hr : b id = some (r, m)) : c id = some (r, m) := by
  obtain ⟨rfl, -, hvalid⟩ := h.sound id r m hr
  have hseen := h.present _ r m hr (recordKey r.id, r.encode) List.mem_cons_self
  obtain ⟨r', hr', hmem⟩ | ⟨hf, -⟩ := h'.only _ _ _ hseen
  · simp only [Record.bindings, List.mem_cons, Prod.mk.injEq, List.not_mem_nil, or_false] at hmem
    obtain ⟨-, hencode⟩ | ⟨hkey, -⟩ | ⟨hkey, -⟩ := hmem
    · have hdecode := Record.decode?_encode (h'.sound _ _ _ hr').2.2
      rw [← hencode, Record.decode?_encode hvalid] at hdecode
      cases hdecode
      exact hr'
    · exact absurd hkey (recordKey_ne_identity _ _ _)
    · exact absurd hkey (recordKey_ne_user _ _ _)
  · exact hf.elim

/-- **Without stray keys, what is seen represents one book only.** -/
theorem Represents.unique (h : Represents False texts seen b)
    (h' : Represents False texts' seen c) : b = c := by
  funext id
  apply Option.ext
  exact fun s => ⟨h.sub h', h'.sub h⟩

end SessionTokens
