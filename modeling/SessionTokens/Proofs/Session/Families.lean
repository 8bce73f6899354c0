import Mathlib.Data.Set.Basic
import SessionTokens.Session.Keys
/-!
# The three families of keys

As long as no two of the texts that are hashed have the same hash, a key tells the text that it was
made from, and the keys that begin with the start of an identity or a user are the keys of that
identity or user.

* `recordKey_inj`, `identity_inj`, `user_inj`: **different texts have different keys**.
* `recordStart_ne_identity`, `recordStart_ne_user`, `identity_ne_user`: keys of different families
  differ without any assumption, soon after the word that all begin with.

**Scopes.** A scan asks for all sessions, for those of an identity or for those of a user. Such a
*scope* has a start, and each session has one key in each of its scopes, the start followed by the
component of its id.

**Theorem (`keys_apart`).** A key begins with the start of a scope exactly if it is a key of that
scope, and no two sessions or scopes share a key. The reason is that starts are a prefix code
(`Scope.start_append_inj`): from what begins with a start, the scope and the rest can be told.
-/

namespace SessionTokens

/-- Whether the signals of a device are texts of a set. -/
def Identity.Within (i : Identity) (texts : Set String) : Prop :=
  i.platform ∈ texts ∧ i.fingerprint ∈ texts ∧ i.ip ∈ texts

instance Identity.decidableWithin (ts : List String) (i : Identity) :
    Decidable (i.Within {s | s ∈ ts}) :=
  inferInstanceAs (Decidable (i.platform ∈ ts ∧ i.fingerprint ∈ ts ∧ i.ip ∈ ts))

namespace Session

/-- Whether different texts of a set have different hashes. -/
def CollisionFree (texts : Set String) : Prop :=
  ∀ a ∈ texts, ∀ b ∈ texts, sha256 (Text.utf8 a) = sha256 (Text.utf8 b) → a = b

instance decidableCollisionFree (ts : List String) : Decidable (CollisionFree {s | s ∈ ts}) :=
  inferInstanceAs (Decidable
    (∀ a ∈ ts, ∀ b ∈ ts, sha256 (Text.utf8 a) = sha256 (Text.utf8 b) → a = b))

variable {texts : Set String}

theorem hex_inj {a b : Bytes} (h : Text.hex a = Text.hex b) : a = b := by
  have := congrArg Text.ofHex? h
  rw [Text.ofHex?_hex, Text.ofHex?_hex] at this
  exact Option.some.inj this

theorem component_inj (hc : CollisionFree texts) {a b : String} (ha : a ∈ texts) (hb : b ∈ texts)
    (h : component a = component b) : a = b :=
  hc a ha b hb (hex_inj h)

/-! ## Keys of one family -/

theorem recordKey_inj (hc : CollisionFree texts) {a b : String} (ha : a ∈ texts)
    (hb : b ∈ texts) (h : recordKey a = recordKey b) : a = b :=
  component_inj hc ha hb (List.append_cancel_left h)

/-- The start of an identity and what follows it can be told apart. -/
theorem identityStart_append_inj {i j : Identity} {r s : Bytes}
    (h : identityStart i ++ r = identityStart j ++ s) :
    (component i.platform = component j.platform ∧
      component i.fingerprint = component j.fingerprint ∧ component i.ip = component j.ip) ∧
      r = s := by
  simp only [identityStart, List.append_assoc] at h
  have h1 := List.append_inj (List.append_cancel_left h) (by simp)
  have h2 := List.append_inj (List.append_cancel_left h1.2) (by simp)
  have h3 := List.append_inj (List.append_cancel_left h2.2) (by simp)
  exact ⟨⟨h1.1, h2.1, h3.1⟩, List.append_cancel_left h3.2⟩

theorem identity_inj (hc : CollisionFree texts) {i j : Identity} (hi : i.Within texts)
    (hj : j.Within texts) {r s : Bytes} (h : identityStart i ++ r = identityStart j ++ s) :
    i = j ∧ r = s := by
  obtain ⟨⟨h1, h2, h3⟩, hr⟩ := identityStart_append_inj h
  obtain ⟨platform, fingerprint, ip⟩ := i
  have e1 := component_inj hc hi.1 hj.1 h1
  have e2 := component_inj hc hi.2.1 hj.2.1 h2
  have e3 := component_inj hc hi.2.2 hj.2.2 h3
  simp only at e1 e2 e3
  exact ⟨by rw [e1, e2, e3], hr⟩

theorem userStart_append_inj {u v : String} {r s : Bytes}
    (h : userStart u ++ r = userStart v ++ s) : component u = component v ∧ r = s := by
  simp only [userStart, List.append_assoc] at h
  have h1 := List.append_inj (List.append_cancel_left h) (by simp)
  exact ⟨h1.1, List.append_cancel_left h1.2⟩

theorem user_inj (hc : CollisionFree texts) {u v : String} (hu : u ∈ texts) (hv : v ∈ texts)
    {r s : Bytes} (h : userStart u ++ r = userStart v ++ s) : u = v ∧ r = s :=
  ⟨component_inj hc hu hv (userStart_append_inj h).1, (userStart_append_inj h).2⟩

/-! ## Keys of different families -/

theorem append_ne_of_take {a b : Bytes} (n : Nat) (ha : n ≤ a.length) (hb : n ≤ b.length)
    (h : a.take n ≠ b.take n) (r s : Bytes) : a ++ r ≠ b ++ s := by
  intro h'
  have := congrArg (List.take n) h'
  rw [List.take_append_of_le_length ha, List.take_append_of_le_length hb] at this
  exact h this

theorem recordStart_ne_identity (i : Identity) (r s : Bytes) :
    recordStart ++ r ≠ identityStart i ++ s := by
  simp only [identityStart, List.append_assoc]
  exact append_ne_of_take 8 (by decide +kernel) (by decide +kernel) (by decide +kernel) _ _

theorem recordStart_ne_user (u : String) (r s : Bytes) : recordStart ++ r ≠ userStart u ++ s := by
  simp only [userStart, List.append_assoc]
  exact append_ne_of_take 8 (by decide +kernel) (by decide +kernel) (by decide +kernel) _ _

theorem recordKey_ne_identity (a : String) (i : Identity) (r : Bytes) :
    recordKey a ≠ identityStart i ++ r :=
  recordStart_ne_identity i (component a) r

theorem recordKey_ne_user (a u : String) (r : Bytes) : recordKey a ≠ userStart u ++ r :=
  recordStart_ne_user u (component a) r

theorem identity_ne_user (i : Identity) (u : String) (r s : Bytes) :
    identityStart i ++ r ≠ userStart u ++ s := by
  simp only [identityStart, userStart, List.append_assoc]
  exact append_ne_of_take 12 (by decide +kernel) (by decide +kernel) (by decide +kernel) _ _

/-! ## Scopes -/

/-- What keys are scanned for: all sessions, those of an identity or those of a user. -/
inductive Scope
  | all
  | identity (i : Identity)
  | user (userId : String)
deriving DecidableEq

namespace Scope

/-- The beginning of the keys of a scope. -/
def start : Scope → Bytes
  | all => recordStart
  | identity i => identityStart i
  | user userId => userStart userId

/-- The key of a session in a scope. -/
def key : Scope → String → Bytes
  | all, id => recordKey id
  | identity i, id => identityKey i id
  | user userId, id => userKey userId id

/-- Whether the texts of a scope belong to a set. -/
def Within (texts : Set String) : Scope → Prop
  | all => True
  | identity i => i.Within texts
  | user userId => userId ∈ texts

instance decidableWithin (ts : List String) : (c : Scope) → Decidable (c.Within {s | s ∈ ts})
  | all => .isTrue trivial
  | identity i => i.decidableWithin ts
  | user userId => inferInstanceAs (Decidable (userId ∈ ts))

variable {c d : Scope}

theorem key_eq (c : Scope) (id : String) : c.key id = c.start ++ component id := by
  cases c <;> rfl

/-- **The starts of scopes are a prefix code.** -/
theorem start_append_inj (hc : CollisionFree texts) (hcw : c.Within texts) (hdw : d.Within texts)
    {r s : Bytes} (h : c.start ++ r = d.start ++ s) : c = d ∧ r = s := by
  -- Within a family the components tell the scopes apart, between families the first word does.
  cases c with
  | all =>
    cases d with
    | all => exact ⟨rfl, List.append_cancel_left h⟩
    | identity j => exact absurd h (recordStart_ne_identity j r s)
    | user v => exact absurd h (recordStart_ne_user v r s)
  | identity i =>
    cases d with
    | all => exact absurd h.symm (recordStart_ne_identity i s r)
    | identity j =>
      obtain ⟨rfl, hrest⟩ := identity_inj hc hcw hdw h
      exact ⟨rfl, hrest⟩
    | user v => exact absurd h (identity_ne_user i v r s)
  | user u =>
    cases d with
    | all => exact absurd h.symm (recordStart_ne_user u s r)
    | identity j => exact absurd h.symm (identity_ne_user j u s r)
    | user v =>
      obtain ⟨rfl, hrest⟩ := user_inj hc hcw hdw h
      exact ⟨rfl, hrest⟩

/-- What begins with the start of a scope begins with no other start. -/
theorem start_isPrefix_iff (hc : CollisionFree texts) (hcw : c.Within texts)
    (hdw : d.Within texts) (rest : Bytes) : d.start <+: c.start ++ rest ↔ c = d := by
  constructor
  · rintro ⟨s, hs⟩
    exact (start_append_inj hc hcw hdw hs.symm).1
  · rintro rfl
    exact List.prefix_append _ _

/-- A key tells its scope and its session. -/
theorem key_inj (hc : CollisionFree texts) (hcw : c.Within texts) (hdw : d.Within texts)
    {a b : String} (ha : a ∈ texts) (hb : b ∈ texts) (h : c.key a = d.key b) :
    c = d ∧ a = b := by
  rw [key_eq, key_eq] at h
  obtain ⟨rfl, hid⟩ := start_append_inj hc hcw hdw h
  exact ⟨rfl, component_inj hc ha hb hid⟩

end Scope

/-- **Keys of different scopes and sessions are told apart.** Let no two of the texts that are
hashed have the same hash.

* The start of a scope begins no other start.
* A key begins with the start of a scope exactly if it is a key of that scope. So it begins with the
  start of an identity exactly if it is a key of that identity, with the start of a user exactly if
  it is a key of that user, and with the start of all records exactly if it is the key of one.
* Equal keys are keys of one session in one scope. So each family of keys tells all that its keys
  are made from, and no key is of two families. -/
theorem keys_apart (hc : CollisionFree texts) (c d : Scope) (hcw : c.Within texts)
    (hdw : d.Within texts) :
    (d.start <+: c.start ↔ c = d) ∧
    (∀ id, d.start <+: c.key id ↔ c = d) ∧
    ∀ a ∈ texts, ∀ b ∈ texts, c.key a = d.key b → c = d ∧ a = b := by
  have hstart := Scope.start_isPrefix_iff hc hcw hdw
  refine ⟨?_, fun id => ?_, fun a ha b hb => Scope.key_inj hc hcw hdw ha hb⟩
  · simpa only [List.append_nil] using hstart []
  · rw [Scope.key_eq]
    exact hstart (component id)

end Session

namespace Sample

open Session

/-- A few texts. -/
def texts : List String := ["a", "b", "u", "unknown", "f", "p"]

theorem collisionFree : CollisionFree {s | s ∈ texts} := by decide +kernel

/-- Texts with the characters that separate the parts of a key, and the empty text. -/
def separators : List String := ["", "/", "a", "c", "a.b", "b.c", "a/"]

theorem collisionFree_separators : CollisionFree {s | s ∈ separators} := by decide +kernel

/-- Two identities that are alike when their signals are joined by points, and two users of which
one is the beginning of the other. -/
theorem keys_apart_separators :
    CollisionFree {s | s ∈ separators} ∧
    (Scope.identity ⟨"a.b", "c", ""⟩).Within {s | s ∈ separators} ∧
    (Scope.identity ⟨"a", "b.c", ""⟩).Within {s | s ∈ separators} ∧
    (Scope.user "a").Within {s | s ∈ separators} ∧
    (Scope.user "a/").Within {s | s ∈ separators} ∧
    ¬identityStart ⟨"a", "b.c", ""⟩ <+: identityKey ⟨"a.b", "c", ""⟩ "/" ∧
    ¬userStart "a" <+: userKey "a/" "" ∧
    userStart "a" <+: userKey "a" "/" ∧
    ¬recordStart <+: userKey "a" "/" ∧
    userKey "a" "/" ≠ userKey "a/" "" := by
  have hi : (Scope.identity ⟨"a.b", "c", ""⟩).Within {s | s ∈ separators} := by decide
  have hj : (Scope.identity ⟨"a", "b.c", ""⟩).Within {s | s ∈ separators} := by decide
  have hu : (Scope.user "a").Within {s | s ∈ separators} := by decide
  have hv : (Scope.user "a/").Within {s | s ∈ separators} := by decide
  obtain ⟨-, hij, -⟩ := keys_apart collisionFree_separators _ _ hi hj
  obtain ⟨-, hvu, -⟩ := keys_apart collisionFree_separators _ _ hv hu
  obtain ⟨-, huu, -⟩ := keys_apart collisionFree_separators _ _ hu hu
  obtain ⟨-, hrecord, -⟩ := keys_apart collisionFree_separators _ .all hu trivial
  obtain ⟨-, -, hkeys⟩ := keys_apart collisionFree_separators _ _ hu hv
  refine ⟨collisionFree_separators, hi, hj, hu, hv, ?_, ?_, (huu "/").2 rfl, ?_, ?_⟩
  · intro h
    exact absurd ((hij "/").1 h) (by decide)
  · intro h
    exact absurd ((hvu "").1 h) (by decide)
  · intro h
    exact absurd ((hrecord "/").1 h) (by decide)
  · intro h
    exact absurd (hkeys "/" (by decide) "" (by decide) h).1 (by decide)

end Sample

end SessionTokens
