import Mathlib.Algebra.GroupWithZero.Nat
import SessionTokens.Proofs.Session.Book
import SessionTokens.Proofs.Store.AllOrNothing
import SessionTokens.Session.Transaction
/-!
# The size of what is stored

What is stored for a record are its own text and, under two more keys, its id. The keys are as long
for one record as for another. So whether a store takes a record is a matter of the length of its
text, which a new id or a new timestamp changes by as much as they are longer or shorter.

* `allAcceptable_insert_iff`: **an insertion is accepted exactly if all that it stores is**.
* `length_encode_renewed`: **what a new id and a new timestamp add to the text of a record**.
* `FitsIn.renewed`: a record fits where it did before if they add nothing.
-/

namespace SessionTokens

open Session

/-! ## Lengths of texts -/

namespace Json

theorem length_renderMembers {ms : List (Bytes × Json)} (h : ms ≠ []) :
    (renderMembers ms).length + 1 =
      (ms.map fun m => m.1.length + m.2.render.length + 4).sum := by
  induction ms with
  | nil => exact absurd rfl h
  | cons m ms ih =>
    cases ms with
    | nil =>
      simp only [renderMembers, List.length_cons, List.length_append, List.map_cons, List.map_nil,
        List.sum_cons, List.sum_nil]
      omega
    | cons m' ms =>
      have hrest := ih (List.cons_ne_nil m' ms)
      rw [List.map_cons, List.sum_cons, ← hrest]
      simp only [renderMembers, List.length_cons, List.length_append]
      omega

/-- The length of an object with fields. -/
theorem length_render_ofFields {fields : List (String × Json)} (h : fields ≠ []) :
    (ofFields fields).render.length =
      (fields.map fun f => (escape (Text.utf8 f.1)).length + f.2.render.length + 4).sum + 1 := by
  let ms : List (Bytes × Json) := fields.map fun f => (escape (Text.utf8 f.1), f.2)
  have hne : ms ≠ [] := by simpa [ms] using h
  have hmembers := length_renderMembers hne
  rw [List.map_map] at hmembers
  simp only [ofFields, render, List.length_cons, List.length_append, List.length_nil]
  exact congrArg (· + 1) hmembers

theorem length_le_length_escape (bs : Bytes) : bs.length ≤ (escape bs).length := by
  induction bs with
  | nil => exact Nat.zero_le _
  | cons b bs ih =>
    have hbyte : 1 ≤ (escapeByte b).length := by
      unfold escapeByte
      repeat' split
      all_goals simp
    simp only [escape, List.flatMap_cons, List.length_append, List.length_cons] at ih ⊢
    omega

theorem length_render_text (s : String) :
    (text s).render.length = (escape (Text.utf8 s)).length + 2 := by
  simp [text, render]

end Json

/-- A character whose single byte stands for itself in a written string. -/
def Json.IsPlain (c : Char) : Prop := (Json.escape (String.utf8EncodeChar c)).length = 1

theorem Json.length_render_of_isPlain {cs : List Char} (h : ∀ c ∈ cs, IsPlain c) :
    (text (String.ofList cs)).render.length = cs.length + 2 := by
  rw [length_render_text, Text.utf8_ofList]
  induction cs with
  | nil => rfl
  | cons c cs ih =>
    obtain ⟨hc, hcs⟩ := List.forall_mem_cons.1 h
    have hrest := ih hcs
    simp only [IsPlain, escape] at hc
    simp only [escape, List.flatMap_cons, List.flatMap_append, List.length_append,
      List.length_cons] at hrest ⊢
    omega

namespace Timestamp

theorem isPlain_of_mem_padded {width n : Nat} : ∀ c ∈ padded width n, Json.IsPlain c := by
  intro c hc
  have hall : ∀ n < 0x3A, 0x30 ≤ n → Json.IsPlain (Char.ofNat n) := by
    unfold Json.IsPlain
    decide +kernel
  have hbounds : 0x30 ≤ c.toNat ∧ c.toNat ≤ 0x39 := by
    simpa [Char.isDigit, UInt32.le_iff_toNat_le] using isDigit_of_mem_padded hc
  have hplain := hall c.toNat (by omega) hbounds.1
  rwa [Char.ofNat_toNat] at hplain

theorem isPlain_of_mem_signs : ∀ c ∈ ['+', '-', 'T', ':', '.', 'Z'], Json.IsPlain c := by
  simp only [List.forall_mem_cons, List.not_mem_nil, false_implies, implies_true, and_true]
  unfold Json.IsPlain
  decide +kernel

theorem isPlain_of_mem_yearText {year : Int} : ∀ c ∈ yearText year, Json.IsPlain c := by
  unfold yearText
  split
  · exact isPlain_of_mem_padded
  · refine List.forall_mem_cons.2 ⟨?_, isPlain_of_mem_padded⟩
    split <;> exact isPlain_of_mem_signs _ (by decide)

theorem isPlain_of_mem_fractionText {nanos : Nat} :
    ∀ c ∈ fractionText nanos, Json.IsPlain c := by
  have hdot : Json.IsPlain '.' := isPlain_of_mem_signs _ (by decide)
  unfold fractionText
  split
  · exact nofun
  split
  · exact List.forall_mem_cons.2 ⟨hdot, isPlain_of_mem_padded⟩
  split <;> exact List.forall_mem_cons.2 ⟨hdot, isPlain_of_mem_padded⟩

/-- **A timestamp is as long in JSON as by itself**, but for the quotation marks. -/
theorem length_render_write (t : Timestamp) :
    (Json.text t.write).render.length = t.write.length + 2 := by
  have hsigns := isPlain_of_mem_signs
  simp only [List.forall_mem_cons, List.not_mem_nil, false_implies, implies_true, and_true]
    at hsigns
  obtain ⟨-, hminus, hT, hcolon, -, hZ⟩ := hsigns
  unfold write
  dsimp only
  rw [String.length_ofList, Json.length_render_of_isPlain]
  simp only [List.forall_mem_append, List.forall_mem_cons, hminus, hT, hcolon, hZ, true_and]
  simp only [List.not_mem_nil, false_implies, implies_true, and_true]
  exact ⟨⟨⟨⟨⟨⟨isPlain_of_mem_yearText, isPlain_of_mem_padded⟩, isPlain_of_mem_padded⟩,
    isPlain_of_mem_padded⟩, isPlain_of_mem_padded⟩, isPlain_of_mem_padded⟩,
    isPlain_of_mem_fractionText⟩

end Timestamp

/-! ## Records -/

namespace Record

variable {r : Record} {limits : Limits}

/-- **A new id and a new timestamp make a record longer by as much as they are longer.** -/
theorem length_encode_renewed (r : Record) (id : String) (t : Timestamp) :
    ({ r with id := id, createdAt := t } : Record).encode.length +
        (Json.text r.id).render.length + r.createdAt.write.length =
      r.encode.length + (Json.text id).render.length + t.write.length := by
  simp only [encode, toJson, Json.length_render_ofFields (List.cons_ne_nil _ _), List.map_cons,
    List.map_nil, List.sum_cons, List.sum_nil, Timestamp.length_render_write]
  omega

/-- The id of a record is part of its text. -/
theorem length_id_le (r : Record) : (Text.utf8 r.id).length ≤ r.encode.length := by
  have hid := Json.length_le_length_escape (Text.utf8 r.id)
  simp only [encode, toJson, Json.length_render_ofFields (List.cons_ne_nil _ _), List.map_cons,
    List.map_nil, List.sum_cons, List.sum_nil, Json.length_render_text]
  omega

/-- Whether all that is stored for a record is within the size limits. -/
def FitsIn (limits : Limits) (r : Record) : Prop :=
  ∀ b ∈ r.bindings, b.1.length ≤ limits.key ∧ b.2.length ≤ limits.value

/-- The length of the longest of a record's keys, the one by its identity. -/
def keyLength : Nat := 279

theorem length_recordKey (id : String) : (recordKey id).length = 72 := by
  simp only [recordKey, List.length_append, length_component]
  decide +kernel

theorem length_identityKey (i : Identity) (id : String) :
    (identityKey i id).length = keyLength := by
  simp only [identityKey, identityStart, List.length_append, length_component]
  decide +kernel

theorem length_userKey (u id : String) : (userKey u id).length = 145 := by
  simp only [userKey, userStart, List.length_append, length_component]
  decide +kernel

/-- **Whether a record fits is a matter of the length of its text**, in a store that takes its
keys. -/
theorem fitsIn_iff :
    r.FitsIn limits ↔ keyLength ≤ limits.key ∧ r.encode.length ≤ limits.value := by
  have hid := r.length_id_le
  simp only [FitsIn, bindings, List.forall_mem_cons, List.not_mem_nil, false_implies,
    implies_true, and_true, length_recordKey, length_identityKey, length_userKey]
  unfold keyLength
  omega

theorem FitsIn.renewed (h : r.FitsIn limits) {id : String} {t : Timestamp}
    (hid : (Json.text id).render.length ≤ (Json.text r.id).render.length)
    (ht : t.write.length ≤ r.createdAt.write.length) :
    ({ r with id := id, createdAt := t } : Record).FitsIn limits := by
  have hlength := r.length_encode_renewed id t
  obtain ⟨hkey, hvalue⟩ := fitsIn_iff.1 h
  exact fitsIn_iff.2 ⟨hkey, by omega⟩

end Record

/-! ## Insertions -/

theorem find?_pending_insert (t : Txn) (r : Record) (ttl : Duration) (k : Bytes) :
    (Session.insert t r ttl).pending.find? k =
      if k = userKey r.userId r.id then some (.put (Text.utf8 r.id) (some ttl))
      else if k = identityKey r.identity r.id then some (.put (Text.utf8 r.id) (some ttl))
      else if k = recordKey r.id then some (.put r.encode (some ttl))
      else t.pending.find? k := by
  simp [Session.insert, Txn.set, Txn.buffer]

/-- What an insertion writes under the keys of its record. -/
theorem find?_insert_of_mem (t : Txn) (r : Record) (ttl : Duration) {b : Bytes × Bytes}
    (hb : b ∈ r.bindings) :
    (Session.insert t r ttl).pending.find? b.1 = some (.put b.2 (some ttl)) := by
  have hri : recordKey r.id ≠ identityKey r.identity r.id := recordKey_ne_identity _ _ _
  have hru : recordKey r.id ≠ userKey r.userId r.id := recordKey_ne_user _ _ _
  have hiu : identityKey r.identity r.id ≠ userKey r.userId r.id := identity_ne_user _ _ _ _
  rw [find?_pending_insert]
  simp only [Record.bindings, List.mem_cons, List.not_mem_nil, or_false] at hb
  obtain rfl | rfl | rfl := hb <;> simp [hri, hru, hiu]

/-- An insertion into a transaction that has written no values writes those of its record. -/
theorem mem_bindings_of_find?_insert {t : Txn} (hputs : t.pending.puts = ∅) {r : Record}
    {ttl : Duration} {k v : Bytes} {ttl' : Option Duration}
    (h : (Session.insert t r ttl).pending.find? k = some (.put v ttl')) :
    (k, v) ∈ r.bindings ∧ ttl' = some ttl := by
  rw [find?_pending_insert] at h
  simp only [Record.bindings, List.mem_cons, List.not_mem_nil, or_false, Prod.mk.injEq]
  split at h
  · next hk =>
    cases h
    exact ⟨.inr (.inr ⟨hk, rfl⟩), rfl⟩
  split at h
  · next hk =>
    cases h
    exact ⟨.inr (.inl ⟨hk, rfl⟩), rfl⟩
  split at h
  · next hk =>
    cases h
    exact ⟨.inl ⟨hk, rfl⟩, rfl⟩
  · exact absurd h (Pending.find?_ne_put hputs)

/-- **An insertion is accepted exactly if all that it stores is.** -/
theorem allAcceptable_insert_iff {t : Txn} (hputs : t.pending.puts = ∅) {r : Record}
    {ttl : Duration} {limits : Limits} {now : Instant} :
    AllAcceptable limits now (Session.insert t r ttl).pending.find? ↔
      ∀ b ∈ r.bindings, Acceptable limits now b.1 b.2 (some ttl) := by
  constructor
  · exact fun h b hb => h b.1 b.2 (some ttl) (find?_insert_of_mem t r ttl hb)
  · intro h k v ttl' hk
    obtain ⟨hmem, rfl⟩ := mem_bindings_of_find?_insert hputs hk
    exact h _ hmem

/-- A time to live that ends within the calendar is not too long to be told. -/
theorem acceptable_iff {limits : Limits} {now : Instant} (hpos : 0 ≤ now.nanos)
    {key value : Bytes} {ttl : Duration}
    (hrange : (Instant.mk (now.nanos + ttl.nanos)).inRange = true) :
    Acceptable limits now key value (some ttl) ↔
      key.length ≤ limits.key ∧ value.length ≤ limits.value := by
  simp only [Instant.inRange, Bool.and_eq_true, decide_eq_true_eq] at hrange
  refine ⟨fun h => ⟨h.key, h.value⟩, fun h => ⟨h.1, h.2, ?_, ?_⟩⟩
  · rintro _ ⟨⟩
    have hlatest : Instant.latest.nanos = 8210266876799999999999 := rfl
    omega
  · rintro _ ⟨⟩
    exact hrange

end SessionTokens
