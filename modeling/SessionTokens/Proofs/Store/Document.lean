import SessionTokens.Proofs.Store.Durable
/-!
# What the document of a snapshot keeps

A document *keeps* of an entry its value and the whole milliseconds of its expiry, rounded down.

**Theorem (`codec_exact`).** Entries whose expiries lie in the calendar are read back from their
document with the expiries rounded down, and without those that have lapsed by then. Two such maps
have the same document exactly if it keeps the same of both. Whatever document is read, written by a
store or not, the entries that it gives are written to be read again without a change.

Entries that were read have expiries of whole milliseconds within the calendar and are live, so
another round trip finds nothing to round and nothing to drop.
-/

namespace SessionTokens

/-- What a document keeps of an entry: the value, and the milliseconds of the expiry. -/
def Entry.kept (e : Entry) : Bytes × Option Int := (e.value, e.expiry.map Instant.millis)

theorem Instant.millis_truncate (t : Instant) : t.truncate.millis = t.millis := by
  simp only [truncate, ofMillis, millis]
  omega

theorem Entry.kept_truncate (e : Entry) : e.truncate.kept = e.kept := by
  obtain ⟨value, expiry⟩ := e
  cases expiry <;> simp [kept, truncate, Instant.millis_truncate]

/-- An instant that a count of milliseconds gives is in the calendar and is not rounded. -/
theorem Instant.of_ofMillis? {ms : Int} {t : Instant} (h : ofMillis? ms = some t) :
    t.inRange = true ∧ t.truncate = t := by
  unfold ofMillis? at h
  split at h
  · next hrange =>
    cases h
    refine ⟨hrange, ?_⟩
    simp only [truncate, ofMillis, millis]
    congr 1
    omega
  · cases h

/-- Whether an entry is as a document gives it: its expiry, if it has one, lies in the calendar and
is a whole number of milliseconds. -/
def Entry.Rounded (e : Entry) : Prop := ∀ t ∈ e.expiry, t.inRange = true ∧ t.truncate = t

theorem Entry.Rounded.truncate_eq {e : Entry} (h : e.Rounded) : e.truncate = e := by
  obtain ⟨value, expiry⟩ := e
  cases expiry with
  | none => rfl
  | some t => simp [truncate, (h t rfl).2]

namespace Snapshot

variable {es es' : Entries} {now : Instant} {bs : Bytes}

/-! ## Documents and what they keep -/

/-- The members of an item, from its key and what is kept of its entry. -/
def keptJson (key : Bytes) (kept : Bytes × Option Int) : Json :=
  .ofFields <| [("key", base64Text key), ("value", base64Text kept.1)] ++
    match kept.2 with
    | none => []
    | some ms => [("expires_at_ms", .int ms)]

theorem itemJson_eq (key : Bytes) (e : Entry) : itemJson key e = keptJson key e.kept := by
  obtain ⟨value, expiry⟩ := e
  cases expiry <;> rfl

/-- A document depends on what it keeps and on nothing else. -/
theorem encode_congr (h : es.map Entry.kept = es'.map Entry.kept) : encode es = encode es' := by
  have hitems : ∀ es : Entries, (es.pairs.map fun p => itemJson p.1 p.2) =
      (es.map Entry.kept).pairs.map fun p => keptJson p.1 p.2 := by
    intro es
    simp only [KeyMap.map, List.map_map, itemJson_eq]
    rfl
  rw [encode, encode, hitems, hitems, h]

/-- Before the calendar begins, nothing in it has lapsed. -/
theorem live_of_inCalendar (h : es.InCalendar) :
    es.live ⟨Instant.earliest.nanos - 1⟩ = es := by
  refine KeyMap.ext_find? fun k => ?_
  rw [Entries.live, KeyMap.find?_filter]
  cases hfind : es.find? k with
  | none => rfl
  | some e =>
    refine Option.filter_some_pos ?_
    obtain ⟨value, expiry⟩ := e
    cases expiry with
    | none => rfl
    | some t =>
      have hrange := h k _ hfind t rfl
      simp only [Instant.inRange, Bool.and_eq_true, decide_eq_true_eq] at hrange
      simp only [Entry.isLive, decide_eq_true_eq]
      omega

/-- **Two maps have the same document exactly if it keeps the same of both.** -/
theorem encode_eq_encode_iff (h : es.InCalendar) (h' : es'.InCalendar) :
    encode es = encode es' ↔
      ∀ k, (es.find? k).map Entry.kept = (es'.find? k).map Entry.kept := by
  constructor
  · intro heq k
    have hread := decode_encode h ⟨Instant.earliest.nanos - 1⟩
    rw [heq, decode_encode h', live_of_inCalendar h.truncate, live_of_inCalendar h'.truncate]
      at hread
    have hround : es'.truncate = es.truncate := Except.ok.inj hread
    have hkept : ∀ es : Entries,
        (es.truncate.find? k).map Entry.kept = (es.find? k).map Entry.kept := by
      intro es
      rw [Entries.truncate, KeyMap.find?_map, Option.map_map]
      simp [Function.comp_def, Entry.kept_truncate]
    rw [← hkept es, ← hkept es', hround]
  · intro hkept
    refine encode_congr (KeyMap.ext_find? fun k => ?_)
    rw [KeyMap.find?_map, KeyMap.find?_map, hkept]

/-! ## Documents that were read -/

theorem Item.rounded_of_entry {i : Item} {key : Bytes} {e : Entry} (h : i.entry = .ok (key, e)) :
    e.Rounded := by
  unfold Item.entry at h
  obtain ⟨expiry, hexpiry, h⟩ := bind_eq_ok.1 h
  split at h
  · cases h
  split at h
  · cases h
  cases h
  intro t ht
  obtain rfl : expiry = some t := ht
  unfold Item.expiry at hexpiry
  split at hexpiry
  · cases hexpiry
  split at hexpiry
  · next ms _ _ hmillis =>
    cases hexpiry
    exact Instant.of_ofMillis? hmillis
  · cases hexpiry

/-- Whether all entries are live and as a document gives them. -/
def Fresh (now : Instant) (es : Entries) : Prop :=
  ∀ k e, es.find? k = some e → e.isLive now = true ∧ e.Rounded

theorem Fresh.insert (h : Fresh now es) {key : Bytes} {e : Entry} (hlive : e.isLive now = true)
    (hround : e.Rounded) : Fresh now (es.insert key e) := by
  intro k e' hfind
  rw [KeyMap.find?_insert] at hfind
  split at hfind
  · cases hfind
    exact ⟨hlive, hround⟩
  · exact h k e' hfind

/-- Items add entries that are live and rounded, whatever keys repeat among them. -/
theorem Fresh.addItems {items : List Item} (h : Fresh now es)
    (hadd : Snapshot.addItems now es items = .ok es') : Fresh now es' := by
  induction items generalizing es with
  | nil =>
    cases hadd
    exact h
  | cons i items ih =>
    obtain ⟨⟨key, e⟩, hentry, hadd⟩ := bind_eq_ok.1 hadd
    refine ih ?_ hadd
    split
    · next hlive => exact h.insert hlive (Item.rounded_of_entry hentry)
    · exact h

theorem fresh_of_decode (h : decode bs now = .ok es) : Fresh now es := by
  unfold decode at h
  split at h
  · cases h
  split at h
  · refine Fresh.addItems (fun k e hfind => ?_) h
    cases hfind
  · cases h

theorem Fresh.inCalendar (h : Fresh now es) : es.InCalendar :=
  fun k e hfind t ht => ((h k e hfind).2 t ht).1

/-- What is live and rounded is kept as it is. -/
theorem Fresh.truncate_live (h : Fresh now es) : es.truncate.live now = es := by
  refine KeyMap.ext_find? fun k => ?_
  rw [Entries.find?_truncate_live]
  cases hfind : es.find? k with
  | none => rfl
  | some e =>
    obtain ⟨hlive, hround⟩ := h k e hfind
    rw [Option.map_some, hround.truncate_eq, Option.filter_some_pos hlive]

/-- **Documents are exact.**

* Entries whose expiries lie in the calendar are read back with the expiries rounded down to whole
  milliseconds, without those that have lapsed once they are rounded.
* Their documents are the same exactly if the maps have the same keys, with the same values and the
  same milliseconds of the expiries.
* Entries that were read from any document at all are read again from their own. -/
theorem codec_exact (now : Instant) :
    (∀ es : Entries, es.InCalendar → decode (encode es) now = .ok (es.truncate.live now)) ∧
    (∀ es es' : Entries, es.InCalendar → es'.InCalendar → (encode es = encode es' ↔
      ∀ k, (es.find? k).map Entry.kept = (es'.find? k).map Entry.kept)) ∧
    ∀ bs es, decode bs now = .ok es → decode (encode es) now = .ok es := by
  refine ⟨fun es h => decode_encode h now, fun es es' => encode_eq_encode_iff, fun bs es h => ?_⟩
  have hfresh := fresh_of_decode h
  rw [decode_encode hfresh.inCalendar, hfresh.truncate_live]

end Snapshot

namespace Sample

/-- Entries with expiries a nanosecond before 1970 and within the second millisecond of it. -/
def image : Entries :=
  .ofList [([0xFF], ⟨[0], some ⟨-1⟩⟩), ([], ⟨[], some ⟨1999999⟩⟩), ([1], ⟨[2, 3], none⟩)]

/-- The same entries, whose expiries lie elsewhere in the same milliseconds. -/
def otherImage : Entries :=
  .ofList [([0xFF], ⟨[0], some ⟨-1000000⟩⟩), ([], ⟨[], some ⟨1000000⟩⟩), ([1], ⟨[2, 3], none⟩)]

/-- A document of blanks and members in an order of its own, with three items for one key: without
an expiry, as an array that lapses at the third millisecond, and lapsed long ago. -/
def foreignDocument : Bytes := Text.utf8
  "\x7b \"entries\": [\x7b\"value\":\"AA==\",\"key\":\"/w==\"\x7d, [\"/w==\",\"\",3],
    \x7b\"expires_at_ms\":-1,\"key\":\"/w==\",\"value\":\"AQ==\"\x7d], \"version\":1\x7d"

theorem inCalendar_image : image.InCalendar ∧ otherImage.InCalendar := by
  have hcalendar : ∀ ps : List (Bytes × Entry), (∀ p ∈ ps, ∀ t ∈ p.2.expiry, t.inRange = true) →
      ∀ hsorted, Entries.InCalendar ⟨ps, hsorted⟩ := fun ps h hsorted k e hfind t ht =>
    h (k, e) (KeyMap.mem_pairs_iff.2 hfind) t ht
  exact ⟨hcalendar _ (by decide) _, hcalendar _ (by decide) _⟩

theorem codec_exact_foreign :
    image.InCalendar ∧ otherImage.InCalendar ∧
      Snapshot.decode (Snapshot.encode image) ⟨1000000⟩ =
        .ok (.ofList [([1], ⟨[2, 3], none⟩)]) ∧
      Snapshot.encode image = Snapshot.encode otherImage ∧
      ∃ es, Snapshot.decode foreignDocument ⟨2000000⟩ = .ok es ∧
        es.pairs = [([0xFF], ⟨[], some ⟨3000000⟩⟩)] ∧
        Snapshot.decode (Snapshot.encode es) ⟨2000000⟩ = .ok es := by
  obtain ⟨himage, hother⟩ := inCalendar_image
  obtain ⟨hread, hsame, -⟩ := Snapshot.codec_exact ⟨1000000⟩
  have hkept : image.map Entry.kept = otherImage.map Entry.kept := rfl
  have hforeign : (Snapshot.decode foreignDocument ⟨2000000⟩).map KeyMap.pairs =
      .ok [([0xFF], ⟨[], some ⟨3000000⟩⟩)] := by
    decide +kernel
  refine ⟨himage, hother, hread image himage, (hsame _ _ himage hother).2 fun k => ?_, ?_⟩
  · rw [← KeyMap.find?_map, hkept, KeyMap.find?_map]
  · cases hdecode : Snapshot.decode foreignDocument ⟨2000000⟩ with
    | error fault =>
      rw [hdecode] at hforeign
      cases hforeign
    | ok es =>
      rw [hdecode] at hforeign
      exact ⟨es, rfl, Except.ok.inj hforeign, (Snapshot.codec_exact ⟨2000000⟩).2.2 _ _ hdecode⟩

end Sample

end SessionTokens
