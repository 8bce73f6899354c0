import SessionTokens.Proofs.Json.Structure
import SessionTokens.Store.Snapshot
/-!
# Snapshots that were written

**Theorem (`decode_encode`).** The image of a store is read back as the entries of the store that
are live, each with its expiry rounded down to a whole millisecond.

An expiry that lies in the calendar has a count of milliseconds below 2⁶³, so it can be read.
-/

namespace SessionTokens

/-- An expiry as a snapshot keeps it: rounded down to a whole millisecond. -/
def Instant.truncate (t : Instant) : Instant := .ofMillis t.millis

/-- An entry as a snapshot keeps it. -/
def Entry.truncate (e : Entry) : Entry := { e with expiry := e.expiry.map Instant.truncate }

namespace Entries

/-- Entries as a snapshot keeps them. -/
def truncate (es : Entries) : Entries := es.map Entry.truncate

/-- Whether all expiries lie in the calendar. -/
def InCalendar (es : Entries) : Prop :=
  ∀ k e, es.find? k = some e → ∀ t ∈ e.expiry, t.inRange = true

end Entries

theorem Instant.truncate_le (t : Instant) : t.truncate.nanos ≤ t.nanos := by
  simp only [truncate, ofMillis, millis]
  omega

theorem Instant.inRange_truncate {t : Instant} (h : t.inRange = true) :
    t.truncate.inRange = true := by
  simp only [inRange, Bool.and_eq_true, decide_eq_true_eq] at h ⊢
  simp only [earliest, latest, truncate, ofMillis, millis] at h ⊢
  omega

/-- An entry that has lapsed has lapsed for a snapshot too. -/
theorem Entry.isLive_of_truncate {now : Instant} {e : Entry} (h : e.truncate.isLive now = true) :
    e.isLive now = true := by
  obtain ⟨value, expiry⟩ := e
  cases expiry with
  | none => rfl
  | some t =>
    simp only [truncate, isLive, Option.map_some, decide_eq_true_eq] at h ⊢
    exact Int.lt_of_lt_of_le h t.truncate_le

namespace Snapshot

/-- An entry as the item of the document that stands for it. -/
def Item.of (key : Bytes) (e : Entry) : Item :=
  ⟨Text.ascii (Base64.encode .standard key), Text.ascii (Base64.encode .standard e.value),
    e.expiry.map Instant.millis⟩

theorem base64Text_eq (bs : Bytes) :
    base64Text bs = Json.text (Text.ascii (Base64.encode .standard bs)) := by
  have hall : ∀ b ∈ Base64.encode .standard bs, Json.escapeByte b = [b] := by
    simpa using Base64.all_encode (p := fun b => Json.escapeByte b = [b]) (a := .standard)
      (by decide +kernel) (by decide) bs
  have hescape : Json.escape (Base64.encode .standard bs) = Base64.encode .standard bs := by
    rw [Json.escape, List.flatMap_def, List.map_congr_left hall, ← List.flatMap_def,
      List.flatMap_singleton']
  rw [Json.text, Text.utf8_ascii (Base64.all_isAscii_encode _ _), hescape, base64Text]

theorem regular_itemJson (key : Bytes) (e : Entry) : (itemJson key e).Regular := by
  refine Json.regular_ofFields fun f hf => ?_
  rw [base64Text_eq, base64Text_eq] at hf
  cases he : e.expiry with
  | none =>
    simp [he] at hf
    rcases hf with rfl | rfl <;> exact Json.regular_text _
  | some t =>
    simp [he] at hf
    rcases hf with rfl | rfl | rfl
    · exact Json.regular_text _
    · exact Json.regular_text _
    · exact Json.regular_int _

theorem int64?_millis {t : Instant} (h : t.inRange = true) :
    (Json.int t.millis).int64? = some t.millis := by
  simp only [Instant.inRange, Bool.and_eq_true, decide_eq_true_eq] at h
  simp only [Instant.earliest, Instant.latest] at h
  rw [Json.int64?, Json.intIn?, Json.int?_int]
  refine if_pos ?_
  rw [Bool.and_eq_true, decide_eq_true_eq, decide_eq_true_eq, Instant.millis]
  omega

theorem perhaps?_int64? {t : Instant} (h : t.inRange = true) :
    Json.perhaps? Json.int64? (some (.int t.millis)) = some (some t.millis) := by
  show (Json.int t.millis).int64?.map some = _
  rw [int64?_millis h]
  rfl

theorem item?_itemJson {key : Bytes} {e : Entry} (h : ∀ t ∈ e.expiry, t.inRange = true) :
    item? (itemJson key e) = some (Item.of key e) := by
  unfold item? itemJson
  rw [base64Text_eq, base64Text_eq]
  cases he : e.expiry with
  | none =>
    rw [Json.fields?_ofFields (by simp) (by simp)]
    simp [List.lookup_cons, Json.needed?, Json.perhaps?, Item.of, he]
  | some t =>
    rw [Json.fields?_ofFields (by simp) (by simp)]
    simp [List.lookup_cons, Json.needed?, Item.of, he, perhaps?_int64? (h t (by simp [he]))]

/-- Whether the expiries in a list of entries lie in the calendar. -/
def AllInCalendar (ps : List (Bytes × Entry)) : Prop :=
  ∀ p ∈ ps, ∀ t ∈ p.2.expiry, t.inRange = true

theorem mapM_item? {ps : List (Bytes × Entry)} (h : AllInCalendar ps) :
    (ps.map fun p => itemJson p.1 p.2).mapM item? =
      some (ps.map fun p => Item.of p.1 p.2) := by
  induction ps with
  | nil => rfl
  | cons p ps ih =>
    rw [List.map_cons, List.mapM_cons, item?_itemJson (h p List.mem_cons_self),
      ih fun q hq => h q (List.mem_cons_of_mem _ hq)]
    rfl

theorem document?_encode {es : Entries} (h : AllInCalendar es.pairs) :
    document? (encode es) = some ((version : Int), es.pairs.map fun p => Item.of p.1 p.2) := by
  have hitems : ∀ v ∈ es.pairs.map fun p => itemJson p.1 p.2, v.Regular := fun v hv => by
    obtain ⟨p, -, rfl⟩ := List.mem_map.1 hv
    exact regular_itemJson _ _
  have hreg : ∀ f ∈ [("version", Json.int version),
      ("entries", .array (es.pairs.map fun p => itemJson p.1 p.2))], f.2.Regular := by
    simp only [List.forall_mem_cons, List.not_mem_nil, false_implies, implies_true, and_true]
    exact ⟨Json.regular_int _, Json.regular_array hitems⟩
  have hversion : Json.intIn? 0 maxVersion (.int version) = some (version : Int) := by
    rw [Json.intIn?, Json.int?_int]
    rfl
  unfold document? encode
  rw [Json.parse?_render (Json.regular_ofFields hreg), Option.bind_eq_bind, Option.bind_some,
    Json.fields?_ofFields (by simp) (by simp)]
  simp [List.lookup_cons, Json.needed?, hversion, Json.items?, mapM_item? h]

theorem entry_of {key : Bytes} {e : Entry} (h : ∀ t ∈ e.expiry, t.inRange = true) :
    (Item.of key e).entry = .ok (key, e.truncate) := by
  have hexpiry : (Item.of key e).expiry = .ok e.truncate.expiry := by
    obtain ⟨value, expiry⟩ := e
    cases expiry with
    | none => rfl
    | some t =>
      have ht := Instant.inRange_truncate (h t rfl)
      simp only [Instant.truncate] at ht
      simp [Item.expiry, Item.of, Instant.ofMillis?, ht, Entry.truncate, Instant.truncate]
  unfold Item.entry
  rw [hexpiry]
  simp only [Item.of, Text.utf8_ascii (Base64.all_isAscii_encode _ _), Base64.decode?_encode]
  rfl

/-- The items of a document add their live entries. -/
theorem addItems_of (now : Instant) {ps : List (Bytes × Entry)} (h : AllInCalendar ps)
    (hs : ps.Pairwise fun a b => a.1 < b.1) (es : Entries) :
    ∃ es', addItems now es (ps.map fun p => Item.of p.1 p.2) = .ok es' ∧
      ∀ k, es'.find? k =
        (((KeyMap.lookup k ps).map Entry.truncate).filter (Entry.isLive now)).or (es.find? k) := by
  induction ps generalizing es with
  | nil => exact ⟨es, rfl, fun k => rfl⟩
  | cons p ps ih =>
    obtain ⟨key, e⟩ := p
    rw [List.pairwise_cons] at hs
    have hcal : AllInCalendar ps := fun q hq => h q (List.mem_cons_of_mem _ hq)
    obtain ⟨es', hadd, hfind⟩ := ih hcal hs.2
      (if e.truncate.isLive now then es.insert key e.truncate else es)
    refine ⟨es', ?_, fun k => ?_⟩
    · rw [List.map_cons, addItems, entry_of (h _ List.mem_cons_self)]
      exact hadd
    · rw [hfind]
      by_cases hk : k = key
      · subst hk
        have hnone : KeyMap.lookup k ps = none := by
          rw [Option.eq_none_iff_forall_ne_some]
          intro v hv
          exact KeyMap.lt_irrefl k (hs.1 _ ((KeyMap.lookup_eq_some_iff hs.2).1 hv))
        rw [hnone, KeyMap.lookup, if_pos rfl]
        cases hl : e.truncate.isLive now <;> simp [hl, Option.filter]
      · rw [KeyMap.lookup, if_neg hk]
        cases hl : e.truncate.isLive now <;> simp [hk]

/-- **The image of a store reads back as its live entries.** -/
theorem decode_encode {es : Entries} (h : es.InCalendar) (now : Instant) :
    decode (encode es) now = .ok (es.truncate.live now) := by
  have hall : AllInCalendar es.pairs := fun p hp => h p.1 p.2 (KeyMap.mem_pairs_iff.1 hp)
  obtain ⟨es', hadd, hfind⟩ := addItems_of now hall es.sorted ∅
  have heq : es' = es.truncate.live now := KeyMap.ext_find? fun k => by
    rw [hfind, KeyMap.find?_empty, Option.or_none, Entries.live, KeyMap.find?_filter,
      Entries.truncate, KeyMap.find?_map]
    rfl
  rw [decode, document?_encode hall]
  simp only [hadd, heq, if_true]

end Snapshot

end SessionTokens
