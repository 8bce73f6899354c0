import SessionTokens.Grant
import SessionTokens.Proofs.Json.Structure
import SessionTokens.Proofs.Time.Timestamp
import SessionTokens.Session.Record
/-!
# Records and grants that were stored

**Theorem (`decode?_encode_iff`).** A record is read back from its stored form if and only if its
timestamp is valid, whatever characters its texts hold.

**Theorem (`load_store`).** A stored list of grants is loaded as the same list in the same order.
-/

namespace SessionTokens

namespace Record

theorem regular_toJson (r : Record) : r.toJson.Regular := by
  refine Json.regular_ofFields ?_
  simp only [List.forall_mem_cons, List.not_mem_nil, false_implies, implies_true, and_true]
  refine ⟨?_, ?_, ?_, ?_, ?_, ?_, ?_, ?_, ?_, ?_, ?_, ?_⟩
  case refine_8 => trivial
  case refine_11 => exact Json.regular_optional Json.regular_text r.parentId
  all_goals exact Json.regular_text _

/-- A parent's id is read back, and so is the lack of a parent. -/
theorem perhaps?_optional_text (o : Option String) :
    Json.perhaps? Json.text? (some (Json.optional Json.text o)) = some o := by
  cases o with
  | none => rfl
  | some s =>
    show (Json.text s).text?.map some = some (some s)
    rw [Json.text?_text]
    rfl

/-- The fields of a written record in their order. -/
theorem fields?_toJson (r : Record) :
    r.toJson.fields? fieldNames true fieldNames.length =
      some [some (.text r.id), some (.text r.userId), some (.text r.userAgent),
        some (.text r.platform), some (.text r.fingerprint), some (.text r.ip),
        some (.text r.role), some (.bool r.rwAccess), some (.text r.namespaceAccess),
        some (.text r.volumeAccess), some (.optional .text r.parentId),
        some (.text r.createdAt.write)] := by
  rw [toJson, Json.fields?_ofFields (by simp) (by simp [fieldNames])]
  simp [fieldNames, List.lookup_cons]

/-- Of a written record everything is read back but perhaps its timestamp. -/
theorem decode?_encode_eq (r : Record) : decode? r.encode =
    (Timestamp.read? r.createdAt.write).map fun t => { r with createdAt := t } := by
  have hat : timestamp? (.text r.createdAt.write) = Timestamp.read? r.createdAt.write := by
    rw [timestamp?, Json.text?_text, Option.bind_some]
  rw [decode?, encode, Json.parse?_render (regular_toJson r), Option.bind_some]
  unfold ofJson?
  rw [fields?_toJson]
  generalize Timestamp.read? r.createdAt.write = t? at hat
  cases t? <;> simp [Json.needed?, perhaps?_optional_text, hat, Json.bool?]

/-- **A stored record reads back.** -/
theorem decode?_encode {r : Record} (h : r.createdAt.Valid) : decode? r.encode = some r := by
  rw [decode?_encode_eq, Timestamp.read?_write h, Option.map_some]

/-- **A stored record reads back exactly if its timestamp is valid.** -/
theorem decode?_encode_iff {r : Record} (h : r.createdAt.Representable) :
    decode? r.encode = some r ↔ r.createdAt.Valid := by
  refine ⟨fun hback => ?_, decode?_encode⟩
  rw [decode?_encode_eq, Option.map_eq_some_iff] at hback
  obtain ⟨t, hread, heq⟩ := hback
  obtain rfl : t = r.createdAt := congrArg createdAt heq
  exact (Timestamp.read?_write_iff h).1 hread

/-- **A record that was created in a leap second that does not end a minute** is stored like the
same record created in the second after it. -/
theorem encode_of_leap {r : Record} (h : r.createdAt.Representable)
    (hnanos : 1000000000 ≤ r.createdAt.nanos) (hmid : r.createdAt.seconds % 60 ≠ 59) :
    r.encode = encode { r with
      createdAt := ⟨r.createdAt.seconds + 1, r.createdAt.nanos - 1000000000⟩ } := by
  simp only [encode, toJson, Timestamp.write_of_leap h hnanos hmid]

end Record

namespace Grant

theorem regular_toJson (g : Grant) : g.toJson.Regular := by
  refine Json.regular_ofFields ?_
  simp only [List.forall_mem_cons, List.not_mem_nil, false_implies, implies_true, and_true]
  exact ⟨Json.regular_text _, Json.regular_text _, Json.regular_text _⟩

theorem ofJson?_toJson (g : Grant) : ofJson? g.toJson = some g := by
  unfold ofJson? toJson
  rw [Json.fields?_ofFields (by simp) (by simp)]
  simp [List.lookup_cons, Json.needed?]

theorem listOfJson?_listJson (gs : List Grant) : listOfJson? (listJson gs) = some gs := by
  have hall : (gs.map toJson).mapM ofJson? = some gs := by
    rw [List.mapM_map]
    simp only [Function.comp_def, ofJson?_toJson]
    simpa using List.mapM_pure (m := Option) (l := gs) (f := fun g => g)
  have hreg : (Json.array (gs.map toJson)).Regular := Json.regular_array fun v hv => by
    obtain ⟨g, -, rfl⟩ := List.mem_map.1 hv
    exact regular_toJson g
  rw [listOfJson?, listJson, Json.parse?_render hreg]
  exact hall

theorem decode_store (gs : List Grant) : decode (store gs) = .ok gs := by
  rw [decode, store, Text.utf8_ascii (Base64.all_isAscii_encode _ _), Base64.decode?_encode]
  simp only [listOfJson?_listJson]

theorem store_ne_empty (gs : List Grant) : store gs ≠ "" := by
  intro h
  have hd := decode_store gs
  rw [h] at hd
  exact absurd hd (by simp [show decode "" = .error .list by rfl])

/-- **A stored list of grants is loaded as it was.** -/
theorem load_store {ε : Type} (gs : List Grant) :
    (load (store gs) : Traced ε (List Grant)) = pure gs := by
  have hne : (store gs).isEmpty = false := by simpa using store_ne_empty gs
  rw [load, hne, if_neg (by simp), decode_store]

end Grant

end SessionTokens
