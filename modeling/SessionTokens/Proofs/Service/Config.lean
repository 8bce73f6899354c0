import SessionTokens.Proofs.Json.Leading
import SessionTokens.Proofs.Time.Lifetime
import SessionTokens.Proofs.Token.Issued
import SessionTokens.Service.Config
/-!
# Configurations that were written

**Theorem (`ServiceConfig.ofText_toJson`).** Every configuration of a service is read back from its
written form, checked or not: the same issuer with the same lifetimes, and the same medium.

A configuration is read twice over. The fields are looked at one after another for a lifetime whose
parts add up to too much, which breaks reading off, and the text is read as a structure. A lifetime
that was written is never too long, so the first look finds nothing.
-/

namespace SessionTokens

/-! ## Issuer -/

namespace IssuerConfig

open Json (text Begins)

/-- The fields of a configuration as they are written. -/
def fields (c : IssuerConfig) : List (String × Json) :=
  [("algorithm", text c.algorithm.name), ("issuer", text c.issuer),
    ("access_ttl", text (Lifetime.write c.accessTtl)),
    ("refresh_ttl", text (Lifetime.write c.refreshTtl))]

theorem regular_of_mem_fields {c : IssuerConfig} : ∀ f ∈ c.fields, f.2.Regular := by
  simp only [fields, List.forall_mem_cons, List.not_mem_nil, false_implies, implies_true, and_true]
  exact ⟨Json.regular_text _, Json.regular_text _, Json.regular_text _, Json.regular_text _⟩

theorem regular_toJson (c : IssuerConfig) : c.toJson.Regular :=
  Json.regular_ofFields regular_of_mem_fields

theorem lifetime?_write (d : Duration) : lifetime? (text (Lifetime.write d)) = some d := by
  rw [lifetime?, Json.text?_text, Option.bind_some, Lifetime.read_write]
  rfl

theorem ofJson?_toJson (c : IssuerConfig) : ofJson? c.toJson = some c := by
  have halgorithm : algorithm? (text c.algorithm.name) = some c.algorithm := by
    rw [algorithm?, show (text c.algorithm.name).choice? = some c.algorithm.name from
      Json.rawText?_escape _, Option.bind_some, Algorithm.ofName?_name]
  unfold ofJson?
  rw [toJson, Json.fields?_ofFields (by simp) (by simp [fieldNames])]
  simp [fieldNames, List.lookup_cons, Json.needed?, Json.orElse?, halgorithm, lifetime?_write]

theorem isOverflow_write (d : Duration) : isOverflow (text (Lifetime.write d)) = false := by
  rw [isOverflow, Json.text?_text, Option.map_some, Lifetime.read_write]

/-- Fields do not break reading off if no lifetime among them adds up to too much. -/
theorem fieldsAbort_eq_false {found : List (String × Bytes)} {fields : List (String × Json)}
    (h : List.Forall₂ Begins found fields) (hregular : ∀ f ∈ fields, f.2.Regular)
    (hfine : ∀ f ∈ fields, f.1 ∈ fieldNames.drop 2 → isOverflow f.2 = false)
    (names : List String) : fieldsAbort names found = false := by
  induction h generalizing names with
  | nil => rfl
  | @cons b f found fields hb _ ih =>
    rw [List.forall_mem_cons] at hregular hfine
    obtain ⟨rest, hfirst⟩ := hb.first? hregular.1
    have hmore := ih hregular.2 hfine.2 (names.erase b.1)
    rw [fieldsAbort, hfirst]
    simp only [hmore, Bool.and_false]
    split
    · rfl
    split
    · next hover =>
      rw [Bool.and_eq_true, List.contains_iff_mem, hb.1] at hover
      rw [hfine.1 hover.1] at hover
      exact absurd hover.2 Bool.false_ne_true
    · rfl

/-- **A written configuration does not break reading off**, whatever stands behind it. -/
theorem aborts_toJson (c : IssuerConfig) (rest : Bytes) :
    aborts (c.toJson.render ++ rest) = false := by
  have hbegins := Json.leadingFields_ofFields (regular_of_mem_fields (c := c)) fieldNames rest
  refine fieldsAbort_eq_false hbegins regular_of_mem_fields ?_ fieldNames
  simp only [fields, List.forall_mem_cons, List.not_mem_nil, false_implies, implies_true, and_true]
  refine ⟨fun h => absurd h (by decide), fun h => absurd h (by decide), fun _ => ?_, fun _ => ?_⟩
  · exact isOverflow_write c.accessTtl
  · exact isOverflow_write c.refreshTtl

end IssuerConfig

/-! ## Medium -/

namespace Medium

theorem regular_toJson (m : Medium) : m.toJson.Regular := by
  cases m <;>
  · refine Json.regular_ofFields ?_
    simp [Json.regular_text]

theorem ofJson?_ofFields {fields : List (String × Json)} {depth : Nat}
    (h : ∀ f ∈ fields, Json.readable depth f.2 = true) :
    ofJson? (depth + 1) (.ofFields fields) = ofMembers? fields := by
  show (Json.openMembers? (depth + 1) (.ofFields fields)).bind ofMembers? = _
  rw [Json.openMembers?_ofFields h, Option.bind_some]

theorem ofJson?_toJson (m : Medium) (depth : Nat) : ofJson? (depth + 1) m.toJson = some m := by
  cases m with
  | memory =>
    rw [toJson, ofJson?_ofFields (by simp [Json.readable_text])]
    simp [ofMembers?, Json.only?, Json.needed?]
  | file path =>
    rw [toJson, ofJson?_ofFields (by simp [Json.readable_text])]
    simp [ofMembers?, Json.only?, Json.needed?]

end Medium

/-! ## Service -/

namespace ServiceConfig

/-- The fields of a configuration as they are written. -/
def fields (c : ServiceConfig) : List (String × Json) :=
  [("issuer", c.issuer.toJson), ("storage", c.storage.toJson)]

theorem regular_of_mem_fields {c : ServiceConfig} : ∀ f ∈ c.fields, f.2.Regular := by
  simp only [fields, List.forall_mem_cons, List.not_mem_nil, false_implies, implies_true, and_true]
  exact ⟨c.issuer.regular_toJson, c.storage.regular_toJson⟩

theorem ofJson?_toJson (c : ServiceConfig) : ofJson? c.toJson = some c := by
  have hmedium : Medium.ofJson? (Json.maxDepth - 1) c.storage.toJson = some c.storage :=
    c.storage.ofJson?_toJson 125
  unfold ofJson?
  rw [toJson, Json.fields?_ofFields (by simp) (by simp)]
  simp [List.lookup_cons, Json.needed?, Json.orElse?, IssuerConfig.ofJson?_toJson, hmedium]

/-- The issuer's configuration stands first, and it does not break reading off. -/
theorem fieldsAbort_toJson (c : ServiceConfig) :
    fieldsAbort (Json.leadingFields ["issuer", "storage"] c.toJson.render) = false := by
  have hbegins := Json.leadingFields_ofFields (regular_of_mem_fields (c := c))
    ["issuer", "storage"] []
  rw [List.append_nil, fields, ← toJson, List.forall₂_cons_right_iff] at hbegins
  obtain ⟨⟨name, text⟩, found, ⟨hname, rest, htext, -⟩, -, hfound⟩ := hbegins
  rw [hfound, fieldsAbort, if_pos hname, show text = c.issuer.toJson.render ++ rest from htext]
  exact IssuerConfig.aborts_toJson c.issuer rest

theorem ofText_eq (c : ServiceConfig) : ofText c.toJson.render = .ok (some c) := by
  rw [ofText, fieldsAbort_toJson, if_neg Bool.false_ne_true,
    Json.parse?_render (v := c.toJson) (Json.regular_ofFields regular_of_mem_fields),
    Option.bind_some, ofJson?_toJson]

/-- **A written configuration reads back**: the same configuration, both lifetimes to the
nanosecond, so it is found valid, or refused for the same reason, exactly as before. -/
theorem ofText_toJson (c : ServiceConfig) :
    ∃ c', ofText c.toJson.render = .ok (some c') ∧ c' = c ∧
      c'.issuer.accessTtl.nanos = c.issuer.accessTtl.nanos ∧
      c'.issuer.refreshTtl.nanos = c.issuer.refreshTtl.nanos ∧
      c'.issuer.validate = c.issuer.validate :=
  ⟨c, ofText_eq c, rfl, rfl, rfl, rfl⟩

end ServiceConfig

end SessionTokens
