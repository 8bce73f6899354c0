import SessionTokens.Proofs.Json.Fields
import SessionTokens.Proofs.Token.Issued
/-!
# What payloads say

Both halves of a token's claims stand in one flat object. The members *tell* the core claims if
each of the five stands there once with a value of its kind; they tell an extension if its two texts
do, and its parent's id does or is left out. Nothing is said of other members or of their order.

**Theorem (`payload_exact`).** A payload is read exactly as the claims that its members tell, and
claims that are written read back. So a payload that has been read can be written and read again
without a change, and an extension that the members do not tell has gone from then on. It never
takes a core claim along: payloads that agree in the members of the core claims agree in the core
claims, whatever else they hold. Other members do not matter at all, and neither does the order of
members with different names.
-/

namespace SessionTokens

/-! ## What members tell -/

/-- Whether members tell core claims. -/
structure CoreClaims.Told (ms : List (String × Json)) (c : CoreClaims) : Prop where
  id : Json.Tells Json.text? ms "jti" c.id
  issuer : Json.Tells Json.text? ms "iss" c.issuer
  issuedAt : Json.Tells Json.int64? ms "iat" c.issuedAt
  expiresAt : Json.Tells Json.int64? ms "exp" c.expiresAt
  kind : Json.Tells CoreClaims.kind? ms "kind" c.kind

/-- Whether members tell an extension. -/
structure Extension.Told (ms : List (String × Json)) (e : Extension) : Prop where
  userIdHash : Json.Tells Json.text? ms "user_id_hash" e.userIdHash
  role : Json.Tells Json.text? ms "role" e.role
  parentId : Json.MayTell Json.text? ms "parent_token_id" e.parentId

/-- **Core claims are read exactly if they are told.** -/
theorem CoreClaims.told_iff {ms : List (String × Json)} {c : CoreClaims} :
    c.Told ms ↔ ofMembers? ms = some c := by
  simp only [ofMembers?, bind, Option.bind_eq_some_iff]
  constructor
  · rintro ⟨hid, hissuer, hissued, hexpires, hkind⟩
    simp only [Json.tells_iff, Option.bind_eq_some_iff] at hid hissuer hissued hexpires hkind
    obtain ⟨v, hv, hid⟩ := hid
    obtain ⟨w, hw, hissuer⟩ := hissuer
    obtain ⟨x, hx, hissued⟩ := hissued
    obtain ⟨y, hy, hexpires⟩ := hexpires
    obtain ⟨z, hz, hkind⟩ := hkind
    exact ⟨v, hv, _, hid, w, hw, _, hissuer, x, hx, _, hissued, y, hy, _, hexpires, z, hz, _,
      hkind, rfl⟩
  · rintro ⟨v, hv, _, hid, w, hw, _, hissuer, x, hx, _, hissued, y, hy, _, hexpires, z, hz, _,
      hkind, heq⟩
    cases heq
    constructor <;> rw [Json.tells_iff, Option.bind_eq_some_iff]
    exacts [⟨v, hv, hid⟩, ⟨w, hw, hissuer⟩, ⟨x, hx, hissued⟩, ⟨y, hy, hexpires⟩, ⟨z, hz, hkind⟩]

/-- **An extension is read exactly if it is told.** -/
theorem Extension.told_iff {ms : List (String × Json)} {e : Extension} :
    e.Told ms ↔ ofMembers? ms = some e := by
  have hnull : Json.null.text? = none := rfl
  simp only [ofMembers?, bind, Option.bind_eq_some_iff]
  constructor
  · rintro ⟨hhash, hrole, hparent⟩
    rw [Json.mayTell_iff hnull] at hparent
    simp only [Json.tells_iff, Option.bind_eq_some_iff] at hhash hrole hparent
    obtain ⟨v, hv, hhash⟩ := hhash
    obtain ⟨w, hw, hrole⟩ := hrole
    obtain ⟨x, hx, hparent⟩ := hparent
    exact ⟨v, hv, _, hhash, w, hw, _, hrole, x, hx, _, hparent, rfl⟩
  · rintro ⟨v, hv, _, hhash, w, hw, _, hrole, x, hx, _, hparent, heq⟩
    cases heq
    refine ⟨Json.tells_iff.2 ?_, Json.tells_iff.2 ?_, (Json.mayTell_iff hnull).2 ?_⟩ <;>
      rw [Option.bind_eq_some_iff]
    exacts [⟨v, hv, hhash⟩, ⟨w, hw, hrole⟩, ⟨x, hx, hparent⟩]

/-- The names of the members that tell core claims. -/
def CoreClaims.names : List String := ["jti", "iss", "iat", "exp", "kind"]

/-- **Nothing but their own members bears on core claims.** -/
theorem CoreClaims.Told.congr {ms ms' : List (String × Json)} {c : CoreClaims}
    (h : Json.Agree CoreClaims.names ms ms') (htold : c.Told ms) : c.Told ms' where
  id := (Json.Tells.congr h (by simp [names])).1 htold.id
  issuer := (Json.Tells.congr h (by simp [names])).1 htold.issuer
  issuedAt := (Json.Tells.congr h (by simp [names])).1 htold.issuedAt
  expiresAt := (Json.Tells.congr h (by simp [names])).1 htold.expiresAt
  kind := (Json.Tells.congr h (by simp [names])).1 htold.kind

/-- The names of the members that tell an extension. -/
def Extension.names : List String := ["user_id_hash", "role", "parent_token_id"]

/-- **Nothing but their own members bears on extensions.** -/
theorem Extension.Told.congr {ms ms' : List (String × Json)} {e : Extension}
    (h : Json.Agree Extension.names ms ms') (htold : e.Told ms) : e.Told ms' where
  userIdHash := (Json.Tells.congr h (by simp [names])).1 htold.userIdHash
  role := (Json.Tells.congr h (by simp [names])).1 htold.role
  parentId := (Json.MayTell.congr h (by simp [names])).1 htold.parentId

theorem Json.bounds_of_int64? {v : Json} {n : Int} (h : v.int64? = some n) :
    -0x8000000000000000 ≤ n ∧ n ≤ 0x7FFFFFFFFFFFFFFF := by
  unfold int64? intIn? at h
  split at h
  · split at h
    · next hbounds =>
      cases h
      simpa using hbounds
    · cases h
  · cases h

/-- The times of core claims that are told are seconds of sixty-four bits with a sign. -/
theorem CoreClaims.Told.inSeconds {ms : List (String × Json)} {c : CoreClaims} (h : c.Told ms) :
    Claims.InSeconds c := by
  obtain ⟨_, -, hissued⟩ := h.issuedAt
  obtain ⟨_, -, hexpires⟩ := h.expiresAt
  exact ⟨Json.bounds_of_int64? hissued, Json.bounds_of_int64? hexpires⟩

namespace Claims

variable {ms ms' : List (String × Json)} {payload payload' : Bytes} {c : Claims}

/-! ## What is read -/

/-- **Claims are read exactly if they are told**, and without an extension exactly if none is
told. -/
theorem ofMembers?_eq_some_iff :
    ofMembers? ms = some c ↔ c.core.Told ms ∧ ∀ e, c.ext = some e ↔ e.Told ms := by
  simp only [ofMembers?, Option.map_eq_some_iff, CoreClaims.told_iff, Extension.told_iff]
  constructor
  · rintro ⟨core, hcore, rfl⟩
    exact ⟨hcore, fun e => Iff.rfl⟩
  · rintro ⟨hcore, hext⟩
    refine ⟨c.core, hcore, ?_⟩
    rw [← Option.ext hext]

theorem decode?_eq_some_iff : decode? payload = some c ↔
    ∃ ms, members? payload = some ms ∧ c.core.Told ms ∧ ∀ e, c.ext = some e ↔ e.Told ms := by
  rw [decode?, Option.bind_eq_some_iff]
  simp only [ofMembers?_eq_some_iff]

theorem decode?_encode (h : InSeconds c.core) : decode? c.encode = some c := by
  rw [decode?, members?_encode h, Option.bind_some, ofMembers?_fields h]

/-- Core claims depend on their own members alone. -/
theorem core_congr (h : Json.Agree CoreClaims.names ms ms') :
    CoreClaims.ofMembers? ms = CoreClaims.ofMembers? ms' := by
  ext core
  rw [← CoreClaims.told_iff, ← CoreClaims.told_iff]
  exact ⟨.congr h, .congr h.symm⟩

/-- An extension depends on its own members alone. -/
theorem ext_congr (h : Json.Agree Extension.names ms ms') :
    Extension.ofMembers? ms = Extension.ofMembers? ms' := by
  ext e
  rw [← Extension.told_iff, ← Extension.told_iff]
  exact ⟨.congr h, .congr h.symm⟩

theorem map_core_ofMembers? (ms : List (String × Json)) :
    (ofMembers? ms).map core = CoreClaims.ofMembers? ms := by
  rw [ofMembers?, Option.map_map]
  exact Option.map_id'

/-- **Payloads are read exactly, and written to be read.**

* Claims with any texts and any times of sixty-four bits read back from the payload that they are
  written to.
* A payload is read as the claims that its members tell: an extension is there exactly if they tell
  one.
* What has been read is written with the members of these claims and no others, and reads back.
* Payloads whose core claims' members agree have the same core claims, or none.
* No other members than those of the two halves bear on what is read, and neither does the order of
  members with different names. -/
theorem payload_exact :
    (∀ c : Claims, InSeconds c.core → decode? c.encode = some c) ∧
    (∀ payload c, decode? payload = some c ↔
      ∃ ms, members? payload = some ms ∧ c.core.Told ms ∧ ∀ e, c.ext = some e ↔ e.Told ms) ∧
    (∀ payload c, decode? payload = some c →
      InSeconds c.core ∧ members? c.encode = some c.fields ∧ decode? c.encode = some c) ∧
    ∀ payload payload' ms ms', members? payload = some ms → members? payload' = some ms' →
      (Json.Agree CoreClaims.names ms ms' →
        (decode? payload).map core = (decode? payload').map core) ∧
      (Json.Agree (CoreClaims.names ++ Extension.names) ms ms' →
        decode? payload = decode? payload') := by
  refine ⟨fun c => decode?_encode, fun payload c => decode?_eq_some_iff, ?_, ?_⟩
  · intro payload c h
    obtain ⟨ms, -, htold, -⟩ := decode?_eq_some_iff.1 h
    exact ⟨htold.inSeconds, members?_encode htold.inSeconds, decode?_encode htold.inSeconds⟩
  · intro payload payload' ms ms' hms hms'
    rw [decode?, decode?, hms, hms', Option.bind_some, Option.bind_some]
    refine ⟨fun hagree => ?_, fun hagree => ?_⟩
    · rw [map_core_ofMembers?, map_core_ofMembers?, core_congr hagree]
    · rw [ofMembers?, ofMembers?, core_congr (hagree.mono (List.subset_append_left _ _)),
        ext_congr (hagree.mono (List.subset_append_right _ _))]

/-- Claims at the limits of their times, with a text that has to be escaped. Their payload with one
more role, which spoils the extension and nothing else, and the one with the members turned
round. -/
theorem payload_exact_spoilt :
    let core : CoreClaims :=
      ⟨"\x00\"\\😀", "", -0x8000000000000000, 0x7FFFFFFFFFFFFFFF, .refresh⟩
    let full : Claims := ⟨core, some ⟨"", "😀", none⟩⟩
    let spoilt := (Json.ofFields (("role", .int 1) :: full.fields)).render
    let turned := (Json.ofFields full.fields.reverse).render
    decode? full.encode = some full ∧ decode? spoilt = some ⟨core, none⟩ ∧
      decode? (Claims.encode ⟨core, none⟩) = some ⟨core, none⟩ ∧
      (decode? full.encode).map Claims.core = (decode? spoilt).map Claims.core ∧
      decode? full.encode = decode? turned := by
  intro core full spoilt turned
  have hfull : InSeconds full.core := ⟨by decide, by decide⟩
  have hspoilt : decode? spoilt = some ⟨core, none⟩ := by decide +kernel
  have hregular : ∀ f ∈ ("role", Json.int 1) :: full.fields, f.2.Regular :=
    List.forall_mem_cons.2 ⟨Json.regular_int 1, forall_fields (p := Json.Regular)
      Json.regular_text (Json.regular_int _) (Json.regular_int _)⟩
  have hreadable : ∀ f ∈ ("role", Json.int 1) :: full.fields, Json.readable 126 f.2 = true :=
    List.forall_mem_cons.2 ⟨Json.readable_int (by decide) 126,
      forall_fields (p := fun v => Json.readable 126 v = true)
        (fun s => Json.readable_text s 126) (Json.readable_int (by decide) 126)
        (Json.readable_int (by decide) 126)⟩
  have hmembers : ∀ fs ⊆ ("role", Json.int 1) :: full.fields,
      members? (Json.ofFields fs).render = some fs := fun fs hsub =>
    members?_ofFields (fun f hf => hregular f (hsub hf)) fun f hf => hreadable f (hsub hf)
  have hmembersFull := members?_encode hfull
  have hmembersSpoilt : members? spoilt = some (("role", .int 1) :: full.fields) :=
    hmembers _ (List.Subset.refl _)
  have hmembersTurned : members? turned = some full.fields.reverse :=
    hmembers _ fun f hf => List.mem_cons_of_mem _ (List.mem_reverse.1 hf)
  have hcore : Json.Agree CoreClaims.names full.fields (("role", .int 1) :: full.fields) := by
    intro name hname
    have hrole : "role" ≠ name := by
      rintro rfl
      exact absurd hname (by decide)
    rw [List.filter_cons_of_neg (by simpa using hrole)]
  have hboth : Json.Agree (CoreClaims.names ++ Extension.names) full.fields
      full.fields.reverse := by
    simp [Json.Agree, CoreClaims.names, Extension.names, full, fields, CoreClaims.fields,
      Extension.fields]
  exact ⟨payload_exact.1 full hfull, hspoilt, (payload_exact.2.2.1 spoilt _ hspoilt).2.2,
    (payload_exact.2.2.2 _ _ _ _ hmembersFull hmembersSpoilt).1 hcore,
    (payload_exact.2.2.2 _ _ _ _ hmembersFull hmembersTurned).2 hboth⟩

end Claims

end SessionTokens
