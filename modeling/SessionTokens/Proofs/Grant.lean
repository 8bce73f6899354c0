import SessionTokens.Proofs.Json.Fields
import SessionTokens.Proofs.Session.Codec
import SessionTokens.Proofs.Text.Base64
/-!
# The lists that stored texts denote

A stored text *denotes* a list of grants if it is the padded base64 of a JSON array, of whatever
layout, whose elements denote the grants in their order. An element denotes a grant if it is an
object that tells each of the three fields once, among any other members, or the array of the three
fields.

**Theorem (`load_exact`).** A list that was stored is what its text denotes, and it is loaded in
its order without a warning. Whatever the text, either it denotes one list, and this list is loaded
without a warning, or it denotes none, and no grants are loaded: without a warning if the text is
empty, and with the one warning that names its fault if it is not.

So grants are never lost silently: the empty list is loaded without a warning only where the text
denotes it, or is empty.
-/

namespace SessionTokens.Grant

variable {v : Json} {g g' : Grant} {gs gs' : List Grant} {text : String} {bs : Bytes}

/-! ## What is denoted -/

/-- Whether a JSON value denotes a grant. -/
inductive Denoted (g : Grant) : Json → Prop
  /-- An object that tells the three fields, among any other members with sound names. -/
  | object {members : List (Bytes × Json)} {ms : List (String × Json)}
      (names : Json.named? members = some ms) (id : Json.Tells Json.text? ms "id" g.id)
      (label : Json.Tells Json.text? ms "label" g.label)
      (access : Json.Tells Json.text? ms "access" g.access) : Denoted g (.object members)
  /-- The array of the three fields. -/
  | array {id label access : Json} (idText : id.text? = some g.id)
      (labelText : label.text? = some g.label) (accessText : access.text? = some g.access) :
      Denoted g (.array [id, label, access])

/-- Whether a JSON text is an array that denotes a list of grants. -/
def ListDenoted (gs : List Grant) (bs : Bytes) : Prop :=
  ∃ items, Json.parse? bs = some (.array items) ∧ List.Forall₂ (fun v g => Denoted g v) items gs

/-- Whether a text is the padded base64 of given bytes. -/
def IsBase64Of (text : String) (bs : Bytes) : Prop :=
  Text.utf8 text = Base64.encode .standard bs

/-- Whether a stored text denotes a list of grants. -/
def Stored (text : String) (gs : List Grant) : Prop := ∃ bs, IsBase64Of text bs ∧ ListDenoted gs bs

/-- Whether a fault is what is wrong with a text that denotes no list. -/
def Fault.Of (text : String) : Fault → Prop
  | .base64 => ∀ bs, ¬IsBase64Of text bs
  | .list => ∃ bs, IsBase64Of text bs ∧ ∀ gs, ¬ListDenoted gs bs

/-! ## What is read -/

/-- A grant is read from its three fields, wherever they have been found. -/
theorem ofJson?_of_fields : ofJson? v = some g ↔
    ∃ id label access, v.fields? ["id", "label", "access"] false 3 = some [id, label, access] ∧
      Json.needed? Json.text? id = some g.id ∧ Json.needed? Json.text? label = some g.label ∧
      Json.needed? Json.text? access = some g.access := by
  simp only [ofJson?, bind, Option.bind_eq_some_iff]
  constructor
  · rintro ⟨fields, hfields, hread⟩
    split at hread
    · next id label access =>
      simp only [Option.bind_eq_some_iff] at hread
      obtain ⟨_, hid, _, hlabel, _, haccess, heq⟩ := hread
      cases heq
      exact ⟨id, label, access, hfields, hid, hlabel, haccess⟩
    · cases hread
  · rintro ⟨id, label, access, hfields, hid, hlabel, haccess⟩
    refine ⟨_, hfields, ?_⟩
    simp only [hid, hlabel, haccess, Option.bind_some]
    rfl

theorem ofJson?_object {members : List (Bytes × Json)} :
    ofJson? (.object members) = some g ↔ ∃ ms, Json.named? members = some ms ∧
      Json.Tells Json.text? ms "id" g.id ∧ Json.Tells Json.text? ms "label" g.label ∧
      Json.Tells Json.text? ms "access" g.access := by
  have hfields : ∀ id label access,
      (Json.object members).fields? ["id", "label", "access"] false 3 = some [id, label, access] ↔
        ∃ ms, Json.named? members = some ms ∧ Json.only? ms "id" = some id ∧
          Json.only? ms "label" = some label ∧ Json.only? ms "access" = some access := by
    intro id label access
    simp only [Json.fields?, bind, Option.bind_eq_some_iff, Bool.false_and, Bool.false_eq_true,
      if_false, Json.mapM_eq_some_iff]
    simp [List.forall₂_cons]
  simp only [ofJson?_of_fields, hfields, Json.tells_iff, Option.bind_eq_some_iff]
  constructor
  · rintro ⟨id, label, access, ⟨ms, hms, hid, hlabel, haccess⟩, hidText, hlabelText, haccessText⟩
    exact ⟨ms, hms, ⟨id, hid, hidText⟩, ⟨label, hlabel, hlabelText⟩, ⟨access, haccess, haccessText⟩⟩
  · rintro ⟨ms, hms, ⟨id, hid, hidText⟩, ⟨label, hlabel, hlabelText⟩, access, haccess, haccessText⟩
    exact ⟨id, label, access, ⟨ms, hms, hid, hlabel, haccess⟩, hidText, hlabelText, haccessText⟩

theorem ofJson?_array {vs : List Json} :
    ofJson? (.array vs) = some g ↔ ∃ id label access, vs = [id, label, access] ∧
      id.text? = some g.id ∧ label.text? = some g.label ∧ access.text? = some g.access := by
  rw [ofJson?_of_fields]
  constructor
  · rintro ⟨_, _, _, hfields, hid, hlabel, haccess⟩
    have hlength : vs.length = 3 := by
      simp only [Json.fields?] at hfields
      split at hfields
      · next h =>
        simp at h
        omega
      · cases hfields
    obtain ⟨id, label, access, rfl⟩ := List.length_eq_three.1 hlength
    cases hfields
    exact ⟨id, label, access, rfl, hid, hlabel, haccess⟩
  · rintro ⟨id, label, access, rfl, hid, hlabel, haccess⟩
    exact ⟨some id, some label, some access, rfl, hid, hlabel, haccess⟩

/-- **A value is read as a grant exactly if it denotes it.** -/
theorem ofJson?_eq_some_iff : ofJson? v = some g ↔ Denoted g v := by
  constructor
  · intro h
    cases v with
    | object members =>
      obtain ⟨ms, names, id, label, access⟩ := ofJson?_object.1 h
      exact .object names id label access
    | array vs =>
      obtain ⟨id, label, access, rfl, hid, hlabel, haccess⟩ := ofJson?_array.1 h
      exact .array hid hlabel haccess
    | _ => cases h
  · intro h
    cases h with
    | object names id label access => exact ofJson?_object.2 ⟨_, names, id, label, access⟩
    | array hid hlabel haccess =>
      exact ofJson?_array.2 ⟨_, _, _, rfl, hid, hlabel, haccess⟩

theorem listOfJson?_eq_some_iff : listOfJson? bs = some gs ↔ ListDenoted gs bs := by
  have hitems : ∀ {v : Json} {items : List Json}, v.items? = some items ↔ v = .array items := by
    intro v items
    cases v <;> simp [Json.items?]
  simp only [listOfJson?, ListDenoted, bind, Option.bind_eq_some_iff, Json.mapM_eq_some_iff,
    ofJson?_eq_some_iff, hitems]
  constructor
  · rintro ⟨_, hparse, items, rfl, hdenoted⟩
    exact ⟨items, hparse, hdenoted⟩
  · rintro ⟨items, hparse, hdenoted⟩
    exact ⟨_, hparse, items, rfl, hdenoted⟩

theorem isBase64Of_iff : IsBase64Of text bs ↔ Base64.decode? .standard (Text.utf8 text) = some bs :=
  Base64.decode?_eq_some_iff.symm

/-- **A stored text is read as a list exactly if it denotes it.** -/
theorem decode_eq_ok_iff : decode text = .ok gs ↔ Stored text gs := by
  simp only [Stored, isBase64Of_iff, ← listOfJson?_eq_some_iff]
  unfold decode
  split
  · next h => simp [h]
  · next bs h =>
    split
    · next hnone => simp [h, hnone]
    · next gs' hsome => simp [h, hsome]

/-- **A stored text is refused exactly for its fault.** -/
theorem decode_eq_error_iff {fault : Fault} : decode text = .error fault ↔ fault.Of text := by
  cases fault with
  | base64 =>
    simp only [Fault.Of, isBase64Of_iff]
    unfold decode
    split
    · next h => simp [h]
    · next bs h => split <;> simp [h]
  | list =>
    simp only [Fault.Of, isBase64Of_iff, ← listOfJson?_eq_some_iff]
    unfold decode
    split
    · next h => simp [h]
    · next bs h =>
      split
      · next hnone => simp [h, hnone]
      · next gs' hsome => simp [h, hsome]

theorem Stored.unique (h : Stored text gs) (h' : Stored text gs') : gs = gs' := by
  rw [← decode_eq_ok_iff] at h h'
  rw [h] at h'
  cases h'
  rfl

theorem not_stored_empty : ¬Stored "" gs := by
  rw [← decode_eq_ok_iff]
  intro h
  cases h

/-! ## What is loaded -/

section
variable {ε : Type}

theorem load_of_stored (h : Stored text gs) :
    (load text : Traced ε (List Grant)) = ⟨[], .ok gs⟩ := by
  have hne : text.isEmpty = false := by
    rw [String.isEmpty_eq_false_iff]
    rintro rfl
    exact not_stored_empty h
  rw [load, hne, if_neg (by simp), decode_eq_ok_iff.2 h]
  rfl

theorem load_of_fault {fault : Fault} (hne : text ≠ "") (h : fault.Of text) :
    (load text : Traced ε (List Grant)) = ⟨[.noted .warn fault.message []], .ok []⟩ := by
  have hne' : text.isEmpty = false := by simpa using hne
  rw [load, hne', if_neg (by simp), decode_eq_error_iff.2 h]
  rfl

/-- **Stored lists are loaded exactly.** A list of any length, of grants with any texts, is loaded
from its stored form in its order and without a warning. From any text at all, the one list that it
denotes is loaded without a warning; if it denotes none, no grants are loaded, and a warning that
names what is wrong with the text is noted exactly if there is a text. -/
theorem load_exact :
    (∀ gs : List Grant, Stored (store gs) gs ∧
      (load (store gs) : Traced ε (List Grant)) = ⟨[], .ok gs⟩) ∧
    ∀ text : String,
      (∃ gs, (∀ gs', Stored text gs' ↔ gs' = gs) ∧
        (load text : Traced ε (List Grant)) = ⟨[], .ok gs⟩) ∨
      (∀ gs, ¬Stored text gs) ∧
        (text = "" ∧ (load text : Traced ε (List Grant)) = ⟨[], .ok []⟩ ∨
          text ≠ "" ∧ ∃ fault : Fault, fault.Of text ∧
            (load text : Traced ε (List Grant)) = ⟨[.noted .warn fault.message []], .ok []⟩) := by
  refine ⟨fun gs => ?_, fun text => ?_⟩
  · have hstored : Stored (store gs) gs := decode_eq_ok_iff.1 (decode_store gs)
    exact ⟨hstored, load_of_stored hstored⟩
  cases hdecode : decode text with
  | ok gs =>
    have hstored : Stored text gs := decode_eq_ok_iff.1 hdecode
    refine .inl ⟨gs, fun gs' => ⟨fun h => h.unique hstored, ?_⟩, load_of_stored hstored⟩
    rintro rfl
    exact hstored
  | error fault =>
    have hnone : ∀ gs, ¬Stored text gs := by
      intro gs hstored
      rw [decode_eq_ok_iff.2 hstored] at hdecode
      cases hdecode
    have hfault : fault.Of text := decode_eq_error_iff.1 hdecode
    refine .inr ⟨hnone, ?_⟩
    by_cases hempty : text = ""
    · subst hempty
      exact .inl ⟨rfl, rfl⟩
    · exact .inr ⟨hempty, fault, hfault, load_of_fault hempty hfault⟩

/-- The stored text of `[["a", "b", "c"]]`, a grant by its fields alone. -/
example : (load "W1siYSIsICJiIiwgImMiXV0=" : Traced ε (List Grant)) =
    ⟨[], .ok [⟨"a", "b", "c"⟩]⟩ := by
  rfl

end

end SessionTokens.Grant
