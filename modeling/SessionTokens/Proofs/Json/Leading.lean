import Mathlib.Data.List.Forall2
import SessionTokens.Json.Leading
import SessionTokens.Proofs.Json.RoundTrip
/-!
# The beginning of a structure that was written

A structure that was written is well formed to its end, so its fields are found one after another,
each as the text from its value on.

* `leadingFields_ofFields`: **the fields of a written structure are found, all of them, in the
  order in which they were written**, whatever stands behind the structure.
-/

namespace SessionTokens.Json

open Text

/-- What is found of a field: its name, and the text from its value on. -/
def Begins (found : String × Bytes) (field : String × Json) : Prop :=
  found.1 = field.1 ∧ ∃ rest, found.2 = field.2.render ++ rest ∧ EndsNumber rest

/-- The value of a field is found where the field begins. -/
theorem first?_render {v : Json} (hv : v.Regular) {rest : Bytes} (hr : EndsNumber rest) :
    first? (v.render ++ rest) = some (v, rest) := by
  refine valueAt?_render hv ?_ hr
  rw [List.length_append]
  omega

theorem Begins.first? {found : String × Bytes} {field : String × Json} (h : Begins found field)
    (hv : field.2.Regular) : ∃ rest, Json.first? found.2 = some (field.2, rest) := by
  obtain ⟨-, rest, htext, hr⟩ := h
  exact ⟨rest, by rw [htext, first?_render hv hr]⟩

theorem memberName?_escape (name : String) (text : Bytes) :
    memberName? (quote :: (escape (utf8 name) ++ quote :: 0x3A :: text)) = some (name, text) := by
  have hquote : after? [0x22] (skip (quote :: (escape (utf8 name) ++ quote :: 0x3A :: text))) =
      some (escape (utf8 name) ++ quote :: 0x3A :: text) := rfl
  have hcolon : after? [0x3A] (skip (0x3A :: text)) = some text := rfl
  rw [memberName?, hquote]
  simp only [bind, Option.bind, stringEnd?_escape, rawText?_escape, hcolon]
  rfl

/-- One step: the member in front is found, and the search goes on behind the comma that follows
its value, if there is one. -/
theorem leadingMembers_member (name : String) {v : Json} (hv : v.Regular) {rest : Bytes}
    (hr : EndsNumber rest) (n : Nat) :
    leadingMembers (n + 1) (quote :: (escape (utf8 name) ++ quote :: 0x3A :: (v.render ++ rest))) =
      (name, v.render ++ rest) :: match after? [0x2C] (skip rest) with
        | none => []
        | some rest => leadingMembers n rest := by
  have hafter : afterValue? (v.render ++ rest) = after? [0x2C] (skip rest) := by
    rw [afterValue?, first?_render hv hr]
    rfl
  cases hcomma : after? [0x2C] (skip rest) with
  | none => simp only [leadingMembers, memberName?_escape, hafter, hcomma]
  | some tail => simp only [leadingMembers, memberName?_escape, hafter, hcomma]

theorem leadingMembers_render {fields : List (String × Json)} (h : ∀ f ∈ fields, f.2.Regular)
    {n : Nat} (hn : fields.length ≤ n) (rest : Bytes) :
    List.Forall₂ Begins
      (leadingMembers n (renderMembers (fields.map fun f => (escape (utf8 f.1), f.2))
        ++ 0x7D :: rest))
      fields := by
  induction fields generalizing n with
  | nil => cases n <;> exact .nil
  | cons f fields ih =>
    rw [List.forall_mem_cons] at h
    rw [List.length_cons] at hn
    obtain ⟨n, rfl⟩ : ∃ k, n = k + 1 := ⟨n - 1, by omega⟩
    cases fields with
    | nil =>
      have hr : EndsNumber (0x7D :: rest) := endsNumber_cons (by decide) rest
      have hstep := leadingMembers_member f.1 h.1 hr n
      simp only [List.map_cons, List.map_nil, renderMembers, List.cons_append, List.append_assoc]
      rw [hstep]
      exact .cons ⟨rfl, _, rfl, hr⟩ .nil
    | cons g gs =>
      have hrest := ih h.2 (n := n) (by omega)
      rw [List.map_cons] at hrest
      have hr : EndsNumber (0x2C :: (renderMembers ((escape (utf8 g.1), g.2) ::
          gs.map fun f => (escape (utf8 f.1), f.2)) ++ 0x7D :: rest)) :=
        endsNumber_cons (by decide) _
      have hstep := leadingMembers_member f.1 h.1 hr n
      simp only [List.map_cons, renderMembers, List.cons_append, List.append_assoc]
      rw [hstep]
      exact .cons ⟨rfl, _, rfl, hr⟩ hrest

theorem length_le_length_renderMembers (ms : List (Bytes × Json)) :
    ms.length ≤ (renderMembers ms).length := by
  induction ms with
  | nil => exact Nat.le_refl 0
  | cons m ms ih =>
    cases ms with
    | nil => simp [renderMembers]
    | cons m' ms' =>
      simp only [renderMembers, List.length_append, List.length_cons] at ih ⊢
      omega

/-- **The fields of a written structure are found in their order.** -/
theorem leadingFields_ofFields {fields : List (String × Json)} (h : ∀ f ∈ fields, f.2.Regular)
    (names : List String) (rest : Bytes) :
    List.Forall₂ Begins (leadingFields names ((ofFields fields).render ++ rest)) fields := by
  have hlen := length_le_length_renderMembers (fields.map fun f => (escape (utf8 f.1), f.2))
  rw [List.length_map] at hlen
  rw [ofFields, render, List.cons_append, List.cons_append, List.append_assoc,
    List.singleton_append, leadingFields, skip_cons (by decide)]
  refine leadingMembers_render h ?_ rest
  rw [List.length_append]
  omega

end SessionTokens.Json
