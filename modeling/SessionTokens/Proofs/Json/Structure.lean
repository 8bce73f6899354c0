import SessionTokens.Proofs.Json.RoundTrip
/-!
# Structures that were written as objects

An object whose members have different names gives each field the value that was written under its
name, in whatever order the fields are asked for.

* `fields?_ofFields`: **every field of a written structure is found**.
-/

namespace SessionTokens.Json

theorem named?_ofFields (fields : List (String × Json)) :
    named? (fields.map fun f => (escape (Text.utf8 f.1), f.2)) = some fields := by
  rw [named?, List.mapM_map]
  simp only [Function.comp_def, rawText?_escape, Option.map_some]
  simpa using List.mapM_pure (m := Option) (l := fields) (f := id)

theorem only?_eq_lookup {fields : List (String × Json)} (h : (fields.map (·.1)).Nodup)
    (name : String) : only? fields name = some (fields.lookup name) := by
  have hnone : ∀ {fs : List (String × Json)}, name ∉ fs.map (·.1) →
      (fs.filter fun f => f.1 == name) = [] := by
    intro fs hfs
    refine List.filter_eq_nil_iff.2 fun f hf he => hfs ?_
    exact List.mem_map.2 ⟨f, hf, eq_of_beq he⟩
  induction fields with
  | nil => rfl
  | cons f fields ih =>
    obtain ⟨k, v⟩ := f
    rw [List.map_cons, List.nodup_cons] at h
    by_cases hk : k = name
    · subst hk
      simp [only?, hnone h.1]
    · have hk' : (name == k) = false := by simpa using Ne.symm hk
      have ih' := ih h.2
      simp only [only?] at ih' ⊢
      rw [List.filter_cons_of_neg (by simpa using hk), List.lookup_cons, hk']
      exact ih'

/-- **Every field of a written structure is found.** -/
theorem fields?_ofFields {fields : List (String × Json)} {names : List String}
    (h : (fields.map (·.1)).Nodup) (hsub : ∀ f ∈ fields, f.1 ∈ names) (onlyKnown : Bool)
    (least : Nat) :
    (ofFields fields).fields? names onlyKnown least =
      some (names.map fun name => fields.lookup name) := by
  have hall : (fields.all fun m => names.contains m.1) = true := by
    simpa using hsub
  have hmap : ∀ ns : List String,
      ns.mapM (only? fields) = some (ns.map fun name => fields.lookup name) := fun ns => by
    rw [funext (only?_eq_lookup h)]
    exact List.mapM_pure
  simp only [ofFields, fields?, named?_ofFields]
  show (if (onlyKnown && !(fields.all fun m => names.contains m.1)) = true then none
    else names.mapM (only? fields)) = _
  rw [hall, if_neg (by simp), hmap]

end SessionTokens.Json
