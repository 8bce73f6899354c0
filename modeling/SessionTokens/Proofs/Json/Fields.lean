import Mathlib.Data.List.Forall2
import SessionTokens.Proofs.Json.Structure
/-!
# What a structure says

The readers of `Json.Read` take a structure apart field by field. Here it is said what has to stand
in a structure for a field to be read as a given value, without a word about how it is found: the
member of that name stands there *exactly once*, and its value is read as the field's.

* `tells_iff`, `mayTell_iff`: **a field is read exactly if the structure tells it**.
* `Tells.congr`: **only the members of a field's own name matter**, in whatever order and among
  whatever others they stand.
-/

namespace SessionTokens.Json

variable {α β : Type} {ms ms' : List (String × Json)} {name : String} {v : Json}
  {read : Json → Option α} {a : α}

/-! ## Members that stand once -/

/-- Whether a name has a given value among members: it stands there exactly once. -/
def Gives (ms : List (String × Json)) (name : String) (v : Json) : Prop :=
  ms.filter (fun m => m.1 == name) = [(name, v)]

/-- Whether no member has a given name. -/
def Lacks (ms : List (String × Json)) (name : String) : Prop :=
  ms.filter (fun m => m.1 == name) = []

theorem gives_iff : Gives ms name v ↔ only? ms name = some (some v) := by
  unfold Gives only?
  constructor
  · intro h
    rw [h]
  · intro h
    split at h
    · cases h
    · next m hm =>
      cases h
      have hmem : m ∈ ms.filter fun m => m.1 == name := by
        rw [hm]
        exact List.mem_singleton_self m
      rw [hm, ← eq_of_beq (List.mem_filter.1 hmem).2]
    · cases h

theorem lacks_iff : Lacks ms name ↔ only? ms name = some none := by
  unfold Lacks only?
  constructor
  · intro h
    rw [h]
  · intro h
    split at h
    · assumption
    · cases h
    · cases h

/-! ## Fields -/

/-- Whether members tell a field that has to be given: its name stands there once, with a value
that is read as the field's. -/
def Tells (read : Json → Option α) (ms : List (String × Json)) (name : String) (a : α) : Prop :=
  ∃ v, Gives ms name v ∧ read v = some a

/-- Whether members tell a field that may be left out: nothing is told if its name does not stand
there or has the value `null`. -/
def MayTell (read : Json → Option α) (ms : List (String × Json)) (name : String) :
    Option α → Prop
  | none => Lacks ms name ∨ Gives ms name .null
  | some a => Tells read ms name a

/-- **A field that has to be given is read exactly if it is told.** -/
theorem tells_iff : Tells read ms name a ↔ (only? ms name).bind (needed? read) = some a := by
  simp only [Tells, gives_iff, Option.bind_eq_some_iff]
  constructor
  · rintro ⟨v, hv, ha⟩
    exact ⟨some v, hv, ha⟩
  · rintro ⟨_ | v, hv, ha⟩
    · cases ha
    · exact ⟨v, hv, ha⟩

/-- **A field that may be left out is read exactly if it is told.** -/
theorem mayTell_iff {o : Option α} (hnull : read .null = none) :
    MayTell read ms name o ↔ (only? ms name).bind (perhaps? read) = some o := by
  have hvalue : ∀ v, v ≠ Json.null → perhaps? read (some v) = (read v).map some := by
    intro v hv
    cases v <;> first | rfl | exact absurd rfl hv
  simp only [Option.bind_eq_some_iff]
  constructor
  · intro h
    cases o with
    | none =>
      obtain hlacks | hgives := h
      · exact ⟨none, lacks_iff.1 hlacks, rfl⟩
      · exact ⟨some .null, gives_iff.1 hgives, rfl⟩
    | some a =>
      obtain ⟨v, hv, ha⟩ := h
      refine ⟨some v, gives_iff.1 hv, ?_⟩
      rw [hvalue v (by rintro rfl; rw [hnull] at ha; cases ha), ha]
      rfl
  · rintro ⟨_ | v, hv, ho⟩
    · cases ho
      exact .inl (lacks_iff.2 hv)
    · by_cases hnullValue : v = .null
      · subst hnullValue
        cases ho
        exact .inr (gives_iff.2 hv)
      · rw [hvalue v hnullValue] at ho
        obtain ⟨a, ha, rfl⟩ := Option.map_eq_some_iff.1 ho
        exact ⟨v, gives_iff.2 hv, ha⟩

/-- Whether two lists of members agree in what stands under given names. -/
def Agree (names : List String) (ms ms' : List (String × Json)) : Prop :=
  ∀ name ∈ names, ms.filter (fun m => m.1 == name) = ms'.filter (fun m => m.1 == name)

theorem Agree.symm {names : List String} (h : Agree names ms ms') : Agree names ms' ms :=
  fun name hname => (h name hname).symm

theorem Agree.mono {names names' : List String} (h : Agree names ms ms') (hsub : names' ⊆ names) :
    Agree names' ms ms' := fun name hname => h name (hsub hname)

/-- **Only the members of a field's own name matter.** -/
theorem Tells.congr {names : List String} (h : Agree names ms ms') (hname : name ∈ names) :
    Tells read ms name a ↔ Tells read ms' name a := by
  unfold Tells Gives
  rw [h name hname]

theorem MayTell.congr {names : List String} {o : Option α} (h : Agree names ms ms')
    (hname : name ∈ names) : MayTell read ms name o ↔ MayTell read ms' name o := by
  cases o with
  | none =>
    unfold MayTell Lacks Gives
    rw [h name hname]
  | some a => exact Tells.congr h hname

/-! ## Lists -/

/-- A list is read exactly if each of its elements is. -/
theorem mapM_eq_some_iff {f : α → Option β} {as : List α} {bs : List β} :
    as.mapM f = some bs ↔ List.Forall₂ (fun a b => f a = some b) as bs := by
  induction as generalizing bs with
  | nil =>
    rw [List.mapM_nil, List.forall₂_nil_left_iff]
    exact Option.some_inj.trans eq_comm
  | cons a as ih =>
    rw [List.mapM_cons, List.forall₂_cons_left_iff]
    simp only [bind, Option.bind_eq_some_iff, ih]
    constructor
    · rintro ⟨b, hb, bs', hbs, heq⟩
      cases heq
      exact ⟨b, bs', hb, hbs, rfl⟩
    · rintro ⟨b, bs', hb, hbs, rfl⟩
      exact ⟨b, hb, bs', hbs, rfl⟩

end SessionTokens.Json
