import Mathlib.Data.List.Pairwise
import SessionTokens.Proofs.Service.Provenance
import SessionTokens.Proofs.Token.Verify
/-!
# Which request an id descends from

A run tells by what its steps ask for alone, and not by how they go, which request the session of
an id could go back to: `Descends` is `Lineage` without the successes.

**Theorem (`Descends.unique`).** An id descends from one request only, since every id is generated
once. So all sessions that a run ever opens under an id are of the same user and device, whichever
of its steps take place.
-/

namespace SessionTokens

open Session

/-- Whether the steps of a run hold a request for a session and a chain of rotations from its id
to another, told by what the steps ask for and not by how they go. -/
inductive Descends (steps : List Step) (q : SessionRequest) : String → Prop
  | opened {s : Service} {clock : Clock} {fresh : Draw} :
    ⟨clock, .create s fresh q⟩ ∈ steps → Descends steps q fresh.id
  | rotated {s : Service} {clock : Clock} {fresh : Draw} {token fingerprint id : String} :
    ⟨clock, .extend s fresh token fingerprint⟩ ∈ steps → Issuer.namedId? token = some id →
    Descends steps q id → Descends steps q fresh.id

theorem Descends.mono {steps steps' : List Step} {q : SessionRequest} {id : String}
    (h : Descends steps q id) (hsub : steps ⊆ steps') : Descends steps' q id := by
  induction h with
  | opened hmem => exact .opened (hsub hmem)
  | rotated hmem hid _ ih => exact .rotated (hsub hmem) hid ih

theorem Descends.exists_create {steps : List Step} {q : SessionRequest} {id : String}
    (h : Descends steps q id) : ∃ clock s fresh, ⟨clock, .create s fresh q⟩ ∈ steps := by
  induction h with
  | opened hmem => exact ⟨_, _, _, hmem⟩
  | rotated _ _ _ ih => exact ih

/-- Steps that generate the same id are the same. -/
theorem eq_of_fresh {steps : List Step} (h : (freshIds steps).Nodup) {a b : Step} (ha : a ∈ steps)
    (hb : b ∈ steps) {id : String} (hida : a.action.fresh? = some id)
    (hidb : b.action.fresh? = some id) : a = b := by
  by_contra hne
  have hpairs := List.pairwise_filterMap.1 h
  have : Std.Symm fun st st' : Step => ∀ i, st.action.fresh? = some i →
      ∀ j, st'.action.fresh? = some j → i ≠ j :=
    ⟨fun st st' hst i hi j hj => (hst j hj i hi).symm⟩
  exact hpairs.forall ha hb hne id hida id hidb rfl

/-- **An id descends from one request only.** -/
theorem Descends.unique {steps : List Step} (hfresh : (freshIds steps).Nodup)
    {q q' : SessionRequest} {id : String} (h : Descends steps q id) (h' : Descends steps q' id) :
    q = q' := by
  induction h with
  | @opened _ _ fresh hmem =>
    generalize hdrawn : fresh.id = id at h'
    cases h' with
    | opened hmem' =>
      cases eq_of_fresh hfresh hmem hmem' rfl (congrArg some hdrawn.symm)
      rfl
    | rotated hmem' _ _ => cases eq_of_fresh hfresh hmem hmem' rfl (congrArg some hdrawn.symm)
  | @rotated _ _ fresh _ _ _ hmem hid _ ih =>
    generalize hdrawn : fresh.id = id at h'
    cases h' with
    | opened hmem' => cases eq_of_fresh hfresh hmem hmem' rfl (congrArg some hdrawn.symm)
    | rotated hmem' hid' h' =>
      cases eq_of_fresh hfresh hmem hmem' rfl (congrArg some hdrawn.symm)
      rw [hid] at hid'
      cases hid'
      exact ih h'

theorem Lineage.descends {x : Site} {q : SessionRequest} {steps : List Step} {id : String}
    (h : Lineage x q steps id) : Descends steps q id := by
  induction h with
  | opened hok =>
    obtain ⟨_, -, hsigns, -⟩ := Service.create_eq_ok hok
    rw [hsigns.id]
    exact .opened (List.mem_append_right _ List.mem_cons_self)
  | rotated _ hv hok ih =>
    obtain ⟨_, _, _, -, -, -, -, hsigns, -⟩ := Service.extend_eq_ok hok
    rw [hsigns.id]
    exact .rotated (List.mem_append_right _ List.mem_cons_self) (Issuer.namedId?_of_verify hv)
      (ih.mono (List.subset_append_left _ _))
  | later st _ ih => exact ih.mono (List.subset_append_left _ _)

theorem Lineage.append {x : Site} {q : SessionRequest} {past : List Step} {id : String}
    (h : Lineage x q past id) (more : List Step) : Lineage x q (past ++ more) id := by
  induction more using List.reverseRecOn with
  | nil => rwa [List.append_nil]
  | append_singleton more st ih =>
    rw [← List.append_assoc]
    exact .later st ih

/-! ## Users and devices -/

/-- Whether an id is that of a session of a user in a run. -/
def SessionOf (x : Site) (steps : List Step) (u id : String) : Prop :=
  ∃ q, Lineage x q steps id ∧ q.userId = u

variable {x : Site} {b : Book (Option Instant)} {steps : List Step} {v : String}

/-- Whether every session of a book descends from a request in a run, and is of its user and
device. -/
def Book.Descended (steps : List Step) (b : Book (Option Instant)) : Prop :=
  ∀ id r m, b id = some (r, m) →
    ∃ q, Descends steps q id ∧ r.userId = q.userId ∧ r.identity = q.identity

theorem Book.Traceable.descended {past steps : List Step} (h : b.Traceable x past)
    (hsub : past ⊆ steps) : b.Descended steps := by
  intro id r m hr
  obtain ⟨q, hq, hfollows⟩ := h id r m hr
  exact ⟨q, hq.descends.mono hsub, hfollows.userId, hfollows.identity⟩

/-- What a book holds under the id of a user's session is a session of that user. -/
theorem SessionOf.userId_eq {id : String} (hid : SessionOf x steps v id)
    (hfresh : (freshIds steps).Nodup) (h : b.Descended steps) {r : Record} {m : Option Instant}
    (hr : b id = some (r, m)) : r.userId = v := by
  obtain ⟨q, hq, hv⟩ := hid
  obtain ⟨q', hq', huser, -⟩ := h id r m hr
  obtain rfl := hq.descends.unique hfresh hq'
  exact huser.trans hv

end SessionTokens
