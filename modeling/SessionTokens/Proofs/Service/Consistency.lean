import SessionTokens.Proofs.Service.Invariant
/-!
# The keys of a store and its sessions

**Theorem (`Lawful.consistent_at_every_instant`).** At every instant of a run, the live keys of the
store are exactly the three keys of each live session, all with the expiry of the session, and no
two live sessions have the same identity.

The run may hold failures of any kind; sessions may lapse between any two of its steps; and the
store may have been opened from its file any number of times.
-/

namespace SessionTokens

/-- Whether the live keys of a store are those of its live sessions, each alone with its
identity. -/
structure Site.Consistent (x : Site) (t : Instant) : Prop where
  keys : ∀ k e, (x.store.entries.live t).find? k = some e ↔
    ∃ r, x.Holds t r e.expiry ∧ (k, e.value) ∈ r.bindings
  alone : ∀ r r' expiry expiry', x.Holds t r expiry → x.Holds t r' expiry' →
    r.identity = r'.identity → r = r'

variable {texts : Set String} {ids : List String} {x : Site} {t : Instant}
  {kept : Book (Option Instant)}

theorem Intact.consistent (h : Intact texts ids x t kept) : x.Consistent t := by
  refine ⟨fun k e => ?_, fun r r' expiry expiry' hr hr' hi => ?_⟩
  · rw [← Entries.held?_eq_some]
    constructor
    · intro hk
      obtain ⟨r, hr, hmem⟩ | ⟨hf, -⟩ := h.keys.only k e.value e.expiry hk
      · exact ⟨r, h.holds_iff.2 hr, hmem⟩
      · exact hf.elim
    · rintro ⟨r, hr, hmem⟩
      exact h.keys.present _ r e.expiry (h.holds_iff.1 hr) _ hmem
  · have hrec := h.holds_iff.1 hr
    have hrec' := h.holds_iff.1 hr'
    have hid := h.distinct _ _ _ _ _ _ hrec hrec' hi
    rw [hid, hrec'] at hrec
    cases hrec
    rfl

/-- **The keys of a store are those of its sessions**, at every instant of a run. -/
theorem Lawful.consistent_at_every_instant {steps : List Step} (h : Lawful texts x steps)
    (ht : ∀ st ∈ steps, st.clock.nanos ≤ t.nanos) : (x.run steps).Consistent t := by
  obtain ⟨kept, hkept⟩ := h.intact ht
  exact hkept.consistent

/-- The keys after a session has been opened in the place of another. -/
theorem consistent_of_sample :
    (Sample.site.run (Sample.opening ++ [Sample.checking])).Consistent ⟨Sample.clock.nanos⟩ :=
  Sample.lawful.consistent_at_every_instant (by decide)

end SessionTokens
