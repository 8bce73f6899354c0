import SessionTokens.Proofs.Service.Holdings
import SessionTokens.Proofs.Service.Isolation
/-!
# What opening a session does

**Theorem (`Lawful.opening_exact`).** If a session is opened, then the live sessions are those from
before without the ones of the same device, whoever they belong to, and with one for the request.
It holds what the request said, begins now and is kept for the lifetime of refresh tokens.

**Listings.** The list of a user's sessions afterwards is the list from before, without the evicted
sessions and, if the request was the user's own, with the new session merged in.

**Again and again.** However often the request is repeated, one session is left for its device.
-/

namespace SessionTokens

open Session

/-- Whether a record is that of a session that was opened for a request at an instant. -/
structure Record.OpenedFor (r : Record) (q : SessionRequest) (id : String) (now : Instant) :
    Prop where
  id : r.id = id
  identity : r.identity = ⟨Platform.ofUserAgent q.userAgent, q.fingerprint, q.ip⟩
  userId : r.userId = q.userId
  userAgent : r.userAgent = q.userAgent
  role : r.role = q.role
  rwAccess : r.rwAccess = q.rwAccess
  parentId : r.parentId = q.parentId
  namespaceAccess : (Grant.load r.namespaceAccess : Service.Course (List Grant)) =
    pure q.namespaceAccess
  volumeAccess : (Grant.load r.volumeAccess : Service.Course (List Grant)) = pure q.volumeAccess
  createdAt : r.createdAt = .ofInstant now

theorem SessionRequest.openedFor_record (q : SessionRequest) (id : String) (now : Instant) :
    (q.record id now).OpenedFor q id now :=
  ⟨rfl, rfl, rfl, rfl, rfl, rfl, rfl, Grant.load_store _, Grant.load_store _, rfl⟩

/-! ## Stores in which a session is installed -/

namespace Record

variable {r r' : Record} {w : String} {rs : List Record}

/-- A user's list with a session in place of all of its identity: it is merged in if it is of the
user. -/
def merged (rs : List Record) (r : Record) (w : String) : List Record :=
  (rs.filter fun o => o.identity ≠ r.identity).merge (if r.userId = w then [r] else []) notAfter

theorem mem_merged : r' ∈ merged rs r w ↔
    (r' ∈ rs ∧ r'.identity ≠ r.identity) ∨ (r' = r ∧ r.userId = w) := by
  unfold merged
  rw [List.mem_merge, List.mem_filter]
  by_cases hw : r.userId = w <;> simp [hw]

theorem nodup_merged (h : rs.Nodup) : (merged rs r w).Nodup := by
  have hperm : (merged rs r w).Perm ((rs.filter fun o => o.identity ≠ r.identity) ++
      if r.userId = w then [r] else []) := List.merge_perm_append notAfter
  refine hperm.nodup_iff.2 (List.nodup_append.2 ⟨h.filter _, ?_, ?_⟩)
  · split <;> simp
  · intro a ha b hb
    split at hb
    · rw [List.mem_singleton] at hb
      rintro rfl
      simp [hb] at ha
    · cases hb

theorem inOrder_merged (h : InOrder rs) : InOrder (merged rs r w) := by
  have hkept : InOrder (rs.filter fun o => o.identity ≠ r.identity) := List.Pairwise.filter _ h
  refine List.pairwise_merge (fun a b c => @notAfter_trans a b c) notAfter_total _ _ hkept ?_
  split <;> simp

end Record

namespace Site

variable {texts : Set String} {ids : List String} {x y : Site} {t : Instant} {r : Record}
  {e : Option Instant} {w : String} {rs : List Record}

/-- **A listing after a session has been installed** is the listing from before, without the
sessions that it replaces and with it in its place. -/
theorem Installs.listing (h : x.Installs y t r e) (hl : x.Listing t w rs) :
    y.Listing t w (Record.merged rs r w) := by
  refine ⟨Record.nodup_merged hl.nodup, fun r' => ?_, Record.inOrder_merged hl.inOrder⟩
  rw [Record.mem_merged, hl.mem_iff]
  constructor
  · rintro (⟨⟨hw, e', he'⟩, hi⟩ | ⟨rfl, hw⟩)
    · exact ⟨hw, e', (h _ _).2 (.inr ⟨he', hi⟩)⟩
    · exact ⟨hw, e, (h _ _).2 (.inl ⟨rfl, rfl⟩)⟩
  · rintro ⟨hw, e', he'⟩
    obtain ⟨rfl, -⟩ | ⟨he', hi⟩ := (h _ _).1 he'
    · exact .inr ⟨rfl, hw⟩
    · exact .inl ⟨⟨hw, e', he'⟩, hi⟩

/-- **One session is left for the identity.** -/
theorem Installs.existsUnique (h : x.Installs y t r e) :
    ∃! r', (∃ e', y.Holds t r' e') ∧ r'.identity = r.identity := by
  refine ⟨r, ⟨⟨e, (h r e).2 (.inl ⟨rfl, rfl⟩)⟩, rfl⟩, ?_⟩
  rintro r' ⟨⟨e', he'⟩, hi⟩
  obtain ⟨rfl, -⟩ | ⟨-, hne⟩ := (h r' e').1 he'
  · rfl
  · exact absurd hi hne

/-- Whether open services list the sessions of every user as they did before, but with a session
in place of all of its identity. -/
def ListsWith (texts : Set String) (x y : Site) (clock : Clock) (r : Record) : Prop :=
  ∀ (s : Service) (w : String), s.IsOpen x → w ∈ texts → ∃ rs,
    (s.list x.store clock w).result = .ok (rs.map Record.info) ∧
      x.Listing ⟨clock.nanos⟩ w rs ∧
      (s.list y.store clock w).result = .ok ((Record.merged rs r w).map Record.info) ∧
      y.Listing ⟨clock.nanos⟩ w (Record.merged rs r w)

/-- Whether every step of a list opens a session for a request, by a service whose issuer is
accepted, and succeeds. -/
def Repeats (x : Site) (q : SessionRequest) (steps : List Step) : Prop :=
  ∀ before st after, steps = before ++ st :: after → ∃ s fresh pair config keys,
    st.action = .create s fresh q ∧ Issuer.of config keys = .ok s.issuer ∧
      (s.create (x.run before) st.clock fresh q).outcome.result = .ok pair

end Site

/-! ## The opening of a session -/

section

variable {texts : Set String} {x : Site} {past : List Step} {clock : Clock} {s : Service}
  {fresh : Draw} {q : SessionRequest} {pair : TokenPair} {config : IssuerConfig}
  {keys : TokenKeys}

theorem Lawful.installs_of_create (h : Lawful texts x (past ++ [⟨clock, .create s fresh q⟩]))
    (hissuer : Issuer.of config keys = .ok s.issuer)
    (hok : (s.create (x.run past) clock fresh q).outcome.result = .ok pair) :
    (x.run past).Installs (x.run (past ++ [⟨clock, .create s fresh q⟩])) ⟨clock.nanos⟩
      (q.record pair.id ⟨clock.nanos⟩) (s.lapse ⟨clock.nanos⟩) := by
  obtain ⟨kept, hkept⟩ := h.of_append.intact h.before
  obtain ⟨_, -, hsigns, -⟩ := Service.create_eq_ok hok
  have hlive := s.isBefore_lapse_self (Issuer.lifetimes_of_of hissuer).1 ⟨clock.nanos⟩
  rw [hsigns.id]
  exact h.installs hkept trivial ⟨pair, hok⟩ rfl rfl hlive

theorem Lawful.listsWith_of_installs {st : Step} (h : Lawful texts x (past ++ [st]))
    (hclient : st.action.OfClient) {r : Record} {e : Option Instant}
    (hread : st.clock.read = .ok st.instant)
    (hinstalls : (x.run past).Installs (x.run (past ++ [st])) st.instant r e) :
    Site.ListsWith texts (x.run past) (x.run (past ++ [st])) st.clock r := by
  intro s w hopen hw
  obtain ⟨kept, hkept⟩ := h.of_append.intact h.before
  obtain ⟨kept', hkept'⟩ := h.intact h.until_last
  have hopen' : s.IsOpen (x.run (past ++ [st])) := by
    rw [Site.run_concat]
    exact hopen.step_of_client hclient
  obtain ⟨rs, hlist, hlisting⟩ := hopen.list_eq hkept h.collisionFree hw hread
  obtain ⟨rs', hlist', hlisting'⟩ := hopen'.list_eq hkept' h.collisionFree hw hread
  have hmerged := hinstalls.listing hlisting
  obtain rfl := hlisting'.unique hmerged hkept'
  exact ⟨rs, hlist, hlisting, hlist', hmerged⟩

/-- **The exact effect of opening a session**, in every run. -/
theorem Lawful.opening_exact (h : Lawful texts x (past ++ [⟨clock, .create s fresh q⟩]))
    (hissuer : Issuer.of config keys = .ok s.issuer)
    (hok : (s.create (x.run past) clock fresh q).outcome.result = .ok pair) :
    ∃ r, r.OpenedFor q pair.id ⟨clock.nanos⟩ ∧
      (x.run past).Installs (x.run (past ++ [⟨clock, .create s fresh q⟩])) ⟨clock.nanos⟩ r
        (s.lapse ⟨clock.nanos⟩) ∧
      Site.ListsWith texts (x.run past) (x.run (past ++ [⟨clock, .create s fresh q⟩])) clock r ∧
      ∀ again last, Lawful texts x (past ++ ⟨clock, .create s fresh q⟩ :: again) →
        (x.run (past ++ [⟨clock, .create s fresh q⟩])).Repeats q again →
        (⟨clock, .create s fresh q⟩ :: again).getLast? = some last →
        ∃! r', (∃ e, (x.run (past ++ ⟨clock, .create s fresh q⟩ :: again)).Holds last.instant r'
          e) ∧ r'.identity = r.identity := by
  have hinstalls := h.installs_of_create hissuer hok
  obtain ⟨now, hread, -⟩ := Service.create_eq_ok hok
  obtain rfl := Clock.eq_of_read hread
  refine ⟨_, q.openedFor_record _ _, hinstalls, h.listsWith_of_installs trivial hread hinstalls,
    fun again last hagain hrepeats hlast => ?_⟩
  obtain rfl | ⟨again, st, rfl⟩ := List.eq_nil_or_concat' again
  · cases hlast
    exact hinstalls.existsUnique
  · obtain ⟨s', fresh', pair', config', keys', haction, hissuer', hok'⟩ := hrepeats again st [] rfl
    rw [← List.cons_append, List.getLast?_concat, Option.some.injEq] at hlast
    subst hlast
    obtain ⟨clock', action⟩ := st
    obtain rfl : action = .create s' fresh' q := haction
    rw [← Site.run_append, List.append_assoc, List.singleton_append] at hok'
    rw [← List.cons_append, ← List.append_assoc] at hagain ⊢
    exact (hagain.installs_of_create hissuer' hok').existsUnique

end

namespace Sample

/-- A user opens a session on the device of another. -/
abbrev reopening : Step := ⟨clock, .create service "b" (requestOf "u" "f" "p")⟩

/-- The same user opens a session there once more. -/
abbrev repeating : Step := ⟨clock, .create service "c" (requestOf "u" "f" "p")⟩

set_option maxRecDepth 10000 in
theorem lawful_repeating :
    Lawful {s | s ∈ names} site (neighbours.take 1 ++ reopening :: [repeating]) := by
  have hhashed : ∀ st ∈ neighbours.take 1 ++ reopening :: [repeating], ∀ s ∈ st.texts,
      s ∈ names := by decide +kernel
  exact ⟨⟨rfl, nofun⟩, by decide, by decide, collisionFree_names, hhashed⟩

/-- Two requests of a user leave one session for a device on which another user had one. -/
theorem opening_exact_of_repeating : ∃ pair r,
    (service.create (site.run (neighbours.take 1)) clock "b"
      (requestOf "u" "f" "p")).outcome.result = .ok pair ∧
      r.OpenedFor (requestOf "u" "f" "p") pair.id ⟨0⟩ ∧
      (site.run (neighbours.take 1 ++ [reopening])).Holds ⟨0⟩ r (service.lapse ⟨0⟩) ∧
      ∃! r', (∃ e, (site.run (neighbours.take 1 ++ reopening :: [repeating])).Holds ⟨0⟩ r' e) ∧
        r'.identity = r.identity := by
  obtain ⟨hfirst, hsecond⟩ :
      (service.create (site.run (neighbours.take 1)) clock "b"
          (requestOf "u" "f" "p")).outcome.result.isOk = true ∧
        (service.create ((site.run (neighbours.take 1 ++ [reopening])).run []) repeating.clock "c"
          (requestOf "u" "f" "p")).outcome.result.isOk = true := by decide +kernel
  obtain ⟨pair, hok⟩ := exists_eq_ok hfirst
  obtain ⟨pair', hok'⟩ := exists_eq_ok hsecond
  have hrepeats : (site.run (neighbours.take 1 ++ [reopening])).Repeats (requestOf "u" "f" "p")
      [repeating] := by
    rintro (_ | ⟨st', before⟩) st after heq
    · rw [List.nil_append, List.cons.injEq] at heq
      rw [← heq.1]
      exact ⟨service, "c", pair', service.issuer.config, service.issuer.keys, rfl, rfl, hok'⟩
    · simp at heq
  have hrun : Lawful {s | s ∈ names} site (neighbours.take 1 ++ [reopening] ++ [repeating]) :=
    lawful_repeating
  have hissuer : Issuer.of service.issuer.config service.issuer.keys = .ok service.issuer := rfl
  obtain ⟨r, hopened, hinstalls, -, hagain⟩ := Lawful.opening_exact hrun.of_append hissuer hok
  exact ⟨pair, r, hok, hopened, (hinstalls _ _).2 (.inl ⟨rfl, rfl⟩),
    hagain [repeating] repeating lawful_repeating hrepeats rfl⟩

end Sample

end SessionTokens
