import SessionTokens.Proofs.Session.Refinement
/-!
# What lookups touch

A lookup through an index finds ids and goes on to the records that are stored under them. What it
reads there was written by some insertion, as was the key of the index, but perhaps by another one
of the same id.

**Theorem (`looksUp_of_deeds`).** Whatever transactions have been made on an empty store, at
whatever times, committed, failed or dropped, a listing or a removal for a user touches a record
only if it was inserted, and a record with its id was inserted for that user; for identities alike.
So as long as no id is inserted for two users or two identities, lookups touch only what belongs to
the user or the identity.

Inserting an id again for another user leaves the index key of the first one behind: then a lookup
for the first user does touch the record of the second (`Sample.lookups_touch_reinserted`).
-/

namespace SessionTokens

open Session

variable {texts : Set String} {rs rs' : List Record} {t : Txn} {x : Site}

/-! ## Where keys stem from -/

/-- Whether some record of a list has a key with a value. -/
def Binds (rs : List Record) (k v : Bytes) : Prop := ∃ r ∈ rs, (k, v) ∈ r.bindings

theorem Binds.mono (hsub : rs ⊆ rs') {k v : Bytes} (h : Binds rs k v) : Binds rs' k v := by
  obtain ⟨r, hr, hkv⟩ := h
  exact ⟨r, hsub hr, hkv⟩

/-- Whether the values that are buffered stem from records of a list. -/
def Pending.Stems (rs : List Record) (p : Pending) : Prop :=
  ∀ k v ttl, p.find? k = some (.put v ttl) → Binds rs k v

/-- Whether the entries stem from records of a list. -/
def Entries.Stem (rs : List Record) (es : Entries) : Prop :=
  ∀ k e, es.find? k = some e → Binds rs k e.value

/-- Whether all that a transaction sees stems from records of a list. -/
structure Txn.Stems (rs : List Record) (t : Txn) : Prop where
  entries : t.entries.Stem rs
  pending : t.pending.Stems rs

namespace Txn.Stems

/-- What is read stems from a record. -/
theorem get (h : t.Stems rs) {k v : Bytes} (hget : t.get k = .ok (some v)) : Binds rs k v := by
  unfold Txn.get at hget
  split at hget
  · next w hw =>
    cases w with
    | delete => cases hget
    | put value ttl =>
      cases hget
      exact h.pending k v ttl hw
  · obtain ⟨now, -, hvalue⟩ := bind_eq_ok.1 hget
    have hsome : t.entries.value? now k = some v := Except.ok.inj hvalue
    obtain ⟨e, he, rfl⟩ := Option.map_eq_some_iff.1 hsome
    exact h.entries k e (Option.filter_eq_some_iff.1 he).1

/-- What a scan gives has its beginning, and stems from records. -/
theorem beginning (h : t.Stems rs) {start : Bytes} {ps : List (Bytes × Bytes)}
    (hps : t.beginning start = .ok ps) {k v : Bytes} (hkv : (k, v) ∈ ps) :
    start <+: k ∧ Binds rs k v := by
  obtain ⟨now, hread, -⟩ := bind_eq_ok.1 hps
  obtain ⟨ps', hps', -, hmem⟩ := Txn.beginning_eq hread start
  rw [hps] at hps'
  cases hps'
  obtain ⟨hpre, lease, hseen⟩ := (hmem k v).1 hkv
  refine ⟨hpre, h.get ?_⟩
  rw [Txn.get_eq hread, hseen]
  rfl

theorem delete (h : t.Stems rs) (k : Bytes) : (t.delete k).Stems rs := by
  refine ⟨h.entries, fun k' v ttl hput => ?_⟩
  simp only [Txn.delete, Txn.buffer, KeyMap.find?_insert] at hput
  split at hput
  · cases hput
  · exact h.pending k' v ttl hput

theorem set (h : t.Stems rs) {k v : Bytes} (hkv : Binds rs k v) (ttl : Option Duration) :
    (t.set k v ttl).Stems rs := by
  refine ⟨h.entries, fun k' v' ttl' hput => ?_⟩
  simp only [Txn.set, Txn.buffer, KeyMap.find?_insert] at hput
  split at hput
  · next hk =>
    cases hput
    exact hk ▸ hkv
  · exact h.pending k' v' ttl' hput

theorem insert (h : t.Stems rs) {r : Record} (hr : r ∈ rs) (ttl : Duration) :
    (Session.insert t r ttl).Stems rs := by
  have hbinds : ∀ b ∈ r.bindings, Binds rs b.1 b.2 := fun b hb => ⟨r, hr, hb⟩
  simp only [Record.bindings, List.forall_mem_cons] at hbinds
  obtain ⟨hrecord, hidentity, huser, -⟩ := hbinds
  exact ((h.set hrecord _).set hidentity _).set huser _

theorem remove (h : t.Stems rs) (r : Record) : (Session.remove t r).Stems rs :=
  ((h.delete _).delete _).delete _

/-- Removing only deletes keys. -/
theorem removeEach (h : t.Stems rs) (found : List (Bytes × String)) :
    (Session.removeEach t found).1.Stems rs := by
  induction found generalizing t with
  | nil => exact h
  | cons p rest ih =>
    unfold Session.removeEach
    split
    · exact h
    · exact ih (h.delete _)
    · exact ih (h.remove _)

theorem removeIndexed (h : t.Stems rs) (start : Bytes) :
    (Session.removeIndexed t start).1.Stems rs := by
  unfold Session.removeIndexed
  split
  · exact h
  · exact h.removeEach _

end Txn.Stems

/-! ## What is found -/

/-- Whether the records of a list can be stored and read back. -/
def Storable (texts : Set String) (rs : List Record) : Prop :=
  ∀ r ∈ rs, r.Within texts ∧ r.createdAt.Valid

/-- Whether a record belongs to a list in which a record of its id passes a test. -/
structure Touchable (rs : List Record) (belongs : Record → Prop) (r : Record) : Prop where
  inserted : r ∈ rs
  before : ∃ r' ∈ rs, r'.id = r.id ∧ belongs r'

/-- A record that is read was inserted, under the id that it is read by. -/
theorem Txn.Stems.mem_of_get (hc : CollisionFree texts) (hrs : Storable texts rs) (h : t.Stems rs)
    {id : String} (hid : id ∈ texts) {r : Record} (hget : Session.get t id = .ok (some r)) :
    r ∈ rs ∧ r.id = id := by
  unfold Session.get at hget
  obtain ⟨v?, hv, hread⟩ := bind_eq_ok.1 hget
  cases v? with
  | none => cases hread
  | some v =>
    obtain ⟨r', hr', hbinding⟩ := h.get (Halt.ofAbort_eq_ok.1 hv)
    obtain ⟨hw, hvalid⟩ := hrs r' hr'
    simp only [Record.bindings, List.mem_cons, Prod.mk.injEq, List.not_mem_nil, or_false]
      at hbinding
    obtain ⟨hkey, rfl⟩ | ⟨hkey, -⟩ | ⟨hkey, -⟩ := hbinding
    · have hrecord : Except.ok (some r') = (Except.ok (some r) : Outcome (Option Record)) := by
        rw [← hread, readOptional, readRecord, Record.decode?_encode hvalid]
        rfl
      cases hrecord
      exact ⟨hr', (recordKey_inj hc hid hw.id hkey).symm⟩
    · exact absurd hkey (recordKey_ne_identity _ _ _)
    · exact absurd hkey (recordKey_ne_user _ _ _)

/-- Whether keys and ids that were found stem from records that pass a test. None of the keys is one
by id. -/
def Leads (texts : Set String) (rs : List Record) (belongs : Record → Prop)
    (found : List (Bytes × String)) : Prop :=
  ∀ p ∈ found, (∀ id, recordKey id ≠ p.1) ∧ p.2 ∈ texts ∧ ∃ r ∈ rs, r.id = p.2 ∧ belongs r

/-- A scan of an index leads to ids of records that belong to it. -/
theorem Txn.Stems.leads (hrs : Storable texts rs) (h : t.Stems rs) {start : Bytes}
    {belongs : Record → Bool} (hix : IsIndex texts start belongs)
    (hne : ∀ id r, recordKey id ≠ start ++ r) {found : List (Bytes × String)}
    (hfound : Session.index t start = .ok found) :
    Leads texts rs (fun r => belongs r = true) found := by
  intro p hp
  unfold Session.index at hfound
  cases hscan : t.beginning start with
  | error cause =>
    rw [hscan] at hfound
    cases hfound
  | ok ps =>
    rw [hscan] at hfound
    cases hfound
    obtain ⟨⟨k, v⟩, hkv, rfl⟩ := List.mem_map.1 hp
    obtain ⟨hpre, r, hr, hbinding⟩ := h.beginning hscan hkv
    obtain ⟨hbelongs, rfl, rfl⟩ := hix.only r (hrs r hr).1 k v hbinding hpre
    refine ⟨fun id => hne id _, ?_, r, hr, ?_, hbelongs⟩
    · rw [Text.lossy_utf8]
      exact (hrs r hr).1.id
    · rw [Text.lossy_utf8]

/-! ## What is listed and removed -/

theorem mem_collect {get : String → Outcome (Option Record)} {ids : List String}
    {out : List Record} (h : collect get ids = .ok out) {r : Record} (hr : r ∈ out) :
    ∃ id ∈ ids, get id = .ok (some r) := by
  induction ids generalizing out with
  | nil =>
    cases h
    cases hr
  | cons id ids ih =>
    obtain ⟨r?, hget, h⟩ := bind_eq_ok.1 h
    obtain ⟨rest, hrest, h⟩ := bind_eq_ok.1 h
    cases h
    obtain hfirst | hlater := List.mem_append.1 hr
    · rw [Option.mem_toList.1 hfirst] at hget
      exact ⟨id, List.mem_cons_self, hget⟩
    · obtain ⟨id', hid', hget'⟩ := ih hrest hlater
      exact ⟨id', List.mem_cons_of_mem id hid', hget'⟩

/-- A record that an index leads to is one that may be touched. -/
theorem Txn.Stems.touchable (hc : CollisionFree texts) (hrs : Storable texts rs) (h : t.Stems rs)
    {belongs : Record → Prop} {found : List (Bytes × String)}
    (hfound : Leads texts rs belongs found) {p : Bytes × String} (hp : p ∈ found) {r : Record}
    (hget : Session.get t p.2 = .ok (some r)) : Touchable rs belongs r := by
  obtain ⟨-, hid, r', hr', hid', hbelongs⟩ := hfound p hp
  obtain ⟨hr, hrid⟩ := h.mem_of_get hc hrs hid hget
  exact ⟨hr, r', hr', hid'.trans hrid.symm, hbelongs⟩

theorem Txn.Stems.listUser (hc : CollisionFree texts) (hrs : Storable texts rs) (h : t.Stems rs)
    {u : String} (hu : u ∈ texts) {out : List Record} (hlist : Session.listUser t u = .ok out) :
    ∀ r ∈ out, Touchable rs (·.userId = u) r := by
  intro r hr
  obtain ⟨found, hfound, hlist⟩ := bind_eq_ok.1 hlist
  obtain ⟨records, hrecords, hsorted⟩ := bind_eq_ok.1 hlist
  cases hsorted
  have hleads := h.leads hrs (isIndex_user hc hu) (fun id r => recordKey_ne_user id u r) hfound
  obtain ⟨id, hid, hget⟩ := mem_collect hrecords (List.mem_mergeSort.1 hr)
  obtain ⟨p, hp, rfl⟩ := List.mem_map.1 hid
  have htouch := h.touchable hc hrs hleads hp hget
  exact ⟨htouch.inserted, by simpa using htouch.before⟩

theorem get_delete_of_ne {key : Bytes} {id : String} (h : recordKey id ≠ key) :
    Session.get (t.delete key) id = Session.get t id := by
  rw [Session.get, Txn.delete, Txn.get_buffer, if_neg h, Session.get]

theorem get_remove_of_ne (hc : CollisionFree texts) {r : Record} {id : String} (hid : id ∈ texts)
    (hr : r.id ∈ texts) (h : id ≠ r.id) :
    Session.get (Session.remove t r) id = Session.get t id := by
  have hrecord : recordKey id ≠ recordKey r.id := fun hkey => h (recordKey_inj hc hid hr hkey)
  have hidentity : recordKey id ≠ identityKey r.identity r.id := recordKey_ne_identity _ _ _
  have huser : recordKey id ≠ userKey r.userId r.id := recordKey_ne_user _ _ _
  rw [Session.remove, get_delete_of_ne huser, get_delete_of_ne hidentity, get_delete_of_ne hrecord]

/-- Whether a removal gives and removes no records but those that it may touch. -/
structure RemovesOnly (texts : Set String) (may : Record → Prop) (t t' : Txn)
    (removed : Outcome (List Record)) : Prop where
  given : ∀ out, removed = .ok out → ∀ r ∈ out, may r
  kept : ∀ id ∈ texts, Session.get t' id = Session.get t id ∨
    ∃ r, Session.get t id = .ok (some r) ∧ may r

/-- **Removing what index entries lead to removes only what they lead to.** -/
theorem Txn.Stems.removesOnly (hc : CollisionFree texts) (hrs : Storable texts rs) (h : t.Stems rs)
    {belongs : Record → Prop} {found : List (Bytes × String)}
    (hfound : Leads texts rs belongs found) :
    RemovesOnly texts (Touchable rs belongs) t (Session.removeEach t found).1
      (Session.removeEach t found).2 := by
  induction found generalizing t with
  | nil =>
    refine ⟨fun out hout r hr => ?_, fun _ _ => .inl rfl⟩
    cases hout
    cases hr
  | cons p rest ih =>
    obtain ⟨hp, hrest⟩ := List.forall_mem_cons.1 hfound
    obtain ⟨key, id⟩ := p
    unfold Session.removeEach
    cases hget : Session.get t id with
    | error e =>
      refine ⟨fun out hout r hr => ?_, fun _ _ => .inl rfl⟩
      cases hout
    | ok r? =>
      cases r? with
      | none =>
        obtain ⟨hgiven, hkept⟩ := ih (h.delete key) hrest
        refine ⟨hgiven, fun id' hid' => ?_⟩
        have hkept' := hkept id' hid'
        rwa [get_delete_of_ne (hp.1 id')] at hkept'
      | some r =>
        have htouch : Touchable rs belongs r :=
          h.touchable hc hrs hfound List.mem_cons_self hget
        obtain ⟨hgiven, hkept⟩ := ih (h.remove r) hrest
        refine ⟨fun out hout r' hr' => ?_, fun id' hid' => ?_⟩
        · replace hout : (Session.removeEach (Session.remove t r) rest).2.map (r :: ·) = .ok out :=
            hout
          cases hout' : (Session.removeEach (Session.remove t r) rest).2 with
          | error e =>
            rw [hout'] at hout
            cases hout
          | ok out' =>
            rw [hout'] at hout
            cases hout
            obtain rfl | hr' := List.mem_cons.1 hr'
            · exact htouch
            · exact hgiven out' hout' r' hr'
        · obtain ⟨hr, hrid⟩ := h.mem_of_get hc hrs hp.2.1 hget
          by_cases hsame : id' = r.id
          · exact .inr ⟨r, by rw [hsame, hrid]; exact hget, htouch⟩
          · have hkept' := hkept id' hid'
            rwa [get_remove_of_ne hc hid' (hrs r hr).1.id hsame] at hkept'

theorem RemovesOnly.imp {may may' : Record → Prop} {t t' : Txn} {removed : Outcome (List Record)}
    (h : RemovesOnly texts may t t' removed) (himp : ∀ r, may r → may' r) :
    RemovesOnly texts may' t t' removed := by
  refine ⟨fun out hout r hr => himp r (h.given out hout r hr), fun id hid => ?_⟩
  obtain hsame | ⟨r, hr, hmay⟩ := h.kept id hid
  · exact .inl hsame
  · exact .inr ⟨r, hr, himp r hmay⟩

theorem Txn.Stems.removesOnly_indexed (hc : CollisionFree texts) (hrs : Storable texts rs)
    (h : t.Stems rs) {start : Bytes} {belongs : Record → Bool} (hix : IsIndex texts start belongs)
    (hne : ∀ id r, recordKey id ≠ start ++ r) :
    RemovesOnly texts (Touchable rs fun r => belongs r = true) t
      (Session.removeIndexed t start).1 (Session.removeIndexed t start).2 := by
  unfold Session.removeIndexed
  cases hfound : Session.index t start with
  | error e => exact ⟨nofun, fun _ _ => .inl rfl⟩
  | ok found => exact h.removesOnly hc hrs (h.leads hrs hix hne hfound)

theorem result_evict (t : Txn) (i : Identity) :
    (Session.evict t i).2.result = (Session.removeIndexed t (identityStart i)).2 := by
  unfold Session.evict
  obtain ⟨t', _ | out⟩ := Session.removeIndexed t (identityStart i)
  · rfl
  · cases out <;> rfl

theorem result_removeUser (t : Txn) (u : String) :
    (Session.removeUser t u).2.result = (Session.removeIndexed t (userStart u)).2 := by
  unfold Session.removeUser
  obtain ⟨t', _ | out⟩ := Session.removeIndexed t (userStart u) <;> rfl

theorem Txn.Stems.removesOnly_evict (hc : CollisionFree texts) (hrs : Storable texts rs)
    (h : t.Stems rs) {i : Identity} (hi : i.Within texts) :
    RemovesOnly texts (Touchable rs (·.identity = i)) t (Session.evict t i).1
      (Session.evict t i).2.result := by
  have honly := h.removesOnly_indexed hc hrs (isIndex_identity hc hi)
    fun id r => recordKey_ne_identity id i r
  rw [result_evict]
  exact honly.imp fun r hr => ⟨hr.inserted, by simpa using hr.before⟩

theorem Txn.Stems.removesOnly_removeUser (hc : CollisionFree texts) (hrs : Storable texts rs)
    (h : t.Stems rs) {u : String} (hu : u ∈ texts) :
    RemovesOnly texts (Touchable rs (·.userId = u)) t (Session.removeUser t u).1
      (Session.removeUser t u).2.result := by
  have honly := h.removesOnly_indexed hc hrs (isIndex_user hc hu)
    fun id r => recordKey_ne_user id u r
  rw [result_removeUser]
  exact honly.imp fun r hr => ⟨hr.inserted, by simpa using hr.before⟩

/-! ## Histories -/

/-- The record that a deed inserts. -/
def Deed.record? : Deed → Option Record
  | .insert r _ => some r
  | _ => none

/-- The records that deeds insert. -/
def inserted (deeds : List (Clock × Deed)) : List Record := deeds.filterMap fun p => p.2.record?

/-- Whether all that a store holds, and all that its open transaction has buffered, stems from
records of a list. -/
structure Site.Stems (rs : List Record) (x : Site) : Prop where
  entries : x.store.entries.Stem rs
  pending : ∀ p, x.store.phase = .writing p → p.Stems rs

namespace Site.Stems

theorem of_entries (h : x.store.entries.Stem rs) (hphase : ∀ p, x.store.phase ≠ .writing p) :
    x.Stems rs := ⟨h, fun p hp => absurd hp (hphase p)⟩

/-- An idle store without entries holds nothing that would have to stem from a record. -/
theorem empty (hempty : x.store.entries = ∅) (hidle : x.store.phase = .idle) : x.Stems [] := by
  refine .of_entries (fun k e he => ?_) fun p hp => ?_
  · rw [hempty] at he
    cases he
  · rw [hidle] at hp
    cases hp

theorem mono (h : x.Stems rs) (hsub : rs ⊆ rs') : x.Stems rs' :=
  ⟨fun k e he => (h.entries k e he).mono hsub,
    fun p hp k v ttl hput => (h.pending p hp k v ttl hput).mono hsub⟩

theorem txn (h : x.Stems rs) {clock : Clock} (ht : x.store.txn? clock = some t) : t.Stems rs := by
  obtain ⟨p, hp, rfl⟩ := Store.txn?_eq_some ht
  exact ⟨h.entries, h.pending p hp⟩

theorem reader (h : x.Stems rs) (clock : Clock) : (x.store.reader clock).Stems rs :=
  ⟨h.entries, fun _ _ _ hput => by cases hput⟩

/-- What a transaction does to its own writes. -/
theorem within (h : x.Stems rs) {clock : Clock} {f : Txn → Txn × Outcome Answer}
    (hf : ∀ t, t.Stems rs → (f t).1.Stems rs) : (x.within clock f).1.Stems rs := by
  unfold Site.within
  split
  · exact h
  · next t ht =>
    refine ⟨h.entries, fun p hp => ?_⟩
    cases hp
    exact (hf t (h.txn ht)).pending

/-- **What is committed stems from records**, as what was buffered does. -/
theorem apply (h : x.store.entries.Stem rs) (clock : Clock) {p : Pending} (hp : p.Stems rs) :
    (x.apply clock p).site.store.entries.Stem rs := by
  obtain ⟨_, -, hstore, -⟩ | ⟨-, -, heq⟩ | ⟨now, settled, -, -, hs, -, hstore, -⟩ :=
    x.apply_cases clock p
  · rw [hstore]
    exact h
  · rw [heq]
    exact h
  · intro k e he
    obtain ⟨-, rfl⟩ := Pending.settle_eq_ok_iff.1 hs
    rw [hstore] at he
    replace he := (Entries.find?_apply x.store.entries p now k).symm.trans he
    cases hw : p.find? k with
    | none =>
      rw [hw] at he
      exact h k e he
    | some w =>
      rw [hw] at he
      cases w with
      | delete => cases he
      | put value ttl =>
        cases he
        exact hp k value ttl hw

theorem commit (h : x.Stems rs) (clock : Clock) : (x.commit clock).site.Stems rs := by
  unfold Site.commit
  cases hphase : x.store.phase with
  | idle => exact h
  | closed => exact h
  | writing p =>
    refine .of_entries (apply (x := x.setPhase .idle) h.entries clock (h.pending p hphase)) ?_
    intro q hq
    rw [phase_apply] at hq
    cases hq

/-- **Every deed keeps what is held and buffered stemming from records**, with the one that it
inserts. -/
theorem deed (h : x.Stems rs) (clock : Clock) (d : Deed) :
    (x.deed clock d).1.Stems (rs ++ d.record?.toList) := by
  have hsub : rs ⊆ rs ++ d.record?.toList := List.subset_append_left _ _
  cases d with
  | find id => exact h.mono hsub
  | ofUser u => exact h.mono hsub
  | begin =>
    refine Site.Stems.mono ?_ hsub
    show x.begin.site.Stems rs
    unfold Site.begin
    split
    · exact h
    · exact h
    · refine ⟨h.entries, fun p hp => ?_⟩
      cases hp
      exact fun _ _ _ hput => by cases hput
  | commit => exact (h.commit clock).mono hsub
  | rollback =>
    refine Site.Stems.mono ?_ hsub
    show x.rollback.Stems rs
    unfold Site.rollback
    split
    · exact .of_entries h.entries nofun
    · exact h
  | get id => exact (h.within fun _ ht => ht).mono hsub
  | insert r ttl =>
    have hr : r ∈ rs ++ (Deed.insert r ttl).record?.toList :=
      List.mem_append_right rs List.mem_cons_self
    exact (h.mono hsub).within fun t ht => ht.insert hr ttl
  | delete id =>
    refine Site.Stems.mono (h.within fun t ht => ?_) hsub
    unfold Session.delete
    cases Session.get t id with
    | error e => exact ht
    | ok r? =>
      cases r? with
      | none => exact ht
      | some r => exact ht.remove r
  | evict i => exact (h.within fun t ht => ht.removeIndexed _).mono hsub
  | removeUser u => exact (h.within fun t ht => ht.removeIndexed _).mono hsub
  | listUser u => exact (h.within fun _ ht => ht).mono hsub

/-- **Whatever deeds are done, all keys stem from what they insert.** -/
theorem deeds (h : x.Stems rs) (ds : List (Clock × Deed)) :
    (x.deeds ds).1.Stems (rs ++ inserted ds) := by
  induction ds generalizing x rs with
  | nil => exact (List.append_nil rs).symm ▸ h
  | cons p rest ih =>
    obtain ⟨clock, d⟩ := p
    have hrest := ih (h.deed clock d)
    rw [List.append_assoc] at hrest
    have hinserted : inserted ((clock, d) :: rest) = d.record?.toList ++ inserted rest := by
      unfold inserted
      cases hd : d.record? <;> simp [hd]
    rw [hinserted]
    exact hrest

end Site.Stems

/-! ## Lookups -/

/-- Whether every lookup through an index, in a store and in its open transaction, touches no
records but those that it may touch. -/
structure Site.LooksUp (texts : Set String) (x : Site) (user : String → Record → Prop)
    (identity : Identity → Record → Prop) : Prop where
  ofUser : ∀ clock, ∀ u ∈ texts, ∀ out, (Session.ofUser x.store clock u).result = .ok out →
    ∀ r ∈ out, user u r
  listUser : ∀ clock t, x.store.txn? clock = some t → ∀ u ∈ texts, ∀ out,
    Session.listUser t u = .ok out → ∀ r ∈ out, user u r
  removeUser : ∀ clock t, x.store.txn? clock = some t → ∀ u ∈ texts,
    RemovesOnly texts (user u) t (Session.removeUser t u).1 (Session.removeUser t u).2.result
  evict : ∀ clock t, x.store.txn? clock = some t → ∀ i : Identity, i.Within texts →
    RemovesOnly texts (identity i) t (Session.evict t i).1 (Session.evict t i).2.result

theorem Site.LooksUp.imp {user user' : String → Record → Prop}
    {identity identity' : Identity → Record → Prop} (h : x.LooksUp texts user identity)
    (huser : ∀ u r, user u r → user' u r) (hidentity : ∀ i r, identity i r → identity' i r) :
    x.LooksUp texts user' identity' where
  ofUser clock u hu out hout r hr := huser u r (h.ofUser clock u hu out hout r hr)
  listUser clock t ht u hu out hout r hr := huser u r (h.listUser clock t ht u hu out hout r hr)
  removeUser clock t ht u hu := (h.removeUser clock t ht u hu).imp (huser u)
  evict clock t ht i hi := (h.evict clock t ht i hi).imp (hidentity i)

theorem Site.Stems.looksUp (hc : CollisionFree texts) (hrs : Storable texts rs) (h : x.Stems rs) :
    x.LooksUp texts (fun u => Touchable rs (·.userId = u))
      fun i => Touchable rs (·.identity = i) where
  ofUser clock u hu out hout := by
    cases htime : x.store.readingTime clock with
    | error e =>
      rw [ofUser_of_error htime] at hout
      cases hout
    | ok now =>
      obtain ⟨hopen, hread⟩ := Store.readingTime_eq_ok htime
      rw [ofUser_eq_listUser hopen hread] at hout
      exact (h.reader clock).listUser hc hrs hu hout
  listUser clock t ht u hu out hout := (h.txn ht).listUser hc hrs hu hout
  removeUser clock t ht u hu := (h.txn ht).removesOnly_removeUser hc hrs hu
  evict clock t ht i hi := (h.txn ht).removesOnly_evict hc hrs hi

/-- Whether records with one id have one user and one identity. -/
def Agree (rs : List Record) : Prop :=
  ∀ r ∈ rs, ∀ r' ∈ rs, r.id = r'.id → r.userId = r'.userId ∧ r.identity = r'.identity

/-- **Lookups touch what was inserted for the user or the identity**, and nothing else if no id was
inserted for two users or two identities. -/
theorem looksUp_of_deeds (hc : CollisionFree texts) (hempty : x.store.entries = ∅)
    (hidle : x.store.phase = .idle) (ds : List (Clock × Deed))
    (hds : Storable texts (inserted ds)) :
    (x.deeds ds).1.LooksUp texts (fun u => Touchable (inserted ds) (·.userId = u))
        (fun i => Touchable (inserted ds) (·.identity = i)) ∧
      (Agree (inserted ds) →
        (x.deeds ds).1.LooksUp texts (fun u r => r.userId = u) fun i r => r.identity = i) := by
  have hlooks := ((Site.Stems.empty hempty hidle).deeds ds).looksUp hc hds
  refine ⟨hlooks, fun hagree => hlooks.imp (fun u r hr => ?_) fun i r hr => ?_⟩
  · obtain ⟨r', hr', hid, hu⟩ := hr.before
    exact (hagree r' hr' r hr.inserted hid).1 ▸ hu
  · obtain ⟨r', hr', hid, hi⟩ := hr.before
    exact (hagree r' hr' r hr.inserted hid).2 ▸ hi

namespace Sample

/-- A session of another user on another device. -/
def otherRecord : Record := { record with id := "b", userId := "b", fingerprint := "p" }

/-- Two sessions, each opened by a transaction of its own, and a third transaction that is open. -/
def separate : List (Clock × Deed) :=
  [(⟨0⟩, .begin), (⟨0⟩, .insert record lifetime), (⟨0⟩, .commit), (⟨1⟩, .begin),
    (⟨1⟩, .insert otherRecord lifetime), (⟨1⟩, .commit), (⟨2⟩, .begin)]

theorem looksUp_separate :
    (Site.deeds ⟨.inMemory .default, .empty⟩ separate).1.LooksUp {s | s ∈ Sample.texts}
        (fun u r => r.userId = u) (fun i r => r.identity = i) ∧
      (Session.ofUser (Site.deeds ⟨.inMemory .default, .empty⟩ separate).1.store ⟨2⟩
        "u").result.toOption = some [record] := by
  obtain ⟨ha, hb, hu, hm, hf, hp⟩ : "a" ∈ Sample.texts ∧ "b" ∈ Sample.texts ∧
      "u" ∈ Sample.texts ∧ "unknown" ∈ Sample.texts ∧ "f" ∈ Sample.texts ∧ "p" ∈ Sample.texts := by
    decide
  have hvalid : record.createdAt.Valid := Timestamp.valid_ofInstant (by decide)
  have hstorable : Storable {s | s ∈ Sample.texts} (inserted separate) := by
    intro r hr
    obtain rfl | rfl : r = record ∨ r = otherRecord := by
      simpa [inserted, separate, Deed.record?] using hr
    · exact ⟨⟨ha, hu, hm, hf, hp⟩, hvalid⟩
    · exact ⟨⟨hb, hb, hm, hp, hp⟩, hvalid⟩
  have hagree : ∀ r ∈ inserted separate, ∀ r' ∈ inserted separate, r.id = r'.id →
      r.userId = r'.userId ∧ r.identity = r'.identity := by decide
  exact ⟨(looksUp_of_deeds collisionFree rfl rfl separate hstorable).2 hagree,
    by decide +kernel⟩

/-- The id of the first session, inserted for the user and the device of the second. -/
def reinserted : Record := { otherRecord with id := "a" }

/-- The site after both, with a transaction that is open. -/
def reinsertion : Site :=
  (Site.deeds ⟨.inMemory .default, .empty⟩
    [(⟨0⟩, .begin), (⟨0⟩, .insert record lifetime), (⟨0⟩, .commit), (⟨1⟩, .begin),
      (⟨1⟩, .insert reinserted lifetime), (⟨1⟩, .commit), (⟨2⟩, .begin)]).1

/-- **A lookup for the first user and the first device touches the record of the second**: it is
listed, in the store and in the transaction, and it is removed. -/
theorem lookups_touch_reinserted :
    reinserted.userId ≠ "u" ∧ reinserted.identity ≠ record.identity ∧
      (reinsertion.deed ⟨2⟩ (.ofUser "u")).2.toOption = some (.sessions [reinserted]) ∧
      (reinsertion.deed ⟨2⟩ (.listUser "u")).2.toOption = some (.sessions [reinserted]) ∧
      (reinsertion.deed ⟨2⟩ (.get "a")).2.toOption = some (.session (some reinserted)) ∧
      ((reinsertion.deed ⟨2⟩ (.removeUser "u")).1.deed ⟨2⟩ (.get "a")).2.toOption =
        some (.session none) ∧
      (reinsertion.deed ⟨2⟩ (.evict record.identity)).2.toOption =
        some (.sessions [reinserted]) := by
  decide +kernel

end Sample

end SessionTokens
