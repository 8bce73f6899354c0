import SessionTokens.Proofs.Session.Lookups
import SessionTokens.Proofs.Session.Size
import SessionTokens.Proofs.Store.ReadAhead
/-!
# Records come back as they were inserted

Between its insertion and its reading a record is JSON text under the key of its id: texts are
escaped, a parent may be missing, and the moment of creation is calendar text with as many digits as
it needs.

**Theorem (`records_come_back`).** Whatever its texts are, a record whose timestamp is valid reads
back from its stored form, so different ones have different stored forms. A transaction gives an
inserted record back whatever it writes to other keys, and after its commit so does the store, until
the record lapses. And in every history of transactions, committed or dropped, what is read by an id
is one of the records that were inserted, to the last character and nanosecond.

A record that was created in a leap second in the middle of a minute is the exception: it comes back
as if it had been created in the second after (`Sample.records_change_of_leap`).
-/

namespace SessionTokens

open Session

variable {r r' : Record} {rs : List Record} {t : Txn} {x : Site} {ttl : Duration}
  {ws : List (Bytes × Write)} {now : Instant}

/-! ## Stored forms -/

/-- **Different records have different stored forms**, if their timestamps are valid. -/
theorem Record.eq_of_encode_eq (h : r.createdAt.Valid) (h' : r'.createdAt.Valid)
    (heq : r.encode = r'.encode) : r = r' := by
  have hr := decode?_encode h
  rw [heq, decode?_encode h'] at hr
  exact (Option.some.inj hr).symm

theorem Session.readOptional_encode (h : r.createdAt.Valid) :
    readOptional (some r.encode) = .ok (some r) := by
  rw [readOptional, readRecord, Record.decode?_encode h]
  rfl

/-! ## In the transaction that inserts -/

/-- Writes to other keys leave what is buffered under a key. -/
theorem Txn.find?_bufferAll_of_ne {k : Bytes} (t : Txn) (h : ∀ w ∈ ws, w.1 ≠ k) :
    (t.bufferAll ws).pending.find? k = t.pending.find? k := by
  induction ws generalizing t with
  | nil => rfl
  | cons w ws ih =>
    obtain ⟨hw, hws⟩ := List.forall_mem_cons.1 h
    rw [Txn.bufferAll, List.foldl_cons]
    refine (ih (t.buffer w.1 w.2) hws).trans ?_
    rw [Txn.buffer, KeyMap.find?_insert, if_neg hw.symm]

/-- A record that was inserted stays buffered as long as its own key is not written to. -/
theorem find?_inserted (t : Txn) (r : Record) (ttl : Duration)
    (h : ∀ w ∈ ws, w.1 ≠ recordKey r.id) :
    ((Session.insert t r ttl).bufferAll ws).pending.find? (recordKey r.id) =
      some (.put r.encode (some ttl)) := by
  rw [Txn.find?_bufferAll_of_ne _ h]
  exact find?_insert_of_mem t r ttl (b := (recordKey r.id, r.encode)) (by simp [Record.bindings])

/-- What a transaction has inserted it reads from its stored form. -/
theorem get_inserted_eq (t : Txn) (r : Record) (ttl : Duration)
    (h : ∀ w ∈ ws, w.1 ≠ recordKey r.id) :
    Session.get ((Session.insert t r ttl).bufferAll ws) r.id = readOptional (some r.encode) := by
  have hget : ((Session.insert t r ttl).bufferAll ws).get (recordKey r.id) =
      .ok (some r.encode) := by
    rw [Txn.get, find?_inserted t r ttl h]
    rfl
  rw [Session.get, hget]
  rfl

/-- **What a transaction has inserted it gives back**, at any time and without asking for it. -/
theorem get_inserted (t : Txn) (ttl : Duration) (hv : r.createdAt.Valid)
    (h : ∀ w ∈ ws, w.1 ≠ recordKey r.id) :
    Session.get ((Session.insert t r ttl).bufferAll ws) r.id = .ok (some r) := by
  rw [get_inserted_eq t r ttl h, readOptional_encode hv]

/-! ## After the commit -/

/-- A store reads a record that it holds until the record lapses. -/
theorem find_of_held {s : Store} {clock : Clock} {expiry : Instant} (hv : r.createdAt.Valid)
    (hopen : s.isClosed = false) (hread : clock.read = .ok now)
    (hheld : s.entries.find? (recordKey r.id) = some ⟨r.encode, some expiry⟩) :
    Session.find s clock r.id = .ok (if now.nanos < expiry.nanos then some r else none) := by
  have hvalue : s.entries.value? now (recordKey r.id) =
      if now.nanos < expiry.nanos then some r.encode else none := by
    rw [Entries.value?, hheld]
    by_cases hlive : now.nanos < expiry.nanos <;> simp [Option.filter_some, Entry.isLive, hlive]
  rw [Session.find, Store.get_of_read hopen hread, hvalue]
  by_cases hlive : now.nanos < expiry.nanos
  · rw [if_pos hlive, if_pos hlive]
    exact readOptional_encode hv
  · rw [if_neg hlive, if_neg hlive]
    rfl

/-- **After its commit the store gives a record back until it lapses.** -/
theorem find_committed {clock : Clock} (hv : r.createdAt.Valid)
    (h : ∀ w ∈ ws, w.1 ≠ recordKey r.id)
    (htxn : x.store.txn? clock = some ((Session.insert t r ttl).bufferAll ws))
    (hok : (x.commit clock).outcome.result = .ok ()) :
    ∃ now, clock.read = .ok now ∧ ∀ (later : Clock) (then_ : Instant), later.read = .ok then_ →
      Session.find (x.commit clock).site.store later r.id =
        .ok (if then_.nanos < now.nanos + ttl.nanos then some r else none) := by
  obtain ⟨p, hp, heq⟩ := Store.txn?_eq_some htxn
  have hput : p.find? (recordKey r.id) = some (.put r.encode (some ttl)) := by
    rw [← find?_inserted t r ttl h, heq]
  rw [Site.commit, hp] at hok ⊢
  dsimp only at hok ⊢
  have hopen : ((x.setPhase .idle).apply clock p).site.store.isClosed = false := by
    rw [Store.isClosed, Site.phase_apply]
    rfl
  cases hread : clock.read with
  | error cause =>
    have hnil := KeyMap.isEmpty_iff.1 (Site.apply_of_abort hread hok)
    rw [hnil] at hput
    cases hput
  | ok now =>
    have hheld : ((x.setPhase .idle).apply clock p).site.store.entries.find? (recordKey r.id) =
        some ⟨r.encode, some ⟨now.nanos + ttl.nanos⟩⟩ := by
      rw [Site.entries_apply_of_ok hread hok, Entries.find?_apply, hput]
      rfl
    exact ⟨now, rfl, fun later then_ hlater => find_of_held hv hopen hlater hheld⟩

/-! ## In every history -/

/-- What is read by an id, if it stems from records that can be stored, is one of them. -/
theorem Txn.Stems.exists_get (hrs : ∀ r ∈ rs, r.createdAt.Valid) (h : t.Stems rs)
    (hread : t.clock.read = .ok now) (id : String) :
    ∃ r?, Session.get t id = .ok r? ∧ ∀ r ∈ r?, r ∈ rs ∧ recordKey r.id = recordKey id := by
  rw [Session.get, Txn.get_of_read hread]
  cases hvalue : t.pending.value? t.entries now (recordKey id) with
  | none =>
    refine ⟨none, rfl, fun r hr => ?_⟩
    cases hr
  | some v =>
    obtain ⟨r, hr, hbinding⟩ := h.get ((Txn.get_of_read hread _).trans (congrArg _ hvalue))
    simp only [Record.bindings, List.mem_cons, Prod.mk.injEq, List.not_mem_nil, or_false]
      at hbinding
    obtain ⟨hkey, rfl⟩ | ⟨hkey, -⟩ | ⟨hkey, -⟩ := hbinding
    · refine ⟨some r, readOptional_encode (hrs r hr), fun r' hr' => ?_⟩
      cases hr'
      exact ⟨hr, hkey.symm⟩
    · exact absurd hkey (recordKey_ne_identity _ _ _)
    · exact absurd hkey (recordKey_ne_user _ _ _)

/-- Whether whatever is read by an id, in a store and in its open transaction, is a record of a
list. -/
structure Site.GivesBack (rs : List Record) (x : Site) : Prop where
  find : ∀ (clock : Clock) (now : Instant) (id : String), x.store.isClosed = false →
    clock.read = .ok now → ∃ r?, Session.find x.store clock id = .ok r? ∧
      ∀ r ∈ r?, r ∈ rs ∧ recordKey r.id = recordKey id
  get : ∀ (clock : Clock) (now : Instant) (id : String) (t : Txn), clock.read = .ok now →
    x.store.txn? clock = some t → ∃ r?, Session.get t id = .ok r? ∧
      ∀ r ∈ r?, r ∈ rs ∧ recordKey r.id = recordKey id

theorem Site.Stems.givesBack (hrs : ∀ r ∈ rs, r.createdAt.Valid) (h : x.Stems rs) :
    x.GivesBack rs where
  find clock now id hopen hread := by
    rw [find_eq_get hopen hread]
    exact (h.reader clock).exists_get hrs hread id
  get clock now id t hread ht := by
    have hclock : t.clock.read = .ok now := by
      obtain ⟨p, -, rfl⟩ := Store.txn?_eq_some ht
      exact hread
    exact (h.txn ht).exists_get hrs hclock id

/-- **Records with valid timestamps come back as they were inserted.**

* Every such record reads back from its stored form.
* So different records have different stored forms.
* A transaction gives back what it has inserted, whatever it writes to other keys.
* After its commit the store gives it back at every instant before the record lapses.
* Whatever is done to an empty store, a reading by an id gives nothing or one of the records that
  were inserted, under that very key. -/
theorem records_come_back :
    (∀ r : Record, r.createdAt.Valid → Record.decode? r.encode = some r) ∧
    (∀ r r' : Record, r.createdAt.Valid → r'.createdAt.Valid → r.encode = r'.encode → r = r') ∧
    (∀ (t : Txn) (r : Record) (ttl : Duration) (ws : List (Bytes × Write)), r.createdAt.Valid →
      (∀ w ∈ ws, w.1 ≠ recordKey r.id) →
        Session.get ((Session.insert t r ttl).bufferAll ws) r.id = .ok (some r)) ∧
    (∀ (x : Site) (clock : Clock) (t : Txn) (r : Record) (ttl : Duration)
        (ws : List (Bytes × Write)), r.createdAt.Valid → (∀ w ∈ ws, w.1 ≠ recordKey r.id) →
      x.store.txn? clock = some ((Session.insert t r ttl).bufferAll ws) →
      (x.commit clock).outcome.result = .ok () →
        ∃ now, clock.read = .ok now ∧ ∀ (later : Clock) (then_ : Instant),
          later.read = .ok then_ → Session.find (x.commit clock).site.store later r.id =
            .ok (if then_.nanos < now.nanos + ttl.nanos then some r else none)) ∧
    ∀ (x : Site) (ds : List (Clock × Deed)), x.store.entries = ∅ → x.store.phase = .idle →
      (∀ r ∈ inserted ds, r.createdAt.Valid) → (x.deeds ds).1.GivesBack (inserted ds) := by
  refine ⟨fun r => Record.decode?_encode, fun r r' => Record.eq_of_encode_eq,
    fun t r ttl ws hv h => get_inserted t ttl hv h,
    fun x clock t r ttl ws hv h htxn hok => find_committed hv h htxn hok, ?_⟩
  intro x ds hempty hidle hvalid
  exact ((Site.Stems.empty hempty hidle).deeds ds).givesBack hvalid

namespace Sample

/-- A record with texts that have to be escaped, and with a parent, created within a leap second
at the beginning of the calendar. -/
def oddRecord : Record :=
  ⟨"a\"\\/\x00\x1F", "u", "\x7F😀", "unknown", "", "\n", "\u2028", true, "", "[]", some "😀",
    ⟨-8334601228741, 1999999999⟩⟩

/-- The same record, created a nanosecond before. -/
def olderRecord : Record := { oddRecord with createdAt := ⟨-8334601228741, 1999999998⟩ }

/-- The site on which a transaction has inserted the record and written to another key. -/
def oddSite : Site :=
  ⟨{ Store.inMemory .default with
      phase := .writing ((Session.insert ⟨∅, ⟨5⟩, ∅⟩ oddRecord lifetime).bufferAll
        [([0], .delete)]).pending }, .empty⟩

/-- A history in which a transaction inserts the record. -/
def oddDeeds : List (Clock × Deed) :=
  [(⟨0⟩, .begin), (⟨0⟩, .insert oddRecord lifetime), (⟨0⟩, .commit)]

theorem records_come_back_odd :
    oddRecord.createdAt.Valid ∧ Record.decode? oddRecord.encode = some oddRecord ∧
      oddRecord.encode ≠ olderRecord.encode ∧
      Session.get (Session.insert ⟨∅, ⟨5⟩, ∅⟩ oddRecord lifetime) oddRecord.id =
        .ok (some oddRecord) ∧
      Session.find (oddSite.commit ⟨5⟩).site.store ⟨6⟩ oddRecord.id = .ok (some oddRecord) ∧
      (Site.deeds ⟨.inMemory .default, .empty⟩ oddDeeds).1.GivesBack (inserted oddDeeds) := by
  have hvalid : oddRecord.createdAt.Valid := ⟨⟨by decide, by decide⟩, by decide⟩
  have holder : olderRecord.createdAt.Valid := ⟨⟨by decide, by decide⟩, by decide⟩
  have hne : oddRecord ≠ olderRecord := by decide
  have hother : ∀ w ∈ [(([0] : Bytes), Write.delete)], w.1 ≠ recordKey oddRecord.id := by
    decide +kernel
  have hok : (oddSite.commit ⟨5⟩).outcome.result = .ok () := by decide +kernel
  have hinserted : ∀ r ∈ inserted oddDeeds, r.createdAt.Valid := by
    simpa [inserted, oddDeeds, Deed.record?] using hvalid
  obtain ⟨hcodec, hinj, hget, hcommit, hhistory⟩ := records_come_back
  obtain ⟨now, hread, hfind⟩ :=
    hcommit oddSite ⟨5⟩ ⟨∅, ⟨5⟩, ∅⟩ oddRecord lifetime _ hvalid hother rfl hok
  cases hread
  refine ⟨hvalid, hcodec oddRecord hvalid, fun h => hne (hinj _ _ hvalid holder h),
    hget _ oddRecord lifetime [] hvalid (by simp), ?_, hhistory _ oddDeeds rfl rfl hinserted⟩
  rw [hfind ⟨6⟩ ⟨6⟩ rfl]
  rfl

/-- **A record that was created in a leap second in the middle of a minute does not come back.** It
is stored like the record of the second after, and that is what a transaction reads which has
inserted it. -/
theorem records_change_of_leap :
    leapingRecord.createdAt.Representable ∧ steadyRecord.createdAt.Representable ∧
      leapingRecord ≠ steadyRecord ∧ leapingRecord.encode = steadyRecord.encode ∧
      Record.decode? leapingRecord.encode ≠ some leapingRecord ∧
      Session.get (Session.insert ⟨∅, ⟨5⟩, ∅⟩ leapingRecord lifetime) leapingRecord.id =
        .ok (some steadyRecord) := by
  have hsteady : steadyRecord.createdAt.Valid := ⟨⟨by decide, by decide⟩, by decide⟩
  have hencode : leapingRecord.encode = steadyRecord.encode :=
    Record.encode_of_leap representable_leapingRecord (by decide) (by decide)
  have hlost : ¬leapingRecord.createdAt.Valid := fun h => absurd (h.leap (by decide)) (by decide)
  refine ⟨representable_leapingRecord, hsteady.toRepresentable, by decide, hencode,
    mt (Record.decode?_encode_iff representable_leapingRecord).1 hlost, ?_⟩
  have hget := get_inserted_eq ⟨∅, ⟨5⟩, ∅⟩ leapingRecord lifetime (List.forall_mem_nil _)
  rw [hencode, readOptional_encode hsteady] at hget
  exact hget

end Sample

end SessionTokens
