import SessionTokens.Proofs.Store.Overlay
import SessionTokens.Proofs.Store.Replace
import SessionTokens.Proofs.Store.Snapshot
import SessionTokens.Store.Sweep
/-!
# The file of a store

A store with a file is *durable* from an instant on, if reading the file at any time from then on
gives the entries that the store holds live at that time, their expiries rounded down.

**Theorem (`Durable.apply`, `Durable.close`, `Durable.openFile`).** Commits, whether they succeed or
fail, closing and reopening keep a store durable.

What a commit writes are the entries that were live then; those it leaves out are dead for ever,
and an entry that is dead when its expiry is kept is dead when it is rounded down.
-/

namespace SessionTokens

/-! ## Rounded expiries -/

theorem Instant.isBefore_truncate {now : Instant} {e : Option Instant}
    (h : now.isBefore (e.map Instant.truncate) = true) : now.isBefore e = true :=
  Entry.isLive_of_truncate (e := ⟨[], e⟩) h

theorem Instant.truncate_truncate (t : Instant) : t.truncate.truncate = t.truncate := by
  simp only [truncate, ofMillis, millis]
  congr 1
  omega

theorem Entry.truncate_truncate (e : Entry) : e.truncate.truncate = e.truncate := by
  obtain ⟨value, expiry⟩ := e
  cases expiry <;> simp [truncate, Instant.truncate_truncate]

namespace Entries

theorem find?_truncate_live (es : Entries) (now : Instant) (k : Bytes) :
    (es.truncate.live now).find? k =
      ((es.find? k).map Entry.truncate).filter (Entry.isLive now) := by
  rw [find?_live, truncate, KeyMap.find?_map]

/-- Entries that have lapsed make no difference to what is live in a snapshot later. -/
theorem truncate_live_live (es : Entries) {now later : Instant} (h : now.nanos ≤ later.nanos) :
    (es.live now).truncate.live later = es.truncate.live later :=
  KeyMap.ext_find? fun k => by
    rw [find?_truncate_live, find?_truncate_live, find?_live]
    cases es.find? k with
    | none => rfl
    | some e =>
      cases hl : e.truncate.isLive later
      · cases e.isLive now <;> simp [Option.filter_some, hl]
      · have hlive : e.isLive now = true :=
          Instant.isBefore_mono h (Instant.isBefore_truncate hl)
        simp [Option.filter_some, hlive]

theorem truncate_live_truncate_live (es : Entries) {now later : Instant}
    (h : now.nanos ≤ later.nanos) :
    (es.truncate.live now).truncate.live later = es.truncate.live later := by
  rw [truncate_live_live _ h]
  refine KeyMap.ext_find? fun k => ?_
  rw [find?_truncate_live, find?_truncate_live, truncate, KeyMap.find?_map, Option.map_map]
  congr 1
  cases es.find? k with
  | none => rfl
  | some e => simp [Entry.truncate_truncate]

/-- What is held once expiries are rounded down is what was held, except for what lapses. -/
theorem held?_truncate (es : Entries) {t now : Instant} (h : t.nanos ≤ now.nanos) (k : Bytes) :
    es.truncate.held? now k =
      ((es.held? t k).map fun e => (e.1, e.2.map Instant.truncate)).filter fun e =>
        now.isBefore e.2 := by
  rw [held?_eq, held?_eq, truncate, KeyMap.find?_map]
  cases es.find? k with
  | none => rfl
  | some e =>
    cases hl : now.isBefore (e.expiry.map Instant.truncate)
    · cases ht : t.isBefore e.expiry <;> simp [Entry.truncate, Option.filter_some, hl, ht]
    · have hlive : t.isBefore e.expiry = true :=
        Instant.isBefore_mono h (Instant.isBefore_truncate hl)
      simp [Entry.truncate, Option.filter_some, hlive]

theorem live_live_later (es : Entries) {now later : Instant} (h : now.nanos ≤ later.nanos) :
    (es.live now).live later = es.live later :=
  KeyMap.ext_find? fun k => by
    rw [find?_live, find?_live, find?_live, Option.filter_filter]
    congr 1
    funext e
    cases hl : e.isLive later
    · simp
    · simp [show e.isLive now = true from Instant.isBefore_mono (e := e.expiry) h hl]

theorem live_congr_later {es es' : Entries} {now later : Instant} (h : now.nanos ≤ later.nanos)
    (hlive : es.live now = es'.live now) : es.live later = es'.live later := by
  rw [← live_live_later es h, hlive, live_live_later es' h]

/-- The same writes over entries of which the same are live leave the same live entries. -/
theorem live_apply_congr {es es' : Entries} {now : Instant} (h : es.live now = es'.live now)
    (settled : List (Bytes × Option Entry)) :
    (es.apply settled).live now = (es'.apply settled).live now := by
  induction settled generalizing es es' with
  | nil => exact h
  | cons w settled ih =>
    refine ih (KeyMap.ext_find? fun k => ?_)
    have hk : (es.live now).find? k = (es'.live now).find? k := by rw [h]
    rw [find?_live, find?_live] at hk
    rw [find?_live, find?_live, KeyMap.find?_alter, KeyMap.find?_alter]
    split
    · rfl
    · exact hk

/-- Writes over the live entries leave the same live entries as writes over all. -/
theorem live_apply_live (es : Entries) (settled : List (Bytes × Option Entry)) (now : Instant) :
    ((es.live now).apply settled).live now = (es.apply settled).live now :=
  live_apply_congr (live_live es now) settled

theorem InCalendar.live {es : Entries} (h : es.InCalendar) (now : Instant) :
    (es.live now).InCalendar := by
  intro k e he
  rw [Entries.find?_live] at he
  exact h k e (Option.filter_eq_some_iff.1 he).1

theorem InCalendar.truncate {es : Entries} (h : es.InCalendar) : es.truncate.InCalendar := by
  intro k e he t ht
  rw [Entries.truncate, KeyMap.find?_map] at he
  obtain ⟨e', he', rfl⟩ := Option.map_eq_some_iff.1 he
  obtain ⟨t', ht', rfl⟩ := Option.map_eq_some_iff.1 ht
  exact Instant.inRange_truncate (h k e' he' t' ht')

theorem InCalendar.apply {es : Entries} (h : es.InCalendar) {p : Pending} {limits : Limits}
    {now : Instant} {settled : List (Bytes × Option Entry)}
    (hs : p.settle limits now = .ok settled) : (es.apply settled).InCalendar := by
  obtain ⟨hfits, rfl⟩ := Pending.settle_eq_ok_iff.1 hs
  intro k e he
  rw [find?_apply] at he
  cases hp : p.find? k with
  | none =>
    rw [hp] at he
    exact h k e he
  | some w =>
    rw [hp] at he
    exact Pending.inRange_of_left? (hfits k w hp) he

end Entries

theorem Store.medium_tick (s : Store) (clock : Clock) : (s.tick clock).1.medium = s.medium := by
  unfold tick
  split
  · simp only [startSweeper]
    split <;> rfl
  · rfl
  · rfl
  · dsimp only [sweep]
    split <;> rfl

/-- A sweep drops nothing that is live. -/
theorem Store.live_entries_tick (s : Store) (clock : Clock) :
    (s.tick clock).1.entries.live ⟨clock.nanos⟩ = s.entries.live ⟨clock.nanos⟩ := by
  unfold tick
  split
  · simp only [startSweeper]
    split <;> rfl
  · rfl
  · rfl
  · next now _ hnow =>
    obtain rfl := Clock.eq_of_read hnow
    dsimp only [sweep]
    split
    · rfl
    · exact s.entries.live_live _

namespace Site

/-- The site with other files, unless the store's own file would not be the same. -/
def disturb (x : Site) (files : FileTree) : Site :=
  match x.store.medium with
  | .memory => { x with files }
  | .file path => if files.read path = x.files.read path then { x with files } else x

/-! ## What a commit does -/

theorem saveFor_of_error {x : Site} {now : Instant} {settled : List (Bytes × Option Entry)}
    {e : StorageError} (h : (x.saveFor now settled).2.result = .error e) :
    ∀ path, x.store.medium = .file path →
      (x.saveFor now settled).1.read path = x.files.read path := by
  intro path hpath
  unfold saveFor at h ⊢
  rw [hpath] at h ⊢
  exact read_replaceFile_of_error h

theorem saveFor_of_ok {x : Site} {now : Instant} {settled : List (Bytes × Option Entry)}
    (h : (x.saveFor now settled).2.result = .ok ()) :
    ∀ path, x.store.medium = .file path → (x.saveFor now settled).1.read path =
      .ok (Snapshot.encode ((x.store.entries.live now).apply settled)) := by
  intro path hpath
  unfold saveFor at h ⊢
  rw [hpath] at h ⊢
  exact read_replaceFile h

/-- **How applying writes can go.** It fails and changes neither the store nor its file; there is
nothing to write; or the writes are settled and stand in the entries and in the file. -/
theorem apply_cases (x : Site) (clock : Clock) (p : Pending) :
    (∃ h, (x.apply clock p).outcome.result = .error h ∧ (x.apply clock p).site.store = x.store ∧
        ∀ path, x.store.medium = .file path →
          (x.apply clock p).site.files.read path = x.files.read path) ∨
      (x.store.isClosed = false ∧ p.isEmpty = true ∧ x.apply clock p = ⟨x, pure ()⟩) ∨
      ∃ now settled, clock.read = .ok now ∧ x.store.isClosed = false ∧
        p.settle x.store.limits now = .ok settled ∧
        (x.apply clock p).outcome.result = .ok () ∧
        (x.apply clock p).site.store = applied x.store settled ∧
        ∀ path, x.store.medium = .file path → (x.apply clock p).site.files.read path =
          .ok (Snapshot.encode ((x.store.entries.live now).apply settled)) := by
  unfold apply
  cases hclosed : x.store.isClosed with
  | true => exact .inl ⟨_, rfl, rfl, fun _ _ => rfl⟩
  | false =>
    rw [if_neg (by simp)]
    cases hempty : p.isEmpty with
    | true => exact .inr (.inl ⟨rfl, rfl, rfl⟩)
    | false =>
      rw [if_neg (by simp)]
      cases hread : clock.read with
      | error cause => exact .inl ⟨_, rfl, rfl, fun _ _ => rfl⟩
      | ok now =>
        dsimp only
        cases hs : p.settle x.store.limits now with
        | error e => exact .inl ⟨_, rfl, rfl, fun _ _ => rfl⟩
        | ok settled =>
          dsimp only [applySettled]
          cases hsave : (x.saveFor now settled).2.result with
          | error e => exact .inl ⟨_, rfl, rfl, saveFor_of_error hsave⟩
          | ok u =>
            exact .inr (.inr ⟨now, settled, rfl, rfl, hs, rfl, rfl, saveFor_of_ok hsave⟩)

/-- Applying writes neither takes the writer's turn nor gives it back. -/
theorem phase_apply (x : Site) (clock : Clock) (p : Pending) :
    (x.apply clock p).site.store.phase = x.store.phase := by
  obtain ⟨_, -, hstore, -⟩ | ⟨-, -, heq⟩ | ⟨_, settled, -, -, -, -, hstore, -⟩ :=
    apply_cases x clock p
  · rw [hstore]
  · rw [heq]
  · rw [hstore]
    rfl

/-- Writes that settle and can be saved are applied. -/
theorem apply_of_settle {x : Site} {clock : Clock} {now : Instant} {p : Pending}
    {settled : List (Bytes × Option Entry)} (hopen : x.store.isClosed = false)
    (hread : clock.read = .ok now) (hs : p.settle x.store.limits now = .ok settled)
    (hsave : (x.saveFor now settled).2.result = .ok ()) :
    (x.apply clock p).outcome.result = .ok () := by
  unfold apply
  rw [hopen, if_neg (by simp)]
  cases hempty : p.isEmpty with
  | true => rfl
  | false => simp only [Bool.false_eq_true, if_false, hread, hs, applySettled, hsave]

/-- Writes that have been applied stand in the entries. -/
theorem entries_apply_of_ok {x : Site} {clock : Clock} {now : Instant} {p : Pending}
    (hread : clock.read = .ok now) (hok : (x.apply clock p).outcome.result = .ok ()) :
    (x.apply clock p).site.store.entries =
      x.store.entries.apply (p.pairs.map fun w => (w.1, w.2.left? now)) := by
  obtain ⟨_, he, -⟩ | ⟨-, hempty, heq⟩ | ⟨now', settled, hnow, -, hs, -, hstore, -⟩ :=
    apply_cases x clock p
  · rw [hok] at he
    cases he
  · have hnil : p.pairs = [] := List.isEmpty_iff.1 hempty
    rw [heq, hnil]
    rfl
  · rw [hread] at hnow
    cases hnow
    rw [hstore, (Pending.settle_eq_ok_iff.1 hs).2]
    rfl

theorem entries_close (x : Site) (clock : Clock) :
    (x.close clock).site.store.entries = x.store.entries := by
  unfold close
  split <;> rfl

theorem store_disturb (x : Site) (files : FileTree) : (x.disturb files).store = x.store := by
  unfold disturb
  split
  · rfl
  · split <;> rfl

theorem read_disturb {x : Site} {path : String} (h : x.store.medium = .file path)
    (files : FileTree) : (x.disturb files).files.read path = x.files.read path := by
  unfold disturb
  rw [h]
  dsimp only
  split
  · next hsame => exact hsame
  · rfl

/-! ## Durability -/

/-- Whether a store's file, read at any time from an instant on, gives what the store then holds
live. -/
structure Durable (x : Site) (t : Instant) : Prop where
  inCalendar : x.store.entries.InCalendar
  loads : ∀ path, x.store.medium = .file path → ∀ later : Instant, t.nanos ≤ later.nanos →
    load x.files path later = .ok (x.store.entries.truncate.live later)

theorem load_of_read {files files' : FileTree} {path : String}
    (h : files'.read path = files.read path) (now : Instant) :
    load files' path now = load files path now := by
  rw [load, h, load]

theorem Durable.mono {x : Site} {t later : Instant} (h : x.Durable t)
    (hle : t.nanos ≤ later.nanos) : x.Durable later :=
  ⟨h.inCalendar, fun path hpath now hnow => h.loads path hpath now (Int.le_trans hle hnow)⟩

/-- A store whose entries and file stay as they are stays durable. -/
theorem Durable.of_eq {x y : Site} {t : Instant} (h : x.Durable t)
    (hentries : y.store.entries = x.store.entries) (hmedium : y.store.medium = x.store.medium)
    (hread : ∀ path, x.store.medium = .file path → y.files.read path = x.files.read path) :
    y.Durable t := by
  refine ⟨hentries ▸ h.inCalendar, fun path hpath now hnow => ?_⟩
  rw [hmedium] at hpath
  rw [load_of_read (hread path hpath), hentries]
  exact h.loads path hpath now hnow

/-- A snapshot of the entries that were live loads as the entries do from then on. -/
theorem load_encode {files : FileTree} {path : String} {es image : Entries} {now later : Instant}
    (hcal : image.InCalendar) (hlive : image.live now = es.live now)
    (hread : files.read path = .ok (Snapshot.encode image)) (h : now.nanos ≤ later.nanos) :
    load files path later = .ok (es.truncate.live later) := by
  rw [load, hread]
  dsimp only
  rw [Snapshot.decode_encode hcal, ← Entries.truncate_live_live image h, hlive,
    Entries.truncate_live_live es h]

/-- **A commit keeps a store durable**, whether it succeeds or fails. -/
theorem Durable.apply {x : Site} {t later : Instant} (h : x.Durable t) {clock : Clock}
    (ht : t.nanos ≤ later.nanos) (hc : clock.nanos ≤ later.nanos) (p : Pending) :
    (x.apply clock p).site.Durable later := by
  obtain ⟨_, -, hstore, hread⟩ | ⟨-, -, heq⟩ | ⟨now, settled, hnow, -, hs, -, hstore, hread⟩ :=
    apply_cases x clock p
  · exact (h.mono ht).of_eq (by rw [hstore]) (by rw [hstore]) hread
  · rw [heq]
    exact h.mono ht
  · have hle : now.nanos ≤ later.nanos := (Clock.read_eq_ok_iff.1 hnow).1 ▸ hc
    have himage := (h.inCalendar.live now).apply hs
    have hlive : ((x.store.entries.live now).apply settled).live now =
        (x.store.entries.apply settled).live now := by
      rw [(Pending.settle_eq_ok_iff.1 hs).2]
      exact Entries.live_apply_live _ _ now
    refine ⟨?_, fun path hpath after hafter => ?_⟩
    · rw [hstore]
      exact h.inCalendar.apply hs
    · rw [hstore] at hpath ⊢
      exact load_encode himage hlive (hread path hpath) (Int.le_trans hle hafter)

/-- An operation of a client keeps a store durable. -/
theorem Durable.perform {ε α β : Type} {x : Site} {t later : Instant} (h : x.Durable t)
    {clock : Clock} (ht : t.nanos ≤ later.nanos) (hc : clock.nanos ≤ later.nanos)
    (lift : StorageError → ε) (start : Traced (Halt ε) β)
    (plan : β → Txn → Traced (Halt ε) (Plan α)) :
    (x.perform clock lift start plan).site.Durable later := by
  have hsame := h.mono ht
  unfold Site.perform
  split
  · exact hsame
  · split
    · exact hsame
    · exact hsame
    · dsimp only
      split
      · exact hsame
      · split <;> exact h.apply ht hc _

/-- An operation of a client leaves the writer's turn as it was. -/
theorem phase_perform {ε α β : Type} (x : Site) (clock : Clock) (lift : StorageError → ε)
    (start : Traced (Halt ε) β) (plan : β → Txn → Traced (Halt ε) (Plan α)) :
    (x.perform clock lift start plan).site.store.phase = x.store.phase := by
  unfold Site.perform
  split
  · rfl
  · split
    · rfl
    · rfl
    · dsimp only
      split
      · rfl
      · split <;> exact x.phase_apply clock _

/-- Closing keeps a store durable. -/
theorem Durable.close {x : Site} {t later : Instant} (h : x.Durable t) {clock : Clock}
    (ht : t.nanos ≤ later.nanos) (hc : clock.nanos ≤ later.nanos) :
    (x.close clock).site.Durable later := by
  have hsame := h.mono ht
  unfold Site.close
  split
  · exact hsame
  · exact hsame
  · exact hsame.of_eq rfl rfl fun _ _ => rfl
  · exact hsame
  · next path now _ hmedium hnow =>
    have hle : now.nanos ≤ later.nanos := (Clock.read_eq_ok_iff.1 hnow).1 ▸ hc
    cases hsave : (x.saveFor now []).2.result with
    | error e => exact hsame.of_eq rfl rfl (saveFor_of_error hsave)
    | ok u =>
      refine ⟨h.inCalendar, fun path hpath after hafter => ?_⟩
      exact load_encode (h.inCalendar.live now) (Entries.live_live _ now)
        (saveFor_of_ok hsave path hpath) (Int.le_trans hle hafter)

/-- A sweep keeps a store durable. -/
theorem Durable.tick {x : Site} {t later : Instant} (h : x.Durable t) {clock : Clock}
    (ht : t.nanos ≤ later.nanos) (hc : clock.nanos ≤ later.nanos) :
    ({ x with store := (x.store.tick clock).1 } : Site).Durable later := by
  have hsame := h.mono ht
  unfold Store.tick
  split
  · refine hsame.of_eq ?_ ?_ fun _ _ => rfl <;> simp only [Store.startSweeper] <;> split <;> rfl
  · exact hsame
  · exact hsame.of_eq rfl rfl fun _ _ => rfl
  · next now _ hnow =>
    have hle : now.nanos ≤ later.nanos := (Clock.read_eq_ok_iff.1 hnow).1 ▸ hc
    dsimp only [Store.sweep]
    split
    · exact hsame
    · refine ⟨h.inCalendar.live now, fun path hpath after hafter => ?_⟩
      rw [hsame.loads path hpath after hafter]
      exact congrArg _ (Entries.truncate_live_live _ (Int.le_trans hle hafter)).symm

/-- What happens to the files around a store's own keeps the store durable. -/
theorem Durable.disturb {x : Site} {t : Instant} (h : x.Durable t) (files : FileTree) :
    (x.disturb files).Durable t :=
  h.of_eq (by rw [store_disturb]) (by rw [store_disturb]) fun _ hpath => read_disturb hpath files

/-- A durable store's file can be opened, and what it keeps is read. -/
theorem Durable.openFile_eq {x : Site} {t now : Instant} (h : x.Durable t) {path : String}
    (hpath : x.store.medium = .file path) {clock : Clock} (hread : clock.read = .ok now)
    (ht : t.nanos ≤ now.nanos) (limits : Limits) :
    (openFile x.files path limits clock).result =
      .ok (Store.onFile path limits (x.store.entries.truncate.live now)) := by
  simp [Site.openFile, hread, h.loads path hpath now ht, Except.bind]

/-- **A store that is opened on a durable file holds what the file keeps, and is durable.** -/
theorem Durable.openFile {x : Site} {t : Instant} (h : x.Durable t) {path : String}
    (hpath : x.store.medium = .file path) {clock : Clock} (ht : t.nanos ≤ clock.nanos)
    {limits : Limits} {store : Store}
    (ho : (openFile x.files path limits clock).result = .ok store) :
    ∃ now, clock.read = .ok now ∧
      store = Store.onFile path limits (x.store.entries.truncate.live now) ∧
      (Site.mk store x.files).Durable now := by
  cases hnow : clock.read with
  | error cause => simp [Site.openFile, hnow, Halt.ofAbort, Except.bind] at ho
  | ok now =>
    have hle : t.nanos ≤ now.nanos := (Clock.read_eq_ok_iff.1 hnow).1 ▸ ht
    have hstore : store = Store.onFile path limits (x.store.entries.truncate.live now) := by
      rw [h.openFile_eq hpath hnow hle] at ho
      exact (Except.ok.inj ho).symm
    refine ⟨now, rfl, hstore, ?_⟩
    subst hstore
    refine ⟨h.inCalendar.truncate.live now, fun path' hpath' after hafter => ?_⟩
    cases hpath'
    rw [h.loads path hpath after (Int.le_trans hle hafter)]
    exact congrArg _ (Entries.truncate_live_truncate_live _ hafter).symm

end Site

end SessionTokens
