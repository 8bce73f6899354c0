import SessionTokens.Proofs.Store.ReadAhead
/-!
# Scans for a common beginning

A scan for a byte string asks for the range from that string to the least string above all that
begin with it. *The scan of entries* is told here without ranges: the live entries whose keys begin
with the string, in ascending order of the keys.

**Theorem (`beginning_exact`).** The bounds that a byte string gives are in order and enclose
exactly the keys that begin with it, also if it is empty or ends with the largest bytes. So an open
store answers with the scan of its entries and with nothing else, and no scan for a beginning is ever
broken off for its bounds: only a clock that cannot be read breaks one off.
-/

namespace SessionTokens

/-- Whether a list is the scan of entries for a byte string. As its keys ascend, it holds each key
once. -/
structure Entries.Scan (es : Entries) (now : Instant) (start : Bytes)
    (ps : List (Bytes × Bytes)) : Prop where
  ascending : ps.Pairwise fun p q => p.1 < q.1
  mem_iff : ∀ k v, (k, v) ∈ ps ↔ start <+: k ∧
    ∃ expiry, es.find? k = some ⟨v, expiry⟩ ∧ ∀ t ∈ expiry, now.nanos < t.nanos

namespace Entries

variable {es : Entries} {now : Instant} {start : Bytes} {ps qs : List (Bytes × Bytes)}

/-- There is one scan only. -/
theorem Scan.unique (hp : es.Scan now start ps) (hq : es.Scan now start qs) : ps = qs :=
  KeyMap.eq_of_mem_iff hp.ascending hq.ascending fun ⟨k, v⟩ => by
    rw [hp.mem_iff, hq.mem_iff]

theorem isLive_eq_true_iff {e : Entry} :
    e.isLive now = true ↔ ∀ t ∈ e.expiry, now.nanos < t.nanos := by
  obtain ⟨value, expiry⟩ := e
  cases expiry <;> simp [Entry.isLive]

/-- A value is seen under a key exactly if an entry there holds it and has not lapsed. -/
theorem value?_eq_some_iff {k v : Bytes} : es.value? now k = some v ↔
    ∃ expiry, es.find? k = some ⟨v, expiry⟩ ∧ ∀ t ∈ expiry, now.nanos < t.nanos := by
  simp only [value?, Option.map_eq_some_iff, Option.filter_eq_some_iff, isLive_eq_true_iff]
  constructor
  · rintro ⟨⟨v, expiry⟩, ⟨hfind, hlive⟩, rfl⟩
    exact ⟨expiry, hfind, hlive⟩
  · rintro ⟨expiry, hfind, hlive⟩
    exact ⟨⟨v, expiry⟩, ⟨hfind, hlive⟩, rfl⟩

/-- **The range of a byte string gives the scan for it.** -/
theorem scan_within (es : Entries) (now : Instant) (start : Bytes) :
    es.Scan now start (es.within now (Bounds.ofPrefix start)).pairs where
  ascending := KeyMap.sorted _
  mem_iff k v := by
    rw [KeyMap.mem_pairs_iff, find?_within, ← value?_eq_some_iff]
    by_cases h : start <+: k <;> simp [h]

end Entries

namespace Store

variable {s : Store} {clock : Clock} {now : Instant} {start : Bytes}

theorem beginning_of_isClosed (h : s.isClosed = true) :
    s.beginning clock start = .error (.failed .closed) := by
  rw [beginning, range, readingTime_of_isClosed h]
  rfl

theorem beginning_of_abort {cause : Abort} (hopen : s.isClosed = false)
    (habort : clock.read = .error cause) :
    s.beginning clock start = .error (.aborted cause) := by
  rw [beginning, range, readingTime_of_abort hopen habort]
  rfl

/-- **An open store answers a scan with the one scan of its entries.** -/
theorem exists_scan (hopen : s.isClosed = false) (hread : clock.read = .ok now) :
    ∃ ps, s.beginning clock start = .ok ps ∧ ∀ qs, s.entries.Scan now start qs ↔ qs = ps := by
  have hscan := s.entries.scan_within now start
  refine ⟨_, beginning_of_read hopen hread start, fun qs => ⟨fun h => h.unique hscan, ?_⟩⟩
  rintro rfl
  exact hscan

/-- **Nothing but the clock breaks a scan for a beginning off.** -/
theorem beginning_eq_aborted_iff {cause : Abort} :
    s.beginning clock start = .error (.aborted cause) ↔
      s.isClosed = false ∧ clock.read = .error cause := by
  cases hclosed : s.isClosed with
  | true => simp [beginning_of_isClosed hclosed]
  | false =>
    cases hread : clock.read with
    | error other => simp [beginning_of_abort hclosed hread]
    | ok now => simp [beginning_of_read hclosed hread]

/-- **Scans for a common beginning are exact.**

* The bounds that a byte string gives enclose a range, and the keys in it are those that begin with
  the string.
* A store that is open when the clock can be read answers with one list, the scan of its entries; a
  closed one refuses.
* The scan is broken off only if an open store cannot read the clock, whatever it holds. -/
theorem beginning_exact (s : Store) (clock : Clock) (start : Bytes) :
    ((Bounds.ofPrefix start).isRange = true ∧
      ∀ k, (Bounds.ofPrefix start).contains k = true ↔ start <+: k) ∧
    (s.isClosed = true → s.beginning clock start = .error (.failed .closed)) ∧
    (∀ now, s.isClosed = false → clock.read = .ok now →
      ∃ ps, s.beginning clock start = .ok ps ∧ ∀ qs, s.entries.Scan now start qs ↔ qs = ps) ∧
    ∀ cause, s.beginning clock start = .error (.aborted cause) ↔
      s.isClosed = false ∧ clock.read = .error cause :=
  ⟨⟨Bounds.isRange_ofPrefix start, fun _ => Bounds.contains_ofPrefix⟩, beginning_of_isClosed,
    fun _ => exists_scan, fun _ => beginning_eq_aborted_iff⟩

end Store

namespace Sample

/-- A store with keys of the largest bytes, of which one lapses at the fifth nanosecond. -/
def highStore : Store :=
  { Store.inMemory .default with
    everHeld := true
    entries := .ofList [([0xFF, 0xFF, 0], ⟨[3], some ⟨5⟩⟩), ([0xFF, 0xFF], ⟨[2], some ⟨6⟩⟩),
      ([0xFE, 0xFF], ⟨[], none⟩), ([0xFF], ⟨[1], none⟩)] }

theorem beginning_exact_high :
    highStore.isClosed = false ∧ (⟨5⟩ : Clock).read = .ok ⟨5⟩ ∧
      highStore.beginning ⟨5⟩ [0xFF] = .ok [([0xFF], [1]), ([0xFF, 0xFF], [2])] ∧
      highStore.entries.Scan ⟨5⟩ [0xFF] [([0xFF], [1]), ([0xFF, 0xFF], [2])] ∧
      ({ highStore with phase := .closed }).beginning ⟨5⟩ [0xFF] = .error (.failed .closed) := by
  have hanswer : highStore.beginning ⟨5⟩ [0xFF] = .ok [([0xFF], [1]), ([0xFF, 0xFF], [2])] := by
    decide +kernel
  obtain ⟨-, -, hscan, -⟩ := highStore.beginning_exact ⟨5⟩ [0xFF]
  obtain ⟨-, hclosed, -, -⟩ := ({ highStore with phase := .closed }).beginning_exact ⟨5⟩ [0xFF]
  obtain ⟨ps, hps, hunique⟩ := hscan ⟨5⟩ rfl rfl
  cases hanswer.symm.trans hps
  exact ⟨rfl, rfl, hanswer, (hunique _).2 rfl, hclosed rfl⟩

end Sample

end SessionTokens
