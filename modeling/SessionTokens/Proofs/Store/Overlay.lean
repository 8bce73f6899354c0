import Mathlib.Tactic.Common
import SessionTokens.Store.Transaction
/-!
# What a transaction sees, and what its commit leaves

A transaction sees the live entries with its buffered writes over them. Each value that it sees is
held by a lease: an expiry that is settled already, or a time to live that begins with the commit.

* `contains_ofPrefix`: **the range of a byte string holds exactly the keys that begin with it**.
* `find?_beginning`: **a scan gives exactly what single reads give**.
* `Txn.held?_apply`: **after a commit the store holds what the transaction saw**, the times to live
  turned into expiries.
* `settle_eq_ok_iff`: a commit settles exactly if every write fits.
-/

namespace SessionTokens

/-! ## Ranges of keys with a common beginning -/

namespace Bounds

theorem isRange_ofPrefix (start : Bytes) : (ofPrefix start).isRange = true := by
  unfold ofPrefix
  cases h : prefixEnd? start with
  | none => rfl
  | some e =>
    have hlt := lt_prefixEnd? h
    simpa [isRange] using fun h' => KeyMap.lt_irrefl _ (KeyMap.lt_trans hlt h')

theorem lt_succ_iff {b c : UInt8} (h : b < 0xFF) : c < b + 1 ↔ c < b ∨ c = b := by
  rw [UInt8.lt_iff_toNat_lt] at h
  have hsucc : (b + 1).toNat = b.toNat + 1 := by
    rw [UInt8.toNat_add]
    simp at h ⊢
    omega
  rw [UInt8.lt_iff_toNat_lt, UInt8.lt_iff_toNat_lt, ← UInt8.toNat_inj, hsucc]
  omega

theorem lt_or_eq_of_not_lt {b c : UInt8} (h : ¬c < b) : b < c ∨ c = b := by
  rw [UInt8.lt_iff_toNat_lt] at h ⊢
  rw [← UInt8.toNat_inj]
  omega

/-- **The range of a byte string holds exactly the keys that begin with it.** -/
theorem contains_ofPrefix {start k : Bytes} :
    (ofPrefix start).contains k = true ↔ start <+: k := by
  induction start generalizing k with
  | nil => simp [ofPrefix, prefixEnd?, contains, admitsFrom, admitsTo]
  | cons b rest ih =>
    cases k with
    | nil => simp [ofPrefix, contains, admitsFrom]
    | cons c k =>
      have hstep := ih (k := k)
      have hpre : b :: rest <+: c :: k ↔ c = b ∧ rest <+: k := by
        rw [List.cons_prefix_cons, eq_comm]
      rw [hpre, ← hstep]
      simp only [ofPrefix, contains, admitsFrom, admitsTo, Bool.and_eq_true, Bool.not_eq_true',
        decide_eq_false_iff_not, List.cons_lt_cons_iff]
      by_cases hlt : c < b
      · have hne : c ≠ b := fun h => UInt8.lt_irrefl b (h ▸ hlt)
        simp [hlt, hne]
      rcases lt_or_eq_of_not_lt hlt with hgt | rfl
      · -- A first byte that is larger is above the end, whatever the end is.
        have hne : c ≠ b := fun h => UInt8.lt_irrefl b (h ▸ hgt)
        rw [prefixEnd?]
        cases he : prefixEnd? rest with
        | some e => simp [List.cons_lt_cons_iff, hlt, hne]
        | none =>
          have hff : b < 0xFF := by
            rw [UInt8.lt_iff_toNat_lt] at hgt ⊢
            have := c.toNat_lt
            simp
            omega
          simp [hff, List.cons_lt_cons_iff, lt_succ_iff hff, hlt, hne]
      · rw [prefixEnd?]
        cases he : prefixEnd? rest with
        | some e => simp
        | none =>
          by_cases hff : c < 0xFF
          · simp [hff, List.cons_lt_cons_iff, lt_succ_iff hff]
          · simp [hff]

end Bounds

/-! ## Changes to many keys -/

theorem KeyMap.find?_foldl_alter {β γ : Type} {g : γ → Option β} {ps : List (Bytes × γ)}
    (h : ps.Pairwise fun a b => a.1 < b.1) (m : KeyMap β) (k : Bytes) :
    (ps.foldl (fun m w => m.alter w.1 (g w.2)) m).find? k =
      ((lookup k ps).map g).getD (m.find? k) := by
  induction ps generalizing m with
  | nil => rfl
  | cons p ps ih =>
    obtain ⟨key, w⟩ := p
    rw [List.pairwise_cons] at h
    rw [List.foldl_cons, ih h.2, lookup]
    by_cases hk : k = key
    · subst hk
      have hnone : lookup k ps = none := by
        rw [Option.eq_none_iff_forall_ne_some]
        intro v hv
        exact lt_irrefl k (h.1 _ ((lookup_eq_some_iff h.2).1 hv))
      simp [hnone]
    · simp [hk]

/-! ## What is seen -/

/-- Whether an expiry, if there is one, is still to come. -/
def Instant.isBefore (now : Instant) : Option Instant → Bool
  | none => true
  | some t => now.nanos < t.nanos

theorem Instant.isBefore_mono {now later : Instant} (h : now.nanos ≤ later.nanos)
    {e : Option Instant} (he : later.isBefore e = true) : now.isBefore e = true := by
  cases e with
  | none => rfl
  | some t =>
    simp only [isBefore, decide_eq_true_eq] at he ⊢
    omega

/-- How long a value is kept: up to an expiry, or for a time to live that begins with a commit. -/
inductive Lease
  | upTo (expiry : Option Instant)
  | awaiting (ttl : Option Duration)
deriving DecidableEq

namespace Lease

/-- Whether a value is still kept. One that has not been committed is. -/
def isLive (now : Instant) : Lease → Bool
  | upTo expiry => now.isBefore expiry
  | awaiting _ => true

/-- The expiry that a lease has after a commit. -/
def settle (now : Instant) : Lease → Option Instant
  | upTo expiry => expiry
  | awaiting ttl => ttl.map fun d => ⟨now.nanos + d.nanos⟩

end Lease

/-- The value that is held live under a key, and its expiry. -/
def Entries.held? (es : Entries) (now : Instant) (k : Bytes) : Option (Bytes × Option Instant) :=
  ((es.live now).find? k).map fun e => (e.value, e.expiry)

/-- What a write leaves to be seen under its key. -/
def Write.seen? : Write → Option (Bytes × Lease)
  | put value ttl => some (value, .awaiting ttl)
  | delete => none

/-- What a transaction sees under a key. -/
def Txn.seen? (t : Txn) (now : Instant) (k : Bytes) : Option (Bytes × Lease) :=
  match t.pending.find? k with
  | some w => w.seen?
  | none => (t.entries.held? now k).map fun h => (h.1, .upTo h.2)

theorem Entries.find?_live (es : Entries) (now : Instant) (k : Bytes) :
    (es.live now).find? k = (es.find? k).filter (Entry.isLive now) := KeyMap.find?_filter es _ k

theorem Entries.held?_eq_some {es : Entries} {now : Instant} {k v : Bytes}
    {expiry : Option Instant} :
    es.held? now k = some (v, expiry) ↔ (es.live now).find? k = some ⟨v, expiry⟩ := by
  rw [held?, Option.map_eq_some_iff]
  constructor
  · rintro ⟨e, he, heq⟩
    cases heq
    exact he
  · exact fun he => ⟨_, he, rfl⟩

theorem Entries.held?_congr {es es' : Entries} {now : Instant} (h : es.live now = es'.live now) :
    es.held? now = es'.held? now := by
  funext k
  rw [held?, h, held?]

theorem Entries.held?_empty (now : Instant) : (∅ : Entries).held? now = fun _ => none := rfl

theorem Entries.held?_eq (es : Entries) (now : Instant) (k : Bytes) :
    es.held? now k =
      ((es.find? k).map fun e => (e.value, e.expiry)).filter fun h => now.isBefore h.2 := by
  rw [Option.filter_map, held?, find?_live]
  rfl

theorem Entries.held?_later (es : Entries) {now later : Instant} (h : now.nanos ≤ later.nanos)
    (k : Bytes) : es.held? later k = (es.held? now k).filter fun e => later.isBefore e.2 := by
  rw [held?_eq, held?_eq, Option.filter_filter]
  congr 1
  funext e
  cases hl : later.isBefore e.2
  · simp
  · simp [Instant.isBefore_mono h hl]

theorem Entries.held?_live (es : Entries) (now : Instant) (k : Bytes) :
    (es.live now).held? now k = es.held? now k := by
  rw [held?, live_live, held?]

theorem Entries.value?_eq (es : Entries) (now : Instant) (k : Bytes) :
    es.value? now k = (es.held? now k).map (·.1) := by
  rw [value?, held?, find?_live, Option.map_map]
  rfl

namespace Txn

theorem value?_eq (t : Txn) (now : Instant) (k : Bytes) :
    t.pending.value? t.entries now k = (t.seen? now k).map (·.1) := by
  unfold Pending.value? seen?
  cases t.pending.find? k with
  | none => rw [Entries.value?_eq, Option.map_map]; rfl
  | some w => cases w <;> rfl

theorem seen?_later (t : Txn) {now later : Instant} (h : now.nanos ≤ later.nanos) (k : Bytes) :
    t.seen? later k = (t.seen? now k).filter fun s => s.2.isLive later := by
  unfold seen?
  cases t.pending.find? k with
  | none =>
    rw [Option.filter_map, Entries.held?_later t.entries h]
    rfl
  | some w => cases w <;> rfl

@[simp]
theorem seen?_buffer (t : Txn) (k key : Bytes) (w : Write) (now : Instant) :
    (t.buffer k w).seen? now key = if key = k then w.seen? else t.seen? now key := by
  by_cases h : key = k <;> simp [seen?, buffer, h]

theorem get_eq {t : Txn} {now : Instant} (h : t.clock.read = .ok now) (k : Bytes) :
    t.get k = .ok ((t.seen? now k).map (·.1)) := by
  rw [get_of_read h, value?_eq]

theorem find?_beginning (p : Pending) (es : Entries) (now : Instant) (start k : Bytes) :
    (p.beginning es now start).find? k = if start <+: k then p.value? es now k else none := by
  have hlookup : KeyMap.lookup k (p.filter fun k _ => (Bounds.ofPrefix start).contains k).pairs =
      (p.find? k).filter fun _ => (Bounds.ofPrefix start).contains k :=
    KeyMap.find?_filter p _ k
  rw [Pending.beginning, KeyMap.find?_foldl_alter (KeyMap.sorted _), hlookup, Entries.within,
    KeyMap.find?_map, KeyMap.find?_filter, Entries.find?_live, Pending.value?, Entries.value?]
  by_cases h : start <+: k
  · rw [if_pos h, Bounds.contains_ofPrefix.2 h]
    cases p.find? k with
    | none => cases (es.find? k).filter (Entry.isLive now) <;> rfl
    | some w => rfl
  · have hc : (Bounds.ofPrefix start).contains k = false := by
      rw [← Bool.not_eq_true, Bounds.contains_ofPrefix]
      exact h
    rw [if_neg h, hc]
    cases p.find? k <;> simp [Option.filter_some]

/-- **A scan gives exactly what single reads give**, in ascending order of the keys. -/
theorem beginning_eq {t : Txn} {now : Instant} (h : t.clock.read = .ok now) (start : Bytes) :
    ∃ ps, t.beginning start = .ok ps ∧ ps.Pairwise (fun a b => a.1 < b.1) ∧
      ∀ k v, (k, v) ∈ ps ↔ start <+: k ∧ ∃ lease, t.seen? now k = some (v, lease) := by
  refine ⟨(t.pending.beginning t.entries now start).pairs, ?_, KeyMap.sorted _, fun k v => ?_⟩
  · rw [beginning, h]
    rfl
  · rw [KeyMap.mem_pairs_iff, find?_beginning, value?_eq]
    by_cases hk : start <+: k <;> simp [hk]

end Txn

/-! ## What a commit leaves -/

/-- The entry that a write leaves under its key when it is settled. -/
def Write.left? (now : Instant) : Write → Option Entry
  | put value ttl => some ⟨value, ttl.map fun d => ⟨now.nanos + d.nanos⟩⟩
  | delete => none

/-- Whether a write can be settled: its key and its value are within the limits, and its time to
live ends within the calendar. -/
def Write.Fits (limits : Limits) (now : Instant) (key : Bytes) : Write → Prop
  | put value ttl =>
    (key.length ≤ limits.key ∧ value.length ≤ limits.value) ∧
      ∀ d ∈ ttl, (now.after? d).isSome = true
  | delete => True

namespace Pending

theorem settleOne_eq_ok_iff {limits : Limits} {now : Instant} {key : Bytes} {w : Write}
    {e : Option Entry} :
    settleOne limits now key w = .ok e ↔ w.Fits limits now key ∧ e = w.left? now := by
  have hok : ∀ o : Option Entry, (Except.ok o : Except StorageError _) = .ok e ↔ e = o := by
    simp [eq_comm]
  cases w with
  | delete => simp [settleOne, Write.Fits, Write.left?, hok]
  | put value ttl =>
    rw [Write.Fits, ← Limits.check_eq_ok_iff]
    cases hc : limits.check key value with
    | error e => cases ttl <;> simp [settleOne, hc, bind, Except.bind]
    | ok u =>
      cases ttl with
      | none => simp [settleOne, hc, bind, Except.bind, pure, Except.pure, Write.left?, hok]
      | some d =>
        cases ha : now.after? d with
        | none => simp [settleOne, hc, bind, Except.bind, expiryAfter, ha]
        | some t =>
          have ht : (⟨now.nanos + d.nanos⟩ : Instant) = t := by
            rw [← Instant.nanos_of_after? ha]
          simp [settleOne, hc, bind, Except.bind, pure, Except.pure, expiryAfter, ha,
            Write.left?, ht, hok]

theorem settleAll_eq_ok_iff {limits : Limits} {now : Instant} {ps : List (Bytes × Write)}
    {settled : List (Bytes × Option Entry)} :
    settleAll limits now ps = .ok settled ↔
      (∀ p ∈ ps, p.2.Fits limits now p.1) ∧ settled = ps.map fun p => (p.1, p.2.left? now) := by
  induction ps generalizing settled with
  | nil => simp [settleAll, eq_comm (a := [])]
  | cons p ps ih =>
    obtain ⟨key, w⟩ := p
    rw [List.forall_mem_cons, List.map_cons, settleAll]
    cases hw : settleOne limits now key w with
    | error e =>
      have hfits : ¬w.Fits limits now key := fun hf => by
        have := settleOne_eq_ok_iff.2 ⟨hf, rfl⟩
        rw [hw] at this
        cases this
      simp [bind, Except.bind, hfits]
    | ok o =>
      obtain ⟨hfits, rfl⟩ := settleOne_eq_ok_iff.1 hw
      cases hr : settleAll limits now ps with
      | error e =>
        have hrest : ¬∀ p ∈ ps, p.2.Fits limits now p.1 := fun hf => by
          have := ih.2 ⟨hf, rfl⟩
          rw [hr] at this
          cases this
        simp only [bind, Except.bind, reduceCtorEq, false_iff]
        exact fun h => hrest h.1.2
      | ok rest =>
        obtain ⟨hrest, rfl⟩ := ih.1 hr
        simp only [bind, Except.bind, pure, Except.pure, Except.ok.injEq]
        exact ⟨fun h => ⟨⟨hfits, hrest⟩, h.symm⟩, fun h => h.2.symm⟩

theorem settle_eq_ok_iff {p : Pending} {limits : Limits} {now : Instant}
    {settled : List (Bytes × Option Entry)} :
    p.settle limits now = .ok settled ↔
      (∀ k w, p.find? k = some w → w.Fits limits now k) ∧
        settled = p.pairs.map fun p => (p.1, p.2.left? now) := by
  rw [settle, settleAll_eq_ok_iff]
  simp only [Prod.forall, KeyMap.mem_pairs_iff]

/-- Every expiry that settling gives lies in the calendar. -/
theorem inRange_of_left? {limits : Limits} {now : Instant} {key : Bytes} {w : Write}
    (h : w.Fits limits now key) {e : Entry} (he : w.left? now = some e) :
    ∀ t ∈ e.expiry, t.inRange = true := by
  cases w with
  | delete => cases he
  | put value ttl =>
    cases he
    intro t ht
    obtain ⟨d, hd, rfl⟩ := Option.map_eq_some_iff.1 ht
    obtain ⟨t, hsome⟩ := Option.isSome_iff_exists.1 (h.2 d hd)
    unfold Instant.after? at hsome
    split at hsome
    · next hr => exact (Bool.and_eq_true _ _ ▸ hr).2
    · cases hsome

end Pending

theorem Entries.find?_apply (es : Entries) (p : Pending) (now : Instant) (k : Bytes) :
    (es.apply (p.pairs.map fun w => (w.1, w.2.left? now))).find? k =
      ((p.find? k).map (Write.left? now)).getD (es.find? k) := by
  rw [apply, List.foldl_map]
  exact KeyMap.find?_foldl_alter (g := Write.left? now) p.sorted es k

/-- **After a commit the store holds what the transaction saw.** -/
theorem Txn.held?_apply (t : Txn) (now : Instant) (k : Bytes) :
    (t.entries.apply (t.pending.pairs.map fun w => (w.1, w.2.left? now))).held? now k =
      ((t.seen? now k).map fun s => (s.1, s.2.settle now)).filter fun h => now.isBefore h.2 := by
  rw [Entries.held?_eq, Entries.find?_apply, seen?]
  cases t.pending.find? k with
  | some w => cases w <;> rfl
  | none =>
    rw [Option.map_map, Option.map_none, Option.getD_none, Entries.held?_eq]
    simp [Function.comp_def, Lease.settle, Option.filter_filter]

end SessionTokens
