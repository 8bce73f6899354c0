import SessionTokens.Proofs.Session.Operations
/-!
# Sessions as a map

A store with its three families of keys does what a map from ids to sessions would do, each session
with the instant at which it lapses.

**Theorem (`deeds_refine`).** Let the keys of a store represent a map, stray index keys apart. Then
any sequence of transactions and readings, at times that do not go back, is answered as the map
answers it, and the keys represent the map that is left.

No session may have been created in a leap second that does not end a minute. One that was is
answered as if it had been created in the second after (`Sample.deeds_differ_of_leap`).

The map (`Ledger`) knows nothing of keys. It keeps the sessions that are committed and those that
the open transaction would leave; a session that has been inserted has no expiry until the commit.
Sessions that have lapsed may stay in the map, as they may stay in the store, but answers leave
them out.
-/

namespace SessionTokens

open Session

/-! ## What clients do -/

/-- What a client of the sessions can do: outside of a transaction, around one and within one. -/
inductive Deed
  | find (id : String)
  | ofUser (userId : String)
  | begin
  | commit
  | rollback
  | get (id : String)
  | insert (r : Record) (ttl : Duration)
  | delete (id : String)
  | evict (i : Identity)
  | removeUser (userId : String)
  | listUser (userId : String)

/-- What a client is told. -/
inductive Answer
  | done
  | session (r? : Option Record)
  | sessions (rs : List Record)
  | removed (n : Nat)
deriving DecidableEq

namespace Site

/-- The site with its open transaction carried on, and what the transaction answers. -/
def within (x : Site) (clock : Clock) (f : Txn → Txn × Outcome Answer) : Site × Outcome Answer :=
  match x.store.txn? clock with
  | none => (x, .error (.failed .closed))
  | some t => ({ x with store := x.store.resume (f t).1 }, (f t).2)

/-- One deed at the time that a clock shows. -/
def deed (x : Site) (clock : Clock) : Deed → Site × Outcome Answer
  | .find id => (x, (Session.find x.store clock id).map .session)
  | .ofUser u => (x, (Session.ofUser x.store clock u).result.map .sessions)
  | .begin => (x.begin.site, x.begin.outcome.result.map fun _ => .done)
  | .commit => ((x.commit clock).site, (x.commit clock).outcome.result.map fun _ => .done)
  | .rollback => (x.rollback, .ok .done)
  | .get id => x.within clock fun t => (t, (Session.get t id).map .session)
  | .insert r ttl => x.within clock fun t => (Session.insert t r ttl, .ok .done)
  | .delete id => x.within clock fun t =>
    match Session.delete t id with
    | .ok (t', r?) => (t', .ok (.session r?))
    | .error h => (t, .error h)
  | .evict i => x.within clock fun t =>
    ((Session.evict t i).1, (Session.evict t i).2.result.map .sessions)
  | .removeUser u => x.within clock fun t =>
    ((Session.removeUser t u).1,
      (Session.removeUser t u).2.result.map fun rs => .removed rs.length)
  | .listUser u => x.within clock fun t => (t, (Session.listUser t u).map .sessions)

/-- A sequence of deeds, each at its own time. -/
def deeds (x : Site) : List (Clock × Deed) → Site × List (Outcome Answer)
  | [] => (x, [])
  | (clock, d) :: rest =>
    let (y, answer) := x.deed clock d
    let (z, answers) := y.deeds rest
    (z, answer :: answers)

end Site

/-! ## What a map does -/

/-- The sessions that are committed, each with its expiry, and those that the open transaction
would leave. -/
structure Ledger where
  kept : Book (Option Instant)
  draft : Option (Book Lease)

namespace Ledger

/-- The committed sessions that are live. -/
def live (l : Ledger) (now : Instant) : Book (Option Instant) := l.kept.filter now.isBefore

/-- The map's answer to a deed of an open transaction, and the sessions that it then would leave. -/
def DraftStep (now : Instant) (b : Book Lease) : Deed → Answer → Book Lease → Prop
  | .get id, a, b' => a = .session ((b.filter (Lease.isLive now) id).map (·.1)) ∧ b' = b
  | .insert r ttl, a, b' => a = .done ∧ b' = b.set r (.awaiting (some ttl))
  | .delete id, a, b' =>
    a = .session ((b.filter (Lease.isLive now) id).map (·.1)) ∧ b' = b.remove id
  | .evict i, a, b' => ∃ rs, a = .sessions rs ∧
    (b.filter (Lease.isLive now)).Lists (fun r => r.identity = i) rs ∧
    b' = b.without fun r => r.identity = i
  | .removeUser u, a, b' => ∃ rs, a = .removed rs.length ∧
    (b.filter (Lease.isLive now)).Lists (fun r => r.userId = u) rs ∧
    b' = b.without fun r => r.userId = u
  | .listUser u, a, b' => ∃ rs, a = .sessions rs ∧
    (b.filter (Lease.isLive now)).Lists (fun r => r.userId = u) rs ∧ Record.InOrder rs ∧ b' = b
  | _, _, _ => False

/-- The map's answer to a deed, and the map that is left. -/
def Step (now : Instant) (l : Ledger) : Deed → Answer → Ledger → Prop
  | .find id, a, l' => a = .session ((l.live now id).map (·.1)) ∧ l' = l
  | .ofUser u, a, l' => ∃ rs, a = .sessions rs ∧ (l.live now).Lists (fun r => r.userId = u) rs ∧
    Record.InOrder rs ∧ l' = l
  | .begin, a, l' => l.draft = none ∧ a = .done ∧ l' = { l with draft := some (l.kept.map .upTo) }
  | .commit, a, l' => ∃ b, l.draft = some b ∧ a = .done ∧
    l' = { kept := (b.filter (Lease.isLive now)).map (Lease.settle now), draft := none }
  | .rollback, a, l' => a = .done ∧ l' = { l with draft := none }
  | d, a, l' => ∃ b b', l.draft = some b ∧ DraftStep now b d a b' ∧
    l' = { l with draft := some b' }

/-- The answers of the map to a sequence of deeds, and the map that is left. -/
inductive Run : Ledger → List (Clock × Deed) → List Answer → Ledger → Prop
  | nil (l : Ledger) : Run l [] [] l
  | cons {l l' l'' : Ledger} {clock : Clock} {now : Instant} {d : Deed} {a : Answer}
      {rest : List (Clock × Deed)} {answers : List Answer} :
      clock.read = .ok now → l.Step now d a l' → Run l' rest answers l'' →
      Run l ((clock, d) :: rest) (a :: answers) l''

end Ledger

/-! ## How the two belong together -/

/-- Whether the keys of a store, and those that its open transaction sees, represent a map. -/
structure Refines (texts : Set String) (x : Site) (l : Ledger) (now : Instant) : Prop where
  kept : Represents True texts (x.store.entries.held? now) (l.live now)
  idle : l.draft = none → x.store.phase = .idle
  draft : ∀ b, l.draft = some b → ∃ p, x.store.phase = .writing p ∧ ∀ clock : Clock,
    Represents True texts (Txn.seen? ⟨x.store.entries, clock, p⟩ now) (b.filter (Lease.isLive now))

/-- Whether a session may be inserted: the transaction sees no key that is made from its id, or a
session with its id, its identity and its user. -/
def Txn.HasRoom (t : Txn) (r : Record) : Prop :=
  (∀ k, IsKeyOf r.id k → t.get k = .ok none) ∨
    ∃ old, Session.get t r.id = .ok (some old) ∧ old.identity = r.identity ∧ old.userId = r.userId

/-- Whether a deed of a transaction may be done. -/
def Deed.AllowedIn (texts : Set String) (t : Txn) : Deed → Prop
  | .get id => id ∈ texts
  | .insert r _ => r.Within texts ∧ r.createdAt.Valid ∧ t.HasRoom r
  | .delete id => id ∈ texts
  | .evict i => i.Within texts
  | .removeUser u => u ∈ texts
  | .listUser u => u ∈ texts
  | _ => False

/-- Whether a deed may be done: transactions do not overlap, what a commit writes is within the
limits and can be saved, and what is inserted has room. -/
def Deed.Allowed (texts : Set String) (x : Site) (clock : Clock) (now : Instant) : Deed → Prop
  | .find id => id ∈ texts
  | .ofUser u => u ∈ texts
  | .begin => x.store.phase = .idle
  | .commit => ∃ p, x.store.phase = .writing p ∧
    (∀ k w, p.find? k = some w → w.Fits x.store.limits now k) ∧
    ∀ settled, p.settle x.store.limits now = .ok settled →
      (x.saveFor now settled).2.result = .ok ()
  | .rollback => ∃ p, x.store.phase = .writing p
  | d => ∃ t, x.store.txn? clock = some t ∧ d.AllowedIn texts t

/-- Whether the deeds of a sequence may be done, at times that do not go back. -/
def Admissible (texts : Set String) (x : Site) (t : Instant) : List (Clock × Deed) → Prop
  | [] => True
  | (clock, d) :: rest => ∃ now, clock.read = .ok now ∧ t.nanos ≤ now.nanos ∧
    d.Allowed texts x clock now ∧ Admissible texts (x.deed clock d).1 now rest

/-- The time of the last deed of a sequence. -/
def lastTime (t : Instant) (deeds : List (Clock × Deed)) : Instant :=
  deeds.foldl (fun _ p => ⟨p.1.nanos⟩) t

/-! ## Time -/

variable {texts : Set String} {x : Site} {l : Ledger} {t now : Instant}

/-- **As time passes, the keys and the map lose the same sessions.** -/
theorem Refines.later (h : Refines texts x l t) (hle : t.nanos ≤ now.nanos) :
    Refines texts x l now := by
  refine ⟨?_, h.idle, fun b hb => ?_⟩
  · have hk := h.kept.filter now.isBefore
    rw [Ledger.live, Book.filter_filter fun _ => Instant.isBefore_mono hle] at hk
    rwa [← funext (x.store.entries.held?_later hle)] at hk
  · obtain ⟨p, hp, hrep⟩ := h.draft b hb
    refine ⟨p, hp, fun clock => ?_⟩
    have hmono : ∀ m : Lease, m.isLive now = true → m.isLive t = true := by
      intro m hm
      cases m with
      | upTo e => exact Instant.isBefore_mono hle hm
      | awaiting ttl => rfl
    have hk := (hrep clock).filter (Lease.isLive now)
    rw [Book.filter_filter hmono] at hk
    rwa [← funext (Txn.seen?_later _ hle)] at hk

/-! ## Within a transaction -/

variable {b : Book Lease} {tx : Txn}

theorem Txn.HasRoom.room (hc : CollisionFree texts) (h : Shows True texts tx now b) {r : Record}
    (hid : r.id ∈ texts) (hr : tx.HasRoom r) : Represents.Room (tx.seen? now) b r := by
  obtain hnone | ⟨old, hold, hi, hu⟩ := hr
  · refine .inl fun k hk => ?_
    have hget := hnone k hk
    rw [Txn.get_eq h.read, Except.ok.injEq] at hget
    exact Option.map_eq_none_iff.1 hget
  · rw [h.get hc hid, Except.ok.injEq] at hold
    obtain ⟨⟨r', mark⟩, hb, rfl⟩ := Option.map_eq_some_iff.1 hold
    exact .inr ⟨r', mark, hb, hi, hu⟩

theorem Site.within_of_txn? {clock : Clock} (ht : x.store.txn? clock = some tx)
    (f : Txn → Txn × Outcome Answer) :
    x.within clock f = ({ x with store := x.store.resume (f tx).1 }, (f tx).2) := by
  simp only [Site.within, ht]

/-- **A deed in a transaction is answered as the map answers it**, and the transaction goes on to
show what the map would leave. -/
theorem Site.deed_draft (hc : CollisionFree texts) {clock : Clock}
    (ht : x.store.txn? clock = some tx)
    (h : Shows True texts tx now (b.filter (Lease.isLive now))) {d : Deed}
    (hd : d.AllowedIn texts tx) :
    ∃ tx' a b', x.deed clock d = ({ x with store := x.store.resume tx' }, .ok a) ∧
      Ledger.DraftStep now b d a b' ∧ tx'.entries = tx.entries ∧
      Shows True texts tx' now (b'.filter (Lease.isLive now)) := by
  cases d with
  | get id =>
    refine ⟨tx, _, b, ?_, ⟨rfl, rfl⟩, rfl, h⟩
    rw [deed, within_of_txn? ht, h.get hc hd]
    rfl
  | insert r ttl =>
    obtain ⟨hw, hv, hroom⟩ := hd
    refine ⟨Session.insert tx r ttl, _, _, ?_, ⟨rfl, rfl⟩, rfl, ?_⟩
    · rw [deed, within_of_txn? ht]
    · rw [Book.set_filter]
      · exact h.insert hc hw hv (hroom.room hc h hw.id) ttl
      · rfl
  | delete id =>
    obtain ⟨tx', heq, hentries, hshows⟩ := h.delete hc hd
    refine ⟨tx', _, b.remove id, ?_, ⟨rfl, rfl⟩, hentries, ?_⟩
    · rw [deed, within_of_txn? ht, heq]
    · rw [Book.remove_filter]
      exact hshows
  | evict i =>
    obtain ⟨rs, hrs, hlists, hentries, hshows⟩ := h.evict hc hd
    refine ⟨_, .sessions rs, b.without fun r => r.identity = i, ?_, ⟨rs, rfl, hlists, rfl⟩,
      hentries, ?_⟩
    · rw [deed, within_of_txn? ht, hrs]
      rfl
    · rw [Book.without_filter]
      exact hshows
  | removeUser u =>
    obtain ⟨rs, hrs, hlists, hentries, hshows⟩ := h.removeUser hc hd
    refine ⟨_, .removed rs.length, b.without fun r => r.userId = u, ?_, ⟨rs, rfl, hlists, rfl⟩,
      hentries, ?_⟩
    · rw [deed, within_of_txn? ht, hrs]
      rfl
    · rw [Book.without_filter]
      exact hshows
  | listUser u =>
    obtain ⟨rs, hrs, hlists, horder⟩ := h.listUser hc hd
    refine ⟨tx, .sessions rs, b, ?_, ⟨rs, rfl, hlists, horder, rfl⟩, rfl, h⟩
    rw [deed, within_of_txn? ht, hrs]
    rfl
  | find id => exact hd.elim
  | ofUser u => exact hd.elim
  | begin => exact hd.elim
  | commit => exact hd.elim
  | rollback => exact hd.elim

/-! ## Every deed -/

theorem Refines.isClosed (h : Refines texts x l now) : x.store.isClosed = false := by
  have hphase : x.store.phase = .idle ∨ ∃ p, x.store.phase = .writing p := by
    cases hd : l.draft with
    | none => exact .inl (h.idle hd)
    | some b =>
      obtain ⟨p, hp, -⟩ := h.draft b hd
      exact .inr ⟨p, hp⟩
  unfold Store.isClosed
  obtain hp | ⟨p, hp⟩ := hphase <;> rw [hp]

theorem Refines.exists_draft (h : Refines texts x l now) {p : Pending}
    (hp : x.store.phase = .writing p) :
    ∃ b, l.draft = some b ∧ ∀ clock : Clock,
      Represents True texts (Txn.seen? ⟨x.store.entries, clock, p⟩ now)
        (b.filter (Lease.isLive now)) := by
  cases hd : l.draft with
  | none =>
    rw [h.idle hd] at hp
    cases hp
  | some b =>
    obtain ⟨q, hq, hrep⟩ := h.draft b hd
    rw [hp] at hq
    cases hq
    exact ⟨b, rfl, hrep⟩

theorem Store.txn?_eq_some {s : Store} {clock : Clock} (h : s.txn? clock = some tx) :
    ∃ p, s.phase = .writing p ∧ tx = ⟨s.entries, clock, p⟩ := by
  unfold Store.txn? at h
  split at h
  · next p hp => exact ⟨p, hp, (Option.some.inj h).symm⟩
  · cases h

/-- The deeds that need an open transaction. -/
theorem Site.deed_refines_draft (hc : CollisionFree texts) (h : Refines texts x l now)
    {clock : Clock} (hr : clock.read = .ok now) {d : Deed} (ht : x.store.txn? clock = some tx)
    (hd : d.AllowedIn texts tx) :
    ∃ a b b' y, x.deed clock d = (y, .ok a) ∧ l.draft = some b ∧
      Ledger.DraftStep now b d a b' ∧ Refines texts y { l with draft := some b' } now := by
  obtain ⟨p, hp, rfl⟩ := Store.txn?_eq_some ht
  obtain ⟨b, hb, hrep⟩ := h.exists_draft hp
  obtain ⟨tx', a, b', heq, hstep, hentries, hshows⟩ := deed_draft hc ht ⟨hr, hrep clock⟩ hd
  refine ⟨a, b, b', _, heq, hb, hstep, ⟨h.kept, by simp, fun b'' hb'' => ?_⟩⟩
  cases hb''
  refine ⟨tx'.pending, rfl, fun clock' => ?_⟩
  have hkeys := hshows.keys
  obtain ⟨es, c, q⟩ := tx'
  cases hentries
  exact hkeys

/-- The commit of a transaction. -/
theorem Site.deed_refines_commit (h : Refines texts x l now) {clock : Clock}
    (hr : clock.read = .ok now) (hd : Deed.commit.Allowed texts x clock now) :
    ∃ a l', (x.deed clock .commit).2 = .ok a ∧ l.Step now .commit a l' ∧
      Refines texts (x.deed clock .commit).1 l' now := by
  obtain ⟨p, hp, hfits, hsave⟩ := hd
  obtain ⟨b, hb, hrep⟩ := h.exists_draft hp
  have hs := Pending.settle_eq_ok_iff.2 ⟨hfits, rfl⟩
  have hok := apply_of_settle (x := x.setPhase .idle) rfl hr hs (hsave _ hs)
  have hcommit : x.commit clock = (x.setPhase .idle).apply clock p := by
    rw [commit, hp]
  refine ⟨.done, _, ?_, ⟨b, hb, rfl, rfl⟩, ⟨?_, fun _ => ?_, by simp⟩⟩
  · rw [deed, hcommit, hok]
    rfl
  · rw [deed, hcommit]
    exact (hrep clock).commit (x := x.setPhase .idle) hr rfl hok
  · rw [deed, hcommit, phase_apply]
    rfl

/-- **Every deed is answered as the map answers it**, and the keys represent the map that is
left. -/
theorem Site.deed_refines (hc : CollisionFree texts) (h : Refines texts x l now) {clock : Clock}
    (hr : clock.read = .ok now) {d : Deed} (hd : d.Allowed texts x clock now) :
    ∃ a l', (x.deed clock d).2 = .ok a ∧ l.Step now d a l' ∧
      Refines texts (x.deed clock d).1 l' now := by
  have hdraft : ∀ {d : Deed}, (∃ tx, x.store.txn? clock = some tx ∧ d.AllowedIn texts tx) →
      ∃ a l', (x.deed clock d).2 = .ok a ∧
        (∃ b b', l.draft = some b ∧ Ledger.DraftStep now b d a b' ∧
          l' = { l with draft := some b' }) ∧
        Refines texts (x.deed clock d).1 l' now := by
    rintro d ⟨tx, ht, hd⟩
    obtain ⟨a, b, b', y, heq, hb, hstep, href⟩ := deed_refines_draft hc h hr ht hd
    rw [heq]
    exact ⟨a, _, rfl, ⟨b, b', hb, hstep, rfl⟩, href⟩
  cases d with
  | find id =>
    have hget := (h.kept.shows_reader hr).get hc hd
    refine ⟨_, l, ?_, ⟨rfl, rfl⟩, h⟩
    rw [deed, find_eq_get h.isClosed hr, hget, Book.map, Option.map_map]
    rfl
  | ofUser u =>
    obtain ⟨rs, hrs, hlists, horder⟩ := (h.kept.shows_reader hr).listUser hc hd
    refine ⟨.sessions rs, l, ?_, ⟨rs, rfl, hlists.of_map, horder, rfl⟩, h⟩
    rw [deed, ofUser_eq_listUser h.isClosed hr, hrs]
    rfl
  | begin =>
    have hidle : x.store.phase = .idle := hd
    have hnone : l.draft = none := by
      rw [Option.eq_none_iff_forall_ne_some]
      intro b hb
      obtain ⟨p, hp, -⟩ := h.draft b hb
      rw [hidle] at hp
      cases hp
    have hbegin : x.begin = ⟨x.setPhase (.writing ∅), pure ()⟩ := by
      rw [Site.begin, hidle]
    refine ⟨.done, _, ?_, ⟨hnone, rfl, rfl⟩, ?_⟩
    · rw [deed, hbegin]
      rfl
    · rw [deed, hbegin]
      refine ⟨h.kept, by simp, fun b hb => ?_⟩
      cases hb
      refine ⟨∅, rfl, fun clock' => ?_⟩
      rw [Book.map_filter]
      exact h.kept.map Lease.upTo
  | commit => exact deed_refines_commit h hr hd
  | rollback =>
    obtain ⟨p, hp⟩ := hd
    have hroll : x.rollback = x.setPhase .idle := by
      rw [Site.rollback, hp]
    refine ⟨.done, _, rfl, ⟨rfl, rfl⟩, ?_⟩
    rw [deed, hroll]
    exact ⟨h.kept, fun _ => rfl, by simp⟩
  | get id => exact hdraft hd
  | insert r ttl => exact hdraft hd
  | delete id => exact hdraft hd
  | evict i => exact hdraft hd
  | removeUser u => exact hdraft hd
  | listUser u => exact hdraft hd

/-! ## Every sequence -/

theorem lastTime_cons {clock : Clock} (hr : clock.read = .ok now) (d : Deed)
    (rest : List (Clock × Deed)) : lastTime t ((clock, d) :: rest) = lastTime now rest := by
  obtain ⟨n⟩ := now
  obtain rfl : n = clock.nanos := (Clock.read_eq_ok_iff.1 hr).1
  rfl

/-- **Every sequence of deeds is answered as a map from ids to sessions answers it.** -/
theorem deeds_refine (hc : CollisionFree texts) (h : Refines texts x l t)
    {deeds : List (Clock × Deed)} (hd : Admissible texts x t deeds) :
    ∃ answers l', (x.deeds deeds).2 = answers.map .ok ∧ l.Run deeds answers l' ∧
      Refines texts (x.deeds deeds).1 l' (lastTime t deeds) := by
  induction deeds generalizing x l t with
  | nil => exact ⟨[], l, rfl, .nil l, h⟩
  | cons p rest ih =>
    obtain ⟨clock, d⟩ := p
    obtain ⟨now, hr, hle, hallowed, hrest⟩ := hd
    obtain ⟨a, l', hanswer, hstep, href⟩ := Site.deed_refines hc (h.later hle) hr hallowed
    obtain ⟨answers, l'', hanswers, hrun, hfinal⟩ := ih href hrest
    refine ⟨a :: answers, l'', ?_, .cons hr hstep hrun, ?_⟩
    · simp only [Site.deeds, hanswer, hanswers, List.map_cons]
    · rw [lastTime_cons hr]
      exact hfinal

/-! ## A small sequence -/

namespace Sample

def record : Record :=
  ⟨"a", "u", "", "unknown", "f", "p", "", true, "", "", none, Timestamp.ofInstant ⟨0⟩⟩

def lifetime : Duration := ⟨60 * 1000000000, by decide⟩

/-- A session is opened and listed by the transaction that opens it, and read after the commit. -/
def deeds : List (Clock × Deed) :=
  [(⟨0⟩, .begin), (⟨0⟩, .insert record lifetime), (⟨0⟩, .listUser "u"), (⟨1⟩, .commit),
    (⟨2⟩, .find "a")]

theorem fits : ∀ k w, (Session.insert ⟨∅, ⟨0⟩, ∅⟩ record lifetime).pending.find? k = some w →
    w.Fits .default ⟨1⟩ k := by
  obtain ⟨settled, hs⟩ : ∃ settled,
      (Session.insert ⟨∅, ⟨0⟩, ∅⟩ record lifetime).pending.settle .default ⟨1⟩ = .ok settled :=
    exists_eq_ok (by decide +kernel)
  exact (Pending.settle_eq_ok_iff.1 hs).1

/-- The texts of the session are hashed without collision, whenever it was created. -/
theorem within_record (createdAt : Timestamp) :
    Record.Within { record with createdAt } {s | s ∈ Sample.texts} := by
  obtain ⟨ha, hu, hm, hf, hp⟩ : "a" ∈ Sample.texts ∧ "u" ∈ Sample.texts ∧
      "unknown" ∈ Sample.texts ∧ "f" ∈ Sample.texts ∧ "p" ∈ Sample.texts := by decide
  exact ⟨ha, hu, hm, hf, hp⟩

theorem admissible :
    Admissible {s | s ∈ Sample.texts} ⟨.inMemory .default, .empty⟩ ⟨0⟩ deeds := by
  have hwithin : record.Within {s | s ∈ Sample.texts} := within_record _
  have hvalid : record.createdAt.Valid := Timestamp.valid_ofInstant (by decide)
  refine ⟨⟨0⟩, rfl, by decide, rfl, ⟨0⟩, rfl, by decide, ⟨_, rfl, hwithin, hvalid,
    .inl fun k _ => rfl⟩, ⟨0⟩, rfl, by decide, ⟨_, rfl, hwithin.userId⟩, ⟨1⟩, rfl, by decide,
    ⟨_, rfl, fits, fun _ _ => rfl⟩, ⟨2⟩, rfl, by decide, hwithin.id, trivial⟩

theorem refines :
    Refines {s | s ∈ Sample.texts} ⟨.inMemory .default, .empty⟩ ⟨Book.empty, none⟩ ⟨0⟩ :=
  ⟨.empty, fun _ => rfl, by simp⟩

end Sample

theorem deeds_refine_of_sample : ∃ answers l',
    (Site.deeds ⟨.inMemory .default, .empty⟩ Sample.deeds).2 = answers.map .ok ∧
      Ledger.Run ⟨Book.empty, none⟩ Sample.deeds answers l' := by
  obtain ⟨answers, l', hanswers, hrun, -⟩ :=
    deeds_refine Sample.collisionFree Sample.refines Sample.admissible
  exact ⟨answers, l', hanswers, hrun⟩

/-! ## A leap second that does not end a minute -/

namespace Sample

/-- The session of the small sequence, created in a leap second after 00:00:04. -/
def leapingRecord : Record := { record with createdAt := ⟨4, 1333333333⟩ }

/-- The same session, created in the second after that, 00:00:05. -/
def steadyRecord : Record := { record with createdAt := ⟨5, 333333333⟩ }

/-- A session is opened and read by the transaction that opens it, and after the commit. -/
def leapingDeeds : List (Clock × Deed) :=
  [(⟨0⟩, .begin), (⟨0⟩, .insert leapingRecord lifetime), (⟨0⟩, .get "a"), (⟨1⟩, .commit),
    (⟨2⟩, .find "a")]

theorem representable_leapingRecord : leapingRecord.createdAt.Representable :=
  ⟨by decide, by decide⟩

theorem answers_leapingDeeds : (Site.deeds ⟨.inMemory .default, .empty⟩ leapingDeeds).2 =
    [.ok .done, .ok .done, .ok (.session (some steadyRecord)), .ok .done,
      .ok (.session (some steadyRecord))] := by
  decide +kernel

/-- **A session that was created in such a second is not answered as it was inserted.** All else
that the theorem asks for holds of the sequence, but the store answers the session of the second
after. -/
theorem deeds_differ_of_leap :
    Refines {s | s ∈ Sample.texts} ⟨.inMemory .default, .empty⟩ ⟨Book.empty, none⟩ ⟨0⟩ ∧
      leapingRecord.Within {s | s ∈ Sample.texts} ∧ leapingRecord.createdAt.Representable ∧
      Txn.HasRoom ⟨∅, ⟨0⟩, ∅⟩ leapingRecord ∧
      (∀ k w, (Session.insert ⟨∅, ⟨0⟩, ∅⟩ leapingRecord lifetime).pending.find? k = some w →
        w.Fits .default ⟨1⟩ k) ∧
      ¬∃ answers l', (Site.deeds ⟨.inMemory .default, .empty⟩ leapingDeeds).2 = answers.map .ok ∧
        Ledger.Run ⟨Book.empty, none⟩ leapingDeeds answers l' := by
  obtain ⟨settled, hs⟩ : ∃ settled, (Session.insert ⟨∅, ⟨0⟩, ∅⟩ leapingRecord
      lifetime).pending.settle .default ⟨1⟩ = .ok settled := exists_eq_ok (by decide +kernel)
  refine ⟨refines, within_record _, representable_leapingRecord, .inl fun k _ => rfl,
    (Pending.settle_eq_ok_iff.1 hs).1, ?_⟩
  rintro ⟨answers, l', hanswers, hrun⟩
  rw [answers_leapingDeeds] at hanswers
  -- What the map answers first: the third answer is the session that was inserted.
  obtain _ | ⟨-, ⟨-, rfl, rfl⟩, hrun⟩ := hrun
  obtain _ | ⟨-, ⟨b, b', hb, ⟨rfl, rfl⟩, rfl⟩, hrun⟩ := hrun
  obtain _ | ⟨-, ⟨b, b', hb', ⟨rfl, -⟩, -⟩, -⟩ := hrun
  cases hb
  cases hb'
  have hthird := congrArg (·[2]?) hanswers
  have hid : "a" = leapingRecord.id := rfl
  have heq : steadyRecord = leapingRecord := by
    simpa [Book.set, Book.filter, Lease.isLive, hid, Option.filter_some] using hthird
  exact absurd heq (by decide)

end Sample

end SessionTokens
