import SessionTokens.Token.Issuer
/-!
# What a verified token says

* `parts?_eq_some`: a token is split at its last two dots.
* `verify_eq_ok_iff`: all that the success of a verification takes.
* `verify_eq_ok`: **the claims of a token that is verified stand in its payload**.
-/

namespace SessionTokens

/-! ## Parts -/

namespace Compact

/-- **A text is split at its last dot.** -/
theorem splitLast?_eq_some {bs a b : Bytes} :
    splitLast? bs = some (a, b) ↔ bs = join a b ∧ dot ∉ b := by
  constructor
  · intro h
    unfold splitLast? at h
    dsimp only at h
    have hsplit := bs.reverse.takeWhile_append_dropWhile (p := fun x => decide (x ≠ dot))
    split at h
    · cases h
    · next x before hdrop =>
      cases h
      have hx : x = dot := by
        have hhead := List.head?_dropWhile_not (fun x => decide (x ≠ dot)) bs.reverse
        rw [hdrop] at hhead
        simpa using hhead
      refine ⟨?_, fun hmem => ?_⟩
      · have hjoin := congrArg List.reverse hsplit
        rw [hdrop, hx, List.reverse_reverse] at hjoin
        exact hjoin.symm.trans (by simp [join])
      · have hall := List.all_eq_true.1 List.all_takeWhile dot (List.mem_reverse.1 hmem)
        simp at hall
  · rintro ⟨rfl, hdot⟩
    have hall : ∀ x ∈ b.reverse, decide (x ≠ dot) = true := by
      intro x hx
      rw [decide_eq_true_eq]
      rintro rfl
      exact hdot (List.mem_reverse.1 hx)
    have hback : (join a b).reverse = b.reverse ++ dot :: a.reverse := by simp [join]
    rw [splitLast?, hback, List.dropWhile_append_of_pos hall, List.takeWhile_append_of_pos hall]
    simp

end Compact

namespace Issuer

/-- **A token has three parts, split from the right.** -/
theorem parts?_eq_some {bs header payload signature : Bytes} :
    parts? bs = some (header, payload, signature) ↔
      bs = Compact.join (Compact.join header payload) signature ∧
        Compact.dot ∉ payload ∧ Compact.dot ∉ signature := by
  have hparts : parts? bs = some (header, payload, signature) ↔
      ∃ message, Compact.splitLast? bs = some (message, signature) ∧
        Compact.splitLast? message = some (header, payload) := by
    simp only [parts?, bind, Option.bind_eq_some_iff]
    constructor
    · rintro ⟨⟨message, _⟩, hmessage, ⟨_, _⟩, hrest, heq⟩
      cases heq
      exact ⟨message, hmessage, hrest⟩
    · rintro ⟨message, hmessage, hrest⟩
      exact ⟨_, hmessage, _, hrest, rfl⟩
  rw [hparts]
  simp only [Compact.splitLast?_eq_some]
  constructor
  · rintro ⟨_, ⟨rfl, hsignature⟩, rfl, hpayload⟩
    exact ⟨rfl, hpayload, hsignature⟩
  · rintro ⟨rfl, hpayload, hsignature⟩
    exact ⟨_, ⟨rfl, hsignature⟩, rfl, hpayload⟩

/-! ## What is accepted -/

theorem orFault_eq_ok {α : Type} {fault : TokenFault} {o : Option α} {a : α} :
    orFault fault o = .ok a ↔ o = some a := by
  cases o <;> simp [orFault]

theorem demand_eq_ok {fault : TokenFault} {holds : Bool} :
    demand fault holds = .ok () ↔ holds = true := by
  cases holds <;> simp [demand]

theorem checkClaims_eq_ok {i : Issuer} {clock : Clock} {c : Claims} :
    i.checkClaims clock c = .ok () ↔ ∃ now, clock.read = .ok now ∧
      c.core.issuer = i.config.issuer ∧ now.seconds < c.core.expiresAt := by
  constructor
  · intro h
    unfold checkClaims at h
    obtain ⟨_, -, h⟩ := bind_eq_ok.1 h
    obtain ⟨_, -, h⟩ := bind_eq_ok.1 h
    obtain ⟨_, -, h⟩ := bind_eq_ok.1 h
    obtain ⟨_, hissuer, h⟩ := bind_eq_ok.1 h
    obtain ⟨now, hread, h⟩ := bind_eq_ok.1 h
    exact ⟨now, Halt.ofAbort_eq_ok.1 hread, of_decide_eq_true (demand_eq_ok.1 hissuer),
      of_decide_eq_true (demand_eq_ok.1 h)⟩
  · rintro ⟨now, hread, hissuer, halive⟩
    have hnow : 0 ≤ now.nanos := (Clock.read_eq_ok_iff.1 hread).2.1
    have hsecond : 0 ≤ now.seconds := Int.ediv_nonneg hnow (by decide)
    have hpos : 0 ≤ c.core.expiresAt := by omega
    have hle : now.seconds ≤ c.core.expiresAt := by omega
    simp [checkClaims, demand, Clock.second_of_read hread, hread, hissuer, halive, hpos, hle, bind,
      Except.bind]

/-- Claims whose second has come are refused as expired. -/
theorem checkClaims_of_expired {i : Issuer} {clock : Clock} {now : Instant} {c : Claims}
    (hread : clock.read = .ok now) (hpos : 0 ≤ c.core.expiresAt)
    (hissuer : c.core.issuer = i.config.issuer) (hexpired : c.core.expiresAt ≤ now.seconds) :
    i.checkClaims clock c = .error (.failed .expired) := by
  by_cases hle : now.seconds ≤ c.core.expiresAt
  · simp [checkClaims, demand, Clock.second_of_read hread, hread, hissuer, hpos, hle,
      Int.not_lt.2 hexpired, bind, Except.bind]
  · simp [checkClaims, demand, Clock.second_of_read hread, hpos, hle, bind, Except.bind]

/-- A token with all parts in order is verified as far as its claims are. -/
theorem verify_of_parts {i : Issuer} {clock : Clock} {token : String} {c : Claims}
    {header payload signature headerBytes payloadBytes signatureBytes : Bytes}
    {check : Bytes → Bytes → Bool}
    (hparts : parts? (Text.utf8 token) = some (header, payload, signature))
    (hheader : Compact.bytes? header = some headerBytes)
    (halgorithm : Header.algorithm? headerBytes = some i.config.algorithm)
    (hcheck : i.keys.checker = .ok check)
    (hsignature : Compact.bytes? signature = some signatureBytes)
    (hvalid : check (Compact.join header payload) signatureBytes = true)
    (hpayload : Compact.bytes? payload = some payloadBytes)
    (hclaims : claimsOf? payloadBytes = some c) :
    i.verify clock token = (i.checkClaims clock c).map fun _ => c := by
  simp only [verify, orFault, demand, hparts, hheader, halgorithm, hcheck, hsignature, hvalid,
    hpayload, hclaims, bind, Except.bind, pure, Except.pure, decide_true, if_true]
  cases i.checkClaims clock c <;> rfl

/-- **All that the success of a verification takes.** -/
theorem verify_eq_ok_iff {i : Issuer} {clock : Clock} {token : String} {c : Claims} :
    i.verify clock token = .ok c ↔ ∃ header payload signature,
      parts? (Text.utf8 token) = some (header, payload, signature) ∧
      (∃ bs, Compact.bytes? header = some bs ∧
        Header.algorithm? bs = some i.config.algorithm) ∧
      (∃ check bs, i.keys.checker = .ok check ∧ Compact.bytes? signature = some bs ∧
        check (Compact.join header payload) bs = true) ∧
      (∃ bs, Compact.bytes? payload = some bs ∧ claimsOf? bs = some c) ∧
      i.checkClaims clock c = .ok () := by
  constructor
  · intro h
    unfold verify at h
    obtain ⟨⟨header, payload, signature⟩, hparts, h⟩ := bind_eq_ok.1 h
    obtain ⟨headerBytes, hheader, h⟩ := bind_eq_ok.1 h
    obtain ⟨algorithm, halgorithm, h⟩ := bind_eq_ok.1 h
    obtain ⟨_, hsame, h⟩ := bind_eq_ok.1 h
    obtain ⟨check, hcheck, h⟩ := bind_eq_ok.1 h
    obtain ⟨signatureBytes, hsignature, h⟩ := bind_eq_ok.1 h
    obtain ⟨_, hvalid, h⟩ := bind_eq_ok.1 h
    obtain ⟨payloadBytes, hpayload, h⟩ := bind_eq_ok.1 h
    obtain ⟨c', hclaims, h⟩ := bind_eq_ok.1 h
    obtain ⟨_, htimes, h⟩ := bind_eq_ok.1 h
    cases h
    obtain rfl : algorithm = i.config.algorithm := of_decide_eq_true (demand_eq_ok.1 hsame)
    exact ⟨header, payload, signature, orFault_eq_ok.1 hparts,
      ⟨headerBytes, orFault_eq_ok.1 hheader, orFault_eq_ok.1 halgorithm⟩,
      ⟨check, signatureBytes, hcheck, orFault_eq_ok.1 hsignature, demand_eq_ok.1 hvalid⟩,
      ⟨payloadBytes, orFault_eq_ok.1 hpayload, orFault_eq_ok.1 hclaims⟩, htimes⟩
  · rintro ⟨header, payload, signature, hparts, ⟨headerBytes, hheader, halgorithm⟩,
      ⟨check, signatureBytes, hcheck, hsignature, hvalid⟩, ⟨payloadBytes, hpayload, hclaims⟩,
      htimes⟩
    rw [verify_of_parts hparts hheader halgorithm hcheck hsignature hvalid hpayload hclaims, htimes]
    rfl

/-- The claims of a token that is verified stand in the token, and the clock can be read. -/
theorem verify_eq_ok {i : Issuer} {clock : Clock} {token : String} {c : Claims}
    (h : i.verify clock token = .ok c) :
    (∃ parts payload, parts? (Text.utf8 token) = some parts ∧
      Compact.bytes? parts.2.1 = some payload ∧ claimsOf? payload = some c) ∧
      ∃ now, clock.read = .ok now := by
  obtain ⟨header, payload, signature, hparts, -, -, ⟨bs, hpayload, hclaims⟩, htimes⟩ :=
    verify_eq_ok_iff.1 h
  obtain ⟨now, hread, -⟩ := checkClaims_eq_ok.1 htimes
  exact ⟨⟨_, bs, hparts, hpayload, hclaims⟩, now, hread⟩

/-- The id of the session that a token is for, whether the token can be verified or not. -/
def namedId? (token : String) : Option String := do
  let parts ← parts? (Text.utf8 token)
  let payload ← Compact.bytes? parts.2.1
  return (← claimsOf? payload).core.id

/-- A token that is verified is for the session that it names. -/
theorem namedId?_of_verify {i : Issuer} {clock : Clock} {token : String} {c : Claims}
    (h : i.verify clock token = .ok c) : namedId? token = some c.core.id := by
  obtain ⟨⟨parts, payload, hparts, hpayload, hclaims⟩, -⟩ := verify_eq_ok h
  simp [namedId?, hparts, hpayload, hclaims]

end Issuer

end SessionTokens
