import Mathlib.Data.List.TakeWhile
import SessionTokens.Proofs.Json.Structure
import SessionTokens.Proofs.Text.Ascii
import SessionTokens.Proofs.Token.Verify
/-!
# Tokens that were issued

What an issuer writes into a token it reads back: the parts, the header and the claims.

* `algorithm?_encode`: **a header names the algorithm that it was written for**.
* `claimsOf?_encode`: **claims read back**, with or without an extension, if their times are whole
  seconds of sixty-four bits.
* `verify_sign`: **a token that was signed is verified until the second of its expiry**, and from
  then on it has expired, if the keys accept the signatures that they make.
-/

namespace SessionTokens

/-! ## Numbers that are read in full -/

namespace Json

/-- Digits are all taken if their number stays below the limit. -/
theorem takeDigits_of_lt (ds : Bytes) {n : Nat}
    (h : ds.foldl (fun n b => 10 * n + (b.toNat - 0x30)) n < Nat.pow 2 64) :
    takeDigits n ds = (ds.foldl (fun n b => 10 * n + (b.toNat - 0x30)) n, []) := by
  induction ds generalizing n with
  | nil => rfl
  | cons d ds ih =>
    rw [List.foldl_cons] at h ⊢
    have hgrown := Nat.lt_of_le_of_lt (Text.le_foldl_digits ds _) h
    rw [takeDigits, if_pos hgrown]
    exact ih h

theorem roundToDouble_le (n : Nat) : roundToDouble n ≤ 2 * n := by
  unfold roundToDouble
  split
  · omega
  · next hlarge =>
    have hpos : n ≠ 0 := by
      rintro rfl
      exact hlarge (by decide)
    have hunit : Nat.pow 2 (Nat.log2 n - 52) ≤ n :=
      Nat.le_trans (Nat.pow_le_pow_right (by decide) (Nat.sub_le _ 52)) (Nat.log2_self_le hpos)
    have hkept := Nat.div_mul_le_self n (Nat.pow 2 (Nat.log2 n - 52))
    dsimp only
    split
    · rw [Nat.add_mul, Nat.one_mul]
      omega
    · omega

theorem decimal_digits {n : Nat} (h : n < Nat.pow 2 64) : decimal (Text.digits n) = (n, 0) := by
  have hdigit : ∀ b ∈ Text.digits n, Text.isDigit b = true :=
    List.all_eq_true.1 (Text.all_isDigit_digits n)
  have hmark : ∀ b ∈ Text.digits n, (!(b == 0x65 || b == 0x45)) = true := by
    intro b hb
    have hlower : b ≠ 0x65 := by
      rintro rfl
      exact absurd (hdigit _ hb) (by decide)
    have hupper : b ≠ 0x45 := by
      rintro rfl
      exact absurd (hdigit _ hb) (by decide)
    simp [hlower, hupper]
  have hunsigned : (Text.digits n).dropWhile (fun b => b == 0x2D) = Text.digits n := by
    cases hds : Text.digits n with
    | nil => rfl
    | cons d ds =>
      have hminus := ne_minus_of_isDigit (hdigit d (by rw [hds]; exact List.mem_cons_self))
      exact List.dropWhile_cons_of_neg (by simpa using hminus)
  have hvalue : (Text.digits n).foldl (fun n b => 10 * n + (b.toNat - 0x30)) 0 = n :=
    Text.ofDigits_digits n
  have htake := takeDigits_of_lt (Text.digits n) (n := 0) (by rw [hvalue]; exact h)
  rw [hvalue] at htake
  have hmantissa := List.takeWhile_eq_self_iff.2 hmark
  have hexponent := List.dropWhile_eq_nil_iff.2 hmark
  have hwhole := List.takeWhile_eq_self_iff.2 hdigit
  unfold decimal
  dsimp only
  rw [hunsigned, hmantissa, hexponent, hwhole, htake,
    List.drop_eq_nil_of_le (Nat.le_succ (Text.digits n).length)]
  rfl

theorem decimal_minus (ds : Bytes) : decimal (0x2D :: ds) = decimal ds := rfl

/-- A whole number of sixty-four bits with a sign can be read in full. -/
theorem readable_int {n : Int} (h : n.natAbs < Nat.pow 2 64) (depth : Nat) :
    readable depth (int n) = true := by
  have hdecimal : decimal (if n < 0 then 0x2D :: Text.digits n.natAbs
      else Text.digits n.natAbs) = (n.natAbs, 0) := by
    split
    · rw [decimal_minus]
      exact decimal_digits h
    · exact decimal_digits h
  have hle : roundToDouble n.natAbs * roundToDouble (Nat.pow 10 0) < doubleLimit := by
    have hround := roundToDouble_le n.natAbs
    have hone : roundToDouble (Nat.pow 10 0) = 1 := by decide
    have hlimit : 2 * Nat.pow 2 64 < doubleLimit := by decide +kernel
    rw [hone]
    omega
  have hfits : overflows (if n < 0 then 0x2D :: Text.digits n.natAbs
      else Text.digits n.natAbs) = false := by
    rw [overflows, hdecimal]
    dsimp only
    split
    · rfl
    · have hpower : ¬maxTenPower < 0 := by decide
      rw [if_neg hpower]
      exact decide_eq_false (Nat.not_le.2 hle)
  rw [int, readable, hfits]
  rfl

theorem readable_text (s : String) (depth : Nat) : readable depth (text s) = true := by
  rw [text, readable, rawText?_escape]
  rfl

/-- An object whose values can be read in full opens to its fields. -/
theorem openMembers?_ofFields {fields : List (String × Json)} {depth : Nat}
    (h : ∀ f ∈ fields, readable depth f.2 = true) :
    openMembers? (depth + 1) (ofFields fields) = some fields := by
  have hall : readableMembers depth (fields.map fun f => (escape (Text.utf8 f.1), f.2)) = true := by
    induction fields with
    | nil => rfl
    | cons f fields ih =>
      rw [List.forall_mem_cons] at h
      rw [List.map_cons, readableMembers, rawText?_escape, h.1, ih h.2]
      rfl
  rw [ofFields, openMembers?, readable, if_pos hall, named?_ofFields]

end Json

/-! ## Parts -/

namespace Compact

theorem bytes?_part (bs : Bytes) : bytes? (part bs) = some bs := Base64.decode?_encode .url bs

theorem dot_not_mem_part (bs : Bytes) : dot ∉ part bs := by
  intro hdot
  have hall : (part bs).all (fun b => b != dot) = true :=
    Base64.all_encode (by decide) (by decide) bs
  exact absurd (List.all_eq_true.1 hall dot hdot) (by decide)

end Compact

/-- **A header names the algorithm that it was written for.** -/
theorem Header.algorithm?_encode (a : Algorithm) : algorithm? (encode a) = some a := by
  cases a <;> decide +kernel

/-! ## Claims -/

namespace Claims

/-- Whether the times of claims are whole seconds of sixty-four bits with a sign. -/
structure InSeconds (c : CoreClaims) : Prop where
  issuedAt : -0x8000000000000000 ≤ c.issuedAt ∧ c.issuedAt ≤ 0x7FFFFFFFFFFFFFFF
  expiresAt : -0x8000000000000000 ≤ c.expiresAt ∧ c.expiresAt ≤ 0x7FFFFFFFFFFFFFFF

/-- The members of written claims. -/
def fields (c : Claims) : List (String × Json) :=
  c.core.fields ++ match c.ext with
    | none => []
    | some e => e.fields

theorem int64?_int {n : Int} (h : -0x8000000000000000 ≤ n ∧ n ≤ 0x7FFFFFFFFFFFFFFF) :
    (Json.int n).int64? = some n := by
  rw [Json.int64?, Json.intIn?, Json.int?_int]
  simp [h]

/-- What holds of texts and of the two times holds of every field of claims. -/
theorem forall_fields {p : Json → Prop} {c : Claims} (htext : ∀ s, p (.text s))
    (hissued : p (.int c.core.issuedAt)) (hexpires : p (.int c.core.expiresAt)) :
    ∀ f ∈ c.fields, p f.2 := by
  obtain ⟨core, _ | ⟨hash, role, _ | parent⟩⟩ := c <;>
    simp [fields, CoreClaims.fields, Extension.fields, htext, hissued, hexpires]

theorem only?_fields (c : Claims) (name : String) :
    Json.only? c.fields name = some (c.fields.lookup name) := by
  refine Json.only?_eq_lookup ?_ name
  obtain ⟨core, _ | ⟨hash, role, _ | parent⟩⟩ := c <;>
    simp [fields, CoreClaims.fields, Extension.fields]

/-- An object whose values can be read in full is read as its fields. -/
theorem members?_ofFields {fields : List (String × Json)} (hregular : ∀ f ∈ fields, f.2.Regular)
    (hreadable : ∀ f ∈ fields, Json.readable 126 f.2 = true) :
    members? (Json.ofFields fields).render = some fields := by
  rw [members?, Json.parse?_render (Json.regular_ofFields hregular), Option.bind_some]
  exact Json.openMembers?_ofFields hreadable

theorem members?_encode {c : Claims} (h : InSeconds c.core) :
    members? c.encode = some c.fields := by
  obtain ⟨⟨hissued, hissued'⟩, hexpires, hexpires'⟩ := h
  refine members?_ofFields
    (forall_fields (p := Json.Regular) Json.regular_text (Json.regular_int _) (Json.regular_int _))
    (forall_fields (p := fun v => Json.readable 126 v = true)
      (fun s => Json.readable_text s 126) (Json.readable_int ?_ 126) (Json.readable_int ?_ 126))
  · show c.core.issuedAt.natAbs < 2 ^ 64
    omega
  · show c.core.expiresAt.natAbs < 2 ^ 64
    omega

theorem kind?_text (k : TokenKind) : CoreClaims.kind? (.text k.name) = some k := by
  have hname : (Json.text k.name).looseChoice? = some k.name := Json.rawText?_escape k.name
  rw [CoreClaims.kind?, hname]
  cases k <;> decide

theorem core_ofMembers?_fields {c : Claims} (h : InSeconds c.core) :
    CoreClaims.ofMembers? c.fields = some c.core := by
  have hissued := int64?_int h.issuedAt
  have hexpires := int64?_int h.expiresAt
  simp only [CoreClaims.ofMembers?, only?_fields]
  simp [fields, CoreClaims.fields, List.lookup_cons, Json.needed?, kind?_text, hissued, hexpires]

theorem ext_ofMembers?_fields (c : Claims) : Extension.ofMembers? c.fields = c.ext := by
  simp only [Extension.ofMembers?, only?_fields]
  obtain ⟨core, _ | ⟨hash, role, _ | parent⟩⟩ := c
  · simp [fields, CoreClaims.fields, List.lookup_cons, Json.needed?]
  · simp [fields, CoreClaims.fields, Extension.fields, List.lookup_cons, Json.needed?,
      Json.perhaps?]
  · have hparent : Json.perhaps? Json.text? (some (.text parent)) = some (some parent) := by
      show (Json.text parent).text?.map some = some (some parent)
      rw [Json.text?_text]
      rfl
    simp [fields, CoreClaims.fields, Extension.fields, List.lookup_cons, Json.needed?, hparent]

/-- Claims are read back from their members. -/
theorem ofMembers?_fields {c : Claims} (h : InSeconds c.core) : ofMembers? c.fields = some c := by
  rw [ofMembers?, core_ofMembers?_fields h, ext_ofMembers?_fields]
  rfl

/-- **Claims read back** from the payload that they are written to. -/
theorem claimsOf?_encode {c : Claims} (h : InSeconds c.core) :
    Issuer.claimsOf? c.encode = some c := by
  have hrest : Issuer.hasRegularRest c.fields = true := by
    simp only [Issuer.hasRegularRest, only?_fields]
    obtain ⟨core, _ | ⟨hash, role, _ | parent⟩⟩ := c <;>
      simp [fields, CoreClaims.fields, Extension.fields, List.lookup_cons, Issuer.isSubject,
        Issuer.isStart]
  simp [Issuer.claimsOf?, members?_encode h, ofMembers?_fields h, hrest]

end Claims

/-! ## Signing and verifying -/

/-- Whether keys accept the signature that they make of a message with a salt. -/
def TokenKeys.AcceptsOwn (k : TokenKeys) (salt : Rsa.Salt) (message : Bytes) : Prop :=
  ∀ signature, k.sign salt message = .ok (some signature) →
    ∃ check, k.checker = .ok check ∧ check message signature = true

/-- Whether keys make a signature of a message with a salt and accept it, as a test that can be
run. -/
def TokenKeys.acceptsOwn (k : TokenKeys) (salt : Rsa.Salt) (message : Bytes) : Bool :=
  match k.sign salt message, k.checker with
  | .ok (some signature), .ok check => check message signature
  | _, _ => false

theorem TokenKeys.acceptsOwn_sound {k : TokenKeys} {salt : Rsa.Salt} {message : Bytes}
    (h : k.acceptsOwn salt message = true) : k.AcceptsOwn salt message := by
  intro signature hsign
  unfold acceptsOwn at h
  rw [hsign] at h
  cases hcheck : k.checker with
  | error e =>
    rw [hcheck] at h
    cases h
  | ok check =>
    rw [hcheck] at h
    exact ⟨check, rfl, h⟩

/-- Only an RSA signature can hold a salt. -/
theorem TokenKeys.acceptsOwn_of_ne_rsa {k : TokenKeys} (h : k.algorithm.family? ≠ some .rsa)
    (salt salt' : Rsa.Salt) (message : Bytes) :
    k.acceptsOwn salt message = k.acceptsOwn salt' message := by
  have hsign : k.sign salt message = k.sign salt' message := by
    unfold sign
    cases hfamily : k.algorithm.family? with
    | none => rfl
    | some family =>
      cases family with
      | edwards => rfl
      | ellipticCurve => rfl
      | rsa => exact absurd hfamily h
  rw [acceptsOwn, hsign, acceptsOwn]

namespace Issuer

variable {i : Issuer} {clock : Clock} {salt : Rsa.Salt} {id : String} {kind : TokenKind}
  {lifetime : Duration} {ext : Option Extension} {issued : IssuedToken}

/-- The claims that an issuer signs at an instant for a lifetime. -/
def claimsFor (i : Issuer) (now : Instant) (id : String) (kind : TokenKind) (lifetime : Duration)
    (ext : Option Extension) : Claims :=
  i.claims now id kind (now.seconds + lifetime.seconds) ext

/-- What a token that was signed consists of. -/
theorem token_of_sign (h : i.sign clock salt id kind lifetime ext = .ok issued) :
    ∃ now signature, clock.read = .ok now ∧ now.seconds + lifetime.seconds ≤ maxSeconds ∧
      i.keys.sign salt (i.signedPart (i.claimsFor now id kind lifetime ext)) =
        .ok (some signature) ∧
      issued.token = Text.ascii (Compact.join
        (i.signedPart (i.claimsFor now id kind lifetime ext)) (Compact.part signature)) := by
  unfold sign at h
  obtain ⟨now, hread, h⟩ := bind_eq_ok.1 h
  split at h
  · cases h
  · next expiresAt hexpiry =>
    have hexpires : now.seconds + lifetime.seconds ≤ maxSeconds ∧
        now.seconds + lifetime.seconds = expiresAt := by
      unfold expiry? at hexpiry
      dsimp only at hexpiry
      split at hexpiry
      · next hle =>
        simp only [Bool.and_eq_true, decide_eq_true_eq] at hle
        cases hexpiry
        exact ⟨hle.2, rfl⟩
      · cases hexpiry
    obtain ⟨hle, rfl⟩ := hexpires
    obtain ⟨signature?, hsign, h⟩ := bind_eq_ok.1 h
    cases signature? with
    | none => cases h
    | some signature =>
      cases h
      exact ⟨now, signature, Halt.ofAbort_eq_ok.1 hread, hle, Halt.ofAbort_eq_ok.1 hsign, rfl⟩

/-- A token that was signed has the id and the lifetime that were asked for. -/
theorem sign_eq_ok (h : i.sign clock salt id kind lifetime ext = .ok issued) :
    issued.id = id ∧ issued.lifetime = lifetime := by
  unfold sign at h
  obtain ⟨now, -, h⟩ := bind_eq_ok.1 h
  split at h
  · cases h
  · obtain ⟨signature?, -, h⟩ := bind_eq_ok.1 h
    cases signature? with
    | none => cases h
    | some signature =>
      cases h
      exact ⟨rfl, rfl⟩

theorem issue_eq_ok {fresh : Draw} {pair : TokenPair} {ext : Extension} :
    (i.issue clock fresh ext).result = .ok pair ↔
      i.sign clock fresh.refreshSalt fresh.id .refresh i.config.refreshTtl (some ext) =
          .ok pair.refresh ∧
        i.sign clock fresh.accessSalt fresh.id .access i.config.accessTtl none =
          .ok pair.access := by
  unfold issue
  simp only [Traced.result_bind, Traced.result_liftM, bind_eq_ok, Traced.result_note,
    Traced.result_pure]
  constructor
  · rintro ⟨refresh, hrefresh, access, haccess, _, -, heq⟩
    cases heq
    exact ⟨hrefresh, haccess⟩
  · rintro ⟨hrefresh, haccess⟩
    exact ⟨_, hrefresh, _, haccess, (), trivial, rfl⟩

theorem inSeconds_claimsFor {now : Instant} (hread : clock.read = .ok now)
    (hle : now.seconds + lifetime.seconds ≤ maxSeconds) (id : String) (kind : TokenKind)
    (ext : Option Extension) : Claims.InSeconds (i.claimsFor now id kind lifetime ext).core := by
  have hpos : 0 ≤ now.seconds := Int.ediv_nonneg (Clock.read_eq_ok_iff.1 hread).2.1 (by decide)
  have hlifetime : (0 : Int) ≤ lifetime.seconds := Int.natCast_nonneg _
  unfold maxSeconds at hle
  constructor
  · show _ ≤ now.seconds ∧ now.seconds ≤ _
    omega
  · show _ ≤ now.seconds + (lifetime.seconds : Int) ∧ now.seconds + (lifetime.seconds : Int) ≤ _
    omega

/-- The parts of a token that was signed. -/
theorem parts?_signed (i : Issuer) (c : Claims) (signature : Bytes) :
    parts? (Text.utf8 (Text.ascii (Compact.join (i.signedPart c) (Compact.part signature)))) =
      some (Compact.part (Header.encode i.config.algorithm), Compact.part c.encode,
        Compact.part signature) := by
  have hascii : ∀ bs, (Compact.part bs).all Text.isAscii = true := Base64.all_isAscii_encode .url
  have hdot : Text.isAscii Compact.dot = true := by decide
  rw [Text.utf8_ascii (by simp only [signedPart, Compact.join, List.all_append, List.all_cons,
    hascii, hdot, Bool.and_true])]
  exact parts?_eq_some.2 ⟨rfl, Compact.dot_not_mem_part _, Compact.dot_not_mem_part _⟩

/-- **A token that was signed is verified until the second of its expiry**, and has expired from
then on. -/
theorem verify_sign (h : i.sign clock salt id kind lifetime ext = .ok issued) {now : Instant}
    (hread : clock.read = .ok now)
    (hown : i.keys.AcceptsOwn salt (i.signedPart (i.claimsFor now id kind lifetime ext)))
    {later : Clock} {then_ : Instant} (hlater : later.read = .ok then_) :
    i.verify later issued.token =
      if then_.seconds < now.seconds + lifetime.seconds then
        .ok (i.claimsFor now id kind lifetime ext)
      else .error (.failed .expired) := by
  obtain ⟨now', signature, hread', hle, hsign, htoken⟩ := token_of_sign h
  rw [hread] at hread'
  cases hread'
  obtain ⟨check, hcheck, hvalid⟩ := hown signature hsign
  have hclaims := Claims.claimsOf?_encode (inSeconds_claimsFor hread hle id kind ext (i := i))
  rw [htoken, verify_of_parts (parts?_signed i _ signature) (Compact.bytes?_part _)
    (Header.algorithm?_encode _) hcheck (Compact.bytes?_part signature) hvalid
    (Compact.bytes?_part _) hclaims]
  split
  · next halive =>
    rw [checkClaims_eq_ok.2 ⟨then_, hlater, rfl, halive⟩]
    rfl
  · next hexpired =>
    have hpos : 0 ≤ now.seconds := Int.ediv_nonneg (Clock.read_eq_ok_iff.1 hread).2.1 (by decide)
    have hexpires : 0 ≤ now.seconds + (lifetime.seconds : Int) := by omega
    rw [checkClaims_of_expired hlater hexpires rfl (Int.not_lt.1 hexpired)]
    rfl

end Issuer

end SessionTokens
