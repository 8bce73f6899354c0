import SessionTokens.Platform
import SessionTokens.Proofs.Text.Trim
/-!
# How user agents name platforms

The grammar of user agents, without a word about how one is read.

* A user agent *comments on* its device by an entry if it has a first pair of parentheses and the
  entry stands there up to the first semicolon, trimmed and not empty.
* It *has a product* if its first word, up to its first slash, is not empty and does not open a
  comment.

**Theorem (`ofUserAgent_exact`).** The platform of a user agent is the entry by which it comments on
its device; if there is none, its product; if there is none either, unknown. So a platform is never
empty, neither begins nor ends with a blank, and unless it is unknown it stands in the user agent.
-/

namespace SessionTokens.Platform

open Text

variable {cs inside entry word name platform : List Char}

/-! ## The grammar -/

/-- Whether a text stands in the first pair of parentheses: behind the first that opens, up to the
first behind it that closes. -/
def Encloses (cs inside : List Char) : Prop :=
  ∃ before rest, cs = before ++ '(' :: (inside ++ ')' :: rest) ∧ '(' ∉ before ∧ ')' ∉ inside

/-- Whether a user agent comments on its device by an entry. -/
def CommentsOn (cs entry : List Char) : Prop :=
  ∃ inside part, Encloses cs inside ∧ UpTo ';' inside part ∧ TrimsTo part entry ∧ entry ≠ []

/-- Whether a word is the first of a text: only blanks stand before it, none in it, and it goes on
to a blank or to the end. -/
def Leads (word cs : List Char) : Prop :=
  word ≠ [] ∧ (∀ c ∈ word, isBlank c = false) ∧
    ∃ before after, cs = before ++ word ++ after ∧ (∀ c ∈ before, isBlank c = true) ∧
      ∀ c ∈ after.head?, isBlank c = true

/-- Whether a user agent has a product. -/
def HasProduct (cs name : List Char) : Prop :=
  ∃ word, Leads word cs ∧ UpTo '/' word name ∧ name ≠ [] ∧ name.head? ≠ some '('

/-- Whether a user agent names a platform. -/
inductive Names (cs : List Char) : List Char → Prop
  | comment {entry : List Char} (h : CommentsOn cs entry) : Names cs entry
  | product {name : List Char} (noComment : ∀ entry, ¬CommentsOn cs entry)
      (h : HasProduct cs name) : Names cs name
  | nothing (noComment : ∀ entry, ¬CommentsOn cs entry) (noProduct : ∀ name, ¬HasProduct cs name) :
      Names cs unknown.toList

/-! ## Comments -/

theorem comment?_eq_some_iff : comment? cs = some inside ↔ Encloses cs inside := by
  simp only [comment?, bind, Option.bind_eq_some_iff]
  constructor
  · rintro ⟨opened, hopened, h⟩
    split at h
    · next hclosed =>
      obtain ⟨rest, hrest⟩ := Option.isSome_iff_exists.1 hclosed
      cases h
      obtain ⟨hcs, hbefore⟩ := cut_eq_some_iff.1 (Prod.ext rfl hopened)
      obtain ⟨hinside, hnot⟩ := cut_eq_some_iff.1 (Prod.ext rfl hrest)
      exact ⟨_, rest, hcs.trans (congrArg (_ ++ '(' :: ·) hinside), hbefore, hnot⟩
    · cases h
  · rintro ⟨before, rest, rfl, hbefore, hinside⟩
    refine ⟨inside ++ ')' :: rest, ?_, ?_⟩
    · rw [cut_append hbefore]
    · rw [cut_append hinside]
      rfl

/-- **The entry of a comment is read exactly if the user agent comments on its device by it.** -/
theorem commentEntry?_eq_some_iff : commentEntry? cs = some entry ↔ CommentsOn cs entry := by
  simp only [bind, commentEntry?, Option.bind_eq_some_iff, comment?_eq_some_iff, CommentsOn,
    upTo_iff, trimsTo_iff]
  constructor
  · rintro ⟨inside, hinside, h⟩
    split at h
    · cases h
    · next hne =>
      cases h
      exact ⟨inside, _, hinside, rfl, rfl, hne⟩
  · rintro ⟨inside, _, hinside, rfl, rfl, hne⟩
    exact ⟨inside, hinside, if_neg hne⟩

/-! ## Products -/

theorem firstWord_of_leads (h : Leads word cs) : firstWord cs = word := by
  obtain ⟨hne, hword, before, after, rfl, hbefore, hafter⟩ := h
  have hstart : ∀ c ∈ (word ++ after).head?, isBlank c = false := by
    intro c hc
    cases word with
    | nil => exact absurd rfl hne
    | cons d word => exact hword c (by simp_all)
  rw [firstWord, List.append_assoc, trimStart_append hbefore hstart,
    takeWhile_run (by simpa using hword) (by simpa using hafter)]

theorem leads_firstWord (h : firstWord cs ≠ []) : Leads (firstWord cs) cs := by
  refine ⟨h, ?_, cs.takeWhile isBlank, (trimStart cs).dropWhile fun c => !isBlank c, ?_,
    fun c => List.mem_takeWhile_imp, ?_⟩
  · intro c hc
    simpa using List.mem_takeWhile_imp hc
  · rw [List.append_assoc, firstWord, List.takeWhile_append_dropWhile, trimStart,
      List.takeWhile_append_dropWhile]
  · intro c hc
    have hnot := List.head?_dropWhile_not (fun c => !isBlank c) (trimStart cs)
    rw [hc] at hnot
    simpa using hnot

/-- **A product is read exactly if the user agent has it.** -/
theorem product?_eq_some_iff : product? cs = some name ↔ HasProduct cs name := by
  constructor
  · intro h
    unfold product? at h
    split at h
    · cases h
    · next c rest hcut =>
      split at h
      · cases h
      · next hc =>
        cases h
        have hword : firstWord cs ≠ [] := by
          intro hnil
          rw [hnil] at hcut
          cases hcut
        exact ⟨_, leads_firstWord hword, upTo_iff.2 hcut, by simp, by simpa using hc⟩
  · rintro ⟨word, hword, hcut, hne, hopen⟩
    rw [upTo_iff, ← firstWord_of_leads hword] at hcut
    unfold product?
    rw [hcut]
    cases name with
    | nil => exact absurd rfl hne
    | cons c rest => exact if_neg (by simpa using hopen)

/-! ## Platforms -/

theorem names_ofUserAgent (userAgent : String) :
    Names userAgent.toList (ofUserAgent userAgent).toList := by
  unfold ofUserAgent
  dsimp only
  cases hcomment : commentEntry? userAgent.toList with
  | some entry =>
    rw [String.toList_ofList]
    exact .comment (commentEntry?_eq_some_iff.1 hcomment)
  | none =>
    have noComment : ∀ entry, ¬CommentsOn userAgent.toList entry := by
      intro entry h
      rw [commentEntry?_eq_some_iff.2 h] at hcomment
      cases hcomment
    cases hproduct : product? userAgent.toList with
    | some name =>
      rw [String.toList_ofList]
      exact .product noComment (product?_eq_some_iff.1 hproduct)
    | none =>
      refine .nothing noComment fun name h => ?_
      rw [product?_eq_some_iff.2 h] at hproduct
      cases hproduct

/-- A user agent names one platform only. -/
theorem Names.unique {p q : List Char} (hp : Names cs p) (hq : Names cs q) : p = q := by
  have hcomments : ∀ {e e'}, CommentsOn cs e → CommentsOn cs e' → e = e' := by
    intro e e' h h'
    rw [← commentEntry?_eq_some_iff] at h h'
    exact Option.some.inj (h.symm.trans h')
  have hproducts : ∀ {n n'}, HasProduct cs n → HasProduct cs n' → n = n' := by
    intro n n' h h'
    rw [← product?_eq_some_iff] at h h'
    exact Option.some.inj (h.symm.trans h')
  cases hp with
  | comment h =>
    cases hq with
    | comment h' => exact hcomments h h'
    | product no _ => exact absurd h (no _)
    | nothing no _ => exact absurd h (no _)
  | product no h =>
    cases hq with
    | comment h' => exact absurd h' (no _)
    | product _ h' => exact hproducts h h'
    | nothing _ no' => exact absurd h (no' _)
  | nothing no no' =>
    cases hq with
    | comment h' => exact absurd h' (no _)
    | product _ h' => exact absurd h' (no' _)
    | nothing => rfl

/-! ## What platforms look like -/

theorem CommentsOn.tight (h : CommentsOn cs entry) : entry ≠ [] ∧ Tight entry := by
  obtain ⟨_, _, -, -, htrims, hne⟩ := h
  exact ⟨hne, htrims.1⟩

theorem HasProduct.tight (h : HasProduct cs name) : name ≠ [] ∧ Tight name := by
  obtain ⟨word, ⟨-, hword, -⟩, ⟨-, hpart⟩, hne, -⟩ := h
  have hsub : ∀ c ∈ name, isBlank c = false := by
    intro c hc
    rcases hpart with rfl | ⟨rest, rfl⟩
    · exact hword c hc
    · exact hword c (List.mem_append_left _ hc)
  exact ⟨hne, fun c hc => hsub c (List.mem_of_mem_head? hc),
    fun c hc => hsub c (List.mem_of_mem_getLast? hc)⟩

theorem CommentsOn.isInfix (h : CommentsOn cs entry) : entry <:+: cs := by
  obtain ⟨inside, part, ⟨before, rest, rfl, -, -⟩, hpart, ⟨-, _, _, rfl, -, -⟩, -⟩ := h
  have hinside : inside <:+: before ++ '(' :: (inside ++ ')' :: rest) :=
    ⟨before ++ ['('], ')' :: rest, by simp⟩
  exact (List.infix_append _ _ _).trans (hpart.isPrefix.isInfix.trans hinside)

theorem HasProduct.isInfix (h : HasProduct cs name) : name <:+: cs := by
  obtain ⟨word, ⟨-, -, before, after, rfl, -, -⟩, hname, -, -⟩ := h
  exact hname.isPrefix.isInfix.trans (List.infix_append _ _ _)

theorem tight_unknown : Tight unknown.toList := by
  refine ⟨fun c hc => ?_, fun c hc => ?_⟩
  · obtain rfl : 'u' = c := Option.some.inj hc
    decide
  · obtain rfl : 'n' = c := Option.some.inj hc
    decide

theorem Names.sound (h : Names cs platform) :
    platform ≠ [] ∧ Tight platform ∧ (platform = unknown.toList ∨ platform <:+: cs) := by
  cases h with
  | comment h => exact ⟨h.tight.1, h.tight.2, .inr h.isInfix⟩
  | product _ h => exact ⟨h.tight.1, h.tight.2, .inr h.isInfix⟩
  | nothing => exact ⟨by decide, tight_unknown, .inl rfl⟩

/-- **Platforms are derived by the grammar.** The platform of a user agent is what the user agent
names, whatever stands behind its first comment. It is not empty, neither begins nor ends with a
blank, and is unknown or a contiguous part of the user agent. -/
theorem ofUserAgent_exact (userAgent : String) :
    (∀ platform, ofUserAgent userAgent = platform ↔ Names userAgent.toList platform.toList) ∧
    ofUserAgent userAgent ≠ "" ∧ Tight (ofUserAgent userAgent).toList ∧
    (ofUserAgent userAgent = unknown ∨ (ofUserAgent userAgent).toList <:+: userAgent.toList) := by
  have hnames := names_ofUserAgent userAgent
  obtain ⟨hne, htight, hpart⟩ := hnames.sound
  refine ⟨fun platform => ⟨?_, fun h => ?_⟩, ?_, htight, ?_⟩
  · rintro rfl
    exact hnames
  · exact String.toList_injective (hnames.unique h)
  · intro hempty
    exact hne (by rw [hempty]; rfl)
  · exact hpart.imp_left fun h => String.toList_injective h

/-- A parenthesis inside a comment is part of its entry, and an ideographic space is trimmed. -/
example : ofUserAgent "a/1 (\u3000b (c ;d) e)" = "b (c" := by decide

end SessionTokens.Platform
