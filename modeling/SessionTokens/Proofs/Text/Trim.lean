import Mathlib.Data.List.DropRight
import SessionTokens.Text.Blank
/-!
# What cutting and trimming leave

Cutting a text at a character and trimming its blanks are walks over the text. Here it is said what
has to hold of what they leave, without a walk.

* `upTo_iff`: **the first part of a text reaches up to the separator, or to the end without one**.
* `trimsTo_iff`: **a trimmed text has lost blanks at both ends, and has none there any more**.
-/

namespace SessionTokens.Text

variable {c : Char} {cs part inner : List Char}

/-! ## Runs -/

/-- A run of elements of one kind is taken up to the first of another. -/
theorem takeWhile_run {α : Type} {p : α → Bool} {run rest : List α} (h : ∀ a ∈ run, p a = true)
    (hr : ∀ a ∈ rest.head?, p a = false) : (run ++ rest).takeWhile p = run := by
  rw [List.takeWhile_append_of_pos h]
  cases rest with
  | nil => simp
  | cons a rest => simp [hr a (by simp)]

theorem dropWhile_run {α : Type} {p : α → Bool} {run rest : List α} (h : ∀ a ∈ run, p a = true)
    (hr : ∀ a ∈ rest.head?, p a = false) : (run ++ rest).dropWhile p = rest := by
  rw [List.dropWhile_append_of_pos h]
  cases rest with
  | nil => rfl
  | cons a rest => simp [hr a (by simp)]

/-! ## The first part -/

theorem cut_append (h : c ∉ part) (rest : List Char) :
    cut c (part ++ c :: rest) = (part, some rest) := by
  induction part with
  | nil => simp [cut]
  | cons d part ih =>
    rw [List.mem_cons, not_or] at h
    simp [cut, Ne.symm h.1, ih h.2]

theorem cut_of_notMem (h : c ∉ cs) : cut c cs = (cs, none) := by
  induction cs with
  | nil => rfl
  | cons d cs ih =>
    rw [List.mem_cons, not_or] at h
    simp [cut, Ne.symm h.1, ih h.2]

/-- A text is cut exactly at its first separator. -/
theorem cut_eq_some_iff {rest : List Char} :
    cut c cs = (part, some rest) ↔ cs = part ++ c :: rest ∧ c ∉ part := by
  constructor
  · intro h
    by_cases hc : c ∈ cs
    · obtain ⟨before, after, rfl, hbefore⟩ := List.eq_append_cons_of_mem hc
      rw [cut_append hbefore] at h
      cases h
      exact ⟨rfl, hbefore⟩
    · rw [cut_of_notMem hc] at h
      cases h
  · rintro ⟨rfl, h⟩
    exact cut_append h rest

/-- Whether a text is, up to its first separator or its end, a given part. -/
def UpTo (c : Char) (cs part : List Char) : Prop :=
  c ∉ part ∧ (cs = part ∨ ∃ rest, cs = part ++ c :: rest)

/-- **The first part of a text reaches up to the separator, or to the end without one.** -/
theorem upTo_iff : UpTo c cs part ↔ (cut c cs).1 = part := by
  constructor
  · rintro ⟨h, rfl | ⟨rest, rfl⟩⟩
    · rw [cut_of_notMem h]
    · rw [cut_append h]
  · rintro rfl
    by_cases hc : c ∈ cs
    · obtain ⟨before, after, rfl, hbefore⟩ := List.eq_append_cons_of_mem hc
      rw [cut_append hbefore]
      exact ⟨hbefore, .inr ⟨after, rfl⟩⟩
    · rw [cut_of_notMem hc]
      exact ⟨hc, .inl rfl⟩

theorem UpTo.isPrefix (h : UpTo c cs part) : part <+: cs := by
  rcases h.2 with rfl | ⟨rest, rfl⟩
  · exact List.prefix_refl _
  · exact List.prefix_append _ _

/-! ## Blanks at the ends -/

/-- Whether a text neither begins nor ends with a blank. -/
def Tight (cs : List Char) : Prop :=
  (∀ c ∈ cs.head?, isBlank c = false) ∧ ∀ c ∈ cs.getLast?, isBlank c = false

/-- Whether a text is another one, which neither begins nor ends with a blank, among blanks. -/
def TrimsTo (cs inner : List Char) : Prop :=
  Tight inner ∧ ∃ before after, cs = before ++ inner ++ after ∧
    (∀ c ∈ before, isBlank c = true) ∧ ∀ c ∈ after, isBlank c = true

theorem trimStart_append {before : List Char} (h : ∀ c ∈ before, isBlank c = true)
    (hinner : ∀ c ∈ inner.head?, isBlank c = false) : trimStart (before ++ inner) = inner := by
  rw [trimStart, dropWhile_run h hinner]

theorem trimEnd_append {after : List Char} (h : ∀ c ∈ after, isBlank c = true)
    (hinner : ∀ c ∈ inner.getLast?, isBlank c = false) : trimEnd (inner ++ after) = inner := by
  have hreverse : (inner ++ after).reverse = after.reverse ++ inner.reverse := by simp
  have hdrop : trimStart (after.reverse ++ inner.reverse) = inner.reverse :=
    trimStart_append (by simpa using h) (by simpa using hinner)
  rw [trimEnd, hreverse]
  rw [trimStart] at hdrop
  rw [hdrop, List.reverse_reverse]

theorem isBlank_head?_trimStart (cs : List Char) :
    ∀ c ∈ (trimStart cs).head?, isBlank c = false := by
  intro c hc
  have hnot := List.head?_dropWhile_not isBlank cs
  rw [trimStart] at hc
  rw [hc] at hnot
  simpa using hnot

theorem trimsTo_trim (cs : List Char) : TrimsTo cs (trim cs) := by
  have hend : ∀ c ∈ (trim cs).getLast?, isBlank c = false := by
    intro c hc
    rw [trim, trimEnd, List.getLast?_reverse] at hc
    exact isBlank_head?_trimStart _ c hc
  have hsplit : trim cs ++ (trimStart cs).rtakeWhile isBlank = trimStart cs :=
    List.rdropWhile_append_rtakeWhile
  have hstart : ∀ c ∈ (trim cs).head?, isBlank c = false := by
    intro c hc
    refine isBlank_head?_trimStart cs c ?_
    rw [← hsplit, List.head?_append, hc]
    rfl
  refine ⟨⟨hstart, hend⟩, cs.takeWhile isBlank, (trimStart cs).rtakeWhile isBlank, ?_,
    fun c => List.mem_takeWhile_imp, fun c => List.mem_rtakeWhile_imp⟩
  rw [List.append_assoc, hsplit, trimStart, List.takeWhile_append_dropWhile]

/-- **A trimmed text has lost blanks at both ends, and has none there any more.** -/
theorem trimsTo_iff : TrimsTo cs inner ↔ trim cs = inner := by
  constructor
  · rintro ⟨⟨hhead, hlast⟩, before, after, rfl, hbefore, hafter⟩
    cases inner with
    | nil =>
      have hall : ∀ c ∈ before ++ [] ++ after, isBlank c = true := by
        simpa [or_imp, forall_and] using ⟨hbefore, hafter⟩
      have hnil : trimStart (before ++ [] ++ after) = [] := List.dropWhile_eq_nil_iff.2 hall
      rw [trim, hnil]
      rfl
    | cons c inner =>
      rw [trim, List.append_assoc, trimStart_append hbefore (by simpa using hhead),
        trimEnd_append hafter hlast]
  · rintro rfl
    exact trimsTo_trim cs

end SessionTokens.Text
