import Mathlib.Tactic.Common
import SessionTokens.Store.Commit
/-!
# Replacing a file

**Theorem (`read_replaceFile`).** After a file has been replaced it holds the new content.

**Theorem (`read_replaceFile_of_error`).** If the replacement fails, at whatever step, the file
holds what it held before.

A path and the path of its draft differ in the last segment only. Once the draft is written, every
segment before that has led into a folder, so both paths lead into the same folder.
-/

namespace SessionTokens

namespace FileTree

/-- Whether all folders of one tree are folders of another. -/
def KeepsFolders (t t' : FileTree) : Prop :=
  ∀ names, t.node? names = some .folder → t'.node? names = some .folder

/-- A segment that names something, instead of staying or going up. -/
def IsName (s : List Char) : Prop := s ≠ [] ∧ s ≠ ['.'] ∧ s ≠ ['.', '.']

theorem KeepsFolders.refl (t : FileTree) : t.KeepsFolders t := fun _ h => h

theorem node?_clear_of_ne (t : FileTree) {names names' : List (List Char)} (h : names' ≠ names) :
    (t.clear names).node? names' = t.node? names' := by
  unfold node?
  split
  · rfl
  · simp only [clear, List.find?_filter]
    congr 2
    funext m
    by_cases hm : m.1 = names'
    · simp [hm, h]
    · simp [hm]

/-! ## The last segment -/

theorem walk_name {t : FileTree} {here : List (List Char)} {s : List Char} (h : IsName s) :
    t.walk here [s] =
      if maxName < byteLength s then .error .refused else .ok (here ++ [s]) := by
  obtain ⟨h1, h2, h3⟩ := h
  simp [walk, h1, h2, h3]

/-- The segments before the last one lead to the same folder, whatever the last one is. -/
theorem walk_last {t : FileTree} {here names : List (List Char)} {ss : List (List Char)}
    {s : List Char} (hs : IsName s) (h : t.walk here (ss ++ [s]) = .ok names) :
    ∃ base, names = base ++ [s] ∧
      ∀ t' : FileTree, t.KeepsFolders t' →
        ∀ last, t'.walk here (ss ++ [last]) = t'.walk base [last] := by
  induction ss generalizing here with
  | nil =>
    rw [List.nil_append, walk_name hs] at h
    split at h
    · cases h
    · cases h
      exact ⟨here, rfl, fun _ _ _ => rfl⟩
  | cons x ss ih =>
    have hne : ∀ last : List Char, ss ++ [last] ≠ [] := by simp
    rw [List.cons_append, walk] at h
    split at h
    · next hx =>
      obtain ⟨base, hbase, hwalk⟩ := ih h
      refine ⟨base, hbase, fun t' ht last => ?_⟩
      rw [List.cons_append, walk, if_pos hx, hwalk t' ht]
    · next hx =>
      split at h
      · next hup =>
        split at h
        · cases h
        · next hhere =>
          obtain ⟨base, hbase, hwalk⟩ := ih h
          refine ⟨base, hbase, fun t' ht last => ?_⟩
          rw [List.cons_append, walk, if_neg hx, if_pos hup, if_neg hhere, hwalk t' ht]
      · next hup =>
        split at h
        · cases h
        · next hlong =>
          rw [if_neg (hne s)] at h
          split at h
          · cases h
          · cases h
          · next hfolder =>
            obtain ⟨base, hbase, hwalk⟩ := ih h
            refine ⟨base, hbase, fun t' ht last => ?_⟩
            rw [List.cons_append, walk, if_neg hx, if_neg hup, if_neg hlong, if_neg (hne last),
              ht _ hfolder]
            exact hwalk t' ht last

theorem segments_of_notMem {cs : List Char} (h : '/' ∉ cs) : segments cs = [cs] := by
  induction cs with
  | nil => rfl
  | cons c rest ih =>
    rw [List.mem_cons, not_or] at h
    rw [segments, if_neg (Ne.symm h.1), ih h.2]

/-- Characters other than slashes that are added to a path become part of its last segment. -/
theorem segments_append (cs : List Char) :
    ∃ ss last, segments cs = ss ++ [last] ∧
      ∀ ds, '/' ∉ ds → segments (cs ++ ds) = ss ++ [last ++ ds] := by
  induction cs with
  | nil => exact ⟨[], [], rfl, fun ds hds => segments_of_notMem hds⟩
  | cons c rest ih =>
    obtain ⟨ss, last, heq, happend⟩ := ih
    by_cases hc : c = '/'
    · refine ⟨[] :: ss, last, ?_, fun ds hds => ?_⟩
      · rw [segments, if_pos hc, heq]
        rfl
      · rw [List.cons_append, segments, if_pos hc, happend ds hds]
        rfl
    · cases ss with
      | nil =>
        refine ⟨[], c :: last, ?_, fun ds hds => ?_⟩
        · rw [segments, if_neg hc, heq]
          rfl
        · rw [List.cons_append, segments, if_neg hc, happend ds hds]
          rfl
      | cons s ss =>
        refine ⟨(c :: s) :: ss, last, ?_, fun ds hds => ?_⟩
        · rw [segments, if_neg hc, heq]
          rfl
        · rw [List.cons_append, segments, if_neg hc, happend ds hds]
          rfl

/-- What is added to a path for its draft. -/
def draftEnding : List Char := ['.', 't', 'm', 'p']

theorem isName_draft (s : List Char) : IsName (s ++ draftEnding) := by
  refine ⟨by simp [draftEnding], fun h => ?_, fun h => ?_⟩ <;>
    · have := congrArg List.length h
      simp [draftEnding] at this

/-- The last segment alone never leads to the draft. -/
theorem walk_last_ne_draft (t : FileTree) (base : List (List Char)) (last : List Char) :
    t.walk base [last] ≠ .ok (base ++ [last ++ draftEnding]) := by
  intro h
  simp only [walk] at h
  split at h
  · have := congrArg List.length (Except.ok.inj h)
    simp at this
  split at h
  · split at h
    · cases h
    · have := congrArg List.length (Except.ok.inj h)
      simp at this
  split at h
  · cases h
  · have := congrArg List.length (List.singleton_inj.1 (List.append_cancel_left (Except.ok.inj h)))
    simp [draftEnding] at this

/-- **A path leads beside its draft**, in every tree that keeps the folders. -/
theorem locate_of_draft {t : FileTree} {path : String} {draft : List (List Char)}
    (h : t.locate (Site.draftPath path) = .ok draft) :
    draft ≠ [] ∧ t.locate path ≠ .ok draft ∧
      ∀ t' : FileTree, t.KeepsFolders t' →
        t'.locate path = t.locate path ∧ t'.locate (Site.draftPath path) = .ok draft := by
  obtain ⟨ss, last, hsegs, happend⟩ := segments_append path.toList
  have hdraft : (Site.draftPath path).toList = path.toList ++ draftEnding := by
    rw [Site.draftPath, String.toList_append]
    rfl
  unfold locate at h ⊢
  rw [hdraft] at h ⊢
  simp only [happend draftEnding (by decide), hsegs] at h ⊢
  split at h
  · cases h
  split at h
  · cases h
  · next hempty hrefused =>
    obtain ⟨base, rfl, hwalk⟩ := walk_last (isName_draft last) h
    have hlast : ∀ (t' : FileTree) (s : List Char), t'.walk base [s] = t.walk base [s] := by
      intro t' s
      simp [walk]
    have hpath : ∀ t' : FileTree, t.KeepsFolders t' →
        t'.walk [] (ss ++ [last]) = t.walk base [last] := fun t' ht => by
      rw [hwalk t' ht, hlast]
    refine ⟨by simp, ?_, fun t' ht => ⟨?_, ?_⟩⟩
    · rw [hpath t (.refl t)]
      split
      · simp
      split
      · simp
      · exact walk_last_ne_draft t base last
    · rw [hpath t' ht, hpath t (.refl t)]
    · rw [if_neg hempty, if_neg hrefused, hwalk t' ht, hlast, ← hwalk t (.refl t), h]

/-! ## Writing and reading -/

theorem write_eq_ok {t t' : FileTree} {path : String} {content : Bytes}
    (h : t.write path content = .ok t') :
    ∃ names, t.locate path = .ok names ∧ t.node? names ≠ some .folder ∧
      t' = t.place names (.file content) := by
  unfold write at h
  cases hl : t.locate path with
  | error e => simp [hl, bind, Except.bind] at h
  | ok names =>
    simp only [hl, bind, Except.bind] at h
    split at h
    · cases h
    · next hne => exact ⟨names, rfl, hne, (Except.ok.inj h).symm⟩

theorem keepsFolders_place {t : FileTree} {names : List (List Char)}
    (h : t.node? names ≠ some .folder) (n : Node) : t.KeepsFolders (t.place names n) := by
  intro names' h'
  rw [node?_place_of_ne]
  · exact h'
  · rintro rfl
    exact h h'

theorem keepsFolders_clear {t : FileTree} {names : List (List Char)}
    (h : t.node? names ≠ some .folder) : t.KeepsFolders (t.clear names) := by
  intro names' h'
  rw [node?_clear_of_ne]
  · exact h'
  · rintro rfl
    exact h h'

theorem read_of_locate {t t' : FileTree} {path : String} (hl : t'.locate path = t.locate path)
    (hn : ∀ names, t.locate path = .ok names → t'.node? names = t.node? names) :
    t'.read path = t.read path := by
  unfold FileTree.read status
  rw [hl]
  cases h : t.locate path with
  | error e => rfl
  | ok names => simp only [bind, Except.bind, hn names h]

end FileTree

namespace Site

open FileTree

/-- Writing the draft leaves the file as it is. -/
theorem read_of_write_draft {t t' : FileTree} {path : String} {content : Bytes}
    (h : t.write (draftPath path) content = .ok t') : t'.read path = t.read path := by
  obtain ⟨draft, hdraft, hnode, rfl⟩ := write_eq_ok h
  obtain ⟨-, hne, hkeep⟩ := locate_of_draft hdraft
  refine read_of_locate (hkeep _ (keepsFolders_place hnode _)).1 fun names hnames => ?_
  refine node?_place_of_ne t ?_ _
  rintro rfl
  exact hne hnames

/-- How a replacement can go. -/
theorem replaceFile_cases (t : FileTree) (path : String) (content : Bytes) :
    (∃ e, replaceFile t path content = (t, .error e)) ∨
      ∃ written, t.write (draftPath path) content = .ok written ∧
        ((∃ e, replaceFile t path content = (written, .error e)) ∨
          ∃ renamed, written.rename (draftPath path) path = .ok renamed ∧
            replaceFile t path content = (renamed, .ok ())) := by
  unfold replaceFile
  dsimp only
  cases hw : t.write (draftPath path) content with
  | error f => exact .inl ⟨_, rfl⟩
  | ok written =>
    refine .inr ⟨written, rfl, ?_⟩
    dsimp only
    cases hr : written.rename (draftPath path) path with
    | error f => exact .inl ⟨_, rfl⟩
    | ok renamed => exact .inr ⟨renamed, rfl, rfl⟩

/-- **A replacement that fails leaves the file as it was.** -/
theorem read_replaceFile_of_error {t : FileTree} {path : String} {content : Bytes}
    {e : StorageError} (h : (replaceFile t path content).2 = .error e) :
    (replaceFile t path content).1.read path = t.read path := by
  obtain ⟨_, hr⟩ | ⟨written, hw, ⟨_, hr⟩ | ⟨renamed, -, hr⟩⟩ := replaceFile_cases t path content
  · rw [hr]
  · rw [hr]
    exact read_of_write_draft hw
  · rw [hr] at h
    cases h

/-- Moving the draft to its path leaves the content of the draft there. -/
theorem read_of_rename_draft {t written renamed : FileTree} {path : String} {content : Bytes}
    (hw : t.write (draftPath path) content = .ok written)
    (hr : written.rename (draftPath path) path = .ok renamed) :
    renamed.read path = .ok content := by
  obtain ⟨draft, hdraft, hnode, rfl⟩ := write_eq_ok hw
  obtain ⟨hne, -, hkeep⟩ := locate_of_draft hdraft
  have hplaced := keepsFolders_place hnode (.file content)
  have hlocate := (hkeep _ hplaced).2
  have hread : (t.place draft (.file content)).read (draftPath path) = .ok content := by
    unfold FileTree.read status
    rw [hlocate]
    simp only [bind, Except.bind, node?_place t hne]
  have hfile : (t.place draft (.file content)).node? draft ≠ some .folder := by
    rw [node?_place t hne]
    simp
  have hcleared : t.KeepsFolders ((t.place draft (.file content)).clear draft) := fun n hn =>
    keepsFolders_clear hfile n (hplaced n hn)
  unfold rename at hr
  rw [hlocate, hread] at hr
  obtain ⟨names, hnames, htarget, rfl⟩ := write_eq_ok hr
  have hfinal : t.KeepsFolders
      (((t.place draft (.file content)).clear draft).place names (.file content)) := fun n hn =>
    keepsFolders_place htarget _ n (hcleared n hn)
  have hnonempty : names ≠ [] := by
    rintro rfl
    exact htarget rfl
  unfold FileTree.read status
  rw [(hkeep _ hfinal).1, ← (hkeep _ hcleared).1, hnames]
  simp only [bind, Except.bind, node?_place _ hnonempty]

/-- **A file that was replaced holds the new content.** -/
theorem read_replaceFile {t : FileTree} {path : String} {content : Bytes}
    (h : (replaceFile t path content).2 = .ok ()) :
    (replaceFile t path content).1.read path = .ok content := by
  obtain ⟨_, hr⟩ | ⟨written, hw, ⟨_, hr⟩ | ⟨renamed, hrename, hr⟩⟩ :=
    replaceFile_cases t path content
  · rw [hr] at h
    cases h
  · rw [hr] at h
    cases h
  · rw [hr]
    exact read_of_rename_draft hw hrename

end Site

end SessionTokens
