import Mathlib.Data.List.Basic
import Mathlib.Data.List.Infix
import Mathlib.Data.List.Pairwise
import StatementLens.Workspace

/-!
# Workspaces as sets of folders

A workspace keeps its folders in a list, but it behaves as a set of folders up to their spelling: no
folder is in it twice (`distinct_after`), a folder is in it if it has been opened and not been closed
since (`holds_after_iff`), and the innermost folder around a path depends on the set only
(`components_folderOf?_congr`).
-/

namespace StatementLens

namespace Path

/-- Paths are the same if their components are, however they are spelled. -/
theorem sameAs_iff {p q : Path} : p.sameAs q = true ↔ p.components = q.components := by
  unfold sameAs
  exact decide_eq_true_iff

theorem sameAs_eq_false_iff {p q : Path} : p.sameAs q = false ↔ p.components ≠ q.components := by
  rw [← Bool.not_eq_true, sameAs_iff]

/-- A folder is around a path if its components begin those of the path. -/
theorem startsWith_iff {p folder : Path} :
    p.startsWith folder = true ↔ folder.components <+: p.components :=
  List.isPrefixOf_iff_prefix

/-- How a folder is spelled does not matter for what it is around. -/
theorem startsWith_congr (p : Path) {f g : Path} (h : f.components = g.components) :
    p.startsWith f = p.startsWith g := by
  unfold startsWith
  rw [h]

/-- Equally deep folders around one path are the same. -/
theorem components_eq_of_startsWith {p f g : Path} (hf : p.startsWith f = true)
    (hg : p.startsWith g = true) (hlength : f.components.length = g.components.length) :
    f.components = g.components := by
  have hprefix : f.components <+: g.components :=
    List.prefix_of_prefix_length_le (startsWith_iff.1 hf) (startsWith_iff.1 hg) (by omega)
  exact hprefix.eq_of_length hlength

end Path

/-- A change of the folders of a workspace. -/
inductive FolderChange where
  | added (folder : Path)
  | removed (folder : Path)
  deriving DecidableEq

namespace Workspace

/-- The workspace after a change. -/
def change (w : Workspace) : FolderChange → Workspace
  | .added folder => w.add folder
  | .removed folder => w.remove folder

/-- The workspace after changes, which begin without folders. -/
def after (changes : List FolderChange) : Workspace := changes.foldl change ⟨[]⟩

/-- Whether a folder is open under any spelling. -/
def Holds (w : Workspace) (folder : Path) : Prop := ∃ f ∈ w.folders, f.sameAs folder = true

/-- Whether no folder is open under two spellings. -/
def Distinct (w : Workspace) : Prop := w.folders.Pairwise fun f g => f.sameAs g = false

/-- The last change comes last. -/
@[simp]
theorem after_append_singleton (changes : List FolderChange) (c : FolderChange) :
    after (changes ++ [c]) = (after changes).change c := by
  unfold after
  rw [List.foldl_append, List.foldl_cons, List.foldl_nil]

/-! ## One change -/

variable {w : Workspace}

theorem any_sameAs_iff (folder : Path) :
    (w.folders.any fun f => f.sameAs folder) = true ↔ w.Holds folder :=
  List.any_eq_true

/-- A folder that is open already is not opened again. -/
theorem add_of_holds {folder : Path} (h : w.Holds folder) : w.add folder = w := by
  unfold add
  rw [if_pos ((any_sameAs_iff folder).2 h)]

/-- Any other folder comes last. -/
theorem folders_add_of_not_holds {folder : Path} (h : ¬ w.Holds folder) :
    (w.add folder).folders = w.folders ++ [folder] := by
  unfold add
  rw [if_neg (mt (any_sameAs_iff folder).1 h)]

/-- A folder is closed under all its spellings. -/
theorem mem_folders_remove {folder f : Path} :
    f ∈ (w.remove folder).folders ↔ f ∈ w.folders ∧ f.sameAs folder = false := by
  unfold remove
  rw [List.mem_filter, Bool.not_eq_true']

/-- No change opens a folder under two spellings. -/
theorem Distinct.change (h : w.Distinct) (c : FolderChange) : (w.change c).Distinct := by
  cases c with
  | added folder =>
    by_cases hholds : w.Holds folder
    · show (w.add folder).Distinct
      rw [add_of_holds hholds]
      exact h
    · show (w.add folder).folders.Pairwise _
      rw [folders_add_of_not_holds hholds, List.pairwise_append]
      refine ⟨h, List.pairwise_singleton _ _, ?_⟩
      intro f hf g hg
      rw [List.mem_singleton.1 hg]
      exact Bool.eq_false_iff.2 fun hsame => hholds ⟨f, hf, hsame⟩
  | removed folder => exact List.Pairwise.filter _ h

theorem holds_congr {f g : Path} (h : f.components = g.components) : w.Holds f ↔ w.Holds g := by
  unfold Holds
  simp only [Path.sameAs_iff, h]

/-- After a folder has been opened, it is open, and so are the others. -/
theorem holds_add (folder g : Path) :
    (w.add folder).Holds g ↔ w.Holds g ∨ folder.sameAs g = true := by
  by_cases hholds : w.Holds folder
  · rw [add_of_holds hholds]
    refine ⟨Or.inl, fun h => ?_⟩
    rcases h with h | hsame
    · exact h
    · exact (holds_congr (Path.sameAs_iff.1 hsame)).1 hholds
  · unfold Holds
    rw [folders_add_of_not_holds hholds]
    simp

/-- After a folder has been closed, the others are open. -/
theorem holds_remove (folder g : Path) :
    (w.remove folder).Holds g ↔ w.Holds g ∧ folder.sameAs g = false := by
  unfold Holds
  simp only [mem_folders_remove, Path.sameAs_iff, Path.sameAs_eq_false_iff]
  constructor
  · rintro ⟨f, ⟨hf, hother⟩, hsame⟩
    exact ⟨⟨f, hf, hsame⟩, fun h => hother (hsame.trans h.symm)⟩
  · rintro ⟨⟨f, hf, hsame⟩, hother⟩
    exact ⟨f, ⟨hf, fun h => hother (h.symm.trans hsame)⟩, hsame⟩

/-! ## Runs of changes -/

/-- No folder is open under two spellings, whatever the changes have been. -/
theorem distinct_after (changes : List FolderChange) : (after changes).Distinct := by
  induction changes using List.reverseRecOn with
  | nil => exact List.Pairwise.nil
  | append_singleton changes c ih =>
    rw [after_append_singleton]
    exact ih.change c

/-- Whether a folder has been opened and, since it was opened last, not been closed. -/
def LastAdded (changes : List FolderChange) (folder : Path) : Prop :=
  ∃ before f rest, changes = before ++ .added f :: rest ∧ f.sameAs folder = true ∧
    ∀ g, .removed g ∈ rest → g.sameAs folder = false

/-- A folder was opened last by this change, or before and is not closed by it. -/
theorem lastAdded_append_singleton (changes : List FolderChange) (c : FolderChange) (folder : Path) :
    LastAdded (changes ++ [c]) folder ↔
      (LastAdded changes folder ∧ ∀ g, c = .removed g → g.sameAs folder = false) ∨
        ∃ f, c = .added f ∧ f.sameAs folder = true := by
  constructor
  · rintro ⟨before, f, rest, hsplit, hsame, hrest⟩
    -- the change is the opening itself, or it comes behind it
    rcases List.eq_nil_or_concat rest with rfl | ⟨rest, d, rfl⟩
    · obtain ⟨-, hc⟩ := List.append_inj' hsplit rfl
      exact .inr ⟨f, List.singleton_inj.1 hc, hsame⟩
    · rw [List.concat_eq_append, ← List.cons_append, ← List.append_assoc] at hsplit
      obtain ⟨rfl, hc⟩ := List.append_inj' hsplit rfl
      obtain rfl := List.singleton_inj.1 hc
      refine .inl ⟨⟨before, f, rest, rfl, hsame, fun g hg => hrest g ?_⟩, fun g hg => hrest g ?_⟩
      · rw [List.concat_eq_append]
        exact List.mem_append_left _ hg
      · rw [List.concat_eq_append, hg]
        exact List.mem_append_right _ List.mem_cons_self
  · rintro (⟨⟨before, f, rest, rfl, hsame, hrest⟩, hlast⟩ | ⟨f, rfl, hsame⟩)
    · refine ⟨before, f, rest ++ [c], by simp, hsame, fun g hg => ?_⟩
      rcases List.mem_append.1 hg with hg | hg
      · exact hrest g hg
      · exact hlast g (List.mem_singleton.1 hg).symm
    · exact ⟨changes, f, [], rfl, hsame, by simp⟩

/-- A folder is open if it has been opened and not been closed since. -/
theorem holds_after_iff (changes : List FolderChange) (folder : Path) :
    (after changes).Holds folder ↔ LastAdded changes folder := by
  induction changes using List.reverseRecOn with
  | nil => simp [after, Holds, LastAdded]
  | append_singleton changes c ih =>
    rw [after_append_singleton, lastAdded_append_singleton, ← ih]
    cases c with
    | added f =>
      show ((after changes).add f).Holds folder ↔ _
      rw [holds_add]
      simp
    | removed f =>
      show ((after changes).remove f).Holds folder ↔ _
      rw [holds_remove]
      simp

/-! ## The innermost folder -/

/-- The innermost folder around a path is one of the deepest, and there is one if any folder is around
the path. -/
theorem folderOf?_cases (w : Workspace) (path : Path) :
    (w.folderOf? path = none ∧ ∀ f ∈ w.folders, path.startsWith f = false) ∨
      ∃ f, w.folderOf? path = some f ∧ f ∈ w.folders ∧ path.startsWith f = true ∧
        ∀ g ∈ w.folders, path.startsWith g = true → g.components.length ≤ f.components.length := by
  have hfold : (w.folderOf? path = none ∧ w.folders.filter (fun f => path.startsWith f) = []) ∨
      ∃ f, w.folderOf? path = some f ∧ f ∈ w.folders.filter (fun f => path.startsWith f) ∧
        ∀ g ∈ w.folders.filter (fun f => path.startsWith f),
          g.components.length ≤ f.components.length := by
    unfold folderOf?
    generalize w.folders.filter (fun f => path.startsWith f) = around
    -- the folders are gone through from the first to the last
    induction around using List.reverseRecOn with
    | nil => exact .inl ⟨rfl, rfl⟩
    | append_singleton around folder ih =>
      right
      rw [List.foldl_append, List.foldl_cons, List.foldl_nil]
      rcases ih with ⟨hnone, rfl⟩ | ⟨f, hsome, hmem, hmax⟩
      · rw [hnone]
        exact ⟨folder, rfl, by simp, by simp⟩
      · rw [hsome]
        dsimp only
        by_cases hle : f.components.length ≤ folder.components.length
        · refine ⟨folder, if_pos hle, by simp, fun g hg => ?_⟩
          rcases List.mem_append.1 hg with hg | hg
          · exact (hmax g hg).trans hle
          · rw [List.mem_singleton.1 hg]
        · refine ⟨f, if_neg hle, List.mem_append_left _ hmem, fun g hg => ?_⟩
          rcases List.mem_append.1 hg with hg | hg
          · exact hmax g hg
          · rw [List.mem_singleton.1 hg]
            omega
  rcases hfold with ⟨hnone, hempty⟩ | ⟨f, hsome, hmem, hmax⟩
  · refine .inl ⟨hnone, fun f hf => ?_⟩
    exact Bool.eq_false_iff.2 (List.filter_eq_nil_iff.1 hempty f hf)
  · obtain ⟨hf, hstarts⟩ := List.mem_filter.1 hmem
    exact .inr ⟨f, hsome, hf, hstarts, fun g hg hg' => hmax g (List.mem_filter.2 ⟨hg, hg'⟩)⟩

/-- There is an innermost folder around a path if there is any. -/
theorem folderOf?_isSome_iff (w : Workspace) (path : Path) :
    (w.folderOf? path).isSome = true ↔ ∃ f ∈ w.folders, path.startsWith f = true := by
  rcases folderOf?_cases w path with ⟨hnone, hall⟩ | ⟨f, hsome, hmem, hstarts, -⟩
  · rw [hnone]
    refine iff_of_false (by simp) ?_
    rintro ⟨f, hf, hstarts⟩
    rw [hall f hf] at hstarts
    cases hstarts
  · rw [hsome]
    exact iff_of_true rfl ⟨f, hmem, hstarts⟩

/-- Among folders of which none is open twice, those around a path have different depths. -/
theorem Distinct.eq_of_startsWith (h : w.Distinct) {path f g : Path} (hf : f ∈ w.folders)
    (hg : g ∈ w.folders) (hf' : path.startsWith f = true) (hg' : path.startsWith g = true)
    (hlength : f.components.length = g.components.length) : f = g := by
  by_contra hne
  have hsame := Path.components_eq_of_startsWith hf' hg' hlength
  have hsymm : Std.Symm fun f g : Path => f.sameAs g = false :=
    ⟨fun a b hab => Path.sameAs_eq_false_iff.2 (Ne.symm (Path.sameAs_eq_false_iff.1 hab))⟩
  exact Path.sameAs_eq_false_iff.1 (List.Pairwise.forall h hf hg hne) hsame

/-- The innermost folder around a path is the only one with the most components. -/
theorem Distinct.folderOf?_eq_some_iff (h : w.Distinct) {path f : Path} :
    w.folderOf? path = some f ↔ f ∈ w.folders ∧ path.startsWith f = true ∧
      ∀ g ∈ w.folders, path.startsWith g = true → g ≠ f →
        g.components.length < f.components.length := by
  rcases folderOf?_cases w path with ⟨hnone, hall⟩ | ⟨f', hsome, hmem, hstarts, hmax⟩
  · rw [hnone]
    refine iff_of_false (by simp) ?_
    rintro ⟨hf, hf', -⟩
    rw [hall f hf] at hf'
    cases hf'
  · rw [hsome, Option.some_inj]
    constructor
    · rintro rfl
      refine ⟨hmem, hstarts, fun g hg hg' hne => ?_⟩
      have hle := hmax g hg hg'
      have hlength : g.components.length ≠ f'.components.length := fun heq =>
        hne (h.eq_of_startsWith hg hmem hg' hstarts heq)
      omega
    · rintro ⟨hf, hf', hdeepest⟩
      by_contra hne
      have hlt := hdeepest f' hmem hstarts hne
      have hle := hmax f hf hf'
      omega

/-- Workspaces that hold the same folders lead to the same innermost folder, up to its spelling. -/
theorem components_folderOf?_congr {w w' : Workspace}
    (h : ∀ folder, w.Holds folder ↔ w'.Holds folder) (path : Path) :
    (w.folderOf? path).map Path.components = (w'.folderOf? path).map Path.components := by
  -- each folder around the path has the components of one in the other workspace
  have htransfer : ∀ {v v' : Workspace}, (∀ folder, v.Holds folder ↔ v'.Holds folder) →
      ∀ f ∈ v.folders, path.startsWith f = true →
        ∃ f' ∈ v'.folders, f'.components = f.components ∧ path.startsWith f' = true := by
    intro v v' hholds f hf hstarts
    obtain ⟨f', hf', hsame⟩ := (hholds f).1 ⟨f, hf, Path.sameAs_iff.2 rfl⟩
    have hcomponents := Path.sameAs_iff.1 hsame
    exact ⟨f', hf', hcomponents, (path.startsWith_congr hcomponents).trans hstarts⟩
  have hback : ∀ folder, w'.Holds folder ↔ w.Holds folder := fun folder => (h folder).symm
  rcases folderOf?_cases w path with ⟨hnone, hall⟩ | ⟨f, hsome, hmem, hstarts, hmax⟩
  · rcases folderOf?_cases w' path with ⟨hnone', -⟩ | ⟨f', -, hmem', hstarts', -⟩
    · rw [hnone, hnone']
    · obtain ⟨g, hg, -, hg'⟩ := htransfer hback f' hmem' hstarts'
      rw [hall g hg] at hg'
      cases hg'
  · rcases folderOf?_cases w' path with ⟨-, hall'⟩ | ⟨f', hsome', hmem', hstarts', hmax'⟩
    · obtain ⟨g, hg, -, hg'⟩ := htransfer h f hmem hstarts
      rw [hall' g hg] at hg'
      cases hg'
    · obtain ⟨g, hg, hcomponents, hg'⟩ := htransfer h f hmem hstarts
      obtain ⟨g', hgmem, hcomponents', hgstarts⟩ := htransfer hback f' hmem' hstarts'
      have hle := hmax' g hg hg'
      have hle' := hmax g' hgmem hgstarts
      rw [hcomponents] at hle
      rw [hcomponents'] at hle'
      have hsame := Path.components_eq_of_startsWith hstarts hstarts' (by omega)
      rw [hsome, hsome', Option.map_some, Option.map_some, hsame]

/-- A folder that is not around a path makes no difference for it. -/
theorem folderOf?_change {path : Path} (w : Workspace) {c : FolderChange} {folder : Path}
    (hc : c = .added folder ∨ c = .removed folder) (h : path.startsWith folder = false) :
    (w.change c).folderOf? path = w.folderOf? path := by
  have hfilter : (w.change c).folders.filter (fun f => path.startsWith f)
      = w.folders.filter (fun f => path.startsWith f) := by
    rcases hc with rfl | rfl
    · show (w.add folder).folders.filter _ = _
      by_cases hholds : w.Holds folder
      · rw [add_of_holds hholds]
      · rw [folders_add_of_not_holds hholds, List.filter_append, List.filter_singleton, h]
        exact List.append_nil _
    · show (w.remove folder).folders.filter _ = _
      unfold remove
      rw [List.filter_filter]
      refine List.filter_congr fun f _ => ?_
      -- a spelling of the folder is not around the path either
      by_cases hsame : f.sameAs folder = true
      · have hf : path.startsWith f = false :=
          (path.startsWith_congr (Path.sameAs_iff.1 hsame)).trans h
        rw [hf, Bool.false_and]
      · rw [Bool.not_eq_true] at hsame
        rw [hsame, Bool.not_false, Bool.and_true]
  unfold folderOf?
  rw [hfilter]

end Workspace

end StatementLens
