import StatementLens.Files.Tree
import StatementLens.Proofs.Associations
import StatementLens.Proofs.Path

/-!
# Rows of names in file trees

A row of names leads from the top of a tree to a file. The rows of a tree are listed depth first, the
entries of each folder by name. In a tree whose entries are named as they are on a disk, these are just the
rows at whose end a file stands (`mem_rows_iff`), in the order that compares name by name and names byte by
byte (`pairwise_rows`).
-/

namespace StatementLens.FileTree

/-! ## Induction -/

mutual

/-- What holds of files and links, and of a folder if it holds of its entries, holds of each tree. -/
@[elab_as_elim]
theorem induct {motive : FileTree → Prop} (file : ∀ bytes, motive (.file bytes))
    (link : ∀ target, motive (.link target))
    (folder : ∀ entries, (∀ entry ∈ entries, motive entry.2) → motive (.folder entries)) :
    (t : FileTree) → motive t
  | .file bytes => file bytes
  | .link target => link target
  | .folder entries => folder entries (induct_entries file link folder entries)

theorem induct_entries {motive : FileTree → Prop} (file : ∀ bytes, motive (.file bytes))
    (link : ∀ target, motive (.link target))
    (folder : ∀ entries, (∀ entry ∈ entries, motive entry.2) → motive (.folder entries)) :
    (entries : List (FileName × FileTree)) → ∀ entry ∈ entries, motive entry.2
  | [] => fun _ h => absurd h List.not_mem_nil
  | (_, t) :: rest =>
    List.forall_mem_cons.2 ⟨induct file link folder t, induct_entries file link folder rest⟩

end

/-! ## Names -/

mutual

/-- Whether the entries of each folder have different names, and each of them can be a name. -/
def isWellNamed : FileTree → Bool
  | .folder entries => decide (entries.map Prod.fst).Nodup && areWellNamed entries
  | _ => true

/-- Whether entries have names, and so have the entries below them. -/
def areWellNamed : List (FileName × FileTree) → Bool
  | [] => true
  | (name, t) :: rest => decide (Path.IsName name) && t.isWellNamed && areWellNamed rest

end

theorem areWellNamed_iff {entries : List (FileName × FileTree)} :
    areWellNamed entries = true
      ↔ ∀ entry ∈ entries, Path.IsName entry.1 ∧ entry.2.isWellNamed = true := by
  induction entries with
  | nil => simp [areWellNamed]
  | cons entry rest ih =>
    rw [areWellNamed, Bool.and_eq_true, Bool.and_eq_true, decide_eq_true_iff, ih,
      List.forall_mem_cons]

theorem isWellNamed_folder_iff {entries : List (FileName × FileTree)} :
    (folder entries).isWellNamed = true ↔ (entries.map Prod.fst).Nodup ∧
      ∀ entry ∈ entries, Path.IsName entry.1 ∧ entry.2.isWellNamed = true := by
  rw [isWellNamed, Bool.and_eq_true, decide_eq_true_iff, areWellNamed_iff]

/-! ## Folders -/

mutual

/-- The rows of names that lead to the folders of a tree, itself among them. -/
def folders : FileTree → List (List FileName)
  | .folder entries => [] :: foldersOfEntries entries
  | _ => []

/-- The rows that lead to the folders below a folder, given its entries. -/
def foldersOfEntries : List (FileName × FileTree) → List (List FileName)
  | [] => []
  | (name, t) :: rest => t.folders.map (name :: ·) ++ foldersOfEntries rest

end

theorem nil_mem_folders (entries : List (FileName × FileTree)) : [] ∈ (folder entries).folders := by
  rw [folders]
  exact List.mem_cons_self

theorem cons_mem_folders {entries : List (FileName × FileTree)} {entry : FileName × FileTree}
    (hentry : entry ∈ entries) {row : List FileName} (hrow : row ∈ entry.2.folders) :
    entry.1 :: row ∈ (folder entries).folders := by
  rw [folders]
  apply List.mem_cons_of_mem
  induction entries with
  | nil => exact absurd hentry List.not_mem_nil
  | cons first rest ih =>
    rw [foldersOfEntries, List.mem_append]
    rcases List.mem_cons.1 hentry with rfl | hentry
    · exact .inl (List.mem_map_of_mem hrow)
    · exact .inr (ih hentry)

/-! ## Entries in order -/

/-- The entries of a folder by name. -/
def inOrder {α : Type} (entries : List (FileName × α)) : List (FileName × α) :=
  entries.mergeSort fun a b => decide (a.1 ≤ b.1)

theorem mem_inOrder {α : Type} {entries : List (FileName × α)} {entry : FileName × α} :
    entry ∈ inOrder entries ↔ entry ∈ entries :=
  List.mem_mergeSort

/-- What entries hold does not matter for their order. -/
theorem inOrder_map {α β : Type} (f : FileName × α → β) (entries : List (FileName × α)) :
    inOrder (entries.map fun entry => (entry.1, f entry))
      = (inOrder entries).map fun entry => (entry.1, f entry) := by
  unfold inOrder
  rw [List.map_mergeSort (s := fun a b => decide (a.1 ≤ b.1))]
  intro a _ b _
  rfl

theorem pairwise_inOrder {α : Type} {entries : List (FileName × α)}
    (h : (entries.map Prod.fst).Nodup) : (inOrder entries).Pairwise fun a b => a.1 < b.1 := by
  have hle : (inOrder entries).Pairwise fun a b => decide (a.1 ≤ b.1) = true := by
    apply List.pairwise_mergeSort
    · intro a b c hab hbc
      exact decide_eq_true (List.le_trans (of_decide_eq_true hab) (of_decide_eq_true hbc))
    · intro a b
      rcases List.le_total a.1 b.1 with hab | hba
      · simp [hab]
      · simp [hba]
  have hne : (inOrder entries).Pairwise fun a b => a.1 ≠ b.1 := by
    have hperm : ((inOrder entries).map Prod.fst).Perm (entries.map Prod.fst) :=
      (List.mergeSort_perm entries _).map _
    exact List.pairwise_map.1 (hperm.nodup_iff.2 h)
  refine (hle.and hne).imp ?_
  rintro a b ⟨hab, hdiffer⟩
  by_contra hnot
  exact hdiffer (List.le_antisymm (of_decide_eq_true hab) (List.not_lt.1 hnot))

/-! ## Rows -/

mutual

/-- The files of a tree with the rows of names that lead to them, depth first and by name. -/
def rows : FileTree → List (List FileName × List UInt8)
  | .file bytes => [([], bytes)]
  | .link _ => []
  | .folder entries =>
    (inOrder (rowsOfEntries entries)).flatMap fun entry =>
      entry.2.map fun row => (entry.1 :: row.1, row.2)

/-- The rows of the entries of a folder, with the name of each entry. -/
def rowsOfEntries : List (FileName × FileTree) → List (FileName × List (List FileName × List UInt8))
  | [] => []
  | (name, t) :: rest => (name, t.rows) :: rowsOfEntries rest

end

theorem rowsOfEntries_eq (entries : List (FileName × FileTree)) :
    rowsOfEntries entries = entries.map fun entry => (entry.1, entry.2.rows) := by
  induction entries with
  | nil => rw [rowsOfEntries, List.map_nil]
  | cons entry rest ih => rw [rowsOfEntries, ih, List.map_cons]

theorem rows_folder (entries : List (FileName × FileTree)) :
    (folder entries).rows = (inOrder entries).flatMap fun entry =>
      entry.2.rows.map fun row => (entry.1 :: row.1, row.2) := by
  rw [rows, rowsOfEntries_eq, inOrder_map, List.flatMap_map]

/-- A row ends at once just if the tree is no folder. -/
theorem isEmpty_of_mem_rows {t : FileTree} {row : List FileName × List UInt8} (h : row ∈ t.rows) :
    row.1.isEmpty = !t.isFolder := by
  cases t with
  | file bytes =>
    rw [rows, List.mem_singleton] at h
    rw [h]
    rfl
  | link target =>
    rw [rows] at h
    exact absurd h List.not_mem_nil
  | folder entries =>
    rw [rows_folder] at h
    obtain ⟨entry, -, hrow⟩ := List.mem_flatMap.1 h
    obtain ⟨rest, -, rfl⟩ := List.mem_map.1 hrow
    rfl

/-- The rows of a tree lead to its files. -/
theorem mem_rows_iff {t : FileTree} (h : t.isWellNamed = true) {row : List FileName}
    {bytes : List UInt8} : (row, bytes) ∈ t.rows ↔ t.at? row = some (.file bytes) := by
  induction t using induct generalizing row with
  | file content =>
    cases row with
    | nil => simp [rows, at?, eq_comm]
    | cons name row => simp [rows, at?, entry?]
  | link target =>
    cases row with
    | nil => simp [rows, at?]
    | cons name row => simp [rows, at?, entry?]
  | folder entries ih =>
    obtain ⟨hnodup, hentries⟩ := isWellNamed_folder_iff.1 h
    cases row with
    | nil => simp [rows_folder, at?]
    | cons name row =>
      rw [rows_folder, at?, entry?, Option.bind_eq_some_iff, List.mem_flatMap]
      simp only [lookup_eq_some_iff_mem hnodup, mem_inOrder, List.mem_map]
      constructor
      · rintro ⟨entry, hentry, ⟨row', bytes'⟩, hrow, heq⟩
        cases heq
        exact ⟨entry.2, hentry, (ih entry hentry (hentries entry hentry).2).1 hrow⟩
      · rintro ⟨t, ht, hfile⟩
        exact ⟨(name, t), ht, (row, bytes), (ih (name, t) ht (hentries (name, t) ht).2).2 hfile, rfl⟩

/-- The rows of a tree are in order. -/
theorem pairwise_rows {t : FileTree} (h : t.isWellNamed = true) :
    t.rows.Pairwise fun a b => a.1 < b.1 := by
  induction t using induct with
  | file content =>
    rw [rows]
    exact List.pairwise_singleton _ _
  | link target =>
    rw [rows]
    exact List.Pairwise.nil
  | folder entries ih =>
    obtain ⟨hnodup, hentries⟩ := isWellNamed_folder_iff.1 h
    rw [rows_folder, List.pairwise_flatMap]
    constructor
    · -- rows through one entry begin with the same name
      intro entry hentry
      have hmem := mem_inOrder.1 hentry
      rw [List.pairwise_map]
      refine (ih entry hmem (hentries entry hmem).2).imp fun hlt => ?_
      exact List.cons_lt_cons_iff.2 (.inr ⟨rfl, hlt⟩)
    · -- rows through different entries differ at once
      refine (pairwise_inOrder hnodup).imp fun hlt first hfirst second hsecond => ?_
      obtain ⟨row, -, rfl⟩ := List.mem_map.1 hfirst
      obtain ⟨row', -, rfl⟩ := List.mem_map.1 hsecond
      exact List.cons_lt_cons_iff.2 (.inl hlt)

/-- Each name of a row can be a name. -/
theorem isName_of_mem_rows {t : FileTree} (h : t.isWellNamed = true)
    {row : List FileName × List UInt8} (hrow : row ∈ t.rows) : ∀ name ∈ row.1, Path.IsName name := by
  induction t using induct generalizing row with
  | file content =>
    rw [rows, List.mem_singleton] at hrow
    simp [hrow]
  | link target =>
    rw [rows] at hrow
    exact absurd hrow List.not_mem_nil
  | folder entries ih =>
    obtain ⟨-, hentries⟩ := isWellNamed_folder_iff.1 h
    rw [rows_folder] at hrow
    obtain ⟨entry, hentry, hrow⟩ := List.mem_flatMap.1 hrow
    obtain ⟨rest, hrest, rfl⟩ := List.mem_map.1 hrow
    obtain ⟨hname, hbelow⟩ := hentries entry (mem_inOrder.1 hentry)
    exact List.forall_mem_cons.2 ⟨hname, ih entry (mem_inOrder.1 hentry) hbelow hrest⟩

end StatementLens.FileTree
