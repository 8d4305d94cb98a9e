import Mathlib.Data.List.Sort
import StatementLens.Files.Walk
import StatementLens.Proofs.Files.Rows
import StatementLens.Proofs.Workspace

/-!
# The files that are listed

A walk leaves entries out as it meets them: hidden ones, and folders that the configuration excludes. Where
no file says what is ignored, this lists just what is left of all rows of the tree once those with such a
name are taken out (`filesOf_eq`). Hence the list is the one of the eligible files, in the order of their
rows (`eligible_files_listed_in_order`). A start that is spelled like the standard input is no place, and
nothing is listed below it.
-/

namespace StatementLens

open Text

/-! ## Folders without rules -/

namespace Ignore

/-- The files that can say what is ignored in a folder and below it. -/
def ruleFiles (disk : Disk) (names : List FileName) : List Path :=
  let file (name : String) : Path := (Disk.pathOf names).join (.ofString name)
  let data := file ".git"
  let dataFolder := if disk.isFile data then pointedData? disk data else some data
  file ".ignore" :: file ".gitignore" ::
    (dataFolder.map fun p => p.join (.ofString "info/exclude")).toList

/-- Whether one of these files can be read. -/
def HasRules (disk : Disk) (names : List FileName) : Prop :=
  ∃ file ∈ ruleFiles disk names, (disk.read file).isOk = true

instance (disk : Disk) (names : List FileName) : Decidable (HasRules disk names) :=
  inferInstanceAs (Decidable (∃ file ∈ ruleFiles disk names, (disk.read file).isOk = true))

/-- Whether a level has no rules. -/
structure Level.IsSilent (level : Level) : Prop where
  own : level.own = []
  shared : level.shared = []
  excluded : level.excluded = []

theorem rulesIn_eq_nil {disk : Disk} {file : Path} (h : (disk.read file).isOk ≠ true) :
    rulesIn disk file = [] := by
  unfold rulesIn
  cases hread : disk.read file with
  | ok bytes =>
    rw [hread] at h
    exact absurd rfl h
  | error fault => rfl

theorem isSilent_ofFolder {disk : Disk} {names : List FileName} (h : ¬ HasRules disk names) :
    (Level.ofFolder disk names).IsSilent := by
  have hnone : ∀ file ∈ ruleFiles disk names, rulesIn disk file = [] := by
    intro file hfile
    exact rulesIn_eq_nil fun hread => h ⟨file, hfile, hread⟩
  unfold ruleFiles at hnone
  rw [List.forall_mem_cons, List.forall_mem_cons] at hnone
  obtain ⟨hown, hshared, hexcluded⟩ := hnone
  refine ⟨hown, hshared, ?_⟩
  unfold Level.ofFolder
  dsimp only at hexcluded ⊢
  -- wherever the data of the repository are, nothing is read there
  generalize (if disk.isFile ((Disk.pathOf names).join (.ofString ".git")) then
      pointedData? disk ((Disk.pathOf names).join (.ofString ".git"))
    else some ((Disk.pathOf names).join (.ofString ".git"))) = dataFolder at hexcluded ⊢
  cases dataFolder with
  | none => rfl
  | some data => exact hexcluded _ (List.mem_singleton.2 rfl)

theorem mem_of_mem_inRepository {levels : List Level} {level : Level}
    (h : level ∈ inRepository levels) : level ∈ levels := by
  induction levels with
  | nil => exact h
  | cons first rest ih =>
    unfold inRepository at h
    split at h
    · rw [List.mem_singleton.1 h]
      exact List.mem_cons_self
    · rcases List.mem_cons.1 h with rfl | h
      · exact List.mem_cons_self
      · exact List.mem_cons_of_mem _ (ih h)

/-- A user without rules asks for nothing. -/
theorem userVerdict_of_nil {disk : Disk} (h : disk.userRules = []) (path : Path) (isFolder : Bool) :
    userVerdict disk path isFolder = none := by
  have hrules : rulesOf [] = [] := List.length_eq_zero_iff.1 (by decide +kernel)
  unfold userVerdict
  rw [h, hrules]
  rfl

/-- Levels and a user without rules ask for nothing. -/
theorem verdict_of_silent {disk : Disk} {levels : List Level} (huser : disk.userRules = [])
    (h : ∀ level ∈ levels, level.IsSilent) (names : List FileName) (path : Path) (isFolder : Bool) :
    verdict disk levels names path isFolder = none := by
  have hask : ∀ (rules : Level → List IgnoreRule) (asked : List Level),
      (∀ level ∈ asked, rules level = []) →
      asked.findSome? (fun level =>
        verdictOf (rules level) (pathBelow level.folder names) isFolder) = none := by
    intro rules asked hrules
    rw [List.findSome?_eq_none_iff]
    intro level hlevel
    rw [hrules level hlevel]
    rfl
  -- rules of repositories are asked for on some of the levels only
  have hrepository : ∀ level ∈ (if levels.any Level.isRepository then inRepository levels else []),
      level.IsSilent := by
    intro level hlevel
    split at hlevel
    · exact h level (mem_of_mem_inRepository hlevel)
    · exact absurd hlevel List.not_mem_nil
  unfold verdict
  dsimp only
  rw [hask Level.own levels fun level hlevel => (h level hlevel).own,
    hask Level.shared _ fun level hlevel => (hrepository level hlevel).shared,
    hask Level.excluded _ fun level hlevel => (hrepository level hlevel).excluded,
    userVerdict_of_nil huser, ite_self]
  rfl

end Ignore

namespace Walk

/-! ## Rows that are left out -/

/-- Whether the configuration excludes folders of a name. -/
def isExcluded (config : Config) (name : FileName) : Bool :=
  config.excludeDirs.any fun dir => encodeUtf8 dir = name

/-- Whether no name of a row is hidden and no folder in it is excluded. -/
def isVisible (config : Config) (row : List FileName) : Bool :=
  row.all (fun name => !isHidden name) && row.dropLast.all fun name => !isExcluded config name

/-- Where nothing says what is ignored, an entry is left out for its own name only. -/
theorem leavesOut_of_silent {disk : Disk} {levels : List Ignore.Level} (huser : disk.userRules = [])
    (h : ∀ level ∈ levels, level.IsSilent) (config : Config) (names : List FileName) (path : Path)
    (name : FileName) (isFolder : Bool) :
    leavesOut disk config levels names path name isFolder
      = (isHidden name || (isFolder && isExcluded config name)) := by
  unfold leavesOut
  rw [Ignore.verdict_of_silent huser h]
  rfl

/-- A row through an entry is visible if the entry is not left out and the rest of the row is. -/
theorem isVisible_cons {config : Config} {name : FileName} {t : FileTree}
    {row : List FileName × List UInt8} (h : row ∈ t.rows) :
    isVisible config (name :: row.1)
      = (!(isHidden name || (t.isFolder && isExcluded config name)) && isVisible config row.1) := by
  have hempty := FileTree.isEmpty_of_mem_rows h
  unfold isVisible
  -- an excluded name matters where the row goes on behind it, and so it does just in folders
  cases hrow : row.1 with
  | nil =>
    rw [hrow] at hempty
    have hfile : t.isFolder = false := by simpa using hempty.symm
    simp [hfile]
  | cons first rest =>
    rw [hrow] at hempty
    have hfolder : t.isFolder = true := by simpa using hempty.symm
    simp only [hfolder, List.all_cons, List.dropLast_cons_cons, Bool.true_and, Bool.not_or]
    ac_rfl

/-- What a walk lists of a row: the path that it leads to, with the size of the file. -/
def fileAt (path : Path) (row : List FileName × List UInt8) : SizedFile :=
  ⟨path.joinNames row.1, row.2.length⟩

/-- The files that are left of the rows of a tree. -/
def leftFiles (config : Config) (path : Path) (t : FileTree) : List SizedFile :=
  (t.rows.filter fun row => isVisible config row.1 && isXml (path.joinNames row.1)).map (fileAt path)

/-- The files that a walk lists through one entry of a folder. -/
def filesThrough (disk : Disk) (config : Config) (levels : List Ignore.Level)
    (names : List FileName) (path : Path) (entry : FileName × FileTree) : List SizedFile :=
  if leavesOut disk config levels (names ++ [entry.1]) (path.join ⟨entry.1⟩) entry.1 entry.2.isFolder
  then []
  else filesOf disk config levels (names ++ [entry.1]) (path.join ⟨entry.1⟩) entry.2

/-- The files that are left of the rows through one entry of a folder. -/
def leftThrough (config : Config) (path : Path) (entry : FileName × FileTree) : List SizedFile :=
  (entry.2.rows.filter fun row =>
    isVisible config (entry.1 :: row.1) && isXml ((path.join ⟨entry.1⟩).joinNames row.1)).map
      (fileAt (path.join ⟨entry.1⟩))

theorem filesOfEntries_eq (disk : Disk) (config : Config) (levels : List Ignore.Level)
    (names : List FileName) (path : Path) (entries : List (FileName × FileTree)) :
    filesOfEntries disk config levels names path entries
      = entries.map fun entry =>
        (entry.1, filesThrough disk config levels names path entry) := by
  induction entries with
  | nil => rw [filesOfEntries, List.map_nil]
  | cons entry rest ih =>
    rw [filesOfEntries, ih, List.map_cons]
    rfl

theorem filesOf_folder (disk : Disk) (config : Config) (levels : List Ignore.Level)
    (names : List FileName) (path : Path) (entries : List (FileName × FileTree)) :
    filesOf disk config levels names path (.folder entries)
      = (FileTree.inOrder entries).flatMap
        (filesThrough disk config (Ignore.Level.ofFolder disk names :: levels) names path) := by
  have hsorted := FileTree.inOrder_map
    (filesThrough disk config (Ignore.Level.ofFolder disk names :: levels) names path) entries
  rw [filesOf, filesOfEntries_eq]
  unfold FileTree.inOrder at hsorted ⊢
  rw [hsorted, List.flatMap_map]

theorem leftFiles_folder (config : Config) (path : Path) (entries : List (FileName × FileTree)) :
    leftFiles config path (.folder entries)
      = (FileTree.inOrder entries).flatMap (leftThrough config path) := by
  unfold leftFiles
  rw [FileTree.rows_folder, List.filter_flatMap, List.map_flatMap]
  refine List.flatMap_congr fun entry _ => ?_
  rw [List.filter_map, List.map_map]
  rfl

/-- Leaving an entry out takes out just the rows through it. -/
theorem filesThrough_eq {disk : Disk} {config : Config} {levels : List Ignore.Level}
    {names : List FileName} {path : Path} {entry : FileName × FileTree}
    (huser : disk.userRules = []) (hlevels : ∀ level ∈ levels, level.IsSilent)
    (hfiles : filesOf disk config levels (names ++ [entry.1]) (path.join ⟨entry.1⟩) entry.2
      = leftFiles config (path.join ⟨entry.1⟩) entry.2) :
    filesThrough disk config levels names path entry = leftThrough config path entry := by
  have hrows : (entry.2.rows.filter fun row =>
        isVisible config (entry.1 :: row.1) && isXml ((path.join ⟨entry.1⟩).joinNames row.1))
      = entry.2.rows.filter fun row =>
        !(isHidden entry.1 || (entry.2.isFolder && isExcluded config entry.1)) &&
          (isVisible config row.1 && isXml ((path.join ⟨entry.1⟩).joinNames row.1)) := by
    apply List.filter_congr
    intro row hrow
    rw [isVisible_cons hrow, Bool.and_assoc]
  unfold filesThrough leftThrough
  rw [leavesOut_of_silent huser hlevels, hfiles, hrows]
  cases isHidden entry.1 || (entry.2.isFolder && isExcluded config entry.1) with
  | true => simp
  | false => rfl

/-- Where no file says what is ignored, a walk lists what is left of the rows. -/
theorem filesOf_eq {disk : Disk} {config : Config} {levels : List Ignore.Level}
    {names : List FileName} {path : Path} {t : FileTree}
    (huser : disk.userRules = []) (hlevels : ∀ level ∈ levels, level.IsSilent)
    (hfolders : ∀ row ∈ t.folders, ¬ Ignore.HasRules disk (names ++ row)) :
    filesOf disk config levels names path t = leftFiles config path t := by
  induction t using FileTree.induct generalizing levels names path with
  | file bytes =>
    have hvisible : isVisible config [] = true := rfl
    rw [filesOf, leftFiles, FileTree.rows, List.filter_cons, List.filter_nil, hvisible,
      Bool.true_and, Path.joinNames_nil]
    split <;> rfl
  | link target =>
    rw [filesOf, leftFiles, FileTree.rows]
    rfl
  | folder entries ih =>
    -- the folder adds a level to those around it, which is as silent
    have hinside : ∀ level ∈ Ignore.Level.ofFolder disk names :: levels, level.IsSilent := by
      have hhere := hfolders [] (FileTree.nil_mem_folders entries)
      rw [List.append_nil] at hhere
      exact List.forall_mem_cons.2 ⟨Ignore.isSilent_ofFolder hhere, hlevels⟩
    rw [filesOf_folder, leftFiles_folder]
    apply List.flatMap_congr
    intro entry hentry
    have hmem := FileTree.mem_inOrder.1 hentry
    have hbelow : ∀ row ∈ entry.2.folders, ¬ Ignore.HasRules disk (names ++ [entry.1] ++ row) := by
      intro row hrow
      rw [List.append_assoc]
      exact hfolders _ (FileTree.cons_mem_folders hmem hrow)
    exact filesThrough_eq huser hinside (ih entry hmem hinside hbelow)

/-! ## Eligible files -/

/-- Whether a row of names leads in a tree to a file that is to be listed: an XML file that is not too
large, with no hidden name on the way or at the end and no excluded folder on the way. -/
structure Eligible (config : Config) (t : FileTree) (row : List FileName) : Prop where
  file : ∃ bytes, t.at? row = some (.file bytes) ∧ bytes.length ≤ config.maxXmlFileSize
  extension : ∃ name, row.getLast? = some name ∧ Path.HasExtension name (encodeUtf8 "xml")
  shown : ∀ name ∈ row, name.head? ≠ some Path.dot
  included : ∀ name ∈ row.dropLast, ∀ dir ∈ config.excludeDirs, encodeUtf8 dir ≠ name

theorem isVisible_iff {config : Config} {row : List FileName} :
    isVisible config row = true ↔ (∀ name ∈ row, name.head? ≠ some Path.dot) ∧
      ∀ name ∈ row.dropLast, ∀ dir ∈ config.excludeDirs, encodeUtf8 dir ≠ name := by
  unfold isVisible isHidden isExcluded
  simp only [Bool.and_eq_true, List.all_eq_true, Bool.not_eq_true', decide_eq_false_iff_not,
    List.any_eq_false, decide_eq_true_iff]

theorem isXml_joinNames_iff {start : Path} {row : List FileName} (hne : row ≠ [])
    (hnames : ∀ name ∈ row, Path.IsName name) :
    isXml (start.joinNames row) = true
      ↔ ∃ name, row.getLast? = some name ∧ Path.HasExtension name (encodeUtf8 "xml") := by
  unfold isXml
  rw [decide_eq_true_iff, Path.extension?_eq_some_iff (by decide +kernel),
    Path.components_joinNames start hnames,
    List.getLast?_append_of_ne_nil _ (by simpa using hne), List.getLast?_map]
  simp

/-- A path that leads to a folder of a disk. The entries below it are named as they can be, and neither
the user nor a file in a folder around or below it says what is ignored. -/
structure LeadsTo (disk : Disk) (start : Path) (place : List FileName)
    (entries : List (FileName × FileTree)) : Prop where
  located : disk.locate start = .ok place
  found : disk.root.at? place = some (.folder entries)
  named : (FileTree.folder entries).isWellNamed = true
  user : disk.userRules = []
  outside : ∀ names ∈ around place, ¬ Ignore.HasRules disk names
  inside : ∀ row ∈ (FileTree.folder entries).folders, ¬ Ignore.HasRules disk (place ++ row)

variable {disk : Disk} {start : Path} {place : List FileName} {entries : List (FileName × FileTree)}

/-- Nothing is listed below a start that is spelled like the standard input. -/
theorem xmlFiles_of_standardInput (config : Config) (h : start.sameAs standardInput = true) :
    xmlFiles disk config start = [] := by
  unfold xmlFiles allFiles
  rw [if_pos h]
  rfl

/-- Whether a row with what its file holds is kept in the list. -/
def isListed (config : Config) (start : Path) (row : List FileName × List UInt8) : Bool :=
  isVisible config row.1 && isXml (start.joinNames row.1) &&
    decide (row.2.length ≤ config.maxXmlFileSize)

/-- The rows that are kept in the list. -/
def listedRows (config : Config) (start : Path) (t : FileTree) : List (List FileName) :=
  (t.rows.filter (isListed config start)).map Prod.fst

theorem LeadsTo.xmlFiles_eq (h : LeadsTo disk start place entries) (config : Config)
    (hstart : start.sameAs standardInput ≠ true) :
    xmlFiles disk config start = (listedRows config start (.folder entries)).map start.joinNames := by
  have hlevels : ∀ level ∈ (around place).map (Ignore.Level.ofFolder disk), level.IsSilent := by
    intro level hlevel
    obtain ⟨names, hnames, rfl⟩ := List.mem_map.1 hlevel
    exact Ignore.isSilent_ofFolder (h.outside names hnames)
  unfold xmlFiles allFiles smallEnough listedRows
  rw [if_neg hstart, h.located]
  dsimp only
  rw [h.found]
  dsimp only
  rw [filesOf_eq h.user hlevels h.inside, leftFiles, List.filter_map, List.filter_filter, List.map_map,
    List.map_map]
  have hkept : ∀ row ∈ (FileTree.folder entries).rows,
      (decide ((fileAt start row).size ≤ config.maxXmlFileSize) &&
        (isVisible config row.1 && isXml (start.joinNames row.1))) = isListed config start row :=
    fun _ _ => Bool.and_comm _ _
  exact congrArg _ (List.filter_congr hkept)

/-- A row is listed just if it is eligible. -/
theorem LeadsTo.mem_listed_iff (h : LeadsTo disk start place entries) (config : Config)
    {row : List FileName} :
    row ∈ listedRows config start (.folder entries) ↔ Eligible config (.folder entries) row := by
  have hlisted : ∀ {bytes : List UInt8}, (row, bytes) ∈ (FileTree.folder entries).rows →
      (isListed config start (row, bytes) = true ↔
        (isVisible config row = true ∧
          ∃ name, row.getLast? = some name ∧ Path.HasExtension name (encodeUtf8 "xml")) ∧
        bytes.length ≤ config.maxXmlFileSize) := by
    intro bytes hrow
    have hne : row ≠ [] := by
      intro hnil
      have hempty := FileTree.isEmpty_of_mem_rows hrow
      rw [hnil] at hempty
      cases hempty
    unfold isListed
    rw [Bool.and_eq_true, Bool.and_eq_true, decide_eq_true_iff,
      isXml_joinNames_iff hne (FileTree.isName_of_mem_rows h.named hrow)]
  rw [listedRows, List.mem_map]
  constructor
  · rintro ⟨⟨row', bytes⟩, hrow, rfl⟩
    obtain ⟨hrow, hkept⟩ := List.mem_filter.1 hrow
    obtain ⟨⟨hvisible, hext⟩, hsize⟩ := (hlisted hrow).1 hkept
    obtain ⟨hshown, hincluded⟩ := isVisible_iff.1 hvisible
    exact ⟨⟨bytes, (FileTree.mem_rows_iff h.named).1 hrow, hsize⟩, hext, hshown, hincluded⟩
  · rintro ⟨⟨bytes, hfile, hsize⟩, hext, hshown, hincluded⟩
    have hrow := (FileTree.mem_rows_iff h.named).2 hfile
    have hkept := (hlisted hrow).2 ⟨⟨isVisible_iff.2 ⟨hshown, hincluded⟩, hext⟩, hsize⟩
    exact ⟨(row, bytes), List.mem_filter.2 ⟨hrow, hkept⟩, rfl⟩

theorem LeadsTo.pairwise_listed (h : LeadsTo disk start place entries) (config : Config) :
    (listedRows config start (.folder entries)).Pairwise (· < ·) :=
  List.pairwise_map.2 ((FileTree.pairwise_rows h.named).filter _)

/-- Different rows of names lead to different paths. -/
theorem joinNames_inj {row row' : List FileName} (h : ∀ name ∈ row, Path.IsName name)
    (h' : ∀ name ∈ row', Path.IsName name) (heq : start.joinNames row = start.joinNames row') :
    row = row' := by
  have hcomponents := congrArg Path.components heq
  rw [Path.components_joinNames start h, Path.components_joinNames start h'] at hcomponents
  have hinj : Function.Injective Component.normal := fun _ _ hname => Component.normal.inj hname
  exact List.map_injective_iff.2 hinj (List.append_cancel_left hcomponents)

theorem LeadsTo.nodup_xmlFiles (h : LeadsTo disk start place entries) (config : Config)
    (hstart : start.sameAs standardInput ≠ true) : (xmlFiles disk config start).Nodup := by
  have hrows : (listedRows config start (.folder entries)).Nodup := by
    refine (h.pairwise_listed config).imp ?_
    intro row row' hlt heq
    rw [heq] at hlt
    exact List.lt_irrefl row' hlt
  have hnames : ∀ row ∈ listedRows config start (.folder entries), ∀ name ∈ row, Path.IsName name := by
    intro row hrow
    obtain ⟨listed, hlisted, rfl⟩ := List.mem_map.1 hrow
    exact FileTree.isName_of_mem_rows h.named (List.mem_filter.1 hlisted).1
  rw [h.xmlFiles_eq config hstart]
  apply List.Nodup.map_on _ hrows
  intro row hrow row' hrow' heq
  exact joinNames_inj (hnames row hrow) (hnames row' hrow') heq

/-- A list of paths that is the one of the eligible files of a tree, in the order of their rows. -/
def IsListing (config : Config) (start : Path) (t : FileTree) (files : List Path) : Prop :=
  ∃ rows : List (List FileName), files = rows.map start.joinNames ∧
    (∀ row, row ∈ rows ↔ Eligible config t row) ∧ rows.Pairwise (· < ·)

/-- There is only one such list for trees with the same files. -/
theorem IsListing.eq {config : Config} {t t' : FileTree} {files files' : List Path}
    (h : IsListing config start t files) (h' : IsListing config start t' files')
    (hsame : ∀ row bytes, t.at? row = some (.file bytes) ↔ t'.at? row = some (.file bytes)) :
    files = files' := by
  obtain ⟨rows, rfl, hrows, hsorted⟩ := h
  obtain ⟨rows', rfl, hrows', hsorted'⟩ := h'
  have hmem : ∀ row, row ∈ rows ↔ row ∈ rows' := by
    intro row
    rw [hrows, hrows']
    constructor
    · rintro ⟨⟨bytes, hfile, hsize⟩, hext, hshown, hincluded⟩
      exact ⟨⟨bytes, (hsame row bytes).1 hfile, hsize⟩, hext, hshown, hincluded⟩
    · rintro ⟨⟨bytes, hfile, hsize⟩, hext, hshown, hincluded⟩
      exact ⟨⟨bytes, (hsame row bytes).2 hfile, hsize⟩, hext, hshown, hincluded⟩
  rw [hsorted.eq_of_mem_iff hsorted' hmem]

/-- A start is taken for the standard input if it has just this component. -/
theorem sameAs_standardInput_iff :
    start.sameAs standardInput = true ↔ start.components = [.normal (encodeUtf8 "-")] := by
  have hcomponents : standardInput.components = [.normal (encodeUtf8 "-")] := by decide +kernel
  rw [Path.sameAs_iff, hcomponents]

/-- Below a folder around and in which nothing says what is ignored, just the eligible files are listed,
each once and in the order of their rows of names. So the list depends on the files only, and not on
the order of the entries. The folder has to be walked, so it must not be spelled like the standard
input. -/
theorem eligible_files_listed_in_order (config : Config) (h : LeadsTo disk start place entries)
    (hstart : start.components ≠ [.normal (encodeUtf8 "-")]) :
    IsListing config start (.folder entries) (xmlFiles disk config start) ∧
    (xmlFiles disk config start).Nodup ∧
    ∀ disk' place' entries', LeadsTo disk' start place' entries' →
      (∀ row bytes, (FileTree.folder entries').at? row = some (.file bytes)
        ↔ (FileTree.folder entries).at? row = some (.file bytes)) →
      xmlFiles disk' config start = xmlFiles disk config start := by
  have hplace : start.sameAs standardInput ≠ true := by
    rwa [ne_eq, sameAs_standardInput_iff]
  have hlisting : ∀ {disk place entries}, LeadsTo disk start place entries →
      IsListing config start (.folder entries) (xmlFiles disk config start) := by
    intro disk place entries h
    exact ⟨_, h.xmlFiles_eq config hplace, fun row => h.mem_listed_iff config,
      h.pairwise_listed config⟩
  refine ⟨hlisting h, h.nodup_xmlFiles config hplace, ?_⟩
  intro disk' place' entries' h' hsame
  exact (hlisting h').eq (hlisting h) hsame

/-- Entries that are not in order: a file with the name of an excluded folder, a folder with another one
in it, a hidden folder, a link and a file that is too large. -/
def looseEntries : List (FileName × FileTree) :=
  [(encodeUtf8 "b.xml", .file [60]),
    (encodeUtf8 "a", .folder [(encodeUtf8 "target", .folder [(encodeUtf8 "t.xml", .file [])]),
      (encodeUtf8 "z.xml", .file [])]),
    (encodeUtf8 ".git", .folder [(encodeUtf8 "g.xml", .file [])]),
    (encodeUtf8 "l.xml", .link (.ofString "b.xml")),
    (encodeUtf8 "d.xml", .file [60, 47, 62])]

/-- A disk with these entries in a folder that has the name of the standard input. -/
def dashDisk : Disk := ⟨.folder [(encodeUtf8 "-", .folder looseEntries)], [], []⟩

/-- A configuration that excludes two names. -/
def narrowConfig : Config :=
  { Config.standard with excludeDirs := ["target", "b.xml"], maxXmlFileSize := 2 }

/-- The absolute path of the folder is none of the standard input, and two of its files are eligible. -/
theorem eligible_files_listed_in_order_dashDisk :
    Eligible narrowConfig (.folder looseEntries) [encodeUtf8 "a", encodeUtf8 "z.xml"] ∧
    Eligible narrowConfig (.folder looseEntries) [encodeUtf8 "b.xml"] ∧
    IsListing narrowConfig (.ofString "/-") (.folder looseEntries)
      (xmlFiles dashDisk narrowConfig (.ofString "/-")) := by
  have hfound : dashDisk.root.at? [encodeUtf8 "-"] = some (.folder looseEntries) := by
    simp [dashDisk, FileTree.at?, FileTree.entry?]
  have hleads : LeadsTo dashDisk (.ofString "/-") [encodeUtf8 "-"] looseEntries :=
    ⟨by decide +kernel, hfound, by decide +kernel, rfl, by decide +kernel, by decide +kernel⟩
  have hb : (FileTree.folder looseEntries).at? [encodeUtf8 "b.xml"] = some (.file [60]) := by
    simp [looseEntries, FileTree.at?, FileTree.entry?]
  have hz : (FileTree.folder looseEntries).at? [encodeUtf8 "a", encodeUtf8 "z.xml"]
      = some (.file []) := by
    have ha : (encodeUtf8 "a" == encodeUtf8 "b.xml") = false := by decide +kernel
    have hz : (encodeUtf8 "z.xml" == encodeUtf8 "target") = false := by decide +kernel
    simp [looseEntries, FileTree.at?, FileTree.entry?, List.lookup_cons, ha, hz]
  refine ⟨⟨⟨[], hz, by decide⟩, ?_, by decide +kernel, by decide +kernel⟩,
    ⟨⟨[60], hb, by decide⟩, ?_, by decide +kernel, by decide +kernel⟩, ?_⟩
  · exact ⟨encodeUtf8 "z.xml", rfl, encodeUtf8 "z", by decide +kernel, by decide +kernel⟩
  · exact ⟨encodeUtf8 "b.xml", rfl, encodeUtf8 "b", by decide +kernel, by decide +kernel⟩
  · exact (eligible_files_listed_in_order narrowConfig hleads (by decide +kernel)).1

end Walk

end StatementLens
