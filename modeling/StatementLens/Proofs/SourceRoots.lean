import Mathlib.Order.Bounds.Basic
import StatementLens.Proofs.Path
import StatementLens.Proofs.Utf8
import StatementLens.Proofs.Workspace

/-!
# The first source root of a path

A source root can begin at several names of a path, and several roots can begin at one. Only the least
index counts at which any of them begins: it tells whether the path is that of a mapper
(`isMapperPath_iff`), and what stands in front of it is searched for the XML if no folder of the workspace
is around the path (`searchRoot?_eq`). So the two always speak of one place in the path.
-/

namespace StatementLens

open Text

namespace Config

/-! ## Roots in a list of names -/

/-- Whether these are the names of a configured source root: what stands between slashes of either kind,
as far as it is not empty. A root without names is none. -/
def IsRoot (config : Config) (parts : List String) : Prop :=
  parts ≠ [] ∧ ∃ root ∈ config.sourceRoots,
    parts = ((root.toList.splitOnP fun c => c = '/' || c = '\\').filter (· ≠ [])).map String.ofList

/-- Whether a source root begins at an index of some names. It ends in front of the last name, which is
that of a file. -/
def RootAt (config : Config) (names : List String) (i : Nat) : Prop :=
  ∃ parts, config.IsRoot parts ∧ i + parts.length ≤ names.length - 1 ∧
    (names.drop i).take parts.length = parts

theorem mem_sourceRootParts_iff {config : Config} {parts : List String} :
    parts ∈ config.sourceRootParts ↔ config.IsRoot parts := by
  have hparts : ∀ root : String, rootParts root
      = ((root.toList.splitOnP fun c => c = '/' || c = '\\').filter (· ≠ [])).map String.ofList := by
    intro root
    unfold rootParts
    rw [splitOn_eq_splitOnP]
    congr 2
    funext part
    cases part <;> rfl
  unfold sourceRootParts IsRoot
  simp only [List.mem_filter, List.mem_map, hparts]
  constructor
  · rintro ⟨⟨root, hroot, rfl⟩, hne⟩
    exact ⟨by simpa using hne, root, hroot, rfl⟩
  · rintro ⟨hne, root, hroot, rfl⟩
    exact ⟨⟨root, hroot, rfl⟩, by simpa using hne⟩

/-- The search looks for a root at the front of what is left of the directories. -/
theorem beginsRoot_drop_iff {config : Config} {names : List String} {i : Nat} :
    config.beginsRoot (names.dropLast.drop i) = true ↔ config.RootAt names i := by
  unfold beginsRoot RootAt
  simp only [List.any_eq_true, mem_sourceRootParts_iff, List.isPrefixOf_iff_prefix]
  refine exists_congr fun parts => and_congr_right fun hroot => ?_
  -- a root has a name, so it cannot begin where the directories have ended
  have hpos : 0 < parts.length := List.length_pos_of_ne_nil hroot.1
  rw [List.prefix_iff_eq_take, List.dropLast_eq_take, List.drop_take, List.take_take]
  constructor
  · intro h
    have hlength := congrArg List.length h
    simp only [List.length_take, List.length_drop] at hlength
    refine ⟨by omega, ?_⟩
    rw [Nat.min_eq_left (by omega)] at h
    exact h.symm
  · rintro ⟨hle, htake⟩
    rw [Nat.min_eq_left (by omega)]
    exact htake.symm

/-- A root is in front of the name of the file. -/
theorem RootAt.lt_length {config : Config} {names : List String} {i : Nat}
    (h : config.RootAt names i) : i < names.dropLast.length := by
  obtain ⟨parts, hroot, hle, -⟩ := h
  have hpos : 0 < parts.length := List.length_pos_of_ne_nil hroot.1
  rw [List.length_dropLast]
  omega

/-- The first root counts. -/
theorem sourceRootIndex?_eq_some_iff {config : Config} {names : List String} {i : Nat} :
    config.sourceRootIndex? names = some i ↔ IsLeast {j | config.RootAt names j} i := by
  unfold sourceRootIndex?
  simp only [List.find?_range_eq_some, beginsRoot_drop_iff, List.mem_range, Bool.not_eq_true',
    ← Bool.not_eq_true]
  constructor
  · rintro ⟨hroot, -, hbefore⟩
    refine ⟨hroot, fun j hj => ?_⟩
    by_contra hlt
    exact hbefore j (by omega) hj
  · rintro ⟨hroot, hleast⟩
    refine ⟨hroot, RootAt.lt_length hroot, fun j hlt hj => ?_⟩
    have hle : i ≤ j := hleast hj
    omega

/-- There is none if no root stands anywhere. -/
theorem sourceRootIndex?_eq_none_iff {config : Config} {names : List String} :
    config.sourceRootIndex? names = none ↔ ∀ i, ¬ config.RootAt names i := by
  unfold sourceRootIndex?
  simp only [List.find?_range_eq_none, Bool.not_eq_true', ← Bool.not_eq_true, beginsRoot_drop_iff]
  constructor
  · intro h i hroot
    exact h i hroot.lt_length hroot
  · intro h i _
    exact h i

end Config

/-! ## Paths of texts -/

namespace Path

/-- Whether a path leads from the root through these names, all of which are texts. -/
def LeadsThrough (p : Path) (names : List String) : Prop :=
  p.components = .root :: names.map fun name => .normal (encodeUtf8 name)

/-- The absolute path with these names. -/
def ofNames (names : List String) : Path := .ofString ("/" ++ "/".intercalate names)

variable {p : Path} {names : List String}

theorem LeadsThrough.isName (h : p.LeadsThrough names) {name : String} (hname : name ∈ names) :
    IsName (encodeUtf8 name) :=
  isInner_normal_iff.1 (Url.isInner_of_components h (List.mem_map_of_mem hname))

/-- The names of a path are those that it leads through. -/
theorem LeadsThrough.names_eq (h : p.LeadsThrough names) : p.names = names.map encodeUtf8 := by
  unfold Path.names
  rw [h, List.filterMap_cons_none rfl, List.filterMap_map]
  exact congrFun (List.filterMap_eq_map (f := encodeUtf8)) names

theorem LeadsThrough.getLast?_eq_some_iff (h : p.LeadsThrough names) {name : FileName} :
    p.components.getLast? = some (.normal name)
      ↔ ∃ text, names.getLast? = some text ∧ encodeUtf8 text = name := by
  rw [h, List.getLast?_cons, List.getLast?_map]
  cases names.getLast? with
  | none => simp
  | some text => simp

/-- Components from the root on are joined as names to it. -/
theorem ofComponents_root (row : List FileName) :
    ofComponents (.root :: row.map .normal) = joinNames ⟨[slash]⟩ row := by
  have hroot : join ⟨[]⟩ ⟨Component.bytes .root⟩ = ⟨[slash]⟩ := by decide +kernel
  unfold ofComponents joinNames
  rw [List.foldl_cons, hroot, List.foldl_map]
  rfl

/-- No path ends in a slash that ends in a name. -/
theorem getLast?_append_name (front : List UInt8) {name : FileName} (h : IsName name) :
    (front ++ slash :: name).getLast? ≠ some slash := by
  intro hend
  rw [List.getLast?_append_of_ne_nil _ (List.cons_ne_nil _ _),
    List.getLast?_cons_of_ne_nil h.2.1] at hend
  exact h.1 (List.mem_of_getLast? hend)

/-- Names that are joined to a path which does not end in a slash follow one each. -/
theorem bytes_joinNames {q : Path} {row : List FileName} (hempty : q.bytes ≠ [])
    (hslash : q.bytes.getLast? ≠ some slash) (h : ∀ name ∈ row, IsName name) :
    (q.joinNames row).bytes = q.bytes ++ row.flatMap (slash :: ·) := by
  induction row generalizing q with
  | nil => simp
  | cons name row ih =>
    have hname : IsName name := h name List.mem_cons_self
    have hjoin : q.join ⟨name⟩ = ⟨q.bytes ++ slash :: name⟩ := by
      unfold join
      simp [isAbsolute_name hname, hempty, hslash]
    have hlast := getLast?_append_name q.bytes hname
    rw [joinNames_cons, hjoin, ih (by simp) hlast fun n hn => h n (List.mem_cons_of_mem _ hn),
      List.flatMap_cons, List.append_assoc]

theorem encodeUtf8_slash : encodeUtf8 "/" = [slash] := by decide +kernel

/-- Names that are joined by slashes are joined by the byte of the slash. -/
theorem encodeUtf8_intercalate (name : String) (names : List String) :
    encodeUtf8 ("/".intercalate (name :: names))
      = encodeUtf8 name ++ (names.map encodeUtf8).flatMap (slash :: ·) := by
  induction names generalizing name with
  | nil => simp
  | cons next names ih =>
    rw [String.intercalate_cons_cons, encodeUtf8_append, encodeUtf8_append, ih, encodeUtf8_slash, List.map_cons,
      List.flatMap_cons, List.append_assoc]
    rfl

theorem bytes_ofNames (names : List String) :
    (ofNames names).bytes = slash :: encodeUtf8 ("/".intercalate names) := by
  show encodeUtf8 ("/" ++ "/".intercalate names) = _
  rw [encodeUtf8_append, encodeUtf8_slash]
  rfl

/-- The absolute path with some names comes from joining them to the root. -/
theorem joinNames_root (h : ∀ name ∈ names, IsName (encodeUtf8 name)) :
    joinNames ⟨[slash]⟩ (names.map encodeUtf8) = ofNames names := by
  cases names with
  | nil => exact congrArg Path.mk (by decide +kernel)
  | cons name names =>
    have hname : IsName (encodeUtf8 name) := h name List.mem_cons_self
    have hjoin : join ⟨[slash]⟩ ⟨encodeUtf8 name⟩ = ⟨slash :: encodeUtf8 name⟩ := by
      unfold join
      simp [isAbsolute_name hname]
    have hlast := getLast?_append_name [] hname
    have hrow : ∀ n ∈ names.map encodeUtf8, IsName n := by
      intro n hn
      obtain ⟨text, htext, rfl⟩ := List.mem_map.1 hn
      exact h text (List.mem_cons_of_mem _ htext)
    have hbytes := bytes_joinNames (q := ⟨slash :: encodeUtf8 name⟩) (by simp) hlast hrow
    rw [List.map_cons, joinNames_cons, hjoin]
    refine congrArg Path.mk (hbytes.trans (Eq.trans ?_ (bytes_ofNames (name :: names)).symm))
    rw [encodeUtf8_intercalate]
    rfl

/-- The components of the absolute path with some names. -/
theorem components_ofNames (h : ∀ name ∈ names, IsName (encodeUtf8 name)) :
    (ofNames names).LeadsThrough names := by
  have hrow : ∀ n ∈ names.map encodeUtf8, IsName n := by
    intro n hn
    obtain ⟨text, htext, rfl⟩ := List.mem_map.1 hn
    exact h text htext
  have hroot : components ⟨[slash]⟩ = [.root] := by decide +kernel
  unfold LeadsThrough
  rw [← joinNames_root h, components_joinNames _ hrow, hroot, List.map_map]
  rfl

end Path

/-! ## Mapper paths and search roots -/

namespace Config

variable (config : Config) {p : Path} {names : List String}

/-- The names that are looked at are those that the path leads through. -/
theorem namesOf_eq (h : p.LeadsThrough names) : namesOf p = names := by
  have hread : decodeUtf8Lossy ∘ encodeUtf8 = id := funext decodeUtf8Lossy_encodeUtf8
  rw [namesOf, h.names_eq, List.map_map, hread, List.map_id]

theorem takeNames_root (i : Nat) (cs : List Component) :
    takeNames i (.root :: cs) = .root :: takeNames i cs := by
  cases i <;> rfl

/-- The components in front of an index are those of the names in front of it. -/
theorem takeNames_map_normal (i : Nat) (row : List FileName) :
    takeNames i (row.map .normal) = (row.take i).map .normal := by
  induction row generalizing i with
  | nil => rw [List.map_nil, List.take_nil, takeNames, List.map_nil]
  | cons name row ih =>
    cases i with
    | zero => rfl
    | succ i => rw [List.map_cons, takeNames, ih, List.take_succ_cons, List.map_cons]

/-- Names that are no text are looked at with replacement characters. -/
theorem namesOf_of_components {row : List FileName} (h : p.components = .root :: row.map .normal) :
    namesOf p = row.map decodeUtf8Lossy := by
  have hrow : p.names = row := by
    unfold Path.names
    rw [h, List.filterMap_cons_none rfl, List.filterMap_map]
    exact List.filterMap_some
  rw [namesOf, hrow]

/-- A path has the extension of Java files if its last name has it, and belongs to a mapper if a folder
of the name stands in front of its first source root. -/
theorem isMapperPath_iff_of_components {row : List FileName}
    (h : p.components = .root :: row.map .normal) (folder : String) :
    config.isMapperPath p folder = true ↔
      (∃ name, row.getLast? = some name ∧ Path.HasExtension name (encodeUtf8 "java")) ∧
      ∃ i, IsLeast {j | config.RootAt (namesOf p) j} i ∧ (folder = "" ∨ folder ∈ (namesOf p).take i) := by
  have hlast : ∀ name, p.components.getLast? = some (.normal name) ↔ row.getLast? = some name := by
    intro name
    rw [h, List.getLast?_cons, List.getLast?_map]
    cases row.getLast? with
    | none => simp
    | some last => simp
  have hext : p.extension? = some (encodeUtf8 "java") ↔
      ∃ name, row.getLast? = some name ∧ Path.HasExtension name (encodeUtf8 "java") := by
    simp only [Path.extension?_eq_some_iff (show Path.dot ∉ encodeUtf8 "java" by decide +kernel), hlast]
  unfold isMapperPath
  rw [Bool.and_eq_true, decide_eq_true_iff, hext]
  refine and_congr_right fun _ => ?_
  cases hindex : config.sourceRootIndex? (namesOf p) with
  | none =>
    have hnone := sourceRootIndex?_eq_none_iff.1 hindex
    refine iff_of_false Bool.false_ne_true ?_
    rintro ⟨i, hleast, -⟩
    exact hnone i hleast.1
  | some start =>
    have hstart := sourceRootIndex?_eq_some_iff.1 hindex
    have hunique : ∀ i, IsLeast {j | config.RootAt (namesOf p) j} i → i = start := fun i hi =>
      hi.unique hstart
    simp only [Bool.or_eq_true, String.isEmpty_iff, List.contains_iff_mem]
    constructor
    · intro hfolder
      exact ⟨start, hstart, hfolder⟩
    · rintro ⟨i, hi, hfolder⟩
      rw [← hunique i hi]
      exact hfolder

/-- Of a path of texts, the names are those texts. -/
theorem isMapperPath_iff (h : p.LeadsThrough names) (folder : String) :
    config.isMapperPath p folder = true ↔
      (∃ name, names.getLast? = some name ∧ Path.HasExtension (encodeUtf8 name) (encodeUtf8 "java")) ∧
      ∃ i, IsLeast {j | config.RootAt names j} i ∧ (folder = "" ∨ folder ∈ names.take i) := by
  have hcomponents : p.components = .root :: (names.map encodeUtf8).map .normal := by
    rw [h, List.map_map]
    rfl
  have hlast : ∀ ext, (∃ name, (names.map encodeUtf8).getLast? = some name ∧ Path.HasExtension name ext) ↔
      ∃ name, names.getLast? = some name ∧ Path.HasExtension (encodeUtf8 name) ext := by
    intro ext
    rw [List.getLast?_map]
    cases names.getLast? with
    | none => simp
    | some last => simp
  rw [config.isMapperPath_iff_of_components hcomponents, hlast, namesOf_eq h]

/-- Outside of the workspace, what stands in front of the first source root is searched. -/
theorem searchRoot?_eq {w : Workspace} (h : p.LeadsThrough names)
    (houtside : ∀ folder ∈ w.folders, ¬ folder.components <+: p.components) :
    config.searchRoot? w p
      = (config.sourceRootIndex? names).map fun i => Path.ofNames (names.take i) := by
  have hnone : w.folderOf? p = none := by
    rw [← Option.not_isSome_iff_eq_none, Workspace.folderOf?_isSome_iff]
    rintro ⟨folder, hfolder, hstarts⟩
    exact houtside folder hfolder (Path.startsWith_iff.1 hstarts)
  have hroot : ∀ i, Path.ofComponents (takeNames i p.components) = Path.ofNames (names.take i) := by
    intro i
    have hcomponents : p.components = .root :: (names.map encodeUtf8).map .normal := by
      rw [h, List.map_map]
      rfl
    have htake : takeNames i p.components
        = .root :: ((names.take i).map encodeUtf8).map .normal := by
      rw [hcomponents, takeNames_root, takeNames_map_normal, ← List.map_take]
    rw [htake, Path.ofComponents_root,
      Path.joinNames_root fun name hname => h.isName (List.mem_of_mem_take hname)]
  -- a root that is searched is never empty, for it begins with a slash
  have hbytes : ∀ i, (Path.ofNames (names.take i)).bytes.isEmpty = false := by
    intro i
    rw [Path.bytes_ofNames]
    rfl
  unfold searchRoot?
  rw [hnone, namesOf_eq h]
  cases config.sourceRootIndex? names with
  | none => rfl
  | some i =>
    show (if (Path.ofComponents (takeNames i p.components)).bytes.isEmpty then none
      else some (Path.ofComponents (takeNames i p.components))) = some (Path.ofNames (names.take i))
    rw [hroot, hbytes, if_neg Bool.false_ne_true]

end Config

/-- The first source root of a path decides twice. A path is that of a mapper if it is one of a Java file
and a folder of the given name stands in front of the root. If no folder of the workspace is around the
path, just what stands in front of the root is searched, and nothing if there is no root. Hence a mapper
has a folder to be searched, around the mapper and around or at the folder of the name. -/
theorem Config.first_source_root_decides (config : Config) (w : Workspace) {p : Path}
    {names : List String} (hp : p.components = .root :: names.map fun name => .normal (encodeUtf8 name)) :
    (∀ folder, config.isMapperPath p folder = true ↔
      (∃ name, names.getLast? = some name ∧
        Path.HasExtension (encodeUtf8 name) (encodeUtf8 "java")) ∧
      ∃ i, IsLeast {j | config.RootAt names j} i ∧ (folder = "" ∨ folder ∈ names.take i)) ∧
    ((∀ folder ∈ w.folders, ¬ folder.components <+: p.components) →
      (∀ i, IsLeast {j | config.RootAt names j} i →
        config.searchRoot? w p = some (.ofString ("/" ++ "/".intercalate (names.take i)))) ∧
      ((∀ i, ¬ config.RootAt names i) → config.searchRoot? w p = none) ∧
      ∀ folder, config.isMapperPath p folder = true →
        ∃ root, config.searchRoot? w p = some root ∧ root.components <+: p.components ∧
          (folder ≠ "" → .normal (encodeUtf8 folder) ∈ root.components)) := by
  have hleads : p.LeadsThrough names := hp
  have hmapper := config.isMapperPath_iff hleads
  refine ⟨hmapper, fun houtside => ?_⟩
  have hsearch := config.searchRoot?_eq hleads houtside
  have hfound : ∀ i, IsLeast {j | config.RootAt names j} i →
      config.searchRoot? w p = some (Path.ofNames (names.take i)) := by
    intro i hi
    rw [hsearch, Config.sourceRootIndex?_eq_some_iff.2 hi]
    rfl
  refine ⟨hfound, ?_, ?_⟩
  · intro hnone
    rw [hsearch, Config.sourceRootIndex?_eq_none_iff.2 hnone]
    rfl
  · intro folder hplaced
    obtain ⟨-, i, hi, hfolder⟩ := (hmapper folder).1 hplaced
    have hcomponents : (Path.ofNames (names.take i)).LeadsThrough (names.take i) :=
      Path.components_ofNames fun name hname =>
        hleads.isName (List.mem_of_mem_take hname)
    refine ⟨_, hfound i hi, ?_, ?_⟩
    · rw [hcomponents, hp, List.map_take]
      exact List.cons_prefix_cons.2 ⟨rfl, List.take_prefix _ _⟩
    · intro hne
      rw [hcomponents]
      exact List.mem_cons_of_mem _ (List.mem_map_of_mem (hfolder.resolve_left hne))

/-- A configuration with a root that leans both ways, one that begins inside of it and one without
names. -/
def leaningRoots : Config :=
  { Config.standard with sourceRoots := ["src\\main//java/", "java", "/"] }

theorem Config.first_source_root_decides_leaningRoots :
    leaningRoots.isMapperPath (.ofString "/wörk/src/./src/main/java//java/M.java") "src" = true ∧
    leaningRoots.isMapperPath (.ofString "/wörk/src/./src/main/java//java/M.java") "main" = false ∧
    leaningRoots.searchRoot? ⟨[.ofString "/wörk/src/main"]⟩
      (.ofString "/wörk/src/./src/main/java//java/M.java") = some (.ofString "/wörk/src") := by
  have hp : (Path.ofString "/wörk/src/./src/main/java//java/M.java").components
      = .root :: ["wörk", "src", "src", "main", "java", "java", "M.java"].map
        fun name => .normal (encodeUtf8 name) := by
    decide +kernel
  have houtside : ∀ folder ∈ (Workspace.mk [.ofString "/wörk/src/main"]).folders,
      ¬ folder.components <+: (Path.ofString "/wörk/src/./src/main/java//java/M.java").components := by
    decide +kernel
  have hleast : IsLeast {j | leaningRoots.RootAt
      ["wörk", "src", "src", "main", "java", "java", "M.java"] j} 2 :=
    Config.sourceRootIndex?_eq_some_iff.1 (by decide +kernel)
  obtain ⟨hmapper, hsearch⟩ := Config.first_source_root_decides leaningRoots
    ⟨[.ofString "/wörk/src/main"]⟩ hp
  have hjava : Path.HasExtension (encodeUtf8 "M.java") (encodeUtf8 "java") :=
    ⟨encodeUtf8 "M", by decide +kernel, by decide +kernel⟩
  refine ⟨(hmapper "src").2 ⟨⟨"M.java", rfl, hjava⟩, 2, hleast, .inr (by decide)⟩, ?_, ?_⟩
  · rw [Bool.eq_false_iff, ne_eq, hmapper]
    rintro ⟨-, i, hi, hfolder⟩
    rw [hi.unique hleast] at hfolder
    revert hfolder
    decide
  · exact (hsearch houtside).1 2 hleast

end StatementLens
