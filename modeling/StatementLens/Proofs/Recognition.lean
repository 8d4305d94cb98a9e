import Mathlib.Data.List.TakeDrop
import StatementLens.Correlate
import StatementLens.Proofs.SourceRoots

/-!
# Mappers in their workspace folder

The folder of a mapper is known by its name only, and it is looked for in front of the first source root
of the whole path. A source root that begins inside of the folder comes first and can hide the name. Where
none does, all mappers below the folder are recognised (`recognised_iff_named_in_front`).
-/

namespace StatementLens

open Text

namespace Text

theorem decodeChars_ne_nil {done : List (Option Char)} {bytes : List UInt8}
    (h : done ≠ [] ∨ bytes ≠ []) : decodeChars done bytes ≠ [] := by
  fun_induction decodeChars done bytes with
  | case1 done =>
    have hdone : done ≠ [] := h.resolve_right fun hbytes => hbytes rfl
    simpa using hdone
  | case2 done first rest c extra hfirst ih => exact ih (.inl (List.cons_ne_nil _ _))

/-- Bytes are read as a text that is not empty, even if they are no UTF-8. -/
theorem decodeUtf8Lossy_ne_empty {bytes : List UInt8} (h : bytes ≠ []) : decodeUtf8Lossy bytes ≠ "" := by
  unfold decodeUtf8Lossy
  rw [Ne, String.ofList_eq_empty_iff, List.map_eq_nil_iff]
  exact decodeChars_ne_nil (.inr h)

end Text

namespace Workspace

variable {folder : Path} {front : List FileName}

theorem folderName_eq_getLast? (h : folder.components = .root :: front.map .normal) :
    folderName folder = (front.getLast?.map decodeUtf8Lossy).getD "" := by
  have hname : folder.fileName? = front.getLast? := by
    ext name
    rw [Path.fileName?_eq_some_iff, h, List.getLast?_cons, List.getLast?_map]
    cases front.getLast? with
    | none => simp
    | some last => simp
  unfold folderName
  rw [hname]

/-- Of all folders, only the root has no name. -/
theorem folderName_eq_empty_iff (h : folder.components = .root :: front.map .normal) :
    folderName folder = "" ↔ front = [] := by
  rw [folderName_eq_getLast? h]
  cases hlast : front.getLast? with
  | none => exact iff_of_true rfl (List.getLast?_eq_none_iff.1 hlast)
  | some last =>
    have hmem : last ∈ front := List.mem_of_getLast? hlast
    have hlast : Path.IsName last :=
      Path.isInner_normal_iff.1 (Url.isInner_of_components h (List.mem_map_of_mem hmem))
    exact iff_of_false (decodeUtf8Lossy_ne_empty hlast.2.1) (List.ne_nil_of_mem hmem)

/-- The name of a folder is the last one of its own names. -/
theorem folderName_mem (h : folder.components = .root :: front.map .normal) (hne : front ≠ []) :
    folderName folder ∈ front.map decodeUtf8Lossy := by
  rw [folderName_eq_getLast? h, List.getLast?_eq_some_getLast hne]
  exact List.mem_map_of_mem (List.getLast_mem hne)

end Workspace

namespace Config

variable (config : Config) {p : Path}

/-- Names in front of the first source root are in front of every other. -/
theorem isMapperPath_iff_forall_rootAt {row : List FileName} {file : FileName}
    (hp : p.components = .root :: (row ++ [file]).map .normal)
    (hfile : Path.HasExtension file (encodeUtf8 "java"))
    (hroot : ∃ i, config.RootAt (namesOf p) i) (folder : String) :
    config.isMapperPath p folder = true ↔
      folder = "" ∨ ∀ i, config.RootAt (namesOf p) i → folder ∈ (namesOf p).take i := by
  have hlast : ∃ name, (row ++ [file]).getLast? = some name ∧
      Path.HasExtension name (encodeUtf8 "java") := ⟨file, List.getLast?_concat, hfile⟩
  rw [config.isMapperPath_iff_of_components hp, and_iff_right hlast]
  constructor
  · rintro ⟨i, hi, hempty | hfolder⟩
    · exact .inl hempty
    · exact .inr fun j hj => List.take_subset_take_left _ (hi.2 hj) hfolder
  · intro hfolder
    cases hindex : config.sourceRootIndex? (namesOf p) with
    | none =>
      obtain ⟨i, hi⟩ := hroot
      exact absurd hi (sourceRootIndex?_eq_none_iff.1 hindex i)
    | some i =>
      have hi := sourceRootIndex?_eq_some_iff.1 hindex
      exact ⟨i, hi, hfolder.imp_right fun hall => hall i hi.1⟩

/-- A source root begins behind the names in front of it, if it is not the end of the path. -/
theorem rootAt_append {before behind parts : List String} {file : String} (h : config.IsRoot parts) :
    config.RootAt (before ++ (parts ++ (behind ++ [file]))) before.length := by
  refine ⟨parts, h, ?_, ?_⟩
  · simp only [List.length_append, List.length_singleton]
    omega
  · rw [List.drop_left, List.take_left]

/-- Where no source root begins inside of a folder, its name is in front of all of them. -/
theorem folderName_mem_take {folder : Path} {front rest : List FileName}
    (hfront : folder.components = .root :: front.map .normal) (hne : front ≠ [])
    (hp : p.components = .root :: (front ++ rest).map .normal) {i : Nat} (hi : front.length ≤ i) :
    Workspace.folderName folder ∈ (namesOf p).take i := by
  have hmem : Workspace.folderName folder ∈ (namesOf p).take front.length := by
    rw [namesOf_of_components hp, ← List.map_take, List.take_left]
    exact Workspace.folderName_mem hfront hne
  exact List.take_subset_take_left _ hi hmem

/-- A Java file below a source root in its workspace folder is recognised as a mapper if and only if the
folder is the root of the disk or its name stands in front of every source root of the whole path, also
of those that begin inside of the folder. So all are recognised if no source root begins there. -/
theorem recognised_iff_named_in_front (w : Workspace) {d : Document} {folder : Path}
    {front dirs behind : List FileName} {parts : List String} {file : FileName}
    (hd : d.path? = some p) (hfolder : w.folderOf? p = some folder)
    (hfront : folder.components = .root :: front.map .normal) (hparts : config.IsRoot parts)
    (hp : p.components
      = folder.components ++ (dirs ++ (parts.map encodeUtf8 ++ (behind ++ [file]))).map .normal)
    (hfile : Path.HasExtension file (encodeUtf8 "java")) :
    (config.isMapperPath p (Correlate.folderName w d) = true ↔
      front = [] ∨
        ∀ i, config.RootAt (namesOf p) i → Workspace.folderName folder ∈ (namesOf p).take i) ∧
    ((∀ i, config.RootAt (namesOf p) i → front.length ≤ i) →
      config.isMapperPath p (Correlate.folderName w d) = true) := by
  have hname : Correlate.folderName w d = Workspace.folderName folder := by
    unfold Correlate.folderName
    rw [hd, Option.bind_some, hfolder]
  have hrow : p.components
      = .root :: (front ++ (dirs ++ (parts.map encodeUtf8 ++ (behind ++ [file])))).map .normal := by
    rw [hp, hfront, List.cons_append, ← List.map_append]
  have hjava : p.components
      = .root :: ((front ++ (dirs ++ (parts.map encodeUtf8 ++ behind))) ++ [file]).map .normal := by
    rw [hrow]
    simp only [List.append_assoc]
  have hread : decodeUtf8Lossy ∘ encodeUtf8 = id := funext decodeUtf8Lossy_encodeUtf8
  have hnames : namesOf p = (front ++ dirs).map decodeUtf8Lossy
      ++ (parts ++ (behind.map decodeUtf8Lossy ++ [decodeUtf8Lossy file])) := by
    rw [namesOf_of_components hrow]
    simp only [List.map_append, List.map_map, hread, List.map_id, List.map_cons, List.map_nil,
      List.append_assoc]
  have hroot : ∃ i, config.RootAt (namesOf p) i := by
    rw [hnames]
    exact ⟨_, config.rootAt_append hparts⟩
  have hmapper := config.isMapperPath_iff_forall_rootAt hjava hfile hroot (Workspace.folderName folder)
  rw [Workspace.folderName_eq_empty_iff hfront] at hmapper
  rw [hname]
  refine ⟨hmapper, fun hoff => hmapper.2 ?_⟩
  by_cases hne : front = []
  · exact .inl hne
  · exact .inr fun i hi => folderName_mem_take hfront hne hrow (hoff i hi)

/-- The folder `shop` is inside of the sources of another project, and there its mappers are not
recognised; next to the other project they are. -/
theorem recognised_iff_named_in_front_shop :
    Config.standard.isMapperPath (.ofString "/w/src/main/java/shop/src/main/java/M.java")
      (Correlate.folderName ⟨[.ofString "/w/src/main/java/shop"]⟩
        (.ofText "file:///w/src/main/java/shop/src/main/java/M.java" "")) = false ∧
    Config.standard.isMapperPath (.ofString "/w/shop/src/main/java/src/main/java/M.java")
      (Correlate.folderName ⟨[.ofString "/w/shop"]⟩
        (.ofText "file:///w/shop/src/main/java/src/main/java/M.java" "")) = true := by
  have hparts : Config.standard.IsRoot ["src", "main", "java"] :=
    mem_sourceRootParts_iff.1 (by decide +kernel)
  have hfile : Path.HasExtension (encodeUtf8 "M.java") (encodeUtf8 "java") :=
    ⟨encodeUtf8 "M", by decide +kernel, by decide +kernel⟩
  constructor
  · have hfront : (Path.ofString "/w/src/main/java/shop").components
        = .root :: (["w", "src", "main", "java", "shop"].map encodeUtf8).map .normal := by decide +kernel
    have hp : (Path.ofString "/w/src/main/java/shop/src/main/java/M.java").components
        = (Path.ofString "/w/src/main/java/shop").components
          ++ ([] ++ (["src", "main", "java"].map encodeUtf8 ++ ([] ++ [encodeUtf8 "M.java"]))).map
            .normal := by
      decide +kernel
    have hd : (Document.ofText "file:///w/src/main/java/shop/src/main/java/M.java" "").path?
        = some (.ofString "/w/src/main/java/shop/src/main/java/M.java") := by
      decide +kernel
    have hinside : Config.standard.RootAt
        (namesOf (.ofString "/w/src/main/java/shop/src/main/java/M.java")) 1 :=
      beginsRoot_drop_iff.1 (by decide +kernel)
    obtain ⟨hrecognised, -⟩ := Config.standard.recognised_iff_named_in_front
      ⟨[.ofString "/w/src/main/java/shop"]⟩ hd (by decide +kernel) hfront hparts hp hfile
    rw [Bool.eq_false_iff, ne_eq, hrecognised]
    rintro (hempty | hnamed)
    · cases hempty
    · exact absurd (hnamed 1 hinside) (by decide +kernel)
  · have hfront : (Path.ofString "/w/shop").components
        = .root :: (["w", "shop"].map encodeUtf8).map .normal := by decide +kernel
    have hp : (Path.ofString "/w/shop/src/main/java/src/main/java/M.java").components
        = (Path.ofString "/w/shop").components
          ++ ([] ++ (["src", "main", "java"].map encodeUtf8
            ++ (["src", "main", "java"].map encodeUtf8 ++ [encodeUtf8 "M.java"]))).map .normal := by
      decide +kernel
    have hoff : ∀ i, Config.standard.RootAt
        (namesOf (.ofString "/w/shop/src/main/java/src/main/java/M.java")) i → 2 ≤ i := by
      have hindex : Config.standard.sourceRootIndex?
          (namesOf (.ofString "/w/shop/src/main/java/src/main/java/M.java")) = some 2 := by
        decide +kernel
      exact fun i hi => (sourceRootIndex?_eq_some_iff.1 hindex).2 hi
    exact (Config.standard.recognised_iff_named_in_front ⟨[.ofString "/w/shop"]⟩ (by decide +kernel)
      (by decide +kernel) hfront hparts hp hfile).2 hoff

end Config

end StatementLens
