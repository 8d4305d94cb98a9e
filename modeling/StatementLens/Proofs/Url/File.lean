import StatementLens.Proofs.Url.Percent
import StatementLens.Url.Basic

/-!
# URLs of files

A path and the URL made from it name the same components. A URL that names a file is the one made
from its path if and only if it is written plainly: each segment is a name, and just those
characters of it are encoded that have to be.
-/

namespace StatementLens.Path

/-! ## Components -/

/-- A piece is a component if it is spelled like one. -/
theorem innerComponent_eq_some_iff {piece : FileName} {c : Component} :
    innerComponent piece = some c
      ↔ Component.bytes c = piece ∧ innerComponent (Component.bytes c) = some c := by
  constructor
  · intro h
    have hbytes : Component.bytes c = piece := by
      unfold innerComponent at h
      split at h
      · cases h
      · split at h
        · cases h
          simp [Component.bytes, *]
        · cases h
          rfl
    exact ⟨hbytes, hbytes ▸ h⟩
  · rintro ⟨rfl, h⟩
    exact h

/-- Empty pieces and single dots are left out. -/
theorem innerComponent_eq_none_iff {piece : FileName} :
    innerComponent piece = none ↔ piece = [] ∨ piece = [dot] := by
  unfold innerComponent
  split <;> simp_all
  split <;> simp

/-- The components of an absolute path after the root. -/
def innerComponents (bytes : List UInt8) : List Component := (pieces bytes).filterMap innerComponent

/-- An absolute path has the root in front of its components. -/
theorem components_of_isAbsolute {p : Path} (h : p.isAbsolute = true) :
    p.components = .root :: innerComponents p.bytes := by
  simp [components, h, innerComponents]

/-- Whether a component can stand inside a path: it is read from its own bytes, which hold no slash.
-/
def IsInner (c : Component) : Prop :=
  innerComponent (Component.bytes c) = some c ∧ slash ∉ Component.bytes c

/-- All components of a piece of text are inner ones. -/
theorem of_mem_innerComponents {bytes : List UInt8} {c : Component} (h : c ∈ innerComponents bytes) :
    IsInner c := by
  obtain ⟨piece, hpiece, hc⟩ := List.mem_filterMap.1 h
  obtain ⟨rfl, hname⟩ := innerComponent_eq_some_iff.1 hc
  rw [pieces, Text.splitBytes_eq_splitOn] at hpiece
  exact ⟨hname, Text.notMem_of_mem_splitOn hpiece⟩

theorem innerComponents_eq (bytes : List UInt8) :
    innerComponents bytes = (bytes.splitOn slash).filterMap innerComponent := by
  rw [innerComponents, pieces, Text.splitBytes_eq_splitOn]

/-- A slash at the end makes no difference. -/
theorem innerComponents_append_slash (bytes : List UInt8) : innerComponents (bytes ++ [slash]) = innerComponents bytes := by
  rw [innerComponents_eq, List.splitOn_append_cons_self, List.splitOn_nil, List.filterMap_append, ← innerComponents_eq]
  simp [innerComponent]

/-- Pieces behind slashes contribute their components one after the other. -/
theorem innerComponents_flatMap_slash (names : List FileName) :
    innerComponents (names.flatMap (slash :: ·)) = names.flatMap innerComponents := by
  rw [innerComponents_eq, Text.splitOn_flatMap_cons,
    List.filterMap_cons_none (innerComponent_eq_none_iff.2 (.inl rfl)), List.filterMap_flatMap]
  simp only [← innerComponents_eq]

/-- A name without slashes is its only component. -/
theorem innerComponents_eq_singleton {c : Component} (h : IsInner c) :
    innerComponents (Component.bytes c) = [c] := by
  simp [innerComponents_eq, List.splitOn_eq_singleton h.2, h.1]

end StatementLens.Path

namespace StatementLens.Url

open StatementLens.Path

/-! ## Segments -/

/-- A name is read back from its segment. -/
theorem percentDecode_segment (name : FileName) :
    percentDecode (percentEncodeBytes segmentSet name) = name := by
  apply percentDecode_percentEncodeBytes
  · intro b hb
    have hcontrol : isControl b = true := by
      have : (0x7F : UInt8) ≤ b := UInt8.le_trans (by decide) hb
      simp [isControl, this]
    simp [segmentSet, pathSet, fragmentSet, hcontrol]
  · decide

/-- A name holds none of the characters that divide a URL once it is encoded. -/
theorem notMem_segment {c : Char} (h : c ∈ ['/', '?', '#']) (name : FileName) :
    c ∉ percentEncodeBytes segmentSet name := by
  apply notMem_percentEncodeBytes
  · rintro b rfl
    have hb : b.toNat = 0x2F ∨ b.toNat = 0x3F ∨ b.toNat = 0x23 := by
      simp only [List.mem_cons, List.not_mem_nil, or_false] at h
      rcases h with h | h | h <;> have := congrArg Char.toNat h <;>
        rw [toNat_ofNat_byte] at this <;> simp [this]
    rcases hb with hb | hb | hb <;> simp [segmentSet, pathSet, isOneOf, hb]
  · rintro rfl
    simp at h
  · rintro n hn rfl
    revert n
    decide

/-- The segments of the path of a URL. -/
def segments (path : List Char) : List (List Char) := (path.drop 1).splitOn '/'

/-- The components that the path of a URL names. -/
def named (path : List Char) : List Component :=
  (segments path).flatMap fun segment => innerComponents (percentDecode segment)

/-- A component as a segment of the URL of a file. -/
def segmentOf (c : Component) : List Char := percentEncodeBytes segmentSet (Component.bytes c)

/-- The path of the URL of a file, given by its components after the root. -/
def filePath (cs : List Component) : List Char :=
  match cs with
  | [] => ['/']
  | cs => cs.flatMap fun c => '/' :: segmentOf c

/-- The URL of a file, given by its components after the root. -/
def ofComponents (cs : List Component) : Url :=
  ⟨"file".toList, some [], [], filePath cs, none, none⟩

theorem segments_ne_nil (path : List Char) : segments path ≠ [] := List.splitOn_ne_nil _ _

/-- So is a component. -/
theorem percentDecode_segmentOf (c : Component) :
    percentDecode (segmentOf c) = Component.bytes c :=
  percentDecode_segment _

/-- A path that is not empty has a slash in front of each segment. -/
theorem filePath_of_ne_nil {cs : List Component} (h : cs ≠ []) :
    filePath cs = (cs.map segmentOf).flatMap ('/' :: ·) := by
  obtain ⟨c, rest, rfl⟩ := List.exists_cons_of_ne_nil h
  rw [List.flatMap_map]
  rfl

theorem head?_filePath (cs : List Component) : (filePath cs).head? = some '/' := by
  cases cs <;> simp [filePath]

/-- At the slashes the path of a URL comes apart into segments. -/
theorem segments_filePath {cs : List Component} (h : cs ≠ []) :
    segments (filePath cs) = cs.map segmentOf := by
  rw [segments, filePath_of_ne_nil h]
  apply Text.splitOn_drop_flatMap_cons
  · simpa using h
  · rintro _ hsegment
    obtain ⟨c, -, rfl⟩ := List.mem_map.1 hsegment
    exact notMem_segment (by decide) _

/-- The path of the URL of a file names the components that it was made from. -/
theorem named_filePath {cs : List Component} (h : ∀ c ∈ cs, IsInner c) :
    named (filePath cs) = cs := by
  by_cases hne : cs = []
  · subst hne
    decide +kernel
  · have hsingle : ∀ c ∈ cs, innerComponents (percentDecode (segmentOf c)) = [c] := by
      intro c hc
      rw [percentDecode_segmentOf]
      exact innerComponents_eq_singleton (h c hc)
    rw [named, segments_filePath hne, List.flatMap_map, List.flatMap_def,
      List.map_congr_left hsingle, ← List.flatMap_def, List.flatMap_singleton']

/-! ## From paths to URLs -/

/-- A path with the root as its first component is absolute. -/
theorem isAbsolute_of_components {p : Path} {cs : List Component}
    (h : p.components = .root :: cs) : p.isAbsolute = true := by
  cases habs : p.isAbsolute with
  | true => rfl
  | false =>
    -- no piece is read as a root
    have hroot : .root ∉ innerComponents p.bytes := fun hmem =>
      absurd (of_mem_innerComponents hmem).1 (by decide)
    simp only [components, habs, Bool.false_eq_true, if_false] at h
    split at h
    · cases h
    · have hmem : .root ∈ innerComponents p.bytes := by
        rw [innerComponents, h]
        exact List.mem_cons_self ..
      exact absurd hmem hroot

theorem isInner_of_components {p : Path} {cs : List Component} {c : Component}
    (h : p.components = .root :: cs) (hc : c ∈ cs) : IsInner c := by
  rw [components_of_isAbsolute (isAbsolute_of_components h), List.cons.injEq] at h
  exact of_mem_innerComponents (h.2 ▸ hc)

/-- The URL of a path depends on its components only. -/
theorem ofPath?_of_components {p : Path} {cs : List Component}
    (h : p.components = .root :: cs) : ofPath? p = some (ofComponents cs) := by
  have habs := isAbsolute_of_components h
  cases cs <;> simp [ofPath?, habs, h, ofComponents, filePath, segmentOf]

/-- Only absolute paths have URLs. -/
theorem exists_of_ofPath? {p : Path} {u : Url} (h : ofPath? p = some u) :
    ∃ cs, p.components = .root :: cs ∧ u = ofComponents cs := by
  by_cases habs : p.isAbsolute = true
  · have hc := components_of_isAbsolute habs
    rw [ofPath?_of_components hc] at h
    exact ⟨_, hc, (Option.some.inj h).symm⟩
  · simp [ofPath?, habs] at h

/-! ## From URLs to paths -/

/-- The bytes that the path of a URL writes. -/
private def decodedPath (path : List Char) : List UInt8 :=
  (segments path).flatMap fun segment => slash :: percentDecode segment

/-- The path of a URL is its decoded path, perhaps with a slash at the end. -/
private theorem toPath?_cases (u : Url) :
    u.toPath? = none ∨ u.toPath? = some ⟨decodedPath u.path⟩
      ∨ u.toPath? = some ⟨decodedPath u.path ++ [slash]⟩ := by
  unfold toPath?
  rw [Text.splitOn_eq_splitOn]
  split
  · exact .inl rfl
  · simp only [decodedPath, segments]
    split
    · split
      · exact .inr (.inr rfl)
      · exact .inr (.inl rfl)
    · exact .inr (.inl rfl)

/-- A URL without a host whose path starts with a slash names a file. -/
theorem toPath?_isSome {u : Url} (hpath : u.path.head? = some '/') (hhost : u.host = []) :
    u.toPath?.isSome = true := by
  unfold toPath?
  simp only [hpath, hhost]
  grind

/-- The components of this path are those that are named in the URL. -/
theorem components_of_toPath? {u : Url} {q : Path} (h : u.toPath? = some q) :
    q.components = .root :: named u.path := by
  obtain ⟨first, rest, hs⟩ := List.exists_cons_of_ne_nil (segments_ne_nil u.path)
  have hdecoded : innerComponents (decodedPath u.path) = named u.path := by
    have := innerComponents_flatMap_slash ((segments u.path).map percentDecode)
    simpa [decodedPath, named, List.flatMap_map] using this
  have hslash : (decodedPath u.path).head? = some slash := by simp [decodedPath, hs]
  rcases toPath?_cases u with hnone | hsome | hsome
  · rw [hnone] at h
    cases h
  · obtain rfl := Option.some.inj (hsome.symm.trans h)
    rw [components_of_isAbsolute (by simp [isAbsolute, hslash]), hdecoded]
  · obtain rfl := Option.some.inj (hsome.symm.trans h)
    rw [components_of_isAbsolute (by simp [isAbsolute, hslash]), innerComponents_append_slash,
      hdecoded]

/-- The URL made from a path names a path with the same components. -/
theorem toPath?_of_ofPath? {p : Path} {u : Url} (h : ofPath? p = some u) :
    ∃ q, u.toPath? = some q ∧ q.components = p.components := by
  obtain ⟨cs, hp, rfl⟩ := exists_of_ofPath? h
  obtain ⟨q, hq⟩ := Option.isSome_iff_exists.1
    (toPath?_isSome (u := ofComponents cs) (head?_filePath cs) rfl)
  refine ⟨q, hq, ?_⟩
  rw [components_of_toPath? hq, hp, ofComponents, named_filePath fun c => isInner_of_components hp]

/-- Whether a segment is a file name with just the characters encoded that have to be. -/
def isPlainSegment (segment : List Char) : Bool :=
  let name := percentDecode segment
  percentEncodeBytes segmentSet name = segment && (innerComponent name).isSome
    && !name.contains slash

/-- Whether a path is made of plain segments. -/
def isPlainPath (path : List Char) : Bool :=
  path = ['/'] || (path.head? = some '/' && (segments path).all isPlainSegment)

/-- Whether a URL is written the way the URLs of files are: with no host, query or fragment, and
with a plain path. -/
def isPlain (u : Url) : Bool :=
  u.scheme = "file".toList && u.authority = some [] && u.host = [] && u.query = none
    && u.fragment = none && isPlainPath u.path

/-- The segment of a component is plain. -/
theorem isPlainSegment_segmentOf {c : Component} (h : IsInner c) :
    isPlainSegment (segmentOf c) = true := by
  have hencode : percentEncodeBytes segmentSet (Component.bytes c) = segmentOf c := rfl
  simp [isPlainSegment, percentDecode_segmentOf, hencode, h.1, h.2]

/-- A plain segment writes one component, and is how that component is written. -/
theorem exists_of_isPlainSegment {segment : List Char} (h : isPlainSegment segment = true) :
    ∃ c, innerComponents (percentDecode segment) = [c] ∧ segmentOf c = segment := by
  simp only [isPlainSegment, Bool.and_eq_true, decide_eq_true_eq, Bool.not_eq_true'] at h
  obtain ⟨⟨hencode, hname⟩, hslash⟩ := h
  obtain ⟨c, hc⟩ := Option.isSome_iff_exists.1 hname
  obtain ⟨hbytes, hinner⟩ := innerComponent_eq_some_iff.1 hc
  refine ⟨c, ?_, ?_⟩
  · rw [← hbytes]
    exact innerComponents_eq_singleton ⟨hinner, by simpa [hbytes] using hslash⟩
  · rw [segmentOf, hbytes, hencode]

/-- Plain segments are read back from what they name. -/
theorem map_segmentOf_of_isPlainSegment {segments : List (List Char)}
    (h : ∀ s ∈ segments, isPlainSegment s = true) :
    (segments.flatMap fun s => innerComponents (percentDecode s)).map segmentOf = segments := by
  induction segments with
  | nil => rfl
  | cons s rest ih =>
    obtain ⟨c, hc, hs⟩ := exists_of_isPlainSegment (h s (List.mem_cons_self ..))
    have hrest := ih fun s hs => h s (List.mem_cons_of_mem _ hs)
    rw [List.flatMap_cons, List.map_append, hrest, hc, List.map_singleton, hs, List.singleton_append]

/-- The path of the URL of a file is plain. -/
theorem isPlainPath_filePath {cs : List Component} (h : ∀ c ∈ cs, IsInner c) :
    isPlainPath (filePath cs) = true := by
  by_cases hne : cs = []
  · subst hne
    rfl
  · have hsegments : (segments (filePath cs)).all isPlainSegment = true := by
      rw [segments_filePath hne, List.all_map, List.all_eq_true]
      exact fun c hc => isPlainSegment_segmentOf (h c hc)
    simp only [isPlainPath, hsegments, head?_filePath, decide_true, Bool.and_self, Bool.or_true]

/-- A plain path is the one made from the components that it names. -/
theorem filePath_named {path : List Char} (h : isPlainPath path = true) :
    filePath (named path) = path := by
  simp only [isPlainPath, Bool.or_eq_true, Bool.and_eq_true, decide_eq_true_eq,
    List.all_eq_true] at h
  rcases h with rfl | ⟨hhead, hplain⟩
  · decide +kernel
  · have hmap : (named path).map segmentOf = segments path :=
      map_segmentOf_of_isPlainSegment hplain
    have hne : named path ≠ [] := by
      intro hnil
      rw [hnil] at hmap
      exact segments_ne_nil path hmap.symm
    obtain ⟨rest, rfl⟩ := List.head?_eq_some_iff.1 hhead
    rw [filePath_of_ne_nil hne, hmap, segments, List.drop_one, List.tail_cons,
      Text.flatMap_cons_splitOn]

/-- The URL made from a path is a given URL that names it if and only if that one is plain. -/
theorem ofPath?_eq_some_iff {u : Url} {p q : Path} (h : u.toPath? = some q)
    (hp : q.components = p.components) : ofPath? p = some u ↔ u.isPlain = true := by
  have hcomponents := hp ▸ components_of_toPath? h
  rw [ofPath?_of_components hcomponents, Option.some.injEq]
  constructor
  · intro hu
    have hplain : isPlainPath (filePath (named u.path)) = true :=
      isPlainPath_filePath fun c => isInner_of_components hcomponents
    rw [← hu]
    simp [isPlain, ofComponents, hplain]
  · intro hplain
    simp only [isPlain, Bool.and_eq_true, decide_eq_true_eq] at hplain
    obtain ⟨⟨⟨⟨⟨hscheme, hauthority⟩, hhost⟩, hquery⟩, hfragment⟩, hpath⟩ := hplain
    rw [ofComponents, filePath_named hpath]
    cases u
    simp_all only

end StatementLens.Url
