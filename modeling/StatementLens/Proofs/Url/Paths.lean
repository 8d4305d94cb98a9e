import StatementLens.Proofs.Url.Encoded
import StatementLens.Url.Basic

/-!
# Paths in normal form

A path in normal form is a sequence of segments, each behind a slash, that are encoded and are no dots. Reading a
path gives a path in normal form (`isPath_normalPath`), and a path in normal form is read as it is
(`normalPath_eq_self`).
-/

namespace StatementLens.Url

open Text

/-- Whether a segment can stand in a path in normal form. -/
structure IsSegment (kind : SchemeKind) (segment : List Char) : Prop where
  encoded : Encoded pathSet segment
  slash : ∀ c ∈ segment, isSlash kind c = false
  single : isSingleDot segment = false
  double : isDoubleDot segment = false

theorem IsSegment.ne_slash {kind : SchemeKind} {segment : List Char} (h : IsSegment kind segment) {c : Char}
    (hc : c ∈ segment) : c ≠ '/' := by
  rintro rfl
  have hslash := h.slash '/' hc
  simp [isSlash] at hslash

theorem isSegment_nil (kind : SchemeKind) : IsSegment kind [] :=
  ⟨encoded_nil, by simp, by decide, by decide⟩

/-- Whether segments with slashes in front of them are a path in normal form. The path of a file begins with
one slash only. -/
structure IsPath (kind : SchemeKind) (segments : List (List Char)) : Prop where
  ne_nil : segments ≠ []
  segment : ∀ segment ∈ segments, IsSegment kind segment
  file : kind = .file → segments = [[]] ∨ segments.head? ≠ some []

/-- The path of segments. -/
def joinSegments (segments : List (List Char)) : List Char := segments.flatMap ('/' :: ·)

/-! ## Reading -/

theorem isSlash_slash (kind : SchemeKind) : isSlash kind '/' = true := by simp [isSlash]

/-- Encoding brings no slashes into a segment. -/
theorem isSlash_percentEncode {kind : SchemeKind} {piece : List Char} (h : ∀ c ∈ piece, isSlash kind c = false) :
    ∀ c ∈ percentEncode pathSet piece, isSlash kind c = false :=
  forall_mem_percentEncode isEncodeSet_pathSet (by cases kind <;> decide) (by cases kind <;> decide) h

/-- Segments that are no dots are added. -/
theorem addSegment_of_isSegment {kind : SchemeKind} {segment : List Char} (h : IsSegment kind segment)
    (done : List (List Char)) (isLast : Bool) : addSegment kind done segment isLast = segment :: done := by
  unfold addSegment
  rw [if_neg (by simp [h.double]), if_neg (by simp [h.single])]

theorem resolveSegments_eq {kind : SchemeKind} {segments : List (List Char)}
    (h : ∀ segment ∈ segments, IsSegment kind segment) (done : List (List Char)) :
    resolveSegments kind done segments = segments.reverse ++ done := by
  induction segments generalizing done with
  | nil => simp [resolveSegments]
  | cons segment rest ih =>
    have hsegment := h segment List.mem_cons_self
    cases rest with
    | nil => simp [resolveSegments, addSegment_of_isSegment hsegment]
    | cons next rest =>
      rw [resolveSegments, addSegment_of_isSegment hsegment, ih fun s hs => h s (List.mem_cons_of_mem segment hs)]
      · simp
      · simp

theorem forall_mem_shorten {kind : SchemeKind} {done : List (List Char)}
    (h : ∀ s ∈ done, IsSegment kind s) : ∀ s ∈ shorten kind done, IsSegment kind s := by
  unfold shorten
  split
  · simp
  · split
    · exact h
    · simp
  · exact fun s hs => h s (List.mem_cons_of_mem _ hs)

/-- Encoded segments without slashes are added so that all are in normal form. -/
theorem forall_mem_addSegment {kind : SchemeKind} {done : List (List Char)} {segment : List Char}
    (hdone : ∀ s ∈ done, IsSegment kind s) (hencoded : Encoded pathSet segment)
    (hslash : ∀ c ∈ segment, isSlash kind c = false) (isLast : Bool) :
    ∀ s ∈ addSegment kind done segment isLast, IsSegment kind s := by
  have hempty {done : List (List Char)} (h : ∀ s ∈ done, IsSegment kind s) :
      ∀ s ∈ (if isLast then [] :: done else done), IsSegment kind s := by
    split
    · exact List.forall_mem_cons.2 ⟨isSegment_nil kind, h⟩
    · exact h
  unfold addSegment
  split
  · exact hempty (forall_mem_shorten hdone)
  next hdouble =>
  split
  · exact hempty hdone
  next hsingle =>
  exact List.forall_mem_cons.2 ⟨⟨hencoded, hslash, by simpa using hsingle, by simpa using hdouble⟩, hdone⟩

theorem forall_mem_resolveSegments {kind : SchemeKind} {segments : List (List Char)}
    (h : ∀ s ∈ segments, Encoded pathSet s ∧ ∀ c ∈ s, isSlash kind c = false) {done : List (List Char)}
    (hdone : ∀ s ∈ done, IsSegment kind s) : ∀ s ∈ resolveSegments kind done segments, IsSegment kind s := by
  induction segments generalizing done with
  | nil => simpa [resolveSegments] using hdone
  | cons segment rest ih =>
    obtain ⟨hencoded, hslash⟩ := h segment List.mem_cons_self
    cases rest with
    | nil => exact forall_mem_addSegment hdone hencoded hslash true
    | cons next rest =>
      rw [resolveSegments]
      · exact ih (fun s hs => h s (List.mem_cons_of_mem segment hs))
          (forall_mem_addSegment hdone hencoded hslash false)
      · simp

/-- The last segment leaves something, if only an empty segment. -/
theorem resolveSegments_ne_nil {kind : SchemeKind} {segments : List (List Char)} (h : segments ≠ [])
    (done : List (List Char)) : resolveSegments kind done segments ≠ [] := by
  induction segments generalizing done with
  | nil => exact absurd rfl h
  | cons segment rest ih =>
    cases rest with
    | nil =>
      simp only [resolveSegments, addSegment]
      split
      · simp
      · split <;> simp
    | cons next rest =>
      rw [resolveSegments]
      · exact ih (List.cons_ne_nil next rest) _
      · simp

/-- Empty segments at the front of the path of a file are dropped. -/
theorem exists_dropWhile_joinSegments {segments : List (List Char)}
    (h : ∀ s ∈ segments, IsSegment .file s) :
    ∃ kept, IsPath .file kept ∧ '/' :: (joinSegments segments).dropWhile (· = '/') = joinSegments kept := by
  induction segments with
  | nil =>
    exact ⟨[[]], ⟨by simp, fun s hs => List.mem_singleton.1 hs ▸ isSegment_nil .file, fun _ => .inl rfl⟩, rfl⟩
  | cons segment rest ih =>
    cases segment with
    | nil => exact ih fun s hs => h s (List.mem_cons_of_mem [] hs)
    | cons c segment =>
      have hc := (h _ List.mem_cons_self).ne_slash List.mem_cons_self
      refine ⟨(c :: segment) :: rest, ⟨by simp, h, fun _ => .inr (by simp)⟩, ?_⟩
      simp [joinSegments, List.flatMap_cons, hc]

/-- Paths are read into normal form. -/
theorem isPath_normalPath (kind : SchemeKind) (cs : List Char) :
    ∃ segments, IsPath kind segments ∧ normalPath kind cs = joinSegments segments := by
  have hpieces : ∀ s ∈ (splitOn (isSlash kind) cs).map (percentEncode pathSet),
      Encoded pathSet s ∧ ∀ c ∈ s, isSlash kind c = false := by
    intro s hs
    obtain ⟨piece, hpiece, rfl⟩ := List.mem_map.1 hs
    exact ⟨encoded_percentEncode isEncodeSet_pathSet piece,
      isSlash_percentEncode fun c hc => (of_mem_splitOn hpiece hc).2⟩
  have hne : (splitOn (isSlash kind) cs).map (percentEncode pathSet) ≠ [] := by
    simp [splitOn_eq_splitOnP]
  unfold normalPath
  dsimp only
  -- only these two facts about the pieces are used from here on
  generalize (splitOn (isSlash kind) cs).map (percentEncode pathSet) = pieces at hpieces hne
  have hall : ∀ s ∈ (resolveSegments kind [] pieces).reverse, IsSegment kind s := fun s hs =>
    forall_mem_resolveSegments hpieces (by simp) s (List.mem_reverse.1 hs)
  split
  · next hkind =>
    subst hkind
    exact exists_dropWhile_joinSegments hall
  · next hkind =>
    exact ⟨_, ⟨by simpa using resolveSegments_ne_nil hne [], hall, fun h => absurd h hkind⟩, rfl⟩

/-! ## Reading again -/

section

variable {kind : SchemeKind} {segments : List (List Char)}

theorem encoded_joinSegments (h : IsPath kind segments) : Encoded pathSet (joinSegments segments) := by
  intro c hc
  obtain ⟨segment, hsegment, hc⟩ := List.mem_flatMap.1 hc
  rcases List.mem_cons.1 hc with rfl | hc
  · decide
  · exact (h.segment segment hsegment).encoded c hc

theorem joinSegments_eq_cons (h : IsPath kind segments) :
    joinSegments segments = '/' :: (joinSegments segments).drop 1 := by
  obtain ⟨segment, rest, rfl⟩ := List.exists_cons_of_ne_nil h.ne_nil
  rfl

theorem dropWhile_joinSegments (h : IsPath .file segments) :
    (joinSegments segments).dropWhile (· = '/') = (joinSegments segments).drop 1 := by
  obtain ⟨segment, rest, rfl⟩ := List.exists_cons_of_ne_nil h.ne_nil
  cases segment with
  | nil =>
    rcases h.file rfl with hroot | hfirst
    · cases hroot
      rfl
    · exact absurd rfl hfirst
  | cons c segment =>
    have hc := (h.segment _ List.mem_cons_self).ne_slash List.mem_cons_self
    simp [joinSegments, List.flatMap_cons, hc]

theorem splitOn_joinSegments (h : IsPath kind segments) :
    splitOn (isSlash kind) ((joinSegments segments).drop 1) = segments :=
  splitOn_drop_flatMap (isSlash_slash kind) h.ne_nil fun s hs => (h.segment s hs).slash

theorem map_percentEncode_segments (h : IsPath kind segments) : segments.map (percentEncode pathSet) = segments :=
  (List.map_congr_left fun s hs => percentEncode_eq_self (h.segment s hs).encoded).trans (List.map_id segments)

/-- A path in normal form is read as it is. -/
theorem normalPath_eq_self (h : IsPath kind segments) :
    normalPath kind ((joinSegments segments).drop 1) = joinSegments segments := by
  have hjoin : segments.flatMap (fun segment => '/' :: segment) = joinSegments segments := rfl
  unfold normalPath
  rw [splitOn_joinSegments h, map_percentEncode_segments h]
  simp only [resolveSegments_eq h.segment, List.append_nil, List.reverse_reverse, hjoin]
  split
  · next hkind =>
    subst hkind
    rw [dropWhile_joinSegments h, ← joinSegments_eq_cons h]
  · rfl

/-- A dot in front of a path is dropped. -/
theorem normalPath_dot (hkind : kind ≠ .file) (h : IsPath kind segments) :
    normalPath kind ('.' :: joinSegments segments) = joinSegments segments := by
  have hsplit : splitOn (isSlash kind) ((joinSegments (['.'] :: segments)).drop 1) = ['.'] :: segments := by
    apply splitOn_drop_flatMap (isSlash_slash kind) (List.cons_ne_nil _ _)
    exact List.forall_mem_cons.2 ⟨by simp [isSlash], fun s hs => (h.segment s hs).slash⟩
  have hencode : (['.'] :: segments).map (percentEncode pathSet) = ['.'] :: segments := by
    rw [List.map_cons, percentEncode_eq_self (forall_mem_of_all (by decide)), map_percentEncode_segments h]
  have hresolve : resolveSegments kind [] (['.'] :: segments) = segments.reverse := by
    obtain ⟨next, rest, hsegments⟩ := List.exists_cons_of_ne_nil h.ne_nil
    have hall := h.segment
    rw [hsegments] at hall ⊢
    rw [resolveSegments, show addSegment kind [] ['.'] false = [] by rfl, resolveSegments_eq hall, List.append_nil]
    simp
  have hform : '.' :: joinSegments segments = (joinSegments (['.'] :: segments)).drop 1 := rfl
  unfold normalPath
  rw [hform, hsplit, hencode]
  simp only [hresolve, List.reverse_reverse]
  exact if_neg hkind

end

end StatementLens.Url
