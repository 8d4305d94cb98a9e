import StatementLens.Proofs.Url.File
import StatementLens.Proofs.Url.RoundTrip

/-!
# Dots in the URLs of files

The URL of a file spells the components of its path, double dots included, while reading a URL resolves them. So the
URL of a file is read back from how it is written exactly if its path does not go up (`parse_ofPath?`), and a URL
that has been read is written like that of a file only if they are the same (`eq_of_toString_eq`).
-/

namespace StatementLens.Url

open StatementLens.Path StatementLens.Text

/-! ## Spellings of dots -/

theorem ascii_of_toLower {c : Char} (h : c.toLower.toNat < 0x80) : c.toNat < 0x80 := by
  by_cases hupper : c.toNat < 65 ∨ 90 < c.toNat
  · rwa [toLower_of_not_upper hupper] at h
  · omega

/-- What the characters of `%2e` are made from. -/
theorem of_toLower {c : Char} (h : c.toLower.toNat < 0x80) :
    (c.toLower = '%' → c = '%') ∧ (c.toLower = '2' → c = '2') ∧ (c.toLower = 'e' → c = 'e' ∨ c = 'E') :=
  forall_ascii c (ascii_of_toLower h) (by decide +kernel)

/-- The spellings of a dot. -/
theorem isDotSpelling_iff {cs : List Char} :
    isDotSpelling cs = true ↔ cs ∈ [['.'], ['%', '2', 'e'], ['%', '2', 'E']] := by
  constructor
  · intro h
    simp only [isDotSpelling, Bool.or_eq_true, decide_eq_true_eq] at h
    rcases h with rfl | h
    · decide
    · obtain ⟨a, rest, rfl, ha, hrest⟩ := List.map_eq_cons_iff.1 h
      obtain ⟨b, rest, rfl, hb, hrest⟩ := List.map_eq_cons_iff.1 hrest
      obtain ⟨c, rest, rfl, hc, hrest⟩ := List.map_eq_cons_iff.1 hrest
      have ha : a = '%' := (of_toLower (by rw [ha]; decide)).1 ha
      have hb : b = '2' := (of_toLower (by rw [hb]; decide)).2.1 hb
      have hc : c = 'e' ∨ c = 'E' := (of_toLower (by rw [hc]; decide)).2.2 hc
      rw [List.map_eq_nil_iff.1 hrest, ha, hb]
      rcases hc with rfl | rfl <;> decide
  · revert cs
    decide

/-- What is taken for a dot stands for it. -/
theorem percentDecode_of_isSingleDot {cs : List Char} (h : isSingleDot cs = true) : percentDecode cs = [dot] := by
  have hall : ∀ cs ∈ [['.'], ['%', '2', 'e'], ['%', '2', 'E']], percentDecode cs = [dot] := by decide +kernel
  exact hall cs (isDotSpelling_iff.1 h)

theorem percentDecode_of_isDoubleDot {cs : List Char} (h : isDoubleDot cs = true) :
    percentDecode cs = [dot, dot] := by
  have hall : ∀ front ∈ [['.'], ['%', '2', 'e'], ['%', '2', 'E']], ∀ back ∈ [['.'], ['%', '2', 'e'], ['%', '2', 'E']],
      percentDecode (front ++ back) = [dot, dot] := by decide +kernel
  simp only [isDoubleDot, Bool.or_eq_true, Bool.and_eq_true, isDotSpelling_iff] at h
  rcases h with ⟨hfront, hback⟩ | ⟨hfront, hback⟩
  · have hdots := hall _ hfront _ hback
    rwa [List.take_append_drop] at hdots
  · have hdots := hall _ hfront _ hback
    rwa [List.take_append_drop] at hdots

/-! ## Segments of files -/

/-- What neither a path nor a single segment of it can hold. -/
def plainSet (b : UInt8) : Bool := pathSet b || isOneOf ['/', '\\'] b

theorem isEncodeSet_plainSet : IsEncodeSet plainSet :=
  ⟨fun _ h => by simp [plainSet, pathSet, fragmentSet, h], by decide, by decide⟩

theorem encoded_segmentOf (c : Component) : Encoded plainSet (segmentOf c) := by
  apply encoded_percentEncodeBytes isEncodeSet_plainSet
  intro b hb
  simp only [plainSet, isOneOf, List.any_cons, List.any_nil, Bool.or_false, Bool.or_eq_true] at hb
  simp only [segmentSet, isOneOf, List.any_cons, List.any_nil, Bool.or_false, Bool.or_eq_true]
  tauto

theorem segmentOf_ne_nil {c : Component} (h : IsInner c) : segmentOf c ≠ [] := by
  intro hnil
  have hinner := h.1
  rw [← percentDecode_segmentOf c, hnil] at hinner
  exact absurd hinner (by simp [show percentDecode [] = [] by decide +kernel, innerComponent])

/-- A component that is no double dot is a segment. -/
theorem isSegment_segmentOf {c : Component} (h : IsInner c) (hparent : c ≠ .parent) :
    IsSegment .file (segmentOf c) := by
  have hencoded := encoded_segmentOf c
  refine ⟨hencoded.mono fun b hb => by simp [plainSet, hb], ?_, ?_, ?_⟩
  · intro d hd
    have hslash : d ≠ '/' := fun heq => hencoded.notMem (c := '/') (by decide) (heq ▸ hd)
    have hback : d ≠ '\\' := fun heq => hencoded.notMem (c := '\\') (by decide) (heq ▸ hd)
    simp [isSlash, hslash, hback]
  · cases hdot : isSingleDot (segmentOf c) with
    | false => rfl
    | true =>
      have hbytes := percentDecode_of_isSingleDot hdot
      rw [percentDecode_segmentOf] at hbytes
      have hinner := h.1
      rw [hbytes] at hinner
      cases hinner
  · cases hdots : isDoubleDot (segmentOf c) with
    | false => rfl
    | true =>
      have hbytes := percentDecode_of_isDoubleDot hdots
      rw [percentDecode_segmentOf] at hbytes
      have hinner := h.1
      rw [hbytes] at hinner
      cases hinner
      exact absurd rfl hparent

theorem encoded_filePath (cs : List Component) : Encoded pathSet (filePath cs) := by
  by_cases hne : cs = []
  · subst hne
    exact forall_mem_of_all (by decide)
  · rw [filePath_of_ne_nil hne]
    intro c hc
    obtain ⟨_, hsegment, hc⟩ := List.mem_flatMap.1 hc
    obtain ⟨component, -, rfl⟩ := List.mem_map.1 hsegment
    rcases List.mem_cons.1 hc with rfl | hc
    · decide
    · exact (encoded_segmentOf component).mono (fun b hb => by simp [plainSet, hb]) c hc

/-- The path of a file is in normal form exactly if it does not go up. -/
theorem isRooted_filePath_iff {cs : List Component} (h : ∀ c ∈ cs, IsInner c) :
    IsRooted .file (filePath cs) ↔ .parent ∉ cs := by
  by_cases hne : cs = []
  · subst hne
    exact ⟨fun _ => by simp, fun _ => isRooted_slash .file⟩
  constructor
  · rintro ⟨segments, hsegments, heq⟩ hmem
    -- segments are told apart by slashes, so those in normal form are the components
    have hsame : segments = cs.map segmentOf := by
      have hsplit := congrArg Url.segments heq
      rw [segments_filePath hne] at hsplit
      rw [hsplit, Url.segments, joinSegments, splitOn_drop_flatMap_cons hsegments.ne_nil]
      exact fun s hs hslash => (hsegments.segment s hs).ne_slash hslash rfl
    have hsegment := hsegments.segment (segmentOf .parent) (hsame ▸ List.mem_map_of_mem hmem)
    exact absurd hsegment.double (by decide)
  · intro hparent
    refine ⟨cs.map segmentOf, ⟨by simpa using hne, ?_, fun _ => .inr ?_⟩, filePath_of_ne_nil hne⟩
    · intro s hs
      obtain ⟨c, hc, rfl⟩ := List.mem_map.1 hs
      exact isSegment_segmentOf (h c hc) fun heq => hparent (heq ▸ hc)
    · obtain ⟨c, rest, rfl⟩ := List.exists_cons_of_ne_nil hne
      simpa using segmentOf_ne_nil (h c List.mem_cons_self)

/-- The URL of a file is read with its double dots resolved. -/
theorem parse_ofComponents (cs : List Component) :
    parse (ofComponents cs).toString
      = .ok ⟨"file".toList, some [], [], normalPath .file ((filePath cs).drop 1), none, none⟩ := by
  have hencoded := encoded_filePath cs
  have hvisible : Visible ('/' :: '/' :: filePath cs) :=
    visible_cons.2 ⟨by decide, visible_cons.2 ⟨by decide, hencoded.visible isEncodeSet_pathSet (by decide)⟩⟩
  have hspan : (filePath cs).span (fun c => !endsPath c) = (filePath cs, []) := by
    have hsplit := span_append (not_endsPath_of_encoded hencoded) (stopsAt_nil _)
    rwa [List.append_nil] at hsplit
  have htext : (ofComponents cs).toString.toList = "file".toList ++ ':' :: '/' :: '/' :: filePath cs := by
    rw [Url.toString, String.toList_ofList, toChars_eq]
    simp [ofComponents, tail]
  obtain ⟨more, hmore⟩ : ∃ more, filePath cs = '/' :: more := List.head?_eq_some_iff.1 (head?_filePath cs)
  -- the host is empty, as the path begins with a slash
  have hread : readFile ('/' :: '/' :: filePath cs)
      = .ok (readAfterAuthority .file "file".toList [] [] (filePath cs)) := by
    rw [hmore]
    rfl
  rw [parse, htext, parseChars_file hvisible, hread, readAfterAuthority, hspan, hmore]
  rfl

/-- The URL of a file is read back exactly if its path has no double dots. -/
theorem parse_ofPath? {p : Path} {u : Url} (h : ofPath? p = some u) :
    parse u.toString = .ok { u with path := normalPath .file (u.path.drop 1) }
      ∧ (normalPath .file (u.path.drop 1) = u.path ↔ .parent ∉ p.components) := by
  obtain ⟨cs, hcs, rfl⟩ := exists_of_ofPath? h
  have hiff := isRooted_filePath_iff fun c hc => isInner_of_components hcs hc
  have hparent : .parent ∉ p.components ↔ .parent ∉ cs := by simp [hcs]
  refine ⟨parse_ofComponents cs, ?_⟩
  rw [hparent, ← hiff]
  constructor
  · intro heq
    have hrooted := isRooted_normalPath .file ((filePath cs).drop 1)
    rwa [show normalPath .file ((filePath cs).drop 1) = filePath cs from heq] at hrooted
  · intro hrooted
    obtain ⟨more, hmore, hnormal⟩ := hrooted.eq_cons
    change normalPath .file ((filePath cs).drop 1) = filePath cs
    rw [hmore] at hnormal ⊢
    exact hnormal

/-- A URL that is read and is written like the URL of a file is that URL. -/
theorem eq_of_toString_eq {t : String} {u v : Url} {p : Path} (hu : parse t = .ok u) (hv : ofPath? p = some v)
    (h : u.toString = v.toString) : u = v := by
  obtain ⟨cs, -, rfl⟩ := exists_of_ofPath? hv
  have hread := parse_of_isNormal (isNormal_of_parse hu)
  rw [h, parse_ofComponents] at hread
  cases hread
  have hchars := congrArg String.toList h
  simp only [Url.toString, String.toList_ofList, toChars_eq, ofComponents, tail, Option.elim, List.append_nil,
    List.append_cancel_left_eq, List.cons.injEq, true_and] at hchars
  rw [hchars, ofComponents]

end StatementLens.Url
