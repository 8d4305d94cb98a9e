import StatementLens.Proofs.Url.Authorities
import StatementLens.Proofs.Url.Parts
import StatementLens.Proofs.Url.Paths

/-!
# URLs in normal form

What is read is a URL in normal form (`isNormal_of_parse`), and a URL in normal form is read from how it is written
(`parse_of_isNormal`). So a URL that has been read is read back from how it is written.
-/

namespace StatementLens.Url

open Text

/-! ## Paths behind an authority -/

/-- Whether a path is in normal form and begins with a slash. -/
def IsRooted (kind : SchemeKind) (path : List Char) : Prop :=
  ∃ segments, IsPath kind segments ∧ path = joinSegments segments

/-- A rooted path is encoded. -/
theorem IsRooted.encoded {kind : SchemeKind} {path : List Char} (h : IsRooted kind path) : Encoded pathSet path := by
  obtain ⟨segments, hsegments, rfl⟩ := h
  exact encoded_joinSegments hsegments

/-- A rooted path is the normal form of what follows its slash. -/
theorem IsRooted.eq_cons {kind : SchemeKind} {path : List Char} (h : IsRooted kind path) :
    ∃ more, path = '/' :: more ∧ normalPath kind more = path := by
  obtain ⟨segments, hsegments, rfl⟩ := h
  exact ⟨_, joinSegments_eq_cons hsegments, normalPath_eq_self hsegments⟩

/-- Normal paths are rooted. -/
theorem isRooted_normalPath (kind : SchemeKind) (cs : List Char) : IsRooted kind (normalPath kind cs) :=
  isPath_normalPath kind cs

theorem isRooted_slash (kind : SchemeKind) : IsRooted kind ['/'] :=
  ⟨[[]], ⟨by simp, fun s hs => List.mem_singleton.1 hs ▸ isSegment_nil kind, fun _ => .inl rfl⟩, rfl⟩

/-- Whether a path behind an authority is in normal form. -/
def IsBehind (kind : SchemeKind) (path : List Char) : Prop := kind = .other ∧ path = [] ∨ IsRooted kind path

/-- A path behind an authority is encoded. -/
theorem IsBehind.encoded {kind : SchemeKind} {path : List Char} (h : IsBehind kind path) : Encoded pathSet path := by
  rcases h with ⟨-, rfl⟩ | h
  · exact encoded_nil
  · exact h.encoded

/-- No mark of a query or of a fragment stands in an encoded path. -/
theorem not_endsPath_of_encoded {path : List Char} (h : Encoded pathSet path) : ∀ c ∈ path, (!endsPath c) = true := by
  intro c hc
  obtain ⟨hascii, hset⟩ := h c hc
  clear hc
  revert hset
  exact forall_ascii c hascii (by decide +kernel)

/-- What follows an authority is read back. -/
theorem readAfterAuthority_eq {kind : SchemeKind} {path : List Char} {query fragment : Option (List Char)}
    (hpath : IsBehind kind path) (htail : IsTail kind query fragment) (scheme authority host : List Char) :
    readAfterAuthority kind scheme authority host (path ++ tail query fragment)
      = ⟨scheme, some authority, host, path, query, fragment⟩ := by
  unfold readAfterAuthority
  rw [span_append (not_endsPath_of_encoded hpath.encoded) (stopsAt_tail query fragment)]
  simp only [readQueryAndFragment_tail htail]
  rcases hpath with ⟨hkind, rfl⟩ | hpath
  · simp [hkind]
  · obtain ⟨more, rfl, hmore⟩ := hpath.eq_cons
    simp [isSlash_slash, hmore]

/-- What is read there is a normal path with query and fragment. -/
theorem exists_readAfterAuthority (kind : SchemeKind) (scheme authority host cs : List Char) :
    ∃ path query fragment, IsBehind kind path ∧ IsTail kind query fragment ∧
      readAfterAuthority kind scheme authority host cs = ⟨scheme, some authority, host, path, query, fragment⟩ := by
  unfold readAfterAuthority
  refine ⟨_, _, _, ?_, isTail_readQueryAndFragment kind _, rfl⟩
  split
  · split
    · next hkind => exact .inl ⟨hkind, rfl⟩
    · exact .inr (isRooted_slash kind)
  · split <;> exact .inr (isRooted_normalPath kind _)

/-- What follows an authority ends it. -/
theorem stopsAt_behind {kind : SchemeKind} {path : List Char} (h : IsBehind kind path)
    (query fragment : Option (List Char)) :
    StopsAt (fun c => !endsAuthority kind c) (path ++ tail query fragment) := by
  rcases h with ⟨-, rfl⟩ | h
  · intro c hc
    have hend := stopsAt_tail query fragment c hc
    simp only [Bool.not_eq_false'] at hend ⊢
    simp [endsAuthority, hend]
  · obtain ⟨more, rfl, -⟩ := h.eq_cons
    exact stopsAt_cons.2 (by simp [endsAuthority, isSlash_slash])

/-! ## URLs -/

/-- Whether a URL is in normal form. -/
inductive IsNormal : Url → Prop where
  | file {host path : List Char} {query fragment : Option (List Char)}
      (hhost : host = [] ∨ IsHost parseHost host ∧ host ≠ [] ∧ host ≠ "localhost".toList)
      (hpath : IsRooted .file path) (htail : IsTail .file query fragment) :
      IsNormal ⟨"file".toList, some host, host, path, query, fragment⟩
  | authority {scheme user host port path : List Char} {query fragment : Option (List Char)}
      (hscheme : IsScheme scheme) (hkind : schemeKind scheme ≠ .file)
      (hauthority : IsAuthority (schemeKind scheme) scheme user host port)
      (hpath : IsBehind (schemeKind scheme) path) (htail : IsTail (schemeKind scheme) query fragment) :
      IsNormal ⟨scheme, some (user ++ host ++ port), host, path, query, fragment⟩
  | rooted {scheme path : List Char} {query fragment : Option (List Char)}
      (hscheme : IsScheme scheme) (hkind : schemeKind scheme = .other)
      (hpath : IsRooted .other path) (htail : IsTail .other query fragment) :
      IsNormal ⟨scheme, none, [], path, query, fragment⟩
  | plain {scheme path : List Char} {query fragment : Option (List Char)}
      (hscheme : IsScheme scheme) (hkind : schemeKind scheme = .other) (hpath : Encoded isControl path)
      (hmarks : ∀ c ∈ path, (!endsPath c) = true) (hfirst : StopsAt (· = '/') path)
      (hlast : StopsAt isEdge (path ++ tail query fragment).reverse) (htail : IsTail .other query fragment) :
      IsNormal ⟨scheme, none, [], path, query, fragment⟩

/-- What stands in front of the path of a URL without an authority. -/
def setOff (path : List Char) : List Char := if ['/', '/'].isPrefixOf path then ['/', '.'] else []

/-- A URL is its scheme, its authority, its path, its query and its fragment. -/
theorem toChars_eq (u : Url) :
    u.toChars = u.scheme ++ ':' :: (u.authority.elim (setOff u.path) (fun a => '/' :: '/' :: a) ++ u.path
      ++ tail u.query u.fragment) := by
  unfold toChars tail setOff
  cases u.authority <;> cases u.query <;> cases u.fragment <;> simp

section

variable {scheme host path : List Char} {query fragment : Option (List Char)}

/-- A host is not mistaken for a drive. -/
theorem isDriveHost_eq_false {read : List Char → Except ParseError (List Char)} (h : IsHost read host) :
    isDriveHost host = false := by
  unfold isDriveHost
  split
  · next c d =>
    by_contra hdrive
    simp only [Bool.not_eq_false, Bool.and_eq_true, Bool.or_eq_true, decide_eq_true_eq] at hdrive
    obtain ⟨halpha, rfl | rfl⟩ := hdrive
    · -- a colon behind a letter would begin a port
      have hcut := h.cut
      have hletter {d : Char} (hd : d.isAlpha = false) : c ≠ d := by
        rintro rfl
        rw [hd] at halpha
        cases halpha
      simp [cutPort, hletter (d := ':') (by decide), hletter (d := '[') (by decide)] at hcut
    · exact absurd (h.text '|' (by simp)).2 (by decide)
  · rfl

/-- The scheme of files decides on the reader. -/
theorem parseChars_file {rest : List Char} (h : Visible rest) :
    parseChars ("file".toList ++ ':' :: rest) = readFile rest := by
  have hscheme : IsScheme "file".toList := ⟨⟨'f', "ile".toList, by decide, by decide⟩, forall_mem_of_all (by decide)⟩
  unfold parseChars
  rw [readScheme_clean_of_visible hscheme h]
  rfl

/-- The URL of a file is read from how it is written. -/
theorem readFile_eq (hhost : host = [] ∨ IsHost parseHost host ∧ host ≠ [] ∧ host ≠ "localhost".toList)
    (hpath : IsRooted .file path) (htail : IsTail .file query fragment) :
    readFile ('/' :: '/' :: (host ++ (path ++ tail query fragment)))
      = .ok ⟨"file".toList, some host, host, path, query, fragment⟩ := by
  have hbehind : IsBehind .file path := .inr hpath
  have hstop := stopsAt_behind hbehind query fragment
  unfold readFile
  dsimp only
  rw [if_pos (by decide)]
  rcases hhost with rfl | ⟨hhost, hne, hlocal⟩
  · rw [span_append (by simp) hstop]
    simp only [show isDriveHost [] = false from rfl, Bool.false_eq_true, if_false, List.isEmpty_nil, if_true,
      readAfterAuthority_eq hbehind htail]
    rfl
  · have htext : ∀ c ∈ host, (!endsAuthority .file c) = true := by
      intro c hc
      have hplain : c ∉ ['/', '\\', '?', '#'] := fun hmem =>
        (hhost.text c hc).2 (List.mem_append_left ['@', '|'] hmem)
      simp [endsAuthority_eq_false .file hplain]
    have hempty : host.isEmpty = false := by simpa using hne
    rw [span_append htext hstop]
    simp only [isDriveHost_eq_false hhost, hempty, Bool.false_eq_true, if_false, hhost.again, bind, Except.bind,
      if_neg hlocal, readAfterAuthority_eq hbehind htail]
    rfl

/-- A path without an authority is read from how it is written. -/
theorem readOther_eq {text : List Char} (hmarks : ∀ c ∈ text, (!endsPath c) = true)
    (hslashes : ∀ rest, text ++ tail query fragment ≠ '/' :: '/' :: rest) (htail : IsTail .other query fragment)
    (hpath : (∃ more, text = '/' :: more ∧ normalPath .other more = path)
      ∨ StopsAt (· = '/') text ∧ percentEncode isControl text = path) :
    readOther scheme (text ++ tail query fragment) = .ok ⟨scheme, none, [], path, query, fragment⟩ := by
  unfold readOther
  split
  case h_1 rest heq => exact absurd heq (hslashes rest)
  case h_2 =>
    rw [span_append hmarks (stopsAt_tail query fragment)]
    simp only [readQueryAndFragment_tail htail]
    rcases hpath with ⟨more, rfl, rfl⟩ | ⟨hfirst, rfl⟩
    · rfl
    · split
      · exact absurd (stopsAt_cons.1 hfirst) (by decide)
      · rfl

theorem visible_rooted {kind : SchemeKind} (h : IsRooted kind path) : Visible path :=
  h.encoded.visible isEncodeSet_pathSet (by decide)

/-- A URL with a rooted path and no authority is read back. -/
theorem readOther_rooted (hpath : IsRooted .other path) (htail : IsTail .other query fragment) :
    readOther scheme (setOff path ++ path ++ tail query fragment)
      = .ok ⟨scheme, none, [], path, query, fragment⟩ := by
  have hmarks := not_endsPath_of_encoded hpath.encoded
  obtain ⟨segments, hsegments, rfl⟩ := hpath
  unfold setOff
  split
  · -- the dot in front is dropped again
    have hdot : ∀ c ∈ ['/', '.'] ++ joinSegments segments, (!endsPath c) = true :=
      List.forall_mem_append.2 ⟨forall_mem_of_all (by decide), hmarks⟩
    apply readOther_eq hdot (fun rest heq => by cases heq) htail
    exact .inl ⟨'.' :: joinSegments segments, rfl, normalPath_dot (by decide) hsegments⟩
  · next hprefix =>
    have hcons := joinSegments_eq_cons hsegments
    refine readOther_eq hmarks (fun rest heq => ?_) htail (.inl ⟨_, hcons, normalPath_eq_self hsegments⟩)
    rw [List.nil_append, hcons, List.cons_append, List.cons.injEq] at heq
    rw [hcons] at hprefix
    cases hmore : (joinSegments segments).drop 1 with
    | nil =>
      rw [hmore] at heq
      exact tail_ne_slash query fragment rest heq.2
    | cons c more =>
      rw [hmore, List.cons_append, List.cons.injEq] at heq
      rw [hmore, heq.2.1] at hprefix
      simp at hprefix

/-- So is one whose path has no slash in front. -/
theorem readOther_plain (hpath : Encoded isControl path) (hmarks : ∀ c ∈ path, (!endsPath c) = true)
    (hfirst : StopsAt (· = '/') path) (htail : IsTail .other query fragment) :
    readOther scheme (path ++ tail query fragment) = .ok ⟨scheme, none, [], path, query, fragment⟩ := by
  refine readOther_eq hmarks (fun rest heq => ?_) htail (.inr ⟨hfirst, percentEncode_eq_self hpath⟩)
  cases path with
  | nil => exact tail_ne_slash query fragment _ heq
  | cons c path =>
    rw [List.cons_append, List.cons.injEq] at heq
    rw [heq.1] at hfirst
    exact absurd (stopsAt_cons.1 hfirst) (by decide)

/-- Only a path with slashes in front is set off. -/
theorem setOff_eq_nil (h : StopsAt (· = '/') path) : setOff path = [] := by
  unfold setOff
  rw [if_neg]
  intro hprefix
  obtain ⟨rest, rfl⟩ := List.isPrefixOf_iff_prefix.1 hprefix
  exact absurd (stopsAt_cons.1 h) (by decide)

theorem visible_setOff (path : List Char) : Visible (setOff path) := by
  unfold setOff
  split
  · exact visible_cons.2 ⟨by decide, visible_cons.2 ⟨by decide, by simp [Visible]⟩⟩
  · simp [Visible]

/-- A URL with an authority is read from how it is written. -/
theorem parseChars_authority {user port : List Char} (hscheme : IsScheme scheme) (hkind : schemeKind scheme ≠ .file)
    (hauthority : IsAuthority (schemeKind scheme) scheme user host port)
    (hpath : IsBehind (schemeKind scheme) path) (htail : IsTail (schemeKind scheme) query fragment) :
    parseChars (scheme ++ ':' :: ('/' :: '/' :: (user ++ host ++ port ++ (path ++ tail query fragment))))
      = .ok ⟨scheme, some (user ++ host ++ port), host, path, query, fragment⟩ := by
  have htext := hauthority.text
  have hvisible : Visible ('/' :: '/' :: (user ++ host ++ port ++ (path ++ tail query fragment))) := by
    refine visible_cons.2 ⟨by decide, visible_cons.2 ⟨by decide, visible_append.2 ⟨fun c hc => (htext c hc).1, ?_⟩⟩⟩
    exact visible_append.2 ⟨hpath.encoded.visible isEncodeSet_pathSet (by decide), visible_tail htail⟩
  have hread : readAuthority (schemeKind scheme) scheme (user ++ host ++ port ++ (path ++ tail query fragment))
      = .ok ⟨scheme, some (user ++ host ++ port), host, path, query, fragment⟩ := by
    rw [readAuthority_eq hauthority (stopsAt_behind hpath query fragment), readAfterAuthority_eq hpath htail]
  unfold parseChars
  rw [readScheme_clean_of_visible hscheme hvisible]
  cases hk : schemeKind scheme with
  | file => exact absurd hk hkind
  | special =>
    rw [hk] at hread htext hauthority
    -- no more slashes are dropped than those in front of the authority
    have hne : user ++ host ++ port ≠ [] := by
      have hhost := hauthority.ne_nil (by decide)
      simp [hhost]
    obtain ⟨c, rest, hcons⟩ := List.exists_cons_of_ne_nil hne
    have hc : isSlash .special c = false := by
      have hend := (htext c (hcons ▸ List.mem_cons_self)).2
      simp only [endsAuthority, Bool.or_eq_false_iff] at hend
      exact hend.1
    have hdrop : (user ++ host ++ port ++ (path ++ tail query fragment)).dropWhile (isSlash .special)
        = user ++ host ++ port ++ (path ++ tail query fragment) := by
      rw [hcons, List.cons_append, List.dropWhile_cons_of_neg (by simp [hc])]
    simp only [hk, List.dropWhile_cons_of_pos (isSlash_slash .special), hdrop, hread]
  | other =>
    rw [hk] at hread
    simp only [hk]
    exact hread

/-- A URL in normal form is read from how it is written. -/
theorem parse_of_isNormal {u : Url} (h : IsNormal u) : parse u.toString = .ok u := by
  unfold parse Url.toString
  rw [String.toList_ofList, toChars_eq]
  cases h with
  | @file host path query fragment hhost hpath htail =>
    have hvisible : Visible ('/' :: '/' :: (host ++ (path ++ tail query fragment))) := by
      refine visible_cons.2 ⟨by decide, visible_cons.2 ⟨by decide, visible_append.2
        ⟨?_, visible_append.2 ⟨visible_rooted hpath, visible_tail htail⟩⟩⟩⟩
      rcases hhost with rfl | ⟨hhost, -⟩
      · simp [Visible]
      · exact fun c hc => (hhost.text c hc).1
    simp only [Option.elim, List.cons_append, List.append_assoc]
    rw [parseChars_file hvisible, readFile_eq hhost hpath htail]
  | @authority scheme user host port path query fragment hscheme hkind hauthority hpath htail =>
    have hparse := parseChars_authority hscheme hkind hauthority hpath htail
    simpa only [Option.elim, List.cons_append, List.append_assoc] using hparse
  | @rooted scheme path query fragment hscheme hkind hpath htail =>
    have hvisible : Visible (setOff path ++ path ++ tail query fragment) :=
      visible_append.2 ⟨visible_append.2 ⟨visible_setOff path, visible_rooted hpath⟩, visible_tail htail⟩
    unfold parseChars
    simp only [Option.elim]
    rw [readScheme_clean_of_visible hscheme hvisible]
    simp only [hkind]
    exact readOther_rooted hpath htail
  | @plain scheme path query fragment hscheme hkind hpath hmarks hfirst hlast htail =>
    have hle : ∀ c ∈ path ++ tail query fragment, 0x20 ≤ c.toNat :=
      List.forall_mem_append.2 ⟨hpath.le, fun c hc => Nat.le_of_lt (visible_tail htail c hc)⟩
    unfold parseChars
    simp only [Option.elim, setOff_eq_nil hfirst, List.nil_append]
    rw [readScheme_clean hscheme hle hlast]
    simp only [hkind]
    exact readOther_plain hpath hmarks hfirst htail

end

/-! ## What is read -/

/-- What is read with an authority is normal. -/
theorem isNormal_of_readAuthority {kind : SchemeKind} {scheme cs : List Char} {u : Url} (hscheme : IsScheme scheme)
    (hkind : schemeKind scheme = kind) (hfile : kind ≠ .file) (h : readAuthority kind scheme cs = .ok u) :
    IsNormal u := by
  subst hkind
  obtain ⟨user, host, port, rest, hauthority, -, rfl⟩ := isAuthority_of_readAuthority h
  obtain ⟨path, query, fragment, hpath, htail, heq⟩ :=
    exists_readAfterAuthority (schemeKind scheme) scheme (user ++ host ++ port) host rest
  rw [heq]
  exact .authority hscheme hfile hauthority hpath htail

/-- So is what is read as the URL of a file. -/
theorem isNormal_of_readFile {cs : List Char} {u : Url} (h : readFile cs = .ok u) : IsNormal u := by
  -- every branch goes on behind a host that is empty or has been read
  have hread {host : List Char} (hhost : host = [] ∨ IsHost parseHost host ∧ host ≠ [] ∧ host ≠ "localhost".toList)
      (text : List Char) : IsNormal (readAfterAuthority .file "file".toList host host text) := by
    obtain ⟨path, query, fragment, hpath, htail, heq⟩ := exists_readAfterAuthority .file "file".toList host host text
    rw [heq]
    exact .file hhost (hpath.resolve_left (by simp)) htail
  unfold readFile at h
  simp only [bind, Except.bind, pure, Except.pure] at h
  split at h
  case h_2 =>
    cases h
    exact hread (.inl rfl) _
  case h_1 a b rest =>
    split at h
    case isFalse =>
      cases h
      exact hread (.inl rfl) _
    case isTrue =>
      split at h
      · cases h
        exact hread (.inl rfl) _
      · split at h
        · cases h
          exact hread (.inl rfl) _
        · split at h
          · cases h
          · next host hhost =>
            cases h
            apply hread
            split
            · exact .inl rfl
            · next hlocal =>
              obtain ⟨hisHost, hne⟩ := isHost_of_parseHost hhost
              exact .inr ⟨hisHost, hne, hlocal⟩

/-- So is any other URL that is read. -/
theorem isNormal_of_readOther {scheme cs : List Char} {u : Url} (hscheme : IsScheme scheme)
    (hkind : schemeKind scheme = .other) (hlast : StopsAt isEdge cs.reverse) (h : readOther scheme cs = .ok u) :
    IsNormal u := by
  unfold readOther at h
  split at h
  case h_1 => exact isNormal_of_readAuthority hscheme hkind (by decide) h
  case h_2 =>
    obtain ⟨text, rest, rfl, hmarks, hrest, hspan⟩ := exists_span (fun c => !endsPath c) cs
    rw [hspan] at h
    dsimp only at h
    have htail := isTail_readQueryAndFragment .other rest
    cases h
    split
    · exact .rooted hscheme hkind (isRooted_normalPath .other _) htail
    · next hfirst =>
      refine .plain hscheme hkind (encoded_percentEncode isEncodeSet_isControl text) ?_ ?_ ?_ htail
      · exact forall_mem_percentEncode isEncodeSet_isControl (by decide) (by decide) hmarks
      · apply stopsAt_percentEncode isEncodeSet_isControl (by decide) (by decide)
        cases text with
        | nil => exact stopsAt_nil _
        | cons c text =>
          refine stopsAt_cons.2 ?_
          simpa using fun hc : c = '/' => hfirst text (by rw [hc])
      · rw [List.reverse_append]
        -- the last character is one of the path only if nothing follows the path
        by_cases hempty : tail (readQueryAndFragment .other rest).1 (readQueryAndFragment .other rest).2 = []
        · rw [hempty]
          rw [eq_nil_of_tail_eq_nil hrest hempty, List.append_nil] at hlast
          exact stopsAt_reverse_percentEncode isEncodeSet_isControl (by decide) (by decide) hlast
        · have hvisible := stopsAt_of_visible (visible_reverse.2 (visible_tail htail))
          rw [← List.append_nil (List.reverse _)] at hvisible
          exact hvisible.of_append (by simpa using hempty) _

/-- What is read is in normal form. -/
theorem isNormal_of_parse {t : String} {u : Url} (h : parse t = .ok u) : IsNormal u := by
  unfold parse parseChars at h
  split at h
  case h_1 => cases h
  case h_2 scheme rest hread =>
    obtain ⟨hscheme, front, hclean⟩ := isScheme_of_readScheme hread
    have hlast : StopsAt isEdge rest.reverse := by
      have hstop := stopsAt_reverse_clean t.toList
      rw [hclean, List.reverse_append, List.reverse_cons, List.append_assoc] at hstop
      exact hstop.of_left
    split at h
    case h_1 => exact isNormal_of_readFile h
    case h_2 hkind => exact isNormal_of_readAuthority hscheme hkind (by decide) h
    case h_3 hkind => exact isNormal_of_readOther hscheme hkind hlast h

end StatementLens.Url
