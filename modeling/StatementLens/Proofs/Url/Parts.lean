import StatementLens.Proofs.Spans
import StatementLens.Proofs.Url.Encoded
import StatementLens.Proofs.Url.Hosts

/-!
# Schemes, queries and fragments in normal form

What is read drops blanks at the ends of a text. The scheme of a URL is read in lower case, and its query and
fragment are encoded. All of them are read as they are once they are in normal form (`readScheme_clean`,
`readQueryAndFragment_tail`).
-/

namespace StatementLens.Url

open Text

/-! ## Blanks -/

/-- Whether a text holds neither blanks nor control characters. -/
def Visible (cs : List Char) : Prop := ∀ c ∈ cs, 0x20 < c.toNat

theorem visible_append {cs ds : List Char} : Visible (cs ++ ds) ↔ Visible cs ∧ Visible ds := List.forall_mem_append

theorem visible_cons {c : Char} {cs : List Char} : Visible (c :: cs) ↔ 0x20 < c.toNat ∧ Visible cs :=
  List.forall_mem_cons

theorem Encoded.le {cs : List Char} (h : Encoded isControl cs) : ∀ c ∈ cs, 0x20 ≤ c.toNat := by
  intro c hc
  obtain ⟨hascii, hcontrol⟩ := h c hc
  clear hc
  revert hcontrol
  exact forall_ascii c hascii (by decide +kernel)

/-- An encoded text is visible if blanks are encoded. -/
theorem Encoded.visible {set : UInt8 → Bool} {cs : List Char} (h : Encoded set cs) (hset : IsEncodeSet set)
    (hspace : set 0x20 = true) : Visible cs := by
  intro c hc
  have hle := (h.control hset).le c hc
  by_contra hlt
  have hblank : c = ' ' := by
    rw [← Char.ofNat_toNat c, show c.toNat = 0x20 by omega]
  exact h.notMem (c := ' ') hspace (hblank ▸ hc)

/-- Whether a character is dropped at the ends of a text. -/
def isEdge (c : Char) : Bool := c.toNat ≤ 0x20

/-- Blanks at the ends go first, and then tabs and line breaks everywhere. -/
theorem clean_eq (cs : List Char) :
    clean cs = (((cs.dropWhile isEdge).reverse.dropWhile isEdge).reverse).filter
      fun c => c ≠ '\t' && c ≠ '\n' && c ≠ '\r' := rfl

theorem kept_of_le {c : Char} (h : 0x20 ≤ c.toNat) : (c ≠ '\t' && c ≠ '\n' && c ≠ '\r') = true := by
  have hne {d : Char} (hd : d.toNat < 0x20) : c ≠ d := by
    rintro rfl
    omega
  simp [hne (d := '\t') (by decide), hne (d := '\n') (by decide), hne (d := '\r') (by decide)]

/-- A text with blanks inside only is read as it is. -/
theorem clean_eq_self {cs : List Char} (h : ∀ c ∈ cs, 0x20 ≤ c.toNat) (hfirst : StopsAt isEdge cs)
    (hlast : StopsAt isEdge cs.reverse) : clean cs = cs := by
  have hdrop {ds : List Char} (hstop : StopsAt isEdge ds) : ds.dropWhile isEdge = ds := by
    cases ds with
    | nil => rfl
    | cons c ds => exact List.dropWhile_cons_of_neg (by simpa using stopsAt_cons.1 hstop)
  rw [clean_eq, hdrop hfirst, hdrop hlast, List.reverse_reverse, List.filter_eq_self]
  exact fun c hc => kept_of_le (h c hc)

/-- A visible text begins with no blank. -/
theorem stopsAt_of_visible {cs : List Char} (h : Visible cs) : StopsAt isEdge cs := by
  intro c hc
  have hlt := h c (List.mem_of_mem_head? hc)
  simp only [isEdge, decide_eq_false_iff_not]
  omega

theorem visible_reverse {cs : List Char} : Visible cs.reverse ↔ Visible cs := by
  simp [Visible]

/-- What is read ends in no blank. -/
theorem stopsAt_reverse_clean (cs : List Char) : StopsAt isEdge (clean cs).reverse := by
  have hstop := stopsAt_dropWhile isEdge (cs.dropWhile isEdge).reverse
  rw [clean_eq, ← List.filter_reverse, List.reverse_reverse]
  generalize (cs.dropWhile isEdge).reverse.dropWhile isEdge = back at hstop
  cases back with
  | nil => exact stopsAt_nil isEdge
  | cons c back =>
    have hc := stopsAt_cons.1 hstop
    have hkept : (c ≠ '\t' && c ≠ '\n' && c ≠ '\r') = true := by
      simp only [isEdge, decide_eq_false_iff_not] at hc
      exact kept_of_le (by omega)
    rw [List.filter_cons_of_pos (by exact hkept)]
    exact stopsAt_cons.2 hc

/-! ## Ends of encoded texts -/

section

variable {set : UInt8 → Bool} (hset : IsEncodeSet set) {p : Char → Bool} (hpercent : p '%' = false)
  (hdigit : ∀ n < 16, p (upperHex n) = false)

include hset hpercent hdigit

/-- What is encoded begins as before, or with a percent sign. -/
theorem stopsAt_percentEncode {cs : List Char} (h : StopsAt p cs) : StopsAt p (percentEncode set cs) := by
  cases cs with
  | nil =>
    rw [percentEncode_eq_nil_iff.2 rfl]
    exact stopsAt_nil p
  | cons d cs =>
    have hne : percentEncode set [d] ≠ [] := fun hnil => absurd (percentEncode_eq_nil_iff.1 hnil) (by simp)
    have hall : ∀ c ∈ percentEncode set [d], p c = false :=
      forall_mem_percentEncode hset hpercent hdigit (by simpa using stopsAt_cons.1 h)
    rw [← List.singleton_append, percentEncode_append]
    exact stopsAt_append_of_all hne hall _

/-- What is encoded ends as before, or with a digit. -/
theorem stopsAt_reverse_percentEncode {cs : List Char} (h : StopsAt p cs.reverse) :
    StopsAt p (percentEncode set cs).reverse := by
  rcases List.eq_nil_or_concat cs with rfl | ⟨front, d, rfl⟩
  · rw [percentEncode_eq_nil_iff.2 rfl]
    exact stopsAt_nil p
  · have hne : percentEncode set [d] ≠ [] := fun hnil => absurd (percentEncode_eq_nil_iff.1 hnil) (by simp)
    rw [List.concat_eq_append, List.reverse_append] at h
    have hall : ∀ c ∈ percentEncode set [d], p c = false :=
      forall_mem_percentEncode hset hpercent hdigit (by simpa using stopsAt_cons.1 h)
    rw [List.concat_eq_append, percentEncode_append, List.reverse_append]
    exact stopsAt_append_of_all (by simpa using hne) (by simpa using hall) _

end

/-! ## Schemes -/

/-- Whether a character can stand in a scheme. -/
def isSchemeChar (c : Char) : Bool := c.isAlphanum || c = '+' || c = '-' || c = '.'

/-- Whether a scheme is in normal form. -/
structure IsScheme (scheme : List Char) : Prop where
  first : ∃ c rest, scheme = c :: rest ∧ c.isAlpha = true
  text : ∀ c ∈ scheme, isSchemeChar c = true ∧ c.toLower = c

theorem isSchemeChar_of_isAlpha {c : Char} (h : c.isAlpha = true) : isSchemeChar c = true := by
  simp [isSchemeChar, Char.isAlphanum, h]

theorem ascii_of_isSchemeChar {c : Char} (h : isSchemeChar c = true) : c.toNat < 0x80 := by
  have hval : c.toNat = c.val.toNat := rfl
  have hZ : 'Z'.val.toNat = 90 := rfl
  have hz : 'z'.val.toNat = 122 := rfl
  have h9 : '9'.val.toNat = 57 := rfl
  delta isSchemeChar Char.isAlphanum Char.isAlpha Char.isUpper Char.isLower Char.isDigit at h
  simp only [Bool.or_eq_true, Bool.and_eq_true, decide_eq_true_eq, ge_iff_le, UInt32.le_iff_toNat_le] at h
  rcases h with ((h | rfl) | rfl) | rfl
  · omega
  · decide
  · decide
  · decide

/-- Schemes are visible. -/
theorem visible_of_isScheme {scheme : List Char} (h : IsScheme scheme) : Visible scheme := by
  intro c hc
  have hchar := (h.text c hc).1
  have hascii := ascii_of_isSchemeChar hchar
  clear hc
  revert hchar
  exact forall_ascii c hascii (by decide +kernel)

/-- A scheme is read back in front of its colon. -/
theorem readScheme_eq {scheme : List Char} (h : IsScheme scheme) (rest : List Char) :
    readScheme (scheme ++ ':' :: rest) = some (scheme, rest) := by
  have hspan : (scheme ++ ':' :: rest).span isSchemeChar = (scheme, ':' :: rest) :=
    span_append (fun c hc => (h.text c hc).1) (stopsAt_cons.2 (by decide))
  have hlower : scheme.map Char.toLower = scheme :=
    (List.map_congr_left fun c hc => (h.text c hc).2).trans (List.map_id scheme)
  obtain ⟨c, more, rfl, halpha⟩ := h.first
  unfold readScheme
  rw [show (fun c : Char => c.isAlphanum || c = '+' || c = '-' || c = '.') = isSchemeChar from rfl, hspan]
  simp only [halpha, if_true, hlower]

/-- What has been read is a scheme, and a colon follows. -/
theorem isScheme_of_readScheme {cs scheme rest : List Char} (h : readScheme cs = some (scheme, rest)) :
    IsScheme scheme ∧ ∃ front, cs = front ++ ':' :: rest := by
  obtain ⟨front, behind, rfl, hfront, -, hspan⟩ := exists_span isSchemeChar cs
  unfold readScheme at h
  rw [show (fun c : Char => c.isAlphanum || c = '+' || c = '-' || c = '.') = isSchemeChar from rfl, hspan] at h
  dsimp only at h
  split at h
  case h_2 => cases h
  case h_1 c more rest' =>
    split at h
    case isFalse => cases h
    case isTrue halpha =>
      cases h
      refine ⟨⟨⟨c.toLower, more.map Char.toLower, rfl, ?_⟩, ?_⟩, _, rfl⟩
      · have hascii := ascii_of_isSchemeChar (isSchemeChar_of_isAlpha halpha)
        revert halpha
        exact forall_ascii c hascii (by decide +kernel)
      · intro d hd
        obtain ⟨e, he, rfl⟩ := List.mem_map.1 hd
        refine ⟨?_, toLower_toLower e⟩
        have hchar := hfront e he
        have hascii := ascii_of_isSchemeChar hchar
        revert hchar
        exact forall_ascii e hascii (by decide +kernel)

/-- Nothing is dropped from a text that ends in no blank, so that its scheme is read. -/
theorem readScheme_clean {scheme rest : List Char} (hscheme : IsScheme scheme)
    (hrest : ∀ c ∈ rest, 0x20 ≤ c.toNat) (hlast : StopsAt isEdge rest.reverse) :
    readScheme (clean (scheme ++ ':' :: rest)) = some (scheme, rest) := by
  obtain ⟨c, more, hcons, -⟩ := hscheme.first
  have hvisible := visible_of_isScheme hscheme
  rw [clean_eq_self, readScheme_eq hscheme]
  · refine List.forall_mem_append.2 ⟨fun c hc => Nat.le_of_lt (hvisible c hc), ?_⟩
    exact List.forall_mem_cons.2 ⟨by decide, hrest⟩
  · have hstop := stopsAt_of_visible hvisible
    rw [hcons] at hstop ⊢
    exact stopsAt_cons.2 (stopsAt_cons.1 hstop)
  · rw [List.reverse_append, List.reverse_cons, List.append_assoc]
    by_cases hempty : rest.reverse = []
    · rw [hempty]
      exact stopsAt_cons.2 (by decide)
    · rw [← List.append_nil rest.reverse] at hlast
      exact hlast.of_append hempty _

/-- A scheme is read back from a visible URL. -/
theorem readScheme_clean_of_visible {scheme rest : List Char} (hscheme : IsScheme scheme) (hrest : Visible rest) :
    readScheme (clean (scheme ++ ':' :: rest)) = some (scheme, rest) :=
  readScheme_clean hscheme (fun c hc => Nat.le_of_lt (hrest c hc)) (stopsAt_of_visible (visible_reverse.2 hrest))

/-! ## Queries and fragments -/

/-- What is encoded in the queries of URLs of a kind of schemes. -/
def querySetOf (kind : SchemeKind) : UInt8 → Bool := if kind = .other then querySet else specialQuerySet

/-- Queries are encoded by a proper set. -/
theorem isEncodeSet_querySetOf (kind : SchemeKind) : IsEncodeSet (querySetOf kind) := by
  unfold querySetOf
  split
  · exact isEncodeSet_querySet
  · exact isEncodeSet_specialQuerySet

/-- Whether a query and a fragment are in normal form. -/
structure IsTail (kind : SchemeKind) (query fragment : Option (List Char)) : Prop where
  query : ∀ q, query = some q → Encoded (querySetOf kind) q
  fragment : ∀ f, fragment = some f → Encoded fragmentSet f

/-- A query and a fragment with their marks. -/
def tail (query fragment : Option (List Char)) : List Char :=
  query.elim [] ('?' :: ·) ++ fragment.elim [] ('#' :: ·)

/-- A query or a fragment ends the path. -/
theorem stopsAt_tail (query fragment : Option (List Char)) : StopsAt (fun c => !endsPath c) (tail query fragment) := by
  cases query with
  | some q => exact stopsAt_cons.2 (by decide)
  | none =>
    cases fragment with
    | some f => exact stopsAt_cons.2 (by decide)
    | none => exact stopsAt_nil _

theorem tail_ne_slash (query fragment : Option (List Char)) (rest : List Char) : tail query fragment ≠ '/' :: rest := by
  intro heq
  have hstop := stopsAt_tail query fragment
  rw [heq] at hstop
  exact absurd (stopsAt_cons.1 hstop) (by decide)

/-- Queries and fragments are visible. -/
theorem visible_tail {kind : SchemeKind} {query fragment : Option (List Char)}
    (h : IsTail kind query fragment) : Visible (tail query fragment) := by
  refine visible_append.2 ⟨?_, ?_⟩
  · cases query with
    | none => simp [Visible]
    | some q =>
      have hspace : querySetOf kind 0x20 = true := by cases kind <;> decide
      exact visible_cons.2 ⟨by decide, (h.query q rfl).visible (isEncodeSet_querySetOf kind) hspace⟩
  · cases fragment with
    | none => simp [Visible]
    | some f => exact visible_cons.2 ⟨by decide, (h.fragment f rfl).visible isEncodeSet_fragmentSet (by decide)⟩

/-- What is read as query and fragment is encoded. -/
theorem isTail_readQueryAndFragment (kind : SchemeKind) (cs : List Char) :
    IsTail kind (readQueryAndFragment kind cs).1 (readQueryAndFragment kind cs).2 := by
  unfold readQueryAndFragment
  refine ⟨fun q hq => ?_, fun f hf => ?_⟩
  · dsimp only at hq
    split at hq
    · cases hq
      exact encoded_percentEncode (isEncodeSet_querySetOf kind) _
    · cases hq
  · dsimp only at hf
    split at hf
    · cases hf
      exact encoded_percentEncode isEncodeSet_fragmentSet _
    · cases hf

/-- Query and fragment are read back. -/
theorem readQueryAndFragment_tail {kind : SchemeKind} {query fragment : Option (List Char)}
    (h : IsTail kind query fragment) : readQueryAndFragment kind (tail query fragment) = (query, fragment) := by
  have hquery : ∀ c ∈ query.elim [] ('?' :: ·), (decide (c ≠ '#')) = true := by
    cases query with
    | none => simp
    | some q =>
      refine List.forall_mem_cons.2 ⟨by decide, fun c hc => ?_⟩
      have hmark : querySetOf kind '#'.toNat.toUInt8 = true := by cases kind <;> decide
      simpa using fun heq : c = '#' => (h.query q rfl).notMem hmark (heq ▸ hc)
  have hstop : StopsAt (fun c => decide (c ≠ '#')) (fragment.elim [] ('#' :: ·)) := by
    cases fragment with
    | none => exact stopsAt_nil _
    | some f => exact stopsAt_cons.2 (by decide)
  have hspan : (tail query fragment).span (· ≠ '#')
      = (query.elim [] ('?' :: ·), fragment.elim [] ('#' :: ·)) := span_append hquery hstop
  unfold readQueryAndFragment
  rw [hspan]
  refine Prod.ext ?_ ?_
  · cases query with
    | none => rfl
    | some q => exact congrArg some (percentEncode_eq_self (h.query q rfl))
  · cases fragment with
    | none => rfl
    | some f => exact congrArg some (percentEncode_eq_self (h.fragment f rfl))

/-- What is read as neither a query nor a fragment is empty. -/
theorem eq_nil_of_tail_eq_nil {kind : SchemeKind} {cs : List Char} (hcs : StopsAt (fun c => !endsPath c) cs)
    (h : tail (readQueryAndFragment kind cs).1 (readQueryAndFragment kind cs).2 = []) : cs = [] := by
  cases cs with
  | nil => rfl
  | cons c cs =>
    have hmark := stopsAt_cons.1 hcs
    simp only [endsPath, Bool.not_eq_false', Bool.or_eq_true, decide_eq_true_eq] at hmark
    rcases hmark with rfl | rfl
    · simp [tail, readQueryAndFragment, List.span_eq_takeWhile_dropWhile] at h
    · simp [tail, readQueryAndFragment, List.span_eq_takeWhile_dropWhile] at h

end StatementLens.Url
