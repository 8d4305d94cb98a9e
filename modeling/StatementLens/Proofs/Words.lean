import StatementLens.Proofs.Offsets
import StatementLens.Proofs.Spans
import StatementLens.Text.Word

/-!
# Words at places

The word at the position of a place is looked for within a line. Where no word reaches up to the
place, it is the longest run of characters of words behind the place. In general it is the run that the
place is in, or at an end of, so all places of a run have the same word.
-/

namespace StatementLens

open Text

/-! ## Runs -/

/-- A longest run of characters of words in a text, which may be empty, between what stands in front of
it and behind it. -/
structure WordRun (cs left word right : List Char) : Prop where
  eq : cs = left ++ (word ++ right)
  all : ∀ c ∈ word, isWordChar c = true
  stops_left : StopsAt isWordChar left.reverse
  stops_right : StopsAt isWordChar right

/-- Every place of a text is in a run. -/
theorem exists_wordRun (before after : List Char) :
    ∃ left word right, WordRun (before ++ after) left word right ∧
      byteLength left ≤ byteLength before ∧ byteLength before ≤ byteLength (left ++ word) := by
  have hbefore : before = (before.reverse.dropWhile isWordChar).reverse
      ++ (before.reverse.takeWhile isWordChar).reverse := by
    rw [← List.reverse_append, List.takeWhile_append_dropWhile, List.reverse_reverse]
  have hafter : after = after.takeWhile isWordChar ++ after.dropWhile isWordChar :=
    List.takeWhile_append_dropWhile.symm
  refine ⟨(before.reverse.dropWhile isWordChar).reverse,
    (before.reverse.takeWhile isWordChar).reverse ++ after.takeWhile isWordChar,
    after.dropWhile isWordChar, ⟨?_, ?_, ?_, stopsAt_dropWhile isWordChar after⟩, ?_, ?_⟩
  · rw [List.append_assoc, ← hafter, ← List.append_assoc, ← hbefore]
  · intro c hc
    rcases List.mem_append.1 hc with hc | hc
    · exact List.mem_takeWhile_imp (List.mem_reverse.1 hc)
    · exact List.mem_takeWhile_imp hc
  · rw [List.reverse_reverse]
    exact stopsAt_dropWhile isWordChar before.reverse
  · have hlength := congrArg byteLength hbefore
    rw [byteLength_append] at hlength
    omega
  · rw [← List.append_assoc, ← hbefore, byteLength_append]
    omega

namespace WordRun

variable {cs left word right before after : List Char}

/-- A place in a run splits the run. -/
theorem exists_split (h : WordRun (before ++ after) left word right)
    (hstart : byteLength left ≤ byteLength before)
    (hstop : byteLength before ≤ byteLength (left ++ word)) :
    ∃ w w', word = w ++ w' ∧ before = left ++ w ∧ after = w' ++ right := by
  have hboundary : IsBoundary (left ++ (word ++ right)) (byteLength before) := by
    rw [← h.eq]
    exact isBoundary_append before after
  obtain ⟨w, w', hword, hlength⟩ := hboundary.exists_between hstart hstop
  have hsplit : before ++ after = (left ++ w) ++ (w' ++ right) := by
    rw [h.eq, hword]
    simp
  obtain ⟨hbefore, hafter⟩ := append_inj_of_byteLength hsplit hlength
  exact ⟨w, w', hword, hbefore, hafter⟩

theorem reverse_takeWhile {w w' : List Char} (h : WordRun cs left (w ++ w') right) :
    ((left ++ w).reverse).takeWhile isWordChar = w.reverse := by
  have hall : ∀ c ∈ w.reverse, isWordChar c = true := by
    intro c hc
    exact h.all c (List.mem_append_left w' (List.mem_reverse.1 hc))
  rw [List.reverse_append, List.takeWhile_append_of_pos hall,
    StopsAt.takeWhile_eq_nil (y := []) (by rw [List.append_nil]; exact h.stops_left),
    List.append_nil]

theorem takeWhile {w w' : List Char} (h : WordRun cs left (w ++ w') right) :
    (w' ++ right).takeWhile isWordChar = w' := by
  have hall : ∀ c ∈ w', isWordChar c = true := by
    intro c hc
    exact h.all c (List.mem_append_right w hc)
  rw [takeWhile_append_of_stopsAt h.stops_right, List.takeWhile_eq_self_iff.2 hall]

/-- A run is not empty if and only if there is a character of words next to a place in it. -/
theorem ne_nil_iff (h : WordRun (before ++ after) left word right)
    (hstart : byteLength left ≤ byteLength before)
    (hstop : byteLength before ≤ byteLength (left ++ word)) :
    word ≠ [] ↔ (∃ c, before.getLast? = some c ∧ isWordChar c = true) ∨
      ∃ c, after.head? = some c ∧ isWordChar c = true := by
  obtain ⟨w, w', rfl, rfl, rfl⟩ := h.exists_split hstart hstop
  constructor
  · intro hword
    rcases List.eq_nil_or_concat w with rfl | ⟨w, c, rfl⟩
    · obtain ⟨c, cs, rfl⟩ := List.exists_cons_of_ne_nil (show w' ≠ [] by simpa using hword)
      exact .inr ⟨c, rfl, h.all c (by simp)⟩
    · exact .inl ⟨c, by simp, h.all c (by simp)⟩
  · intro htouch hnil
    obtain ⟨rfl, rfl⟩ := List.append_eq_nil_iff.1 hnil
    -- the place is then next to what stands on both sides of the run
    rcases htouch with ⟨c, hc, hchar⟩ | ⟨c, hc, hchar⟩
    · rw [List.append_nil] at hc
      have hstops := h.stops_left c (by rw [List.head?_reverse]; exact hc)
      rw [hstops] at hchar
      cases hchar
    · have hstops := h.stops_right c hc
      rw [hstops] at hchar
      cases hchar

end WordRun

namespace Line

variable {t : IndexedText} {p : Position} {left word right : List Char}

/-- The range of a part of the content of a line, between what stands in front of it and behind it. -/
def rangeOf {i : Nat} (l : Line t.text i) (left part : List Char) : Range :=
  t.rangeOf (l.start + byteLength left) (l.start + byteLength (left ++ part))

/-- The word at a place is the run that the place is in. -/
theorem wordAt_eq (l : Line t.text p.line) (h : WordRun l.content left word right)
    (hstart : l.start + byteLength left ≤ t.offsetAt p)
    (hstop : t.offsetAt p ≤ l.start + byteLength (left ++ word)) :
    t.wordAt p = if word = [] then none else some (l.rangeOf left word) := by
  obtain ⟨before, after, hcontent, hoffset⟩ := l.exists_offsetAt
  rw [hcontent] at h
  obtain ⟨w, w', rfl, rfl, rfl⟩ := h.exists_split (by omega) (by omega)
  have hbefore := l.slice_before hcontent
  have hafter := l.slice_after hcontent
  have hfirst : l.start + byteLength (left ++ w) - byteLength w.reverse
      = l.start + byteLength left := by
    rw [byteLength_reverse, byteLength_append]
    omega
  have hlast : l.start + byteLength (left ++ w) + byteLength w'
      = l.start + byteLength (left ++ (w ++ w')) := by
    simp only [byteLength_append]
    omega
  unfold IndexedText.wordAt
  simp only [l.lineBounds_eq, hoffset, hbefore, hafter, h.reverse_takeWhile, h.takeWhile, hfirst,
    hlast]
  by_cases hword : w ++ w' = []
  · obtain ⟨rfl, rfl⟩ := List.append_eq_nil_iff.1 hword
    rfl
  · have hempty : ¬ (w.reverse.isEmpty && w'.isEmpty) = true := by
      intro hempty
      apply hword
      simpa using hempty
    rw [if_neg hword, if_neg hempty]
    rfl

end Line

/-- Where no word reaches up to a place, the word at it is the run behind it. -/
theorem wordAt_positionAt {pre post : List Char} (hpre : StopsAt isWordChar pre.reverse)
    (hreturn : ¬ BehindReturn pre post) :
    (IndexedText.ofText (pre ++ post)).wordAt
        ((IndexedText.ofText (pre ++ post)).positionAt (byteLength pre))
      = if post.takeWhile isWordChar = [] then none
        else some ((IndexedText.ofText (pre ++ post)).rangeOf (byteLength pre)
          (byteLength pre + byteLength (post.takeWhile isWordChar))) := by
  obtain ⟨front, last, rfl, hfront, hlast⟩ := exists_lastLine pre
  obtain ⟨more, rest, rfl, hmore, hrest⟩ := exists_lineEnd post
  obtain ⟨tail, hcontent, htail⟩ := exists_lineContent_behind hreturn hrest
  let t := IndexedText.ofText (front ++ last ++ (more ++ rest))
  have htext : t.text = front ++ ((last ++ more) ++ rest) := by
    show front ++ last ++ (more ++ rest) = _
    simp
  let l : Line t.text (front.count '\n') :=
    ⟨front, last ++ more, rest, htext, hfront, rfl, by simp [hlast, hmore], hrest⟩
  have hplace : byteLength (front ++ last) = l.start + byteLength last := byteLength_append front last
  have hposition : t.positionAt (l.start + byteLength last) = ⟨front.count '\n', unitLength last⟩ :=
    l.positionAt_eq hcontent
  have hoffset : t.offsetAt ⟨front.count '\n', unitLength last⟩ = l.start + byteLength last := by
    rw [← hposition]
    exact l.offsetAt_positionAt hcontent
  have hrun : WordRun l.content last (tail.takeWhile isWordChar) (tail.dropWhile isWordChar) := by
    refine ⟨?_, fun c hc => List.mem_takeWhile_imp hc, ?_, stopsAt_dropWhile isWordChar tail⟩
    · rw [List.takeWhile_append_dropWhile]
      exact hcontent
    · rw [List.reverse_append] at hpre
      exact hpre.of_left
  -- the end of the line ends the word too
  have hends : StopsAt isWordChar rest := by
    rcases hrest with rfl | ⟨p, rfl⟩
    · exact stopsAt_nil isWordChar
    · exact stopsAt_cons.2 (by decide)
  have htake : (more ++ rest).takeWhile isWordChar = tail.takeWhile isWordChar := by
    rw [takeWhile_append_of_stopsAt hends]
    rcases htail with rfl | rfl
    · rfl
    · exact takeWhile_append_of_stopsAt (stopsAt_cons.2 (by decide)) tail
  have hword := Line.wordAt_eq (p := ⟨front.count '\n', unitLength last⟩) l hrun (by omega)
    (by rw [hoffset, byteLength_append]; omega)
  show t.wordAt (t.positionAt (byteLength (front ++ last))) = _
  rw [htake, hplace, hposition, hword]
  unfold Line.rangeOf
  rw [byteLength_append, Nat.add_assoc]

/-! ## Maximal words -/

/-- A range is a word of a line: there are characters of words in it, and none next to it in the content
of the line. -/
structure IsWordOf (t : IndexedText) {i : Nat} (l : Line t.text i) (r : Range) : Prop where
  line_start : r.start.line = i
  line_stop : r.stop.line = i
  start_le : l.start ≤ t.offsetAt r.start
  lt : t.offsetAt r.start < t.offsetAt r.stop
  le_stop : t.offsetAt r.stop ≤ l.stop
  all : ∀ c ∈ slice (t.offsetAt r.start) (t.offsetAt r.stop) t.text, isWordChar c = true
  stops_left : StopsAt isWordChar (slice l.start (t.offsetAt r.start) t.text).reverse
  stops_right : StopsAt isWordChar (slice (t.offsetAt r.stop) l.stop t.text)
  eq_rangeOf : r = t.rangeOf (t.offsetAt r.start) (t.offsetAt r.stop)

namespace WordRun

variable {t : IndexedText} {i : Nat} {left word right : List Char}

theorem offsetAt_start {l : Line t.text i} (h : WordRun l.content left word right) :
    t.offsetAt (l.rangeOf left word).start = l.start + byteLength left :=
  l.offsetAt_positionAt h.eq

theorem offsetAt_stop {l : Line t.text i} (h : WordRun l.content left word right) :
    t.offsetAt (l.rangeOf left word).stop = l.start + byteLength (left ++ word) := by
  have hcontent : l.content = (left ++ word) ++ right := by
    rw [h.eq, List.append_assoc]
  exact l.offsetAt_positionAt hcontent

theorem isWordOf {l : Line t.text i} (h : WordRun l.content left word right) (hword : word ≠ []) :
    IsWordOf t l (l.rangeOf left word) := by
  have hcontent : l.content = (left ++ word) ++ right := by
    rw [h.eq, List.append_assoc]
  have hstart := h.offsetAt_start
  have hstop := h.offsetAt_stop
  have hpos : 0 < byteLength word := by
    apply Nat.pos_of_ne_zero
    intro hzero
    exact hword (eq_nil_of_byteLength_eq_zero hzero)
  refine ⟨?_, ?_, ?_, ?_, ?_, ?_, ?_, ?_, ?_⟩
  · exact congrArg Position.line (l.positionAt_eq h.eq)
  · exact congrArg Position.line (l.positionAt_eq hcontent)
  · rw [hstart]
    omega
  · rw [hstart, hstop, byteLength_append]
    omega
  · rw [hstop, l.stop_eq, hcontent, byteLength_append (left ++ word)]
    omega
  · rw [hstart, hstop, l.slice_eq h.eq]
    exact h.all
  · rw [hstart, l.slice_before h.eq]
    exact h.stops_left
  · rw [hstop, l.slice_after hcontent]
    exact h.stops_right
  · rw [hstart, hstop]
    rfl

end WordRun

/-- The word at a position is the longest run of characters of words that touches its place. There is one
if and only if such a character stands next to the place in the content of the line, and every position of
the line whose place touches the run has the same word. All offsets that are computed on the way are the
ends of slices of the text. -/
theorem wordAt_maximal_run (t : IndexedText) :
    (∀ p : Position, t.lineCount ≤ p.line → t.wordAt p = none) ∧
    ∀ p : Position, p.line < t.lineCount → ∃ l : Line t.text p.line,
      t.lineBounds p.line = some (l.start, l.stop) ∧
      [l.start, t.offsetAt p, l.stop].Pairwise (Sliceable t.text) ∧
      (∀ x c y, slice l.start (t.offsetAt p) t.text = x ++ c :: y →
        Sliceable t.text (l.start + byteLength x) l.stop) ∧
      ((t.wordAt p).isSome = true ↔
        (∃ c, (slice l.start (t.offsetAt p) t.text).getLast? = some c ∧ isWordChar c = true) ∨
        ∃ c, (slice (t.offsetAt p) l.stop t.text).head? = some c ∧ isWordChar c = true) ∧
      ∀ r, t.wordAt p = some r →
        IsWordOf t l r ∧ t.offsetAt r.start ≤ t.offsetAt p ∧ t.offsetAt p ≤ t.offsetAt r.stop ∧
        [l.start, t.offsetAt r.start, t.offsetAt p, t.offsetAt r.stop, l.stop].Pairwise
          (Sliceable t.text) ∧
        ∀ q : Position, q.line = p.line → t.offsetAt r.start ≤ t.offsetAt q →
          t.offsetAt q ≤ t.offsetAt r.stop → t.wordAt q = some r := by
  constructor
  · intro p hp
    unfold IndexedText.wordAt
    simp only [IndexedText.lineBounds_of_le hp]
  intro p hp
  obtain ⟨l⟩ := IndexedText.nonempty_line_of_lt hp
  obtain ⟨before, after, hcontent, hoffset⟩ := l.exists_offsetAt
  obtain ⟨left, word, right, hrun, hleft, hright⟩ := exists_wordRun before after
  have htouches := hrun.ne_nil_iff hleft hright
  rw [← hcontent] at hrun
  have hword := l.wordAt_eq hrun (by omega) (by omega)
  have hbounds : l.start ≤ t.offsetAt p ∧ t.offsetAt p ≤ l.stop :=
    ⟨l.start_le_offsetAt, l.offsetAt_le_stop⟩
  have hstart := l.sliceable.isBoundary_start
  have hstop := l.sliceable.isBoundary_stop
  have hplace := t.isBoundary_offsetAt p
  refine ⟨l, l.lineBounds_eq, ?_, ?_, ?_, ?_⟩
  · apply pairwise_sliceable
    · simp only [List.isChain_cons_cons, List.IsChain.singleton, and_true]
      omega
    · simp [hstart, hplace, hstop]
  · intro x c y hx
    rw [hoffset, l.slice_before hcontent] at hx
    have hsplit : l.content = x ++ (c :: y ++ after) := by
      rw [hcontent, hx]
      simp
    obtain ⟨hboundary, -, hle⟩ := l.isBoundary_iff.2 ⟨x, _, hsplit, rfl⟩
    exact ⟨hboundary, hstop, hle⟩
  · rw [hoffset, l.slice_before hcontent, l.slice_after hcontent, ← htouches, hword]
    by_cases hnil : word = []
    · simp [hnil]
    · simp [hnil]
  · intro r hr
    have hne : word ≠ [] := by
      intro hnil
      rw [hword, if_pos hnil] at hr
      cases hr
    rw [hword, if_neg hne] at hr
    obtain rfl := Option.some.inj hr
    have hmaximal := hrun.isWordOf hne
    have hfirst := hrun.offsetAt_start
    have hlast := hrun.offsetAt_stop
    have hwithin := hmaximal.le_stop
    refine ⟨hmaximal, by omega, by omega, ?_, ?_⟩
    · apply pairwise_sliceable
      · simp only [List.isChain_cons_cons, List.IsChain.singleton, and_true]
        omega
      · simp [hstart, hplace, hstop, t.isBoundary_offsetAt]
    · intro q hq hqstart hqstop
      obtain ⟨line, character⟩ := q
      subst hq
      rw [hfirst] at hqstart
      rw [hlast] at hqstop
      have hq := Line.wordAt_eq (p := ⟨p.line, character⟩) l hrun hqstart hqstop
      rw [hq, if_neg hne]

/-- A word between a space and a middle dot, which belongs to no word, and one between a surrogate pair and
a carriage return. -/
def wordedLines : List Char := ["é find$A1·b\r\n", "😀x\r"].flatMap String.toList

theorem wordAt_maximal_run_wordedLines :
    let t := IndexedText.ofText wordedLines
    (t.lineCount ≤ 2 ∧ t.wordAt ⟨2, 0⟩ = none) ∧ 0 < t.lineCount ∧
    t.wordAt ⟨0, 5⟩ = some ⟨⟨0, 2⟩, ⟨0, 9⟩⟩ ∧
    (∃ l : Line t.text 0, IsWordOf t l ⟨⟨0, 2⟩, ⟨0, 9⟩⟩) ∧
    t.offsetAt ⟨0, 2⟩ ≤ t.offsetAt ⟨0, 9⟩ ∧ t.wordAt ⟨0, 9⟩ = some ⟨⟨0, 2⟩, ⟨0, 9⟩⟩ := by
  intro t
  obtain ⟨hnone, hline⟩ := wordAt_maximal_run t
  have hbeyond : t.lineCount ≤ 2 := by decide
  have hexists : 0 < t.lineCount := by decide
  have hle : t.offsetAt ⟨0, 2⟩ ≤ t.offsetAt ⟨0, 9⟩ := by decide +kernel
  have hword : t.wordAt ⟨0, 5⟩ = some ⟨⟨0, 2⟩, ⟨0, 9⟩⟩ := by decide +kernel
  obtain ⟨l, -, -, -, -, hmaximal⟩ := hline ⟨0, 5⟩ hexists
  obtain ⟨hwordOf, -, -, -, htouching⟩ := hmaximal _ hword
  exact ⟨⟨hbeyond, hnone ⟨2, 0⟩ hbeyond⟩, hexists, hword, ⟨l, hwordOf⟩, hle,
    htouching ⟨0, 9⟩ rfl hle (Nat.le_refl _)⟩

end StatementLens
