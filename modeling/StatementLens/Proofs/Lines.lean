import Mathlib.Data.List.DropRight
import StatementLens.Proofs.Offsets

/-!
# Lines by counting

The starts of lines are a sorted table, and halving in it gives what counting gives: the line of a place
is the number of line feeds in front of it, and its column the width of what stands behind the last of
them (`positionAt_by_counting`). The contents of the lines and the gaps between them are all of the text
(`lines_partition_text`).
-/

namespace StatementLens

open Text

/-! ## Sorted starts -/

/-- The starts of lines increase. -/
theorem pairwise_startsFrom (offset : Nat) (text : List Char) :
    (startsFrom offset text).Pairwise (· < ·) := by
  induction text generalizing offset with
  | nil => exact .nil
  | cons c text ih =>
    rw [startsFrom]
    split
    · refine .cons ?_ (ih _)
      intro x hx
      exact (startsFrom_bounds hx).1
    · exact ih _

namespace IndexedText

/-- The table of a text begins with zero. -/
theorem toList_starts (t : IndexedText) : t.starts.toList = 0 :: startsFrom 0 t.text := by
  rw [t.starts_eq, lineStarts_eq]

/-- It is sorted. -/
theorem pairwise_starts (t : IndexedText) : t.starts.toList.Pairwise (· < ·) := by
  rw [t.toList_starts]
  refine .cons ?_ (pairwise_startsFrom 0 t.text)
  intro x hx
  exact (startsFrom_bounds hx).1

/-- A place is looked up in the starts of lines: as many of them are at most the place as halving says,
there is one at least, and the last of these is the start of a slice up to the place. -/
structure FindsLine (t : IndexedText) (place start : Nat) : Prop where
  countAtMost_eq : countAtMost t.starts place = t.starts.toList.countP (· ≤ place)
  countAtMost_pos : 0 < countAtMost t.starts place
  getElem?_eq : t.starts[countAtMost t.starts place - 1]? = some start
  sliceable : Sliceable t.text start place

/-- The line of a place is found behind the last line feed in front of the place. -/
theorem findsLine {t : IndexedText} {front last post : List Char}
    (htext : t.text = front ++ (last ++ post)) (hfront : EndsLine front) (hlast : '\n' ∉ last) :
    t.FindsLine (byteLength (front ++ last)) (byteLength front) := by
  have hcount : countAtMost t.starts (byteLength (front ++ last)) = front.count '\n' + 1 := by
    rw [t.starts_eq, htext, ← List.append_assoc, countAtMost_lineStarts, List.count_append,
      List.count_eq_zero.2 hlast, Nat.add_zero]
  refine ⟨countAtMost_eq_countP t.pairwise_starts _, ?_, ?_, ?_⟩
  · omega
  · rw [hcount, Nat.add_sub_cancel, t.starts_eq, htext, getElem?_lineStarts hfront]
  · rw [htext]
    exact sliceable_append front last post

end IndexedText

/-- What stands behind the last line feed is the last line. -/
theorem rtakeWhile_of_endsLine {front last : List Char} (hfront : EndsLine front)
    (hlast : '\n' ∉ last) : (front ++ last).rtakeWhile (· ≠ '\n') = last := by
  have hall : ∀ c ∈ last.reverse, decide (c ≠ '\n') = true := by
    intro c hc
    rw [decide_eq_true_eq]
    rintro rfl
    exact hlast (List.mem_reverse.1 hc)
  have hnone : front.reverse.takeWhile (fun c => decide (c ≠ '\n')) = [] := by
    rcases hfront with rfl | ⟨f, rfl⟩
    · rfl
    · rw [List.reverse_append, List.reverse_singleton, List.singleton_append,
        List.takeWhile_cons_of_neg (by decide)]
  change ((front ++ last).reverse.takeWhile fun c => decide (c ≠ '\n')).reverse = last
  rw [List.reverse_append, List.takeWhile_append_of_pos hall, hnone, List.append_nil,
    List.reverse_reverse]

/-- The starts of lines are in ascending order from 0 on. The position of an offset is counted up to the
greatest boundary that is not beyond it: its line is the number of line feeds in front of the boundary, and
its column the width of what stands there behind the last of them. Both fit into 32 bits if the length of
the text does. The line is found in the starts, and the slice that is measured starts there. -/
theorem positionAt_by_counting (t : IndexedText) :
    t.starts[0]? = some 0 ∧ t.starts.toList.Pairwise (· < ·) ∧
    ∀ offset, ∃ pre post, t.text = pre ++ post ∧
      IsGreatest (boundariesUpTo t.text offset) (byteLength pre) ∧
      t.positionAt offset = ⟨pre.count '\n', unitLength (pre.rtakeWhile (· ≠ '\n'))⟩ ∧
      (byteLength t.text < UInt32.size → (t.positionAt offset).line < UInt32.size ∧
        (t.positionAt offset).character < UInt32.size) ∧
      ∃ start, t.FindsLine (byteLength pre) start ∧
        slice start (byteLength pre) t.text = pre.rtakeWhile (· ≠ '\n') := by
  refine ⟨?_, t.pairwise_starts, ?_⟩
  · rw [← Array.getElem?_toList, t.toList_starts, List.getElem?_cons_zero]
  intro offset
  obtain ⟨pre, post, htext, hfloor⟩ := isBoundary_floorBoundary offset t.text
  have hgreatest := isGreatest_floorBoundary offset t.text
  have hbounded := t.positionAt_le_byteLength offset
  rw [hfloor] at hgreatest
  obtain ⟨front, last, rfl, hfront, hlast⟩ := exists_lastLine pre
  refine ⟨front ++ last, post, htext, hgreatest, ?_, ?_, byteLength front, ?_, ?_⟩
  · have hposition := positionAt_eq post hfront hlast
    rw [← List.append_assoc, ← htext, ← t.eq_ofText, ← byteLength_append, ← hfloor,
      t.positionAt_floorBoundary] at hposition
    rw [hposition, rtakeWhile_of_endsLine hfront hlast, List.count_append,
      List.count_eq_zero.2 hlast, Nat.add_zero]
  · intro hsize
    omega
  · rw [List.append_assoc] at htext
    exact IndexedText.findsLine htext hfront hlast
  · rw [htext, List.append_assoc, byteLength_append, slice_append, rtakeWhile_of_endsLine hfront hlast]

/-- An offset inside of the last character of a line, and one beyond the text. -/
theorem positionAt_by_counting_returnedLines :
    let t := IndexedText.ofText returnedLines
    byteLength returnedLines < UInt32.size ∧
    (∃ pre post, returnedLines = pre ++ post ∧
      IsGreatest (boundariesUpTo returnedLines 8) (byteLength pre) ∧
      pre.count '\n' = 1 ∧ unitLength (pre.rtakeWhile (· ≠ '\n')) = 2 ∧
      ∃ start, t.FindsLine (byteLength pre) start) ∧
    (t.positionAt 99).line < UInt32.size ∧ (t.positionAt 99).character < UInt32.size := by
  intro t
  obtain ⟨-, -, hcounting⟩ := positionAt_by_counting t
  have hsize : byteLength t.text < UInt32.size := by decide
  have hposition : t.positionAt 8 = ⟨1, 2⟩ := by decide +kernel
  obtain ⟨pre, post, htext, hgreatest, hcounted, -, start, hfinds, -⟩ := hcounting 8
  obtain ⟨-, -, -, -, -, hfits, -⟩ := hcounting 99
  rw [hposition, Position.mk.injEq] at hcounted
  exact ⟨hsize, ⟨pre, post, htext, hgreatest, hcounted.1.symm, hcounted.2.symm, start, hfinds⟩, hfits hsize⟩

/-! ## Contents and gaps -/

/-- How the content of a line may end: with an ending behind it and no carriage return before the ending,
or with a carriage return and the ending behind it. -/
def EndsIn (ending content gap : List Char) : Prop :=
  (gap = ending ∧ content.getLast? ≠ some '\r') ∨ gap = '\r' :: ending

namespace IndexedText

/-- The content of a line. -/
def lineText (t : IndexedText) (i : Nat) : List Char :=
  ((t.lineBounds i).map fun bounds => slice bounds.1 bounds.2 t.text).getD []

/-- The offset at which the next line starts, or that of the end of the text. -/
def nextStart (t : IndexedText) (i : Nat) : Nat :=
  ((t.lineBounds (i + 1)).map Prod.fst).getD (byteLength t.text)

/-- What stands between the content of a line and the next line, or the end of the text. -/
def lineGap (t : IndexedText) (i : Nat) : List Char :=
  ((t.lineBounds i).map fun bounds => slice bounds.2 (t.nextStart i) t.text).getD []

end IndexedText

namespace Line

variable {t : IndexedText} {i : Nat}

/-- The line feed behind a line, if there is one. -/
def ending {text : List Char} (l : Line text i) : List Char := l.rest.take 1

theorem lineCount_eq (l : Line t.text i) : t.lineCount = i + l.rest.count '\n' + 1 := by
  rw [t.lineCount_eq, l.count_text]

theorem exists_rest (l : Line t.text i) (h : i + 1 < t.lineCount) : ∃ p, l.rest = '\n' :: p := by
  rcases l.rest_eq with hrest | hrest
  · have hcount := l.lineCount_eq
    rw [hrest, List.count_nil] at hcount
    omega
  · exact hrest

/-- Nothing stands behind the last line. -/
theorem rest_eq_nil (l : Line t.text i) (h : t.lineCount ≤ i + 1) : l.rest = [] := by
  rcases l.rest_eq with hrest | ⟨p, hrest⟩
  · exact hrest
  · have hcount := l.lineCount_eq
    rw [hrest, List.count_cons_self] at hcount
    omega

/-- All lines but the last end with a line feed. -/
theorem ending_eq (l : Line t.text i) :
    l.ending = if i + 1 < t.lineCount then ['\n'] else [] := by
  unfold ending
  split
  · next h =>
    obtain ⟨p, hrest⟩ := l.exists_rest h
    rw [hrest, List.take_succ_cons, List.take_zero]
  · next h => rw [l.rest_eq_nil (by omega), List.take_nil]

/-- What a line leaves out, and its ending, are the gap behind its content. -/
theorem exists_gap {text : List Char} (l : Line text i) :
    ∃ gap, l.chars ++ l.ending = l.content ++ gap ∧ EndsIn l.ending l.content gap := by
  have hcontent : l.content = lineContent l.chars := rfl
  rcases lineContent_cases l.chars with ⟨hlast, hchars⟩ | hchars
  · rw [← hcontent] at hchars
    rw [hchars] at hlast
    exact ⟨l.ending, by rw [← hchars], .inl ⟨rfl, hlast⟩⟩
  · rw [← hcontent] at hchars
    exact ⟨'\r' :: l.ending, by rw [hchars]; simp, .inr rfl⟩

theorem text_eq_ending {text : List Char} (l : Line text i) :
    text = l.front ++ ((l.chars ++ l.ending) ++ l.rest.drop 1) := by
  apply l.text_eq.trans
  rw [List.append_assoc l.chars, ending, List.take_append_drop]

theorem nextStart_eq (l : Line t.text i) :
    t.nextStart i = byteLength (l.front ++ (l.chars ++ l.ending)) := by
  by_cases h : i + 1 < t.lineCount
  · obtain ⟨p, hrest⟩ := l.exists_rest h
    obtain ⟨l', hfront⟩ := l.exists_next hrest
    rw [IndexedText.nextStart, l'.lineBounds_eq, Option.map_some, Option.getD_some, start, hfront,
      l.ending_eq, if_pos h]
  · have hend := congrArg byteLength l.text_eq_ending
    rw [l.rest_eq_nil (by omega), List.drop_nil, List.append_nil] at hend
    rw [IndexedText.nextStart, IndexedText.lineBounds_of_le (by omega)]
    exact hend

/-- The text of a line is its content. -/
theorem lineText_eq (l : Line t.text i) : t.lineText i = l.content := by
  unfold IndexedText.lineText
  rw [l.lineBounds_eq, Option.map_some, Option.getD_some]
  exact l.slice_after (List.nil_append l.content).symm

/-- The gap behind a line is what is left up to the next one. -/
theorem lineGap_eq (l : Line t.text i) {gap : List Char} (h : l.chars ++ l.ending = l.content ++ gap) :
    t.lineGap i = gap ∧ Sliceable t.text l.stop (t.nextStart i) := by
  have htext : t.text = (l.front ++ l.content) ++ (gap ++ l.rest.drop 1) := by
    apply l.text_eq_ending.trans
    rw [h]
    simp
  have hnext : t.nextStart i = byteLength ((l.front ++ l.content) ++ gap) := by
    rw [l.nextStart_eq, h, List.append_assoc]
  constructor
  · unfold IndexedText.lineGap
    rw [l.lineBounds_eq, Option.map_some, Option.getD_some, hnext, stop, congrArg (slice _ _) htext,
      byteLength_append _ gap, slice_append]
  · have hslice := sliceable_append (l.front ++ l.content) gap (l.rest.drop 1)
    rw [← htext, ← hnext] at hslice
    exact hslice

/-- The content of a line and the gap behind it reach up to the next line. -/
theorem lineText_append_lineGap (l : Line t.text i) :
    t.lineText i ++ t.lineGap i = l.chars ++ l.ending := by
  obtain ⟨gap, hgap, -⟩ := l.exists_gap
  rw [l.lineText_eq, (l.lineGap_eq hgap).1, hgap]

end Line

namespace IndexedText

variable {t : IndexedText} {i : Nat}

/-- The lines in front of a line, with their gaps, are what stands in front of it. -/
theorem exists_line_flatMap (h : i < t.lineCount) :
    ∃ l : Line t.text i, (List.range i).flatMap (fun j => t.lineText j ++ t.lineGap j) = l.front := by
  induction i with
  | zero =>
    obtain ⟨l, hfront⟩ := exists_firstLine t.text
    exact ⟨l, hfront.symm⟩
  | succ i ih =>
    obtain ⟨l, hfront⟩ := ih (by omega)
    obtain ⟨p, hrest⟩ := l.exists_rest h
    obtain ⟨l', hnext⟩ := l.exists_next hrest
    refine ⟨l', ?_⟩
    rw [List.range_succ, List.flatMap_append, hfront, List.flatMap_singleton,
      l.lineText_append_lineGap, l.ending_eq, if_pos h, hnext]

/-- The texts and the gaps of all lines make up the text. -/
theorem flatMap_lines (t : IndexedText) :
    (List.range t.lineCount).flatMap (fun i => t.lineText i ++ t.lineGap i) = t.text := by
  have hcount := t.lineCount_eq
  obtain ⟨l, hfront⟩ := exists_line_flatMap (t := t) (i := t.text.count '\n') (by omega)
  have htext := l.text_eq_ending
  rw [l.rest_eq_nil (by omega), List.drop_nil, List.append_nil] at htext
  rw [hcount, List.range_succ, List.flatMap_append, hfront, List.flatMap_singleton,
    l.lineText_append_lineGap]
  exact htext.symm

end IndexedText

/-- A text has one line more than line feeds, and these lines have bounds. The content of each line has no
line feed in it, and the contents and the gaps behind them make up the text. The gap between two lines is a
line feed, which is not behind a carriage return, or a carriage return and a line feed, and the gap behind
the last line is the same without the line feed. All bounds and starts of lines are boundaries, in order. -/
theorem lines_partition_text (t : IndexedText) :
    t.lineCount = t.text.count '\n' + 1 ∧
    (∀ i, (t.lineBounds i).isSome = true ↔ i < t.lineCount) ∧
    (List.range t.lineCount).flatMap (fun i => t.lineText i ++ t.lineGap i) = t.text ∧
    ∀ i, i < t.lineCount → ∃ start stop, t.lineBounds i = some (start, stop) ∧
      Sliceable t.text start stop ∧ Sliceable t.text stop (t.nextStart i) ∧
      '\n' ∉ t.lineText i ∧
      EndsIn (if i + 1 < t.lineCount then ['\n'] else []) (t.lineText i) (t.lineGap i) := by
  refine ⟨t.lineCount_eq, ?_, t.flatMap_lines, ?_⟩
  · intro i
    by_cases hi : i < t.lineCount
    · obtain ⟨l⟩ := IndexedText.nonempty_line_of_lt hi
      rw [l.lineBounds_eq]
      simp [hi]
    · rw [IndexedText.lineBounds_of_le (by omega)]
      simp [hi]
  · intro i hi
    obtain ⟨l⟩ := IndexedText.nonempty_line_of_lt hi
    obtain ⟨gap, hgap, hends⟩ := l.exists_gap
    obtain ⟨hlineGap, hslice⟩ := l.lineGap_eq hgap
    refine ⟨l.start, l.stop, l.lineBounds_eq, l.sliceable, hslice, ?_, ?_⟩
    · rw [l.lineText_eq]
      exact l.notMem_content
    · rw [← l.ending_eq, l.lineText_eq, hlineGap]
      exact hends

/-- A line with two carriage returns behind it, an empty one, and one with a carriage return only. -/
def returnRuns : List Char := "a\r\r\n\n\r".toList

theorem lines_partition_text_returnRuns :
    let t := IndexedText.ofText returnRuns
    (0 < t.lineCount ∧ ∃ start stop, t.lineBounds 0 = some (start, stop) ∧
      Sliceable returnRuns start stop ∧ '\n' ∉ ['a', '\r'] ∧ EndsIn ['\n'] ['a', '\r'] ['\r', '\n']) ∧
    (1 < t.lineCount ∧ EndsIn ['\n'] [] ['\n']) ∧
    (2 < t.lineCount ∧ EndsIn [] [] ['\r']) := by
  intro t
  obtain ⟨-, -, -, hlines⟩ := lines_partition_text t
  have hcount : t.lineCount = 3 := by decide
  have htexts : t.lineText 0 = ['a', '\r'] ∧ t.lineText 1 = [] ∧ t.lineText 2 = [] := by decide
  have hgaps : t.lineGap 0 = ['\r', '\n'] ∧ t.lineGap 1 = ['\n'] ∧ t.lineGap 2 = ['\r'] := by decide
  obtain ⟨start, stop, hbounds, hslice, -, hfeed, hends₀⟩ := hlines 0 (by omega)
  obtain ⟨-, -, -, -, -, -, hends₁⟩ := hlines 1 (by omega)
  obtain ⟨-, -, -, -, -, -, hends₂⟩ := hlines 2 (by omega)
  rw [htexts.1] at hfeed
  rw [htexts.1, hgaps.1, hcount, if_pos (by omega)] at hends₀
  rw [htexts.2.1, hgaps.2.1, hcount, if_pos (by omega)] at hends₁
  rw [htexts.2.2, hgaps.2.2, hcount, if_neg (by omega)] at hends₂
  rw [hcount]
  exact ⟨⟨by omega, start, stop, hbounds, hslice, hfeed, hends₀⟩, ⟨by omega, hends₁⟩, by omega, hends₂⟩

end StatementLens
