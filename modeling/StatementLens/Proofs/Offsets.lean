import Mathlib.Data.Set.Basic
import StatementLens.Proofs.Positions
import StatementLens.Proofs.Slices

/-!
# Offsets of positions

An editor may name any line and any column. A column leads to the first boundary of the content of its
line that it is not beyond, or else to the end of the content, and a line that the text does not have
leads to the end of the text. So offsets are boundaries, come in the order of their positions, and are
the ones that their own positions lead back to.
-/

namespace StatementLens

open Text

/-- The table of a text is the one that is made for it. -/
theorem IndexedText.eq_ofText (t : IndexedText) : t = .ofText t.text := by
  obtain ⟨text, starts, rfl⟩ := t
  rfl

/-! ## Lines -/

/-- A line of a text, without its line feed, and what stands in front of it and behind it. -/
structure Line (text : List Char) (i : Nat) where
  front : List Char
  chars : List Char
  rest : List Char
  text_eq : text = front ++ (chars ++ rest)
  endsLine_front : EndsLine front
  count_front : front.count '\n' = i
  notMem_chars : '\n' ∉ chars
  rest_eq : rest = [] ∨ ∃ p, rest = '\n' :: p

/-- Every text has a first line. -/
theorem exists_firstLine (text : List Char) : ∃ l : Line text 0, l.front = [] := by
  obtain ⟨chars, rest, rfl, hchars, hrest⟩ := exists_lineEnd text
  exact ⟨⟨[], chars, rest, rfl, .inl rfl, rfl, hchars, hrest⟩, rfl⟩

namespace Line

variable {text : List Char} {i : Nat}

/-- As many line feeds are in front of a line as its number says. -/
theorem count_text (l : Line text i) : text.count '\n' = i + l.rest.count '\n' := by
  have hcount := congrArg (List.count '\n') l.text_eq
  rw [List.count_append, List.count_append, l.count_front, List.count_eq_zero.2 l.notMem_chars,
    Nat.zero_add] at hcount
  exact hcount

/-- The next line starts behind the line feed. -/
theorem exists_next (l : Line text i) {p : List Char} (h : l.rest = '\n' :: p) :
    ∃ l' : Line text (i + 1), l'.front = l.front ++ (l.chars ++ ['\n']) := by
  obtain ⟨chars, rest, rfl, hchars, hends⟩ := exists_lineEnd p
  refine ⟨⟨l.front ++ (l.chars ++ ['\n']), chars, rest, ?_, ?_, ?_, hchars, hends⟩, rfl⟩
  · apply l.text_eq.trans
    rw [h]
    simp
  · exact .inr ⟨l.front ++ l.chars, by simp⟩
  · rw [List.count_append, List.count_append, List.count_singleton_self, l.count_front,
      List.count_eq_zero.2 l.notMem_chars]

end Line

/-- A text has one line more than line feeds. -/
theorem nonempty_line {text : List Char} {i : Nat} (h : i ≤ text.count '\n') :
    Nonempty (Line text i) := by
  induction i with
  | zero =>
    obtain ⟨l, -⟩ := exists_firstLine text
    exact ⟨l⟩
  | succ i ih =>
    obtain ⟨l⟩ := ih (by omega)
    have hcount := l.count_text
    rcases l.rest_eq with hrest | ⟨p, hrest⟩
    · rw [hrest, List.count_nil] at hcount
      omega
    · obtain ⟨l', -⟩ := l.exists_next hrest
      exact ⟨l'⟩

namespace IndexedText

/-- There is one line more than line feeds. -/
theorem lineCount_eq (t : IndexedText) : t.lineCount = t.text.count '\n' + 1 := by
  unfold lineCount
  rw [t.starts_eq, lineStarts_eq]
  simp [length_startsFrom]

/-- Each number below the count is that of a line. -/
theorem nonempty_line_of_lt {t : IndexedText} {i : Nat} (h : i < t.lineCount) :
    Nonempty (Line t.text i) := by
  rw [t.lineCount_eq] at h
  exact nonempty_line (by omega)

/-- Other numbers have no bounds. -/
theorem lineBounds_of_le {t : IndexedText} {i : Nat} (h : t.lineCount ≤ i) :
    t.lineBounds i = none := by
  have hnone : t.starts[i]? = none := Array.getElem?_eq_none h
  unfold lineBounds
  simp only [hnone]

/-- A position behind the last line is at the end of the text. -/
theorem offsetAt_of_le {t : IndexedText} {p : Position} (h : t.lineCount ≤ p.line) :
    t.offsetAt p = byteLength t.text := by
  unfold offsetAt
  simp only [lineBounds_of_le h]

end IndexedText

namespace Line

variable {text : List Char} {t : IndexedText} {i : Nat}

/-- The content of a line. -/
def content (l : Line text i) : List Char := lineContent l.chars

/-- The offset at which a line starts. -/
def start (l : Line text i) : Nat := byteLength l.front

/-- The offset at which the content of a line stops. -/
def stop (l : Line text i) : Nat := byteLength (l.front ++ l.content)

theorem stop_eq (l : Line text i) : l.stop = l.start + byteLength l.content :=
  byteLength_append l.front l.content

/-- The content of a line has no line feed. -/
theorem notMem_content (l : Line text i) : '\n' ∉ l.content :=
  notMem_lineContent l.notMem_chars

/-- The text as what stands in front of the content of a line, the content and what follows. -/
theorem exists_text_eq (l : Line text i) :
    ∃ rest, text = l.front ++ (l.content ++ rest) := by
  have htext := l.text_eq
  rcases lineContent_cases l.chars with ⟨-, hchars⟩ | hchars
  · rw [hchars] at htext
    exact ⟨l.rest, htext⟩
  · rw [hchars, List.append_assoc] at htext
    exact ⟨['\r'] ++ l.rest, htext⟩

/-- The content of a line is a slice. -/
theorem sliceable (l : Line text i) : Sliceable text l.start l.stop := by
  obtain ⟨rest, htext⟩ := l.exists_text_eq
  have hslice := sliceable_append l.front l.content rest
  rw [← htext] at hslice
  exact hslice

/-- The bounds of a line are where its content starts and stops. -/
theorem lineBounds_eq (l : Line t.text i) : t.lineBounds i = some (l.start, l.stop) := by
  have hbounds := StatementLens.lineBounds_eq l.endsLine_front l.notMem_chars l.rest_eq
  rw [← l.text_eq, l.count_front, ← t.eq_ofText, ← byteLength_append] at hbounds
  exact hbounds

/-- A position in a line is as many bytes behind its start as stand in front of the column. -/
theorem offsetAt_eq (l : Line t.text i) (u : Nat) :
    t.offsetAt ⟨i, u⟩ = l.start + bytesBefore u l.content := by
  have hoffset := StatementLens.offsetAt_eq u l.endsLine_front l.notMem_chars l.rest_eq
  rw [← l.text_eq, l.count_front, ← t.eq_ofText] at hoffset
  exact hoffset

/-- A place in the content of a line has the width of what is in front of it as its column. -/
theorem positionAt_eq (l : Line t.text i) {before after : List Char}
    (h : l.content = before ++ after) :
    t.positionAt (l.start + byteLength before) = ⟨i, unitLength before⟩ := by
  obtain ⟨rest, htext⟩ := l.exists_text_eq
  have hbefore : '\n' ∉ before := by
    intro hmem
    apply l.notMem_content
    rw [h]
    exact List.mem_append_left after hmem
  have hposition := StatementLens.positionAt_eq (after ++ rest) l.endsLine_front hbefore
  rw [h, List.append_assoc] at htext
  rw [← htext, l.count_front, ← t.eq_ofText] at hposition
  exact hposition

/-- The position of a place in the content of a line leads back to the place. -/
theorem offsetAt_positionAt (l : Line t.text i) {before after : List Char}
    (h : l.content = before ++ after) :
    t.offsetAt (t.positionAt (l.start + byteLength before)) = l.start + byteLength before := by
  rw [l.positionAt_eq h, l.offsetAt_eq, h, bytesBefore_append]

/-- The place of a position in its line. -/
theorem exists_offsetAt {p : Position} (l : Line t.text p.line) :
    ∃ before after, l.content = before ++ after ∧ t.offsetAt p = l.start + byteLength before := by
  obtain ⟨before, after, hcontent, hbytes, -, -⟩ := exists_bytesBefore p.character l.content
  refine ⟨before, after, hcontent, ?_⟩
  rw [← hbytes]
  exact l.offsetAt_eq p.character

/-- A position is not in front of its line. -/
theorem start_le_offsetAt {p : Position} (l : Line t.text p.line) : l.start ≤ t.offsetAt p := by
  have hoffset : t.offsetAt p = l.start + bytesBefore p.character l.content :=
    l.offsetAt_eq p.character
  omega

/-- Nor is it behind the content. -/
theorem offsetAt_le_stop {p : Position} (l : Line t.text p.line) : t.offsetAt p ≤ l.stop := by
  obtain ⟨before, after, hcontent, hoffset⟩ := l.exists_offsetAt
  have hstop := l.stop_eq
  rw [hcontent, byteLength_append] at hstop
  omega

/-- An offset is a boundary of the content of a line if and only if it splits the content. -/
theorem isBoundary_iff (l : Line text i) {n : Nat} :
    (IsBoundary text n ∧ l.start ≤ n ∧ n ≤ l.stop) ↔
      ∃ before after, l.content = before ++ after ∧ n = l.start + byteLength before := by
  obtain ⟨rest, htext⟩ := l.exists_text_eq
  constructor
  · intro h
    obtain ⟨hboundary, hstart, hstop⟩ := h
    rw [htext] at hboundary
    obtain ⟨before, after, hcontent, hn⟩ := hboundary.exists_between hstart hstop
    rw [byteLength_append] at hn
    exact ⟨before, after, hcontent, hn⟩
  · intro h
    obtain ⟨before, after, hcontent, rfl⟩ := h
    refine ⟨⟨l.front ++ before, after ++ rest, ?_, (byteLength_append _ _).symm⟩, ?_, ?_⟩
    · apply htext.trans
      rw [hcontent]
      simp
    · exact Nat.le_add_right _ _
    · rw [l.stop_eq, hcontent, byteLength_append]
      omega

/-- The slice between two places in the content of a line is the part between them. -/
theorem slice_eq (l : Line text i) {a b c : List Char}
    (h : l.content = a ++ (b ++ c)) :
    slice (l.start + byteLength a) (l.start + byteLength (a ++ b)) text = b := by
  obtain ⟨rest, htext⟩ := l.exists_text_eq
  have hslice := slice_append (l.front ++ a) b (c ++ rest)
  have hsplit : (l.front ++ a) ++ (b ++ (c ++ rest)) = text := by
    apply Eq.trans _ htext.symm
    rw [h]
    simp
  rw [hsplit, byteLength_append, Nat.add_assoc, ← byteLength_append a] at hslice
  exact hslice

/-- What stands in front of a place in a line is a slice. -/
theorem slice_before (l : Line text i) {before after : List Char}
    (h : l.content = before ++ after) : slice l.start (l.start + byteLength before) text = before :=
  l.slice_eq (a := []) h

/-- So is what stands behind it. -/
theorem slice_after (l : Line text i) {before after : List Char}
    (h : l.content = before ++ after) : slice (l.start + byteLength before) l.stop text = after := by
  rw [l.stop_eq, h]
  exact l.slice_eq (c := []) (by rw [h, List.append_nil])

/-- A line stops before a later one starts. -/
theorem stop_le_start {j : Nat} (l : Line text i) (l' : Line text j)
    (h : i < j) : l.stop ≤ l'.start := by
  have hcontent : byteLength l.content ≤ byteLength l.chars := byteLength_lineContent l.chars
  have hsplit : (l.front ++ l.chars) ++ l.rest = l'.front ++ (l'.chars ++ l'.rest) := by
    rw [← l'.text_eq, List.append_assoc]
    exact l.text_eq.symm
  unfold stop start
  rw [byteLength_append]
  rcases List.append_eq_append_iff.1 hsplit with ⟨m, hm, -⟩ | ⟨m, hm, -⟩
  · rw [hm, byteLength_append, byteLength_append]
    omega
  · -- the line feeds in front of the later line cannot all be in front of the earlier one
    have hcount := congrArg (List.count '\n') hm
    have hchars := List.count_eq_zero.2 l.notMem_chars
    have hfront := l.count_front
    have hfront' := l'.count_front
    rw [List.count_append, List.count_append] at hcount
    omega

end Line

/-! ## Columns -/

/-- The boundaries between two offsets that `column` is not beyond. -/
def boundariesReaching (cs : List Char) (start stop column : Nat) : Set Nat :=
  {n | IsBoundary cs n ∧ start ≤ n ∧ n ≤ stop ∧ column ≤ unitLength (slice start n cs)}

namespace Line

variable {t : IndexedText}

/-- The boundaries that reach a column split the content. -/
theorem mem_boundariesReaching_iff {text : List Char} {i u n : Nat} (l : Line text i) :
    n ∈ boundariesReaching text l.start l.stop u ↔
      ∃ before after, l.content = before ++ after ∧ n = l.start + byteLength before ∧
        u ≤ unitLength before := by
  constructor
  · intro h
    obtain ⟨hboundary, hstart, hstop, hwide⟩ := h
    obtain ⟨before, after, hcontent, rfl⟩ := l.isBoundary_iff.1 ⟨hboundary, hstart, hstop⟩
    rw [l.slice_before hcontent] at hwide
    exact ⟨before, after, hcontent, rfl, hwide⟩
  · intro h
    obtain ⟨before, after, hcontent, rfl, hwide⟩ := h
    obtain ⟨hboundary, hstart, hstop⟩ := l.isBoundary_iff.2 ⟨before, after, hcontent, rfl⟩
    refine ⟨hboundary, hstart, hstop, ?_⟩
    rw [l.slice_before hcontent]
    exact hwide

/-- A column leads to the least boundary of the content of its line that it is not beyond, and to the
end of the content if it is beyond all of them. -/
theorem offsetAt_cases {p : Position} (l : Line t.text p.line) :
    IsLeast (boundariesReaching t.text l.start l.stop p.character) (t.offsetAt p) ∨
      (boundariesReaching t.text l.start l.stop p.character = ∅ ∧ t.offsetAt p = l.stop) := by
  obtain ⟨before, after, hcontent, hbytes, hwide, hleast⟩ :=
    exists_bytesBefore p.character l.content
  have hoffset : t.offsetAt p = l.start + byteLength before := by
    rw [← hbytes]
    exact l.offsetAt_eq p.character
  by_cases hreached : p.character ≤ unitLength before
  · left
    refine ⟨l.mem_boundariesReaching_iff.2 ⟨before, after, hcontent, hoffset, hreached⟩, ?_⟩
    intro n hn
    obtain ⟨other, rest, hsplit, rfl, hother⟩ := l.mem_boundariesReaching_iff.1 hn
    have hle := hleast other rest hsplit hother
    omega
  · right
    have hnil : after = [] := hwide.resolve_left hreached
    rw [hnil, List.append_nil] at hcontent
    constructor
    · apply Set.eq_empty_of_forall_notMem
      intro n hn
      -- no beginning of the content is wider than the content
      obtain ⟨other, rest, hsplit, -, hother⟩ := l.mem_boundariesReaching_iff.1 hn
      rw [← hcontent, hsplit, unitLength_append] at hreached
      omega
    · rw [hoffset, l.stop_eq, hcontent]

end Line

namespace IndexedText

/-- A position always leads to a boundary. -/
theorem isBoundary_offsetAt (t : IndexedText) (p : Position) : IsBoundary t.text (t.offsetAt p) := by
  by_cases h : p.line < t.lineCount
  · obtain ⟨l⟩ := nonempty_line_of_lt h
    exact (l.isBoundary_iff.2 l.exists_offsetAt).1
  · rw [offsetAt_of_le (by omega)]
    have hend := isBoundary_append t.text []
    rw [List.append_nil] at hend
    exact hend

/-- Later positions lead to later offsets. -/
theorem offsetAt_mono (t : IndexedText) {p q : Position} (h : p ≤ q) :
    t.offsetAt p ≤ t.offsetAt q := by
  by_cases hq : q.line < t.lineCount
  · obtain ⟨l'⟩ := nonempty_line_of_lt hq
    rcases h with hlt | ⟨heq, hle⟩
    · obtain ⟨l⟩ : Nonempty (Line t.text p.line) := nonempty_line_of_lt (by omega)
      calc t.offsetAt p ≤ l.stop := l.offsetAt_le_stop
        _ ≤ l'.start := l.stop_le_start l' hlt
        _ ≤ t.offsetAt q := l'.start_le_offsetAt
    · have hp : t.offsetAt p = l'.start + bytesBefore p.character l'.content := by
        rw [← l'.offsetAt_eq p.character, ← heq]
      have hoffset : t.offsetAt q = l'.start + bytesBefore q.character l'.content :=
        l'.offsetAt_eq q.character
      have hbytes := bytesBefore_mono hle l'.content
      omega
  · rw [offsetAt_of_le (p := q) (by omega)]
    exact (t.isBoundary_offsetAt p).le_byteLength

end IndexedText

/-- The offset of a position is the least boundary of the content of its line that its column is not
beyond, or the end of the content if there is none, and the end of the text if there is no such line.
So it is a boundary of the text, and it grows with the position. -/
theorem offsetAt_least_boundary (t : IndexedText) :
    (∀ p : Position, p.line < t.lineCount → ∃ l : Line t.text p.line,
      t.lineBounds p.line = some (l.start, l.stop) ∧
      (IsLeast (boundariesReaching t.text l.start l.stop p.character) (t.offsetAt p) ∨
        (boundariesReaching t.text l.start l.stop p.character = ∅ ∧ t.offsetAt p = l.stop))) ∧
    (∀ p : Position, t.lineCount ≤ p.line → t.offsetAt p = byteLength t.text) ∧
    (∀ p, IsBoundary t.text (t.offsetAt p) ∧ t.offsetAt p ≤ byteLength t.text) ∧
    ∀ p q, p ≤ q → t.offsetAt p ≤ t.offsetAt q := by
  refine ⟨?_, ?_, ?_, ?_⟩
  · intro p hp
    obtain ⟨l⟩ := IndexedText.nonempty_line_of_lt hp
    exact ⟨l, l.lineBounds_eq, l.offsetAt_cases⟩
  · intro p hp
    exact IndexedText.offsetAt_of_le hp
  · intro p
    have hboundary := t.isBoundary_offsetAt p
    exact ⟨hboundary, hboundary.le_byteLength⟩
  · intro p q hpq
    exact t.offsetAt_mono hpq

/-- Lines that end in carriage returns, with a surrogate pair in one of them. -/
def returnedLines : List Char := "a\r\n😀é\r\nb\r".toList

/-- A column inside of a surrogate pair, and a line that is not there. -/
theorem offsetAt_least_boundary_returnedLines :
    1 < (IndexedText.ofText returnedLines).lineCount ∧
    (∃ l : Line returnedLines 1,
      (IndexedText.ofText returnedLines).lineBounds 1 = some (l.start, l.stop) ∧
      IsLeast (boundariesReaching returnedLines l.start l.stop 1) 7) ∧
    (IndexedText.ofText returnedLines).lineCount ≤ 3 ∧
    (IndexedText.ofText returnedLines).offsetAt ⟨3, 0⟩ = byteLength returnedLines ∧
    (⟨0, 9⟩ : Position) ≤ ⟨1, 0⟩ ∧
    (IndexedText.ofText returnedLines).offsetAt ⟨0, 9⟩
      ≤ (IndexedText.ofText returnedLines).offsetAt ⟨1, 0⟩ := by
  obtain ⟨hline, hnone, -, hmono⟩ := offsetAt_least_boundary (.ofText returnedLines)
  have hexists : 1 < (IndexedText.ofText returnedLines).lineCount := by decide
  have hbeyond : (IndexedText.ofText returnedLines).lineCount ≤ 3 := by decide
  have hbounds : (IndexedText.ofText returnedLines).lineBounds 1 = some (3, 9) := by decide
  have hoffset : (IndexedText.ofText returnedLines).offsetAt ⟨1, 1⟩ = 7 := by decide
  refine ⟨hexists, ?_, hbeyond, hnone ⟨3, 0⟩ hbeyond, by decide, hmono _ _ (by decide)⟩
  obtain ⟨l, hl, hleast | ⟨-, hstop⟩⟩ := hline ⟨1, 1⟩ hexists
  · rw [hoffset] at hleast
    exact ⟨l, hl, hleast⟩
  · -- the column is within the line, so it does not lead to its end
    have hstop' : l.stop = 9 := by
      rw [hbounds] at hl
      simp only [Option.some.injEq, Prod.mk.injEq] at hl
      exact hl.2.symm
    omega

/-! ## Round trips -/

namespace IndexedText

theorem positionAt_floorBoundary (t : IndexedText) (n : Nat) :
    t.positionAt (floorBoundary n t.text) = t.positionAt n := by
  have hfloor : floorBoundary (floorBoundary n t.text) t.text = floorBoundary n t.text :=
    isBoundary_iff_floorBoundary_eq.1 (isBoundary_floorBoundary n t.text)
  unfold positionAt
  simp only [hfloor]

/-- A position is never greater than the text is long. -/
theorem positionAt_le_byteLength (t : IndexedText) (n : Nat) :
    (t.positionAt n).line ≤ byteLength t.text ∧ (t.positionAt n).character ≤ byteLength t.text := by
  obtain ⟨pre, post, htext, hfloor⟩ := isBoundary_floorBoundary n t.text
  obtain ⟨front, last, rfl, hfront, hlast⟩ := exists_lastLine pre
  have hposition := positionAt_eq post hfront hlast
  rw [List.append_assoc] at htext
  rw [← htext, ← t.eq_ofText, ← byteLength_append, ← hfloor, positionAt_floorBoundary] at hposition
  have hline : front.count '\n' ≤ byteLength front :=
    List.count_le_length.trans (length_le_byteLength front)
  have hcharacter := unitLength_le_byteLength last
  rw [hposition, htext, byteLength_append, byteLength_append]
  constructor
  · show front.count '\n' ≤ _
    omega
  · show unitLength last ≤ _
    omega

end IndexedText

/-- Just behind a carriage return that its line leaves out, a position leads back in front of it. -/
theorem offsetAt_positionAt_behindReturn {pre post : List Char} (h : BehindReturn pre post) :
    (IndexedText.ofText (pre ++ post)).offsetAt
      ((IndexedText.ofText (pre ++ post)).positionAt (byteLength pre)) = byteLength pre - 1 := by
  obtain ⟨hlast, hpost⟩ := h
  obtain ⟨before, rfl⟩ := List.getLast?_eq_some_iff.1 hlast
  obtain ⟨front, line, rfl, hfront, hline⟩ := exists_lastLine before
  have hreturn : '\n' ∉ line ++ ['\r'] := by simp [hline]
  have hcontent : lineContent (line ++ ['\r']) = line := by
    unfold lineContent
    rw [if_pos (by simp), List.dropLast_concat]
  have hposition := positionAt_eq post hfront hreturn
  have hoffset := offsetAt_eq (unitLength (line ++ ['\r'])) hfront hreturn hpost
  have hclamped : bytesBefore (unitLength (line ++ ['\r'])) line = byteLength line :=
    bytesBefore_of_le (by rw [unitLength_append]; omega)
  have hsize : byteLength ['\r'] = 1 := by decide
  rw [hcontent, hclamped] at hoffset
  simp only [List.append_assoc, byteLength_append, hsize] at hposition hoffset ⊢
  rw [hposition, hoffset]
  omega

/-- An offset comes back from its position unless it is just behind a carriage return that is left out.
-/
theorem offsetAt_positionAt_eq (pre post : List Char) :
    (IndexedText.ofText (pre ++ post)).offsetAt
        ((IndexedText.ofText (pre ++ post)).positionAt (byteLength pre))
      = if BehindReturn pre post then byteLength pre - 1 else byteLength pre := by
  by_cases h : BehindReturn pre post
  · rw [if_pos h, offsetAt_positionAt_behindReturn h]
  · rw [if_neg h, offsetAt_positionAt h]

/-- The position of an offset leads back to the greatest boundary that is not beyond the offset, unless
this is just behind a carriage return at the end of a line or of the text, in front of which it then
leads. Positions tell boundaries apart and keep their order, they are the same for the offsets up to the
next boundary, and a position in a line of the text leads to an offset that is its own round trip. Neither
the line nor the column of a position exceeds the length of the text. -/
theorem position_round_trip (t : IndexedText) :
    (∀ offset, ∃ pre post, t.text = pre ++ post ∧
      IsGreatest (boundariesUpTo t.text offset) (byteLength pre) ∧
      t.positionAt offset = t.positionAt (byteLength pre) ∧
      t.offsetAt (t.positionAt offset)
        = if BehindReturn pre post then byteLength pre - 1 else byteLength pre) ∧
    (∀ m n, IsBoundary t.text m → IsBoundary t.text n → m < n → t.positionAt m < t.positionAt n) ∧
    (∀ p : Position, p.line < t.lineCount →
      t.offsetAt (t.positionAt (t.offsetAt p)) = t.offsetAt p) ∧
    ∀ offset, (t.positionAt offset).line ≤ byteLength t.text ∧
      (t.positionAt offset).character ≤ byteLength t.text := by
  refine ⟨?_, ?_, ?_, t.positionAt_le_byteLength⟩
  · intro offset
    obtain ⟨pre, post, htext, hfloor⟩ := isBoundary_floorBoundary offset t.text
    have hgreatest := isGreatest_floorBoundary offset t.text
    have hposition := t.positionAt_floorBoundary offset
    have htrip := offsetAt_positionAt_eq pre post
    rw [hfloor] at hgreatest hposition
    rw [← htext, ← t.eq_ofText, hposition] at htrip
    exact ⟨pre, post, htext, hgreatest, hposition.symm, htrip⟩
  · intro m n hm hn hlt
    obtain ⟨a, b, hab, rfl⟩ := hm
    obtain ⟨a', b', hab', rfl⟩ := hn
    have hordered := positionAt_lt_of_lt hab hab' hlt
    rw [← t.eq_ofText] at hordered
    exact hordered
  · intro p hp
    obtain ⟨l⟩ := IndexedText.nonempty_line_of_lt hp
    obtain ⟨before, after, hcontent, hoffset⟩ := l.exists_offsetAt
    rw [hoffset, l.offsetAt_positionAt hcontent]

/-- Offsets inside of a surrogate pair and behind carriage returns, and a column inside of the pair. -/
theorem position_round_trip_returnedLines :
    let t := IndexedText.ofText returnedLines
    (t.offsetAt (t.positionAt 5) = 3 ∧ t.offsetAt (t.positionAt 10) = 9 ∧
      t.offsetAt (t.positionAt 20) = 12) ∧
    (IsBoundary returnedLines 9 ∧ IsBoundary returnedLines 10 ∧ t.positionAt 9 < t.positionAt 10) ∧
    1 < t.lineCount ∧ t.offsetAt (t.positionAt (t.offsetAt ⟨1, 1⟩)) = t.offsetAt ⟨1, 1⟩ := by
  intro t
  obtain ⟨-, hordered, htrip, -⟩ := position_round_trip t
  have hstart : IsBoundary returnedLines 9 := by decide
  have hstop : IsBoundary returnedLines 10 := by decide
  have hline : 1 < t.lineCount := by decide
  exact ⟨by decide +kernel, ⟨hstart, hstop, hordered 9 10 hstart hstop (by decide)⟩, hline,
    htrip ⟨1, 1⟩ hline⟩

end StatementLens
