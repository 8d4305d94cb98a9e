import StatementLens.Mapper.Lens
import StatementLens.Proofs.Splices
import StatementLens.Proofs.Url.Percent

/-!
# The cursor in a new statement

After a statement has been inserted, the cursor is placed from the position of the insertion and the
inserted text alone, without a look at the document. It nevertheless always ends up behind the third line
of the inserted text, wherever the position is in its line (`offsetAt_cursorAfterInsert`), and in a skeleton
this is the blank line between the two tags (`cursor_behind_blank_line`). Only at the end of what can be counted
in 32 bits the cursor is lost.
-/

namespace StatementLens

open Text

/-! ## Insertions in a line -/

/-- An insertion at a position of a line splits the content of the line. -/
theorem Line.exists_insertion {t : IndexedText} {p : Position} (l : Line t.text p.line)
    (new : List Char) :
    ∃ before after, t.text = l.front ++ before ++ after ∧ '\n' ∉ before ∧
      t.offsetAt p = byteLength (l.front ++ before) ∧
      applyChanges t.text [⟨some (.emptyAt p), new⟩] = l.front ++ before ++ (new ++ after) := by
  obtain ⟨before, behind, hcontent, hoffset⟩ := l.exists_offsetAt
  obtain ⟨rest, htext⟩ := l.exists_text_eq
  have hsplit : t.text = l.front ++ before ++ (behind ++ rest) := by
    apply htext.trans
    rw [hcontent, List.append_assoc, List.append_assoc]
  have hplace : t.offsetAt p = byteLength (l.front ++ before) := by
    rw [byteLength_append]
    exact hoffset
  refine ⟨before, behind ++ rest, hsplit, ?_, hplace, ?_⟩
  · intro hmem
    apply l.notMem_content
    rw [hcontent]
    exact List.mem_append_left behind hmem
  · -- nothing is removed, for the range is empty
    have hsplice := TextChange.isSplice_apply (.emptyAt p) new t.text
    rw [← t.eq_ofText] at hsplice
    obtain ⟨front, removed, after, hparts, hstart, hstop, hresult⟩ := hsplice
    have hempty : removed = [] := by
      apply eq_nil_of_byteLength_eq_zero
      have hmax : max (t.offsetAt p) (t.offsetAt p) = t.offsetAt p := Nat.max_self _
      rw [byteLength_append] at hstop
      change max (t.offsetAt p) (t.offsetAt p) = _ at hstop
      change t.offsetAt p = _ at hstart
      omega
    rw [hempty, List.nil_append] at hparts
    obtain ⟨hfront, hafter⟩ := append_inj_of_byteLength (hparts.symm.trans hsplit)
      (hstart.symm.trans hplace)
    rw [hfront, hafter] at hresult
    exact hresult

/-! ## The third line of an inserted text -/

/-- A text of at least three lines, of which the third one ends with a line feed. -/
structure ThirdLine (new : List Char) where
  first : List Char
  second : List Char
  third : List Char
  rest : List Char
  text_eq : new = first ++ '\n' :: (second ++ '\n' :: (third ++ '\n' :: rest))
  notMem_first : '\n' ∉ first
  notMem_second : '\n' ∉ second
  notMem_third : '\n' ∉ third

namespace ThirdLine

variable {new : List Char}

/-- What stands in front of the third line. -/
def lead (t : ThirdLine new) : List Char := t.first ++ '\n' :: (t.second ++ ['\n'])

theorem text_eq_lead (t : ThirdLine new) : new = t.lead ++ (t.third ++ '\n' :: t.rest) := by
  apply t.text_eq.trans
  unfold lead
  simp

theorem count_lead (t : ThirdLine new) : t.lead.count '\n' = 2 := by
  have hfirst := List.count_eq_zero.2 t.notMem_first
  have hsecond := List.count_eq_zero.2 t.notMem_second
  unfold lead
  rw [List.count_append, List.count_cons_self, List.count_append, List.count_singleton_self]
  omega

/-- The cursor goes two lines down, to the width of the third line, as long as these can be counted. -/
theorem cursorAfterInsert_eq (t : ThirdLine new) {p : Position} (hline : p.line + 2 < UInt32.size)
    (hwidth : unitLength t.third < UInt32.size) :
    cursorAfterInsert p (String.ofList new) = ⟨p.line + 2, unitLength t.third⟩ := by
  have hpieces : splitOn (· = '\n') new = t.first :: t.second :: t.third :: t.rest.splitOn '\n' := by
    have hnew := congrArg (List.splitOn '\n') t.text_eq
    rw [List.splitOn_append_cons_self, List.splitOn_append_cons_self, List.splitOn_append_cons_self,
      List.splitOn_eq_singleton t.notMem_first, List.splitOn_eq_singleton t.notMem_second,
      List.splitOn_eq_singleton t.notMem_third] at hnew
    rw [splitOn_eq_splitOn]
    exact hnew
  have hthird : (splitOn (· = '\n') new)[2]? = some t.third := by
    rw [hpieces]
    rfl
  unfold cursorAfterInsert
  rw [String.toList_ofList, hthird]
  dsimp only
  rw [Nat.mod_eq_of_lt hline, Nat.mod_eq_of_lt hwidth]

end ThirdLine

/-- The cursor is placed behind the third line of the inserted text, if this does not end with a carriage
return, and the content of the line of the cursor is the third line. -/
theorem offsetAt_cursorAfterInsert {t : IndexedText} {new : List Char} {p : Position}
    (hline : p.line < t.lineCount) (n : ThirdLine new) (hreturn : n.third.getLast? ≠ some '\r')
    (hcounted : p.line + 2 < UInt32.size) (hwidth : unitLength n.third < UInt32.size) :
    let edited := IndexedText.ofText (applyChanges t.text [⟨some (.emptyAt p), new⟩])
    let cursor := cursorAfterInsert p (String.ofList new)
    let offset := edited.offsetAt cursor
    offset = t.offsetAt p + byteLength (n.lead ++ n.third) ∧
      ∃ start, edited.lineBounds cursor.line = some (start, offset) ∧
        slice start offset edited.text = n.third := by
  intro edited cursor offset
  have hcursor : cursor = ⟨p.line + 2, unitLength n.third⟩ := n.cursorAfterInsert_eq hcounted hwidth
  obtain ⟨l⟩ := IndexedText.nonempty_line_of_lt hline
  obtain ⟨before, after, -, hbefore, hplace, hedited⟩ := l.exists_insertion new
  -- the third line starts behind two more line feeds than the line of the position
  have hcount : (l.front ++ before ++ n.lead).count '\n' = p.line + 2 := by
    rw [List.count_append, List.count_append, n.count_lead, l.count_front, List.count_eq_zero.2 hbefore]
  have htext : edited.text = l.front ++ before ++ n.lead ++ (n.third ++ '\n' :: (n.rest ++ after)) := by
    apply hedited.trans
    have hnew := congrArg (fun new => l.front ++ before ++ (new ++ after)) n.text_eq_lead
    simpa using hnew
  let line : Line edited.text (p.line + 2) :=
    { front := l.front ++ before ++ n.lead
      chars := n.third
      rest := '\n' :: (n.rest ++ after)
      text_eq := htext
      endsLine_front :=
        .inr ⟨l.front ++ before ++ (n.first ++ '\n' :: n.second), by simp [ThirdLine.lead]⟩
      count_front := hcount
      notMem_chars := n.notMem_third
      rest_eq := .inr ⟨n.rest ++ after, rfl⟩ }
  have hcontent : line.content = n.third ++ [] := by
    show lineContent n.third = _
    unfold lineContent
    rw [if_neg hreturn, List.append_nil]
  have hoffset : offset = line.start + byteLength n.third := by
    show edited.offsetAt cursor = _
    rw [hcursor, line.offsetAt_eq, hcontent, bytesBefore_append]
  refine ⟨?_, line.start, ?_, ?_⟩
  · have hstart : line.start = t.offsetAt p + byteLength n.lead := by
      show byteLength (l.front ++ before ++ n.lead) = _
      rw [byteLength_append, hplace]
    rw [hoffset, hstart, byteLength_append]
    omega
  · have hline : cursor.line = p.line + 2 := congrArg Position.line hcursor
    rw [hline, line.lineBounds_eq, line.stop_eq, hcontent, List.append_nil, hoffset]
  · rw [hoffset]
    exact line.slice_before hcontent

/-! ## Skeletons -/

/-- A skeleton up to the end of the blank line between its two tags. -/
def skeletonHead (kind : StatementKind) (name : String) : String :=
  "\n    <" ++ kind.elementName ++ " id=\"" ++ name ++ "\">\n          "

/-- A skeleton from the end of the blank line between its two tags on. -/
def skeletonTail (kind : StatementKind) : String := "\n    </" ++ kind.elementName ++ ">\n\n"

theorem skeleton_eq (kind : StatementKind) (name : String) :
    skeleton kind name = skeletonHead kind name ++ skeletonTail kind := by
  apply String.toList_inj.1
  simp [skeleton, skeletonHead, skeletonTail]

/-- The third line of a skeleton is the blank one. -/
def thirdLineOfSkeleton (kind : StatementKind) {name : String} (h : '\n' ∉ name.toList) :
    ThirdLine (skeleton kind name).toList where
  first := []
  second := ("    <" ++ kind.elementName ++ " id=\"" ++ name ++ "\">").toList
  third := "          ".toList
  rest := ("    </" ++ kind.elementName ++ ">\n\n").toList
  text_eq := by simp [skeleton]
  notMem_first := by simp
  notMem_second := by
    have hkind : '\n' ∉ kind.elementName.toList := by cases kind <;> decide
    simp [h, hkind]
  notMem_third := by decide

theorem lead_thirdLineOfSkeleton (kind : StatementKind) {name : String} (h : '\n' ∉ name.toList) :
    (thirdLineOfSkeleton kind h).lead ++ "          ".toList = (skeletonHead kind name).toList := by
  simp [ThirdLine.lead, thirdLineOfSkeleton, skeletonHead]

/-- After a skeleton has been inserted at a position of a line, within the line or beyond its end, the
cursor is at the end of the blank line between the two tags. -/
theorem cursor_behind_blank_line (text : List Char) (p : Position) (kind : StatementKind)
    (name : String) (hline : p.line < (IndexedText.ofText text).lineCount)
    (hcounted : p.line + 2 < UInt32.size) (hname : '\n' ∉ name.toList) :
    let place := (IndexedText.ofText text).offsetAt p
    let edited := applyChanges text [⟨some (.emptyAt p), (skeleton kind name).toList⟩]
    let cursor := cursorAfterInsert p (skeleton kind name)
    let offset := (IndexedText.ofText edited).offsetAt cursor
    offset = place + byteLength (skeletonHead kind name).toList ∧
      (∃ before after, text = before ++ after ∧ place = byteLength before ∧
        edited = before ++ (skeletonHead kind name).toList ++ ((skeletonTail kind).toList ++ after)) ∧
      ∃ start, (IndexedText.ofText edited).lineBounds cursor.line = some (start, offset) ∧
        slice start offset edited = "          ".toList := by
  intro place edited cursor offset
  have hreturn : "          ".toList.getLast? ≠ some '\r' := by decide
  have hwidth : unitLength "          ".toList < UInt32.size := by decide
  have hcursor := offsetAt_cursorAfterInsert hline (thirdLineOfSkeleton kind hname) hreturn hcounted hwidth
  rw [String.ofList_toList] at hcursor
  obtain ⟨hoffset, hbody⟩ := hcursor
  obtain ⟨l⟩ := IndexedText.nonempty_line_of_lt hline
  obtain ⟨before, after, htext, -, hplace, hedited⟩ := l.exists_insertion (skeleton kind name).toList
  refine ⟨?_, ⟨l.front ++ before, after, htext, hplace, ?_⟩, hbody⟩
  · rw [← lead_thirdLineOfSkeleton kind hname]
    exact hoffset
  · apply hedited.trans
    rw [skeleton_eq]
    simp

/-- A surrogate pair in a line that ends with a carriage return. -/
def pairedLine : List Char := "😀\r\nx".toList

/-- Both inside of the pair and beyond the line, the statement goes in front of the carriage return. -/
theorem cursor_behind_blank_line_pairedLine :
    0 < (IndexedText.ofText pairedLine).lineCount ∧ 0 + 2 < UInt32.size ∧ '\n' ∉ "é".toList ∧
    (IndexedText.ofText (applyChanges pairedLine
      [⟨some (.emptyAt ⟨0, 1⟩), (skeleton .select "é").toList⟩])).offsetAt
        (cursorAfterInsert ⟨0, 1⟩ (skeleton .select "é")) = 4 + 32 ∧
    (IndexedText.ofText (applyChanges pairedLine
      [⟨some (.emptyAt ⟨0, 9⟩), (skeleton .select "é").toList⟩])).offsetAt
        (cursorAfterInsert ⟨0, 9⟩ (skeleton .select "é")) = 4 + 32 := by
  have hline : 0 < (IndexedText.ofText pairedLine).lineCount := by decide
  have hcounted : 0 + 2 < UInt32.size := by decide
  have hname : '\n' ∉ "é".toList := by decide
  have hinside := (cursor_behind_blank_line pairedLine ⟨0, 1⟩ .select "é" hline hcounted hname).1
  have hbeyond := (cursor_behind_blank_line pairedLine ⟨0, 9⟩ .select "é" hline hcounted hname).1
  have hhead : byteLength (skeletonHead .select "é").toList = 32 := by decide
  have hplaces : (IndexedText.ofText pairedLine).offsetAt ⟨0, 1⟩ = 4 ∧
      (IndexedText.ofText pairedLine).offsetAt ⟨0, 9⟩ = 4 := by decide
  rw [hhead, hplaces.1] at hinside
  rw [hhead, hplaces.2] at hbeyond
  exact ⟨hline, hcounted, hname, hinside, hbeyond⟩

end StatementLens
