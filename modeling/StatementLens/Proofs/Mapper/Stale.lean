import StatementLens.Proofs.Mapper.Generate

/-!
# Stale lenses

The lenses of one answer all name the same place. When several of them are executed one after the
other, each but the first edits a text for which it was not made: a line feed follows the place, and
a carriage return in front of it may have moved behind the new statement. The text is nevertheless
always the one that entries make in front of the closing tag (`Stale`).
-/

namespace StatementLens

open Text

/-! ## Ends of lines -/

/-- A text whose front ends with another character than a carriage return keeps the front when the
carriage return at the end of its last line is left out. -/
theorem exists_lineContent {a blank front last : List Char} (ha : a.getLast? = some '>')
    (h : a ++ blank = front ++ last) :
    ∃ blank' gap, blank = blank' ++ gap ∧ (∀ c ∈ gap, Xml.isSpace c = true) ∧
      a ++ blank' = front ++ lineContent last := by
  unfold lineContent
  split
  · next hcr =>
    obtain ⟨l, rfl⟩ := List.getLast?_eq_some_iff.1 hcr
    rcases List.eq_nil_or_concat blank with rfl | ⟨blank', d, rfl⟩
    -- the carriage return belongs to the blank, for the front ends with markup
    · rw [List.append_nil] at h
      rw [h, ← List.append_assoc, List.getLast?_concat] at ha
      cases ha
    · rw [List.concat_eq_append, ← List.append_assoc, ← List.append_assoc] at h
      obtain ⟨hfront, hd⟩ := List.append_inj' h rfl
      cases hd
      refine ⟨blank', ['\r'], List.concat_eq_append, List.all_eq_true.1 (by decide), ?_⟩
      rw [hfront, List.dropLast_concat]
  · exact ⟨blank, [], (List.append_nil _).symm, by simp, h⟩

/-! ## Texts that a stale lens edits -/

/-- A text that statements for `names` make of another one, all inserted at `position`. It cuts the
other one's last line in front of the closing tag, and the place of the next statement is the end of
the content of that line. -/
structure Stale {text : List Char} {root : Xml.Element} (c : Xml.ClosedRoot text root)
    (position : Position) (names : List String) (edited : List Char) where
  blank : List Char
  space : List Char
  entries : List (Xml.Entry × List Char)
  front : List Char
  last : List Char
  edited_eq : edited = c.insert blank entries
  blank_eq : c.blank = blank ++ space
  isSpace : ∀ ch ∈ space, Xml.isSpace ch = true
  declares : List.Forall₂ XmlMapper.Declares names entries
  gaps : ∀ entry ∈ entries, ∀ ch ∈ entry.2, Xml.isSpace ch = true
  nonempty : entries ≠ []
  line_eq : c.toFront.text ++ blank = front ++ last
  endsLine : EndsLine front
  lineFeed_notMem : '\n' ∉ last
  line_position : position.line = front.count '\n'
  width_le : unitLength last ≤ position.character

namespace Stale

variable {text : List Char} {root : Xml.Element} {c : Xml.ClosedRoot text root}

/-- The first lens edits the text that it was made for. -/
theorem first {uri : String} {m : XmlMapper}
    (hm : XmlMapper.ofRoot uri (.ofText text) root = .ok (some m)) {name : String} (h : IsIdentifier name) :
    Nonempty (Stale c m.insertPosition [name] (insertSkeleton m.insertPosition text name)) := by
  obtain ⟨front, last, hsplit, hfront, hlast⟩ := exists_lastLine (c.toFront.text ++ c.blank)
  have hposition : m.insertPosition = ⟨front.count '\n', unitLength last⟩ :=
    XmlMapper.insertPosition_eq_of_line c hm hsplit hfront hlast
  exact ⟨{
    blank := c.blank
    space := []
    entries := [((StatementKind.infer name).entry name h, [])]
    front := front
    last := last
    edited_eq := XmlMapper.insertSkeleton_insertPosition c hm h
    blank_eq := (List.append_nil _).symm
    isSpace := by simp
    declares := .cons ⟨h, rfl⟩ .nil
    gaps := by simp
    nonempty := List.cons_ne_nil _ _
    line_eq := hsplit
    endsLine := hfront
    lineFeed_notMem := hlast
    line_position := by rw [hposition]
    width_le := by rw [hposition] }⟩

/-- A stale lens inserts its statement in front of those inserted before. -/
theorem step {position : Position} {names : List String} {edited : List Char}
    (s : Stale c position names edited) {name : String} (h : IsIdentifier name) :
    Nonempty (Stale c position (name :: names) (insertSkeleton position edited name)) := by
  obtain ⟨blank', gap, hblank, hgap, hline⟩ :=
    exists_lineContent c.toFront.getLast?_text s.line_eq
  -- every entry is led in by a line feed, which now follows the line of the position
  obtain ⟨post, hpost⟩ : ∃ post, Xml.inserted s.entries ++ (c.close ++ (c.tail ++ c.misc))
      = '\n' :: post := by
    cases hentries : s.entries with
    | nil => exact absurd hentries s.nonempty
    | cons entry rest => exact ⟨_, rfl⟩
  have hedited : edited = s.front ++ (s.last ++ '\n' :: post) := by
    refine s.edited_eq.trans ?_
    rw [← List.append_assoc, ← s.line_eq, ← hpost]
    simp [Xml.ClosedRoot.insert]
  have hsplit : edited = (c.toFront.text ++ blank')
      ++ (gap ++ (Xml.inserted s.entries ++ (c.close ++ (c.tail ++ c.misc)))) := by
    refine s.edited_eq.trans ?_
    rw [hblank]
    simp [Xml.ClosedRoot.insert]
  -- the position now leads to the end of the content of the line that the first lens cut
  have hoffset : (IndexedText.ofText edited).offsetAt position
      = byteLength (c.toFront.text ++ blank') := by
    have hclamped := offsetAt_clamped post s.endsLine s.lineFeed_notMem s.width_le
    rw [← s.line_position, ← hedited, ← byteLength_append, ← hline] at hclamped
    exact hclamped
  have hwidth := unitLength_lineContent s.last
  have hwidth' := s.width_le
  exact ⟨{
    blank := blank'
    space := gap ++ s.space
    entries := ((StatementKind.infer name).entry name h, gap) :: s.entries
    front := s.front
    last := lineContent s.last
    edited_eq := by
      rw [insertSkeleton_eq hsplit hoffset, skeleton_toList _ h]
      simp [Xml.ClosedRoot.insert, Xml.inserted]
    blank_eq := by rw [s.blank_eq, hblank, List.append_assoc]
    isSpace := fun ch hch => (List.mem_append.1 hch).elim (hgap ch) (s.isSpace ch)
    declares := .cons ⟨h, rfl⟩ s.declares
    gaps := fun entry hentry => by
      rcases List.mem_cons.1 hentry with rfl | hentry
      · exact hgap
      · exact s.gaps entry hentry
    nonempty := List.cons_ne_nil _ _
    line_eq := hline
    endsLine := s.endsLine
    lineFeed_notMem := notMem_lineContent s.lineFeed_notMem
    line_position := s.line_position
    width_le := by omega }⟩

/-- Stale lenses insert their statements in the reverse of the order in which they are executed. -/
theorem run {position : Position} {names more : List String} {edited : List Char}
    (s : Stale c position names edited) (h : ∀ name ∈ more, IsIdentifier name) :
    Nonempty (Stale c position (more.reverse ++ names)
      (more.foldl (insertSkeleton position) edited)) := by
  induction more generalizing names edited with
  | nil => exact ⟨s⟩
  | cons name more ih =>
    obtain ⟨s'⟩ := s.step (h name List.mem_cons_self)
    have hrun := ih s' fun n hn => h n (List.mem_cons_of_mem name hn)
    rw [List.reverse_cons, List.append_assoc]
    exact hrun

end Stale

/-- A name among those of new statements is found there. -/
theorem exists_find?_of_signature {news : List Statement} {names : List String} {name : String}
    (h : news.map Statement.signature = names.map fun name => (name, StatementKind.infer name))
    (hname : name ∈ names) :
    ∃ new ∈ news, new.name = name ∧ (news.find? fun s => s.name = name) = some new := by
  have hmem : (name, StatementKind.infer name) ∈ news.map Statement.signature := by
    rw [h]
    exact List.mem_map.2 ⟨name, hname, rfl⟩
  obtain ⟨s, hs, hsignature⟩ := List.mem_map.1 hmem
  have hsome : (news.find? fun s => s.name = name).isSome := by
    rw [List.find?_isSome]
    exact ⟨s, hs, decide_eq_true (congrArg Prod.fst hsignature)⟩
  obtain ⟨new, hnew⟩ := Option.isSome_iff_exists.1 hsome
  exact ⟨new, List.mem_of_find?_eq_some hnew, by simpa using List.find?_some hnew, hnew⟩

/-- Lenses that generate statements can be executed one after the other at the place that was computed
for the first of them, in any order: the statements come in the reverse order, and each lens then
leads to its own. All this fails exactly where the text in front of the closing tag leaves an id
behind, which a text without an internal subset never does. -/
theorem stale_lenses_in_any_order (uri : String) (text : List Char) (m : XmlMapper)
    (names order : List String) (hm : XmlMapper.parse uri text = .ok (some m))
    (hclose : Xml.RootCloses text) (hnames : ∀ name ∈ names, IsIdentifier name)
    (hnew : ∀ name ∈ names, ∀ s ∈ m.statements, s.name ≠ name) (horder : order.Perm names) :
    (names = [] ∨ ¬ LeavesId m.insertPosition text → ∃ m' news,
      XmlMapper.parse uri (order.foldl (insertSkeleton m.insertPosition) text) = .ok (some m') ∧
      m'.uri = m.uri ∧ m'.namespace_ = m.namespace_ ∧ m'.statements = m.statements ++ news ∧
      news.map Statement.signature
        = order.reverse.map (fun name => (name, StatementKind.infer name)) ∧
      (m'.statements.map Statement.signature).Perm
        (m.statements.map Statement.signature
          ++ names.map fun name => (name, StatementKind.infer name)) ∧
      ∀ method : JavaMethod, method.name ∈ names → ∃ new ∈ news, new.name = method.name ∧
        m'.actionFor method = .navigate m.uri ⟨new.start, new.stop⟩) ∧
    (names ≠ [] → LeavesId m.insertPosition text → ∃ f,
      XmlMapper.parse uri (order.foldl (insertSkeleton m.insertPosition) text) = .error (.malformed f)) ∧
    (Xml.hasSubset text = false → ¬ LeavesId m.insertPosition text) := by
  obtain ⟨root, hroot, ⟨c⟩⟩ := XmlMapper.exists_closedRoot hm hclose
  rw [← and_assoc]
  refine ⟨?_, XmlMapper.not_leavesId c hroot⟩
  cases order with
  | nil =>
    obtain rfl := List.nil_perm.1 horder
    refine ⟨fun _ => ⟨m, [], hm, rfl, rfl, (List.append_nil _).symm, rfl, by simp, by simp⟩, ?_⟩
    exact fun h => absurd rfl h
  -- the first lens is not stale; all others run from the text that it leaves
  | cons name rest =>
    have hidentifier : ∀ n ∈ name :: rest, IsIdentifier n := fun n hn => hnames n (horder.mem_iff.1 hn)
    obtain ⟨s₁⟩ := Stale.first (c := c) hroot (hidentifier name List.mem_cons_self)
    have hrest : ∀ n ∈ rest, IsIdentifier n := fun n hn => hidentifier n (List.mem_cons_of_mem name hn)
    obtain ⟨s⟩ := s₁.run hrest
    rw [← List.reverse_cons] at s
    rw [List.foldl_cons, s.edited_eq, XmlMapper.leavesId_insertPosition c hroot]
    have hne : names ≠ [] := by
      rintro rfl
      exact absurd horder.eq_nil (List.cons_ne_nil _ _)
    constructor
    · intro h
      obtain ⟨m', news, hparse, huri, hspace, hstatements, hsignatures, -⟩ :=
        XmlMapper.parse_insert c hroot s.blank_eq s.isSpace (by simp) s.declares s.gaps
          (h.resolve_left hne)
      refine ⟨m', news, hparse, huri, hspace, hstatements, hsignatures, ?_, ?_⟩
      · rw [hstatements, List.map_append, hsignatures]
        exact (((name :: rest).reverse_perm.trans horder).map _).append_left _
      · intro method hmethod
        have hmem : method.name ∈ (name :: rest).reverse :=
          List.mem_reverse.2 (horder.mem_iff.2 hmethod)
        obtain ⟨new, hnewMem, hname, hfind⟩ := exists_find?_of_signature hsignatures hmem
        exact ⟨new, hnewMem, hname, XmlMapper.actionFor_new huri hstatements (hnew _ hmethod) hfind⟩
    · exact fun _ => XmlMapper.parse_insert_error uri c s.blank_eq s.isSpace s.nonempty s.gaps

/-- A mapper in which an id is left behind and a carriage return stands in front of the closing tag. -/
def brokenLine : List Char :=
  "<!DOCTYPE m [<!ENTITY e '<b id=\"1\"'>]><mapper namespace=\"x\">&e;\r</mapper>".toList

/-- The statement that is inserted last comes first, and its id clashes with the one left behind. -/
theorem stale_lenses_behind_broken_tag :
    XmlMapper.parse "u" brokenLine = .ok (some ⟨"u", "x", [], ⟨0, 64⟩⟩) ∧
    Xml.RootCloses brokenLine ∧ IsIdentifier "a" ∧ IsIdentifier "b" ∧
    XmlMapper.parse "u" (["a", "b"].foldl (insertSkeleton ⟨0, 64⟩) brokenLine)
      = .error (.malformed "u: attribute 'id' at 2:10 is already defined") :=
  ⟨by decide +kernel, by decide +kernel, by decide +kernel, by decide +kernel, by decide +kernel⟩

/-- A mapper with a wide character and two carriage returns in front of the closing tag. -/
def twoReturns : List Char :=
  "<mapper namespace=\"x\">\n<sql id=\"d\"/>😀\r\r</mapper>".toList

/-- The statements come in the reverse order, and the last one is led in where the first return was. -/
theorem stale_lenses_in_any_order_twoReturns :
    XmlMapper.parse "u" twoReturns
      = .ok (some ⟨"u", "x", [⟨"d", .sql, ⟨1, 0⟩, ⟨1, 13⟩⟩], ⟨1, 17⟩⟩) ∧
    Xml.RootCloses twoReturns ∧ Xml.hasSubset twoReturns = false ∧
    (∀ name ∈ ["a", "b", "deleteÉ"], IsIdentifier name) ∧
    ∃ m' news,
      XmlMapper.parse "u" (["b", "deleteÉ", "a"].foldl (insertSkeleton ⟨1, 17⟩) twoReturns)
        = .ok (some m') ∧
      m'.statements = ⟨"d", .sql, ⟨1, 0⟩, ⟨1, 13⟩⟩ :: news ∧
      news.map Statement.signature = [("a", .sql), ("deleteÉ", .delete), ("b", .sql)] := by
  have hparse : XmlMapper.parse "u" twoReturns
      = .ok (some ⟨"u", "x", [⟨"d", .sql, ⟨1, 0⟩, ⟨1, 13⟩⟩], ⟨1, 17⟩⟩) := by decide +kernel
  have hclose : Xml.RootCloses twoReturns := by decide +kernel
  have hsubset : Xml.hasSubset twoReturns = false := by decide +kernel
  have hnames : ∀ name ∈ ["a", "b", "deleteÉ"], IsIdentifier name := by
    intro name hname
    simp only [List.mem_cons, List.not_mem_nil, or_false] at hname
    rcases hname with rfl | rfl | rfl
    · decide +kernel
    · decide +kernel
    · decide +kernel
  obtain ⟨hexecuted, -, hleft⟩ := stale_lenses_in_any_order "u" twoReturns _ ["a", "b", "deleteÉ"]
    ["b", "deleteÉ", "a"] hparse hclose hnames (by decide) (by decide)
  obtain ⟨m', news, hparse', -, -, hstatements, hsignatures, -⟩ := hexecuted (Or.inr (hleft hsubset))
  exact ⟨hparse, hclose, hsubset, hnames, m', news, hparse', hstatements,
    hsignatures.trans (by decide +kernel)⟩

end StatementLens
