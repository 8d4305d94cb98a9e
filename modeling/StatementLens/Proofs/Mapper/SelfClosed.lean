import StatementLens.Proofs.Mapper.Generate
import StatementLens.Proofs.Mapper.InsertPlace

/-!
# Generating behind a root that closes itself

Behind a root that closes itself there is no room for statements: the place for new ones is the end of the
root, and a tag there is left over when the document has been read. So the skeleton of a statement makes the
text malformed, whatever its name is (`generate_behind_selfClosed`).
-/

namespace StatementLens

open Text

namespace Xml

/-! ## Rows and columns -/

theorem rowAndColumn_append (a b : List Char) :
    rowAndColumn (a ++ b) (byteLength a) = rowAndColumn a (byteLength a) := by
  have ha := takeBytes_append a []
  rw [List.append_nil] at ha
  unfold rowAndColumn
  rw [takeBytes_append, ha]

theorem rowAndColumn_concat (a : List Char) (c : Char) :
    rowAndColumn (a ++ [c]) (byteLength (a ++ [c]))
      = if c = '\n' then ((rowAndColumn a (byteLength a)).1 + 1, 1)
        else ((rowAndColumn a (byteLength a)).1, (rowAndColumn a (byteLength a)).2 + 1) := by
  have htake : ∀ l : List Char, takeBytes (byteLength l) l = l := by
    intro l
    have hl := takeBytes_append l []
    rwa [List.append_nil] at hl
  unfold rowAndColumn
  rw [htake, htake, List.foldl_append]
  rfl

/-- Rows are counted by line feeds. -/
theorem row_eq (a : List Char) : (rowAndColumn a (byteLength a)).1 = a.count '\n' + 1 := by
  induction a using List.reverseRecOn with
  | nil => rfl
  | append_singleton a c ih =>
    rw [rowAndColumn_concat, List.count_append]
    by_cases hc : c = '\n'
    · subst hc
      rw [if_pos rfl, ih]
      simp
    · rw [if_neg hc, ih]
      simp [hc]

/-- Columns are counted from the last line feed. -/
theorem rowAndColumn_line (a : List Char) {b : List Char} (hb : '\n' ∉ b) :
    rowAndColumn (a ++ '\n' :: b) (byteLength (a ++ '\n' :: b)) = (a.count '\n' + 2, b.length + 1) := by
  induction b using List.reverseRecOn with
  | nil => rw [rowAndColumn_concat, if_pos rfl, row_eq]; rfl
  | append_singleton b c ih =>
    have hsplit : a ++ '\n' :: (b ++ [c]) = (a ++ '\n' :: b) ++ [c] := by simp
    have hc : c ≠ '\n' := fun h => hb (by simp [h])
    rw [hsplit, rowAndColumn_concat, if_neg hc, ih fun h => hb (List.mem_append_left _ h)]
    simp

theorem Fault.message_unknownToken {text : List Char} {offset row column : Nat}
    (h : rowAndColumn text offset = (row, column)) :
    Fault.message text ⟨.unknownToken, offset⟩
      = "unknown token at " ++ (toString row ++ ":" ++ toString column) := by
  unfold Fault.message
  dsimp only
  rw [h]
  rfl

/-! ## Tags behind the root -/

namespace SelfClosedRoot

variable {text : List Char} {root : Element}

/-- A tag behind the root is left over. -/
theorem scanDocument_tag (c : SelfClosedRoot text root) {b t : List Char}
    (hb : ∀ ch ∈ b, isSpace ch = true) (ht : StartsName t) :
    scanDocument (c.front ++ (b ++ '<' :: t))
      = (c.entities ++ rootTokens c.name c.attributes c.raws .selfClosed (byteLength c.prolog),
        .error ⟨.unknownToken, byteLength (c.front ++ b)⟩) := by
  have hprolog := c.isProlog.scan ((c.name ++ c.attributes) ++ (b ++ '<' :: t))
    ((c.isTag.name.append c.attributes).append _)
  -- blanks are all that is skipped behind the root; the tag is left over
  have hmisc := takeAllMisc_append (isMisc_space hb) (endsMisc_tag ht)
    (byteLength c.prolog + byteLength ('<' :: (c.name ++ c.attributes)))
  have htag := c.isTag.cuts c.entities.reverse (byteLength c.prolog) (b ++ '<' :: t) (by simp)
  have hsplit : c.front ++ (b ++ '<' :: t)
      = c.prolog ++ ('<' :: ((c.name ++ c.attributes) ++ (b ++ '<' :: t))) := by simp [front]
  rw [List.cons_append] at htag
  rw [hsplit, scanDocument_eq, hprolog]
  dsimp only
  rw [after_ok]
  unfold scanRoot
  have hhead : Span.head? ⟨byteLength c.prolog,
      '<' :: (c.name ++ c.attributes ++ (b ++ '<' :: t))⟩ = some '<' := rfl
  rw [if_pos hhead]
  unfold scanElement
  rw [htag]
  dsimp only
  rw [after_ok, if_neg (by simp), ok_bind, hmisc, ok_bind]
  simp [rootTokens, tagTokens, Span.atEnd, front, fail, Nat.add_assoc]

/-- So the document is rejected, at the place of the tag. -/
theorem parse_tag (c : SelfClosedRoot text root) {b t : List Char}
    (hb : ∀ ch ∈ b, isSpace ch = true) (ht : StartsName t) :
    parse (c.front ++ (b ++ '<' :: t)) = .error ⟨.unknownToken, byteLength (c.front ++ b)⟩ := by
  have hbuild : buildText (c.front ++ (b ++ '<' :: t))
      = .error ⟨.unknownToken, byteLength (c.front ++ b)⟩ := by
    have hadd := c.add
    unfold Builder.addTokens at hadd
    unfold buildText Builder.addScan
    rw [c.scanDocument_tag hb ht, hadd]
    rfl
  have hunfold : parseElements (c.front ++ (b ++ '<' :: t)) = buildText (c.front ++ (b ++ '<' :: t)) >>= _ :=
    rfl
  unfold parse
  rw [hunfold, hbuild]
  rfl

end SelfClosedRoot

/-- Whether the root element of a text closes itself: its text is a single tag. -/
def RootClosesItself (text : List Char) : Prop :=
  ∃ root, parse text = .ok root ∧ "/>".toList <:+ slice root.start root.stop text ∧
    ¬ "</".toList <:+: slice root.start root.stop text

instance (text : List Char) : Decidable (RootClosesItself text) :=
  match h : parse text with
  | .ok root =>
    decidable_of_iff ("/>".toList.isSuffixOf (slice root.start root.stop text) = true ∧
        contains "</".toList (slice root.start root.stop text) = false) (by
      unfold RootClosesItself
      simp [h, ← contains_iff])
  | .error _ => isFalse (by simp [RootClosesItself, h])

theorem exists_selfClosedRoot {text : List Char} (h : RootClosesItself text) :
    ∃ root, parse text = .ok root ∧ Nonempty (SelfClosedRoot text root) := by
  obtain ⟨root, hparse, hslash, hclosing⟩ := h
  rcases selfClosedRoot_or hparse with hself | hlt | ⟨⟨c⟩⟩
  · exact ⟨root, hparse, hself⟩
  · rw [slice_of_le hlt.le] at hslash
    exact absurd hslash (by decide)
  · obtain ⟨n, b, hclose, -⟩ := c.isClose.spelled
    have hslice : slice root.start root.stop text = c.inner ++ c.close := by
      have hslice := slice_append c.prolog (c.inner ++ c.close) (c.tail ++ c.misc)
      rwa [← c.text_eq_inner, ← byteLength_append, ← c.root_start, ← c.root_stop] at hslice
    rw [hslice, hclose] at hclosing
    exact absurd ⟨c.inner, _, List.append_assoc _ _ _⟩ hclosing

end Xml

namespace XmlMapper

variable {uri : String} {text : List Char} {root : Xml.Element} {m : XmlMapper}

/-- The lines in front of the place for new statements are those in front of the end of the root. -/
theorem insertPosition_line_selfClosed (c : Xml.SelfClosedRoot text root)
    (hm : ofRoot uri (.ofText text) root = .ok (some m)) :
    m.insertPosition.line = c.front.count '\n' := by
  obtain ⟨front, last, hsplit, hfront, hlast⟩ := exists_lastLine c.front
  have hpos := positionAt_eq c.rest hfront hlast
  rw [← List.append_assoc, ← hsplit, ← c.text_eq_front, ← byteLength_append, ← hsplit] at hpos
  rw [insertPosition_selfClosed c hm, hpos, hsplit, List.count_append, List.count_eq_zero.2 hlast]
  rfl

end XmlMapper

/-- A skeleton is a tag on a line of its own. -/
theorem exists_tag_skeleton (kind : StatementKind) (name : String) :
    ∃ tag, (skeleton kind name).toList = "\n    ".toList ++ '<' :: tag ∧ Xml.StartsName tag := by
  have hlead : "\n    <".toList = "\n    ".toList ++ ['<'] := rfl
  have hkind : Xml.StartsName kind.elementName.toList := by
    cases kind <;> exact ⟨_, _, rfl, by decide⟩
  refine ⟨kind.elementName.toList ++ (" id=\"".toList ++ (name.toList ++
    ("\">\n          \n    </".toList ++ (kind.elementName.toList ++ ">\n\n".toList)))), ?_, hkind.append _⟩
  unfold skeleton
  simp only [String.toList_append, hlead, List.append_assoc, List.cons_append, List.nil_append]

/-- The skeleton of a statement, inserted behind a root that closes itself, makes the text malformed. It is
the tag of the statement that is complained about, in the line behind the end of the root. -/
theorem generate_behind_selfClosed (uri : String) (text : List Char) (m : XmlMapper) (name : String)
    (hm : XmlMapper.parse uri text = .ok (some m)) (hself : Xml.RootClosesItself text) :
    XmlMapper.parse uri (insertSkeleton m.insertPosition text name)
      = .error (.malformed (uri ++ ": unknown token at " ++ toString (m.insertPosition.line + 2)
        ++ ":5")) := by
  obtain ⟨root, hparse, ⟨c⟩⟩ := Xml.exists_selfClosedRoot hself
  obtain ⟨root', hparse', hroot⟩ := XmlMapper.parse_eq_some_iff.1 hm
  rw [hparse] at hparse'
  cases hparse'
  obtain ⟨tag, htag, hname⟩ := exists_tag_skeleton (StatementKind.infer name) name
  have htext : insertSkeleton m.insertPosition text name
      = c.front ++ ("\n    ".toList ++ '<' :: (tag ++ c.rest)) := by
    rw [insertSkeleton_eq c.text_eq_front (XmlMapper.offsetAt_insertPosition_front c hroot), htag]
    simp
  -- the skeleton begins with a line break and four blanks
  have hplace : Xml.rowAndColumn (c.front ++ ("\n    ".toList ++ '<' :: (tag ++ c.rest)))
      (byteLength (c.front ++ "\n    ".toList)) = (m.insertPosition.line + 2, 5) := by
    rw [← List.append_assoc, Xml.rowAndColumn_append, XmlMapper.insertPosition_line_selfClosed c hroot]
    exact Xml.rowAndColumn_line c.front (b := "    ".toList) (by decide)
  have hcause : ": unknown token at " = ": " ++ "unknown token at " := by decide
  have hcolumn : ":5" = ":" ++ toString 5 := by decide
  have hspace : ∀ ch ∈ "\n    ".toList, Xml.isSpace ch = true := List.all_eq_true.1 (by decide)
  unfold XmlMapper.parse
  rw [htext, c.parse_tag hspace (hname.append c.rest)]
  dsimp only
  rw [Xml.Fault.message_unknownToken hplace, hcause, hcolumn]
  simp only [String.append_assoc]

/-- A mapper with a root that closes itself on a line of its own, between comments. -/
def emptyMapper : List Char :=
  ["<?xml version=\"1.0\"?>\r\n", "<!-- </mapper> -->\n", "<m:mapper xmlns:m=\"é\"", " namespace=\" x \"\n/>",
    "<!-- /> -->\n"].flatMap String.toList

theorem generate_behind_selfClosed_emptyMapper :
    XmlMapper.parse "u" emptyMapper = .ok (some ⟨"u", "x", [], ⟨3, 2⟩⟩) ∧
    Xml.RootClosesItself emptyMapper ∧ IsIdentifier "addOne" ∧
    XmlMapper.parse "u" (insertSkeleton ⟨3, 2⟩ emptyMapper "addOne")
      = .error (.malformed "u: unknown token at 5:5") := by
  obtain ⟨hm, hself, hname⟩ :
      XmlMapper.parse "u" emptyMapper = .ok (some ⟨"u", "x", [], ⟨3, 2⟩⟩) ∧
      Xml.RootClosesItself emptyMapper ∧ IsIdentifier "addOne" := by decide +kernel
  exact ⟨hm, hself, hname,
    (generate_behind_selfClosed "u" emptyMapper _ "addOne" hm hself).trans (by decide +kernel)⟩

end StatementLens
