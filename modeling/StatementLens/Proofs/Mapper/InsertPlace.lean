import StatementLens.Proofs.Mapper.Root

/-!
# Where new statements go

The place for new statements is found by looking for the last `</` in the text of the root. It is the
root's own closing tag, whatever stands in comments, instructions and sections of raw text, and a root that
closes itself has no `</` in it (`insertPosition_at_closing_tag`). A root that is closed inside of an entity
stops before it starts, and is not read as a mapper.
-/

namespace StatementLens

open Text

namespace Xml

/-- How the tag at an offset of a text ends. -/
def tagEndAt? (text : List Char) (offset : Nat) : Option TagEnd :=
  (scanTag [] ⟨offset, dropBytes offset text⟩).2.toOption.map Prod.fst

theorem tagEndAt?_eq {n u : List Char} {raws : List RawAttribute} {e : TagEnd} (ht : IsTag n u raws e)
    (he : e ≠ .cutOff) (p z : List Char) :
    tagEndAt? (p ++ ('<' :: (n ++ u) ++ z)) (byteLength p) = some e := by
  unfold tagEndAt?
  rw [scanTag_at ht he]
  rfl

/-- How a qualified name may be spelled: without a prefix, a colon may still stand in front of it. -/
def QName.IsSpelled (q : QName) (n : List Char) : Prop :=
  n = q.toString.toList ∨ q.space = [] ∧ n = ':' :: q.name

theorem QName.isSpelled_ofChars (n : List Char) : (QName.ofChars n).IsSpelled n := by
  have hsplit := QName.ofChars_cases n
  generalize QName.ofChars n = q at hsplit
  unfold IsSpelled QName.toString
  rcases hsplit with ⟨hn, hspace⟩ | hn
  · left
    rw [hspace, hn]
    simp
  · by_cases hspace : q.space = []
    · right
      rw [hspace, List.nil_append] at hn
      exact ⟨hspace, hn⟩
    · left
      rw [if_neg (by simpa using hspace), String.toList_ofList, hn]

namespace ClosedRoot

variable {text : List Char} {root : Element}

/-- The closing tag has the name of the root. -/
theorem closeName_eq (c : ClosedRoot text root) : c.closeName = root.qname := by
  obtain ⟨o, os, attributes, -, -, hopened, hname, -⟩ := Builder.closeElement_eq_ok.1 c.addClose
  rw [c.opened_before] at hopened
  cases hopened
  rw [← hname]
  exact (congrArg Element.qname c.root_eq).symm

/-- What stands in the text of the root in front of the closing tag. -/
def inner (c : ClosedRoot text root) : List Char :=
  '<' :: (c.name ++ c.attributes) ++ (c.head ++ c.blank)

theorem text_eq_inner (c : ClosedRoot text root) :
    text = c.prolog ++ (c.inner ++ c.close ++ (c.tail ++ c.misc)) := by
  have htext := c.text_eq
  unfold Front.text Front.opening at htext
  unfold inner
  simpa using htext

theorem prolog_append_inner (c : ClosedRoot text root) :
    c.prolog ++ c.inner = c.toFront.text ++ c.blank := by
  unfold inner Front.text Front.opening
  simp

theorem root_stop (c : ClosedRoot text root) :
    root.stop = byteLength (c.prolog ++ (c.inner ++ c.close)) := by
  rw [← List.append_assoc, c.prolog_append_inner, byteLength_append (c.toFront.text ++ c.blank)]
  exact congrArg Element.stop c.root_eq

theorem tagEndAt?_start (c : ClosedRoot text root) : tagEndAt? text root.start = some .opened := by
  rw [c.root_start]
  have htext : text = c.prolog ++ ('<' :: (c.name ++ c.attributes) ++
      ((c.head ++ c.blank) ++ c.close ++ (c.tail ++ c.misc))) := by
    have htext := c.text_eq_inner
    unfold inner at htext
    simpa using htext
  have hend := tagEndAt?_eq c.isTag (by decide) c.prolog ((c.head ++ c.blank) ++ c.close ++ (c.tail ++ c.misc))
  rwa [← htext] at hend

end ClosedRoot

end Xml

namespace XmlMapper

variable {uri : String} {text : List Char} {root : Xml.Element} {m : XmlMapper}

/-- New statements go behind a root that closes itself. -/
theorem insertPosition_selfClosed (c : Xml.SelfClosedRoot text root)
    (hm : ofRoot uri (.ofText text) root = .ok (some m)) :
    m.insertPosition = (IndexedText.ofText text).positionAt (byteLength c.front) := by
  obtain ⟨space, offset, -, hplace, rfl⟩ := ofRoot_eq_some_iff.1 hm
  have hle : root.start ≤ root.stop := by
    rw [c.root_start, c.root_stop, Xml.SelfClosedRoot.front, byteLength_append]
    exact Nat.le_add_right _ _
  have hoffset : insertOffset text root.start root.stop = .ok (byteLength c.front) := by
    rw [← c.root_stop]
    apply insertOffset_of_no_closing hle
    rw [c.slice_root]
    exact c.isTag.no_closing
  obtain rfl := Except.ok.inj (hplace.symm.trans hoffset)
  rfl

/-- The place is found again from its position. -/
theorem offsetAt_insertPosition_front (c : Xml.SelfClosedRoot text root)
    (hm : ofRoot uri (.ofText text) root = .ok (some m)) :
    (IndexedText.ofText text).offsetAt m.insertPosition = byteLength c.front := by
  have hplace : ¬ BehindReturn c.front c.rest := by
    rintro ⟨hreturn, -⟩
    rw [Xml.SelfClosedRoot.front, List.getLast?_append, Xml.getLast?_tag c.name (c.isTag.last (by decide))]
      at hreturn
    cases hreturn
  have hoffset := offsetAt_positionAt hplace
  rwa [← c.text_eq_front, ← insertPosition_selfClosed c hm] at hoffset

end XmlMapper

/-- The place for new statements is in front of the closing tag of the root, or behind a root that closes
itself. -/
theorem insertPosition_at_closing_tag (uri : String) (text : List Char) (m : XmlMapper)
    (hm : XmlMapper.parse uri text = .ok (some m)) :
    ∃ root front body rest, Xml.parse text = .ok root ∧ text = front ++ (body ++ rest) ∧
      root.start = byteLength front ∧ root.stop = byteLength (front ++ body) ∧
      (Xml.tagEndAt? text root.start = some .selfClosed → "/>".toList <:+ body ∧
        (IndexedText.ofText text).offsetAt m.insertPosition = byteLength (front ++ body)) ∧
      (Xml.tagEndAt? text root.start ≠ some .selfClosed → ∃ inner name blank,
        body = inner ++ ("</".toList ++ (name ++ (blank ++ ">".toList))) ∧
        root.qname.IsSpelled name ∧ (∀ c ∈ blank, Xml.isSpace c = true) ∧
        (IndexedText.ofText text).offsetAt m.insertPosition = byteLength (front ++ inner)) := by
  obtain ⟨root, hparse, hroot⟩ := XmlMapper.parse_eq_some_iff.1 hm
  refine ⟨root, ?_⟩
  rcases Xml.selfClosedRoot_or hparse with ⟨⟨c⟩⟩ | hlt | ⟨⟨c⟩⟩
  · have hself := Xml.tagEndAt?_eq c.isTag (by decide) c.prolog c.rest
    rw [← c.text_eq, ← c.root_start] at hself
    refine ⟨c.prolog, '<' :: (c.name ++ c.attributes), c.rest, hparse, c.text_eq, c.root_start, c.root_stop,
      fun _ => ⟨?_, ?_⟩, fun hopened => absurd hself hopened⟩
    · exact (c.isTag.slash rfl).trans (List.suffix_append ('<' :: c.name) c.attributes)
    · exact XmlMapper.offsetAt_insertPosition_front c hroot
  · -- a root that is closed by an entity has no place, so it is not read as a mapper
    obtain ⟨_, offset, -, hplace, -⟩ := XmlMapper.ofRoot_eq_some_iff.1 hroot
    rw [insertOffset_eq_error_iff.2 ⟨hlt, rfl⟩] at hplace
    cases hplace
  · obtain ⟨n, b, hclose, hname, hblank, -⟩ := c.isClose.spelled
    refine ⟨c.prolog, c.inner ++ c.close, c.tail ++ c.misc, hparse, c.text_eq_inner, c.root_start, c.root_stop,
      fun hself => ?_, fun _ => ⟨c.inner, n, b, ?_, ?_, hblank, ?_⟩⟩
    · rw [c.tagEndAt?_start] at hself
      cases hself
    · rw [hclose]
      simp
    · rw [← c.closeName_eq, hname]
      exact Xml.QName.isSpelled_ofChars n
    · rw [c.prolog_append_inner]
      exact XmlMapper.offsetAt_insertPosition c hroot

/-- A mapper with what looks like its closing tag in a comment in front of it and behind it, in raw text and
in an instruction. -/
def decoys : List Char :=
  ["<?xml version=\"1.0\"?>\n", "<!-- </mapper> -->", "<m:mapper xmlns:m=\"u\" namespace=\"x\">",
    "<![CDATA[</m:mapper>]]>", "<?p </m:mapper>?>é😀\r", "</m:mapper\t>",
    "<!-- </m:mapper> -->"].flatMap String.toList

/-- The place is in front of the closing tag, and not of what only looks like it. -/
theorem insertPosition_at_closing_tag_decoys :
    XmlMapper.parse "u" decoys = .ok (some ⟨"u", "x", [], ⟨1, 98⟩⟩) ∧
    ∃ root front inner name blank rest, Xml.parse decoys = .ok root ∧
      decoys = front ++ (inner ++ ("</".toList ++ (name ++ (blank ++ ">".toList))) ++ rest) ∧
      root.qname.IsSpelled name ∧
      (IndexedText.ofText decoys).offsetAt ⟨1, 98⟩ = byteLength (front ++ inner) := by
  obtain ⟨hm, hopened⟩ : XmlMapper.parse "u" decoys = .ok (some ⟨"u", "x", [], ⟨1, 98⟩⟩) ∧
      (Xml.parse decoys).toOption.bind (fun root => Xml.tagEndAt? decoys root.start) = some .opened := by
    decide +kernel
  obtain ⟨root, front, body, rest, hparse, htext, -, -, -, hclosed⟩ :=
    insertPosition_at_closing_tag "u" decoys _ hm
  rw [hparse] at hopened
  simp only [Except.toOption, Option.bind_some] at hopened
  have hend : Xml.tagEndAt? decoys root.start ≠ some .selfClosed := by
    rw [hopened]
    decide
  obtain ⟨inner, name, blank, rfl, hname, -, hoffset⟩ := hclosed hend
  exact ⟨hm, root, front, inner, name, blank, rest, hparse, htext, hname, hoffset⟩

/-- A mapper with a colon in front of the name in its closing tag. -/
def colonClosed : List Char := "<mapper namespace=\"x\"></:mapper>".toList

/-- The closing tag of a root need not spell its name as the root does. -/
theorem closing_tag_with_colon :
    XmlMapper.parse "u" colonClosed = .ok (some ⟨"u", "x", [], ⟨0, 22⟩⟩) ∧
    (Xml.parse colonClosed).map (fun root => root.qname.toString) = .ok "mapper" ∧
    Xml.tagEndAt? colonClosed 0 = some .opened ∧
    dropBytes ((IndexedText.ofText colonClosed).offsetAt ⟨0, 22⟩) colonClosed = "</:mapper>".toList :=
  ⟨by decide +kernel, by decide +kernel, by decide +kernel, by decide +kernel⟩

/-- A mapper that is closed by an entity. -/
def entityClosed : List Char :=
  "<!DOCTYPE m [<!ENTITY e '<a/></mapper>'>]><mapper namespace=\"x\">&e;".toList

example : XmlMapper.parse "u" entityClosed = .error (.inverted 42 38) := by decide +kernel

end StatementLens
