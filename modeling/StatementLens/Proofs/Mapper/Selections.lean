import Mathlib.Data.List.Pairwise
import StatementLens.Proofs.Mapper.Root
import StatementLens.Proofs.Xml.Written

/-!
# What a lens selects

A lens that leads to a statement selects the text of its element. In a document without entities, this
text runs from the tag of the element to its last angle bracket, no two of these texts overlap, and the
statements are the elements directly in the root that have the name of a kind and an id
(`statements_select_elements`).
-/

namespace StatementLens

open Text

/-! ## The statement of an element -/

theorem StatementKind.ofElementName?_eq_some_iff {name : String} {kind : StatementKind} :
    ofElementName? name = some kind ↔ kind.elementName = name := by
  unfold ofElementName?
  constructor
  · intro h
    simpa using List.find?_some h
  · rintro rfl
    cases kind <;> rfl

namespace XmlMapper

theorem statementOf?_eq_some_iff {source : IndexedText} {e : Xml.Element} {s : Statement} :
    statementOf? source e = some s ↔
      e.qname.name = s.kind.elementName.toList ∧ e.attribute? "id" = some s.name.toList ∧
        s.start = source.positionAt e.start ∧ s.stop = source.positionAt e.stop := by
  unfold statementOf?
  simp only [Option.bind_eq_bind, Option.bind_eq_some_iff, StatementKind.ofElementName?_eq_some_iff,
    Option.pure_def, Option.some.injEq]
  constructor
  · rintro ⟨kind, hkind, id, hid, rfl⟩
    exact ⟨by rw [hkind, String.toList_ofList], by rw [hid, String.toList_ofList], rfl, rfl⟩
  · rintro ⟨hkind, hid, hstart, hstop⟩
    refine ⟨s.kind, by rw [hkind, String.ofList_toList], s.name.toList, hid, ?_⟩
    rw [← hstart, ← hstop, String.ofList_toList]

/-- An element declares a statement if it has the name of a kind and an id. -/
theorem statementOf?_isSome_iff (source : IndexedText) {e : Xml.Element} :
    (∃ s, statementOf? source e = some s) ↔
      (∃ kind : StatementKind, e.qname.name = kind.elementName.toList) ∧
        (e.attribute? "id").isSome = true := by
  simp only [statementOf?_eq_some_iff, Option.isSome_iff_exists]
  constructor
  · rintro ⟨s, hkind, hid, -⟩
    exact ⟨⟨s.kind, hkind⟩, _, hid⟩
  · rintro ⟨⟨kind, hkind⟩, id, hid⟩
    exact ⟨⟨String.ofList id, kind, source.positionAt e.start, source.positionAt e.stop⟩, hkind,
      by rw [hid, String.toList_ofList], rfl, rfl⟩

/-- The statements of a mapper are declared by the elements of its root. -/
theorem mem_statements_iff {uri : String} {source : IndexedText} {root : Xml.Element} {m : XmlMapper}
    (hm : ofRoot uri source root = .ok (some m)) {s : Statement} :
    s ∈ m.statements ↔ ∃ e ∈ root.children, statementOf? source e = some s := by
  obtain ⟨space, offset, -, -, rfl⟩ := ofRoot_eq_some_iff.1 hm
  exact List.mem_filterMap

end XmlMapper

/-! ## Positions of an element -/

namespace Xml

variable {text x v y : List Char} {e : Element}

/-- The positions of an element lead back to its text. -/
theorem IsElement.slice_positions (h : IsElement e v (byteLength x)) (htext : text = x ++ (v ++ y)) :
    slice ((IndexedText.ofText text).offsetAt ((IndexedText.ofText text).positionAt e.start))
      ((IndexedText.ofText text).offsetAt ((IndexedText.ofText text).positionAt e.stop)) text = v := by
  obtain ⟨n, u, w, raws, tagEnd, hv, -, -, -, -, hlast⟩ := h.exists_tag
  have hstart : ¬ BehindReturn x (v ++ y) := by
    rw [hv]
    rintro ⟨-, hnil | ⟨p, hp⟩⟩
    · cases hnil
    · cases hp
  have hstop : ¬ BehindReturn (x ++ v) y := by
    rintro ⟨hreturn, -⟩
    rw [List.getLast?_append, hlast] at hreturn
    cases hreturn
  have hoffset := offsetAt_positionAt hstart
  have hoffset' := offsetAt_positionAt hstop
  rw [List.append_assoc, ← htext] at hoffset'
  rw [← htext] at hoffset
  rw [h.start_eq, h.stop_eq, hoffset, ← byteLength_append, hoffset', htext, byteLength_append,
    slice_append]

theorem IsElement.positionAt_lt (h : IsElement e v (byteLength x)) (htext : text = x ++ (v ++ y)) :
    (IndexedText.ofText text).positionAt e.start < (IndexedText.ofText text).positionAt e.stop := by
  rw [h.start_eq, h.stop_eq, ← byteLength_append, htext]
  exact StatementLens.positionAt_lt x h.ne_nil y

/-- The text of an element begins with its name, behind a prefix if it has one. -/
theorem IsElement.exists_name (h : IsElement e v (byteLength x)) :
    ∃ pre rest, v = '<' :: (pre ++ (e.qname.name ++ rest)) ∧
      (pre = [] ∨ ∃ space, pre = space ++ [':'] ∧ ∀ c ∈ space, isNameChar c = true) ∧
      StopsAt isNameChar rest ∧ rest.getLast? = some '>' := by
  obtain ⟨n, u, w, raws, tagEnd, rfl, htag, hend, -, hname, hlast⟩ := h.exists_tag
  have hu : u ≠ [] := by
    intro hnil
    have hangle := htag.last hend
    rw [hnil] at hangle
    cases hangle
  have hstops : StopsAt isNameChar (u ++ w) := by
    have hstops := htag.stops
    rw [← List.append_nil u] at hstops
    exact hstops.of_append hu w
  have hrest : (u ++ w).getLast? = some '>' := by
    rw [List.cons_append, List.append_assoc, ← List.cons_append, List.getLast?_append] at hlast
    rcases List.eq_nil_or_concat (u ++ w) with hnil | ⟨front, c, hconcat⟩
    · exact absurd (List.append_eq_nil_iff.1 hnil).1 hu
    · rw [hconcat, List.concat_eq_append, List.getLast?_concat] at hlast ⊢
      exact hlast
  have hsplit := QName.ofChars_cases n
  have hchars := htag.chars
  rw [hname]
  generalize QName.ofChars n = q at hsplit
  rcases hsplit with ⟨rfl, -⟩ | rfl
  · exact ⟨[], u ++ w, by simp, .inl rfl, hstops, hrest⟩
  · exact ⟨q.space ++ [':'], u ++ w, by simp,
      .inr ⟨_, rfl, fun c hc => hchars c (List.mem_append_left _ hc)⟩, hstops, hrest⟩

end Xml

/-! ## The statements of a mapper -/

/-- A statement stands where an element does. -/
def Statement.Selects (s : Statement) (source : IndexedText) (e : Xml.Element) : Prop :=
  s.start = source.positionAt e.start ∧ s.stop = source.positionAt e.stop

namespace XmlMapper

section

variable {uri : String} {text p t z : List Char} {root : Xml.Element} {m : XmlMapper}

/-- The elements in the root are parts of the text. -/
theorem exists_child_text (htext : text = p ++ (t ++ z)) (hroot : Xml.IsElement root t (byteLength p))
    {e : Xml.Element} (he : e ∈ root.children) :
    ∃ x v y, text = x ++ (v ++ y) ∧ Xml.IsElement e v (byteLength x) := by
  obtain ⟨x, v, y, rfl, hv⟩ := hroot.exists_child he
  refine ⟨p ++ x, v, y ++ z, ?_, ?_⟩
  · rw [htext]
    simp
  · rw [byteLength_append]
    exact hv

/-- Elements in the root with one start position are the same. -/
theorem eq_of_positionAt_start (htext : text = p ++ (t ++ z))
    (hroot : Xml.IsElement root t (byteLength p)) {e e' : Xml.Element} (he : e ∈ root.children)
    (he' : e' ∈ root.children)
    (hstart : (IndexedText.ofText text).positionAt e.start = (IndexedText.ofText text).positionAt e'.start) :
    e = e' := by
  -- of two elements, one starts behind the other
  have hbehind : ∀ a ∈ root.children, ∀ b ∈ root.children, a.stop ≤ b.start →
      (IndexedText.ofText text).positionAt a.start ≠ (IndexedText.ofText text).positionAt b.start := by
    intro a ha b hb hle heq
    obtain ⟨x, v, y, hx, hv⟩ := exists_child_text htext hroot ha
    obtain ⟨x', v', y', hx', hv'⟩ := exists_child_text htext hroot hb
    have hlt := hv.start_lt_stop
    rw [hv.start_eq] at hlt heq
    rw [hv'.start_eq] at hle heq
    have hpositions := positionAt_lt_of_lt hx hx' (Nat.lt_of_lt_of_le hlt hle)
    rw [heq] at hpositions
    rcases hpositions with hline | ⟨-, hcharacter⟩
    · exact Nat.lt_irrefl _ hline
    · exact Nat.lt_irrefl _ hcharacter
  by_contra hne
  have hsymm : Std.Symm fun a b : Xml.Element => a.stop ≤ b.start ∨ b.stop ≤ a.start :=
    ⟨fun _ _ => Or.symm⟩
  have hpairwise : root.children.Pairwise fun a b => a.stop ≤ b.start ∨ b.stop ≤ a.start :=
    hroot.children_pairwise.imp Or.inl
  rcases List.Pairwise.forall hpairwise he he' hne with hle | hle
  · exact hbehind e he e' he' hle hstart
  · exact hbehind e' he' e he hle hstart.symm

/-- A statement selects the text of its element. -/
theorem selection_of_mem (htext : text = p ++ (t ++ z)) (hroot : Xml.IsElement root t (byteLength p))
    (hm : ofRoot uri (.ofText text) root = .ok (some m)) {s : Statement} (hs : s ∈ m.statements) :
    s.start < s.stop ∧ ∃ pre rest,
      slice ((IndexedText.ofText text).offsetAt s.start) ((IndexedText.ofText text).offsetAt s.stop) text
        = '<' :: (pre ++ (s.kind.elementName.toList ++ rest)) ∧
      (pre = [] ∨ ∃ space, pre = space ++ [':'] ∧ ∀ c ∈ space, Xml.isNameChar c = true) ∧
      StopsAt Xml.isNameChar rest ∧ rest.getLast? = some '>' := by
  obtain ⟨e, he, hstatement⟩ := (mem_statements_iff hm).1 hs
  obtain ⟨hkind, -, hstart, hstop⟩ := statementOf?_eq_some_iff.1 hstatement
  obtain ⟨x, v, y, hx, hv⟩ := exists_child_text htext hroot he
  rw [hstart, hstop, hv.slice_positions hx, ← hkind]
  exact ⟨hv.positionAt_lt hx, hv.exists_name⟩

/-- No two statements overlap, and they are in the order of the text. -/
theorem statements_pairwise (htext : text = p ++ (t ++ z))
    (hroot : Xml.IsElement root t (byteLength p)) (hm : ofRoot uri (.ofText text) root = .ok (some m)) :
    m.statements.Pairwise fun s s' => s.stop ≤ s'.start := by
  obtain ⟨space, offset, -, -, rfl⟩ := ofRoot_eq_some_iff.1 hm
  refine List.pairwise_filterMap.2 (hroot.children_pairwise.imp_of_mem ?_)
  intro e e' he he' hle s hs s' hs'
  obtain ⟨-, -, -, hstop⟩ := statementOf?_eq_some_iff.1 hs
  obtain ⟨-, -, hstart, -⟩ := statementOf?_eq_some_iff.1 hs'
  obtain ⟨x, v, y, hx, hv⟩ := exists_child_text htext hroot he
  obtain ⟨x', v', y', hx', hv'⟩ := exists_child_text htext hroot he'
  rw [hv.stop_eq, ← byteLength_append] at hle hstop
  rw [hv'.start_eq] at hle hstart
  rw [hstop, hstart]
  exact positionAt_le_of_le (hx.trans (List.append_assoc x v y).symm) hx' hle

/-- Statements end in front of the place for new ones. -/
theorem stop_le_insertPosition (htext : text = p ++ (t ++ z))
    (hroot : Xml.IsElement root t (byteLength p)) (hparse : Xml.parse text = .ok root)
    (hm : ofRoot uri (.ofText text) root = .ok (some m)) {s : Statement} (hs : s ∈ m.statements) :
    s.stop ≤ m.insertPosition := by
  obtain ⟨e, he, hstatement⟩ := (mem_statements_iff hm).1 hs
  obtain ⟨-, -, -, hstop⟩ := statementOf?_eq_some_iff.1 hstatement
  obtain ⟨x, v, y, hx, hv⟩ := exists_child_text htext hroot he
  rcases Xml.selfClosedRoot_or hparse with ⟨⟨c⟩⟩ | hlt | ⟨⟨c⟩⟩
  · -- there is nothing in a root that closes itself
    rw [show root.children = [] from congrArg Xml.Element.children c.root_eq] at he
    cases he
  · exact absurd hroot.start_lt_stop (Nat.not_lt.2 hlt.le)
  have hle : e.stop ≤ byteLength (c.toFront.text ++ c.blank) := by
    have hchildren : root.children = c.open_.children.reverse :=
      congrArg Xml.Element.children c.root_eq
    rw [hchildren] at he
    have hwithin := (c.children_within e (List.mem_reverse.1 he)).2
    rw [byteLength_append]
    omega
  rw [hv.stop_eq, ← byteLength_append] at hle hstop
  rw [hstop, insertPosition_eq c hm]
  exact positionAt_le_of_le (hx.trans (List.append_assoc x v y).symm) c.text_split hle

/-- An element in the root is selected by a statement if and only if it has the name of a kind and an id is
written in its tag. -/
theorem exists_selects_iff (htext : text = p ++ (t ++ z)) (hroot : Xml.IsElement root t (byteLength p))
    (hm : ofRoot uri (.ofText text) root = .ok (some m)) {e : Xml.Element} (he : e ∈ root.children) :
    (∃ s ∈ m.statements, s.Selects (.ofText text) e) ↔
      (∃ kind : StatementKind, e.qname.name = kind.elementName.toList) ∧
        ∃ raw ∈ Xml.attributesAt text e.start, raw.name = ⟨[], "id".toList⟩ := by
  obtain ⟨x, v, y, hx, hv⟩ := exists_child_text htext hroot he
  obtain ⟨n, u, w, raws, tagEnd, rfl, htag, hend, hcarries, -, -⟩ := hv.exists_tag
  have hwritten : (∃ raw ∈ Xml.attributesAt text e.start, raw.name = ⟨[], "id".toList⟩) ↔
      (e.attribute? "id").isSome = true := by
    rw [hcarries.attribute?_isSome_iff (by decide), hv.start_eq, hx, List.append_assoc]
    simp only [Xml.mem_attributesAt_iff htag hend]
    constructor
    · rintro ⟨_, ⟨raw, hraw, rfl⟩, hname⟩
      exact ⟨raw, hraw, hname⟩
    · rintro ⟨raw, hraw, hname⟩
      exact ⟨_, ⟨raw, hraw, rfl⟩, hname⟩
  rw [hwritten, ← statementOf?_isSome_iff (.ofText text)]
  constructor
  · rintro ⟨s, hs, hstart, -⟩
    obtain ⟨e', he', hstatement⟩ := (mem_statements_iff hm).1 hs
    obtain ⟨-, -, hstart', -⟩ := statementOf?_eq_some_iff.1 hstatement
    obtain rfl := eq_of_positionAt_start htext hroot he he' (hstart.symm.trans hstart')
    exact ⟨s, hstatement⟩
  · rintro ⟨s, hstatement⟩
    obtain ⟨-, -, hstart, hstop⟩ := statementOf?_eq_some_iff.1 hstatement
    exact ⟨s, (mem_statements_iff hm).2 ⟨e, he, hstatement⟩, hstart, hstop⟩

end

end XmlMapper

/-- In a document without entities, each statement selects the text of an element directly in the root,
from its tag to its last angle bracket. Selections come one after the other, in front of the place for new
statements. Exactly those elements are selected that have the name of a kind and an id. -/
theorem statements_select_elements (uri : String) (text : List Char) (m : XmlMapper)
    (hm : XmlMapper.parse uri text = .ok (some m)) (hsubset : Xml.hasSubset text = false) :
    let source := IndexedText.ofText text
    (∀ s ∈ m.statements, s.start < s.stop ∧ ∃ pre rest,
      slice (source.offsetAt s.start) (source.offsetAt s.stop) text
        = '<' :: (pre ++ (s.kind.elementName.toList ++ rest)) ∧
      (pre = [] ∨ ∃ space, pre = space ++ [':'] ∧ ∀ c ∈ space, Xml.isNameChar c = true) ∧
      StopsAt Xml.isNameChar rest ∧ rest.getLast? = some '>') ∧
    m.statements.Pairwise (fun s s' => s.stop ≤ s'.start) ∧
    (∀ s ∈ m.statements, s.stop ≤ m.insertPosition) ∧
    ∃ root, Xml.parse text = .ok root ∧
      Xml.IsElement root (slice root.start root.stop text) root.start ∧
      (∀ s ∈ m.statements, ∃ e ∈ root.children, s.Selects source e) ∧
      ∀ e ∈ root.children, (∃ s ∈ m.statements, s.Selects source e) ↔
        (∃ kind : StatementKind, e.qname.name = kind.elementName.toList) ∧
          ∃ raw ∈ Xml.attributesAt text e.start, raw.name = ⟨[], "id".toList⟩ := by
  intro source
  obtain ⟨root, hparse, hroot⟩ := XmlMapper.parse_eq_some_iff.1 hm
  obtain ⟨p, t, z, htext, helement⟩ := Xml.exists_isElement hparse hsubset
  refine ⟨fun s hs => XmlMapper.selection_of_mem htext helement hroot hs,
    XmlMapper.statements_pairwise htext helement hroot,
    fun s hs => XmlMapper.stop_le_insertPosition htext helement hparse hroot hs, root, hparse, ?_,
    fun s hs => ?_, fun e he => XmlMapper.exists_selects_iff htext helement hroot he⟩
  · have hslice := slice_append p t z
    rw [← htext] at hslice
    rw [helement.start_eq, helement.stop_eq, hslice]
    exact helement
  · obtain ⟨e, he, hstatement⟩ := (XmlMapper.mem_statements_iff hroot).1 hs
    obtain ⟨-, -, hstart, hstop⟩ := XmlMapper.statementOf?_eq_some_iff.1 hstatement
    exact ⟨e, he, hstart, hstop⟩

/-- A mapper with a prefix, wide characters, elements inside of a statement, a comment and raw text that
look like statements, and elements in the root that are none. -/
def nestedMapper : List Char :=
  ["<!DOCTYPE mapper SYSTEM \"m.dtd\">\r\n", "<mapper xmlns:m=\"u\" namespace=\"x\">",
    "<!-- <sql id=\"no\"/> -->é", "<m:select id=\"a\"><sql id=\"inner\"/>\n",
    "<if test=\"😀\"/></m:select>\n", "<resultMap id=\"r\"/><sql/>",
    "<update id=\"b\"><![CDATA[</update>]]>", "</update >\r</mapper>"].flatMap String.toList

/-- The first statement has a prefix, and what is inside of it is not selected. -/
theorem statements_select_elements_nestedMapper :
    XmlMapper.parse "u" nestedMapper = .ok (some ⟨"u", "x",
      [⟨"a", .select, ⟨1, 58⟩, ⟨2, 26⟩⟩, ⟨"b", .update, ⟨3, 25⟩, ⟨3, 71⟩⟩], ⟨3, 72⟩⟩) ∧
    Xml.hasSubset nestedMapper = false ∧
    (∃ pre rest, slice ((IndexedText.ofText nestedMapper).offsetAt ⟨1, 58⟩)
        ((IndexedText.ofText nestedMapper).offsetAt ⟨2, 26⟩) nestedMapper
      = '<' :: (pre ++ ("select".toList ++ rest)) ∧ rest.getLast? = some '>') ∧
    (⟨2, 26⟩ : Position) ≤ ⟨3, 25⟩ ∧ (⟨3, 71⟩ : Position) ≤ ⟨3, 72⟩ := by
  obtain ⟨hm, hsubset⟩ : XmlMapper.parse "u" nestedMapper = .ok (some ⟨"u", "x",
      [⟨"a", .select, ⟨1, 58⟩, ⟨2, 26⟩⟩, ⟨"b", .update, ⟨3, 25⟩, ⟨3, 71⟩⟩], ⟨3, 72⟩⟩) ∧
      Xml.hasSubset nestedMapper = false := by
    decide +kernel
  obtain ⟨hselects, hordered, hplace, -⟩ := statements_select_elements "u" nestedMapper _ hm hsubset
  obtain ⟨-, pre, rest, hslice, -, -, hlast⟩ := hselects _ List.mem_cons_self
  have hdisjoint := (List.pairwise_cons.1 hordered).1 _ (List.mem_singleton_self _)
  have hstop := hplace _ (List.mem_cons_of_mem _ (List.mem_singleton_self _))
  exact ⟨hm, hsubset, ⟨pre, rest, hslice, hlast⟩, hdisjoint, hstop⟩

end StatementLens
