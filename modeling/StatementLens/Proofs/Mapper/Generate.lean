import StatementLens.Proofs.Mapper.Root
import StatementLens.Proofs.Mapper.Skeleton
import StatementLens.Text.Edit

/-!
# Generating statements

The skeleton of a statement, inserted at the place that the mapper gives for new statements, is the
last statement of the mapper that is read back. The lens of the method then leads to it, and the lenses
of other methods stay what they are (`generate_then_navigate`). The text behind an entity that breaks off
inside a tag is the exception: an id of this tag clashes with that of the statement.
-/

namespace StatementLens

open Text

/-- What a statement is called and does. -/
def Statement.signature (s : Statement) : String × StatementKind := (s.name, s.kind)

variable {uri : String} {text : List Char} {root : Xml.Element} {m : XmlMapper}

namespace XmlMapper

/-! ## New statements -/

/-- The element of an entry declares the statement of its kind, if no other id comes first. -/
theorem statementOf?_entry (source : IndexedText) (kind : StatementKind) {name : String}
    (h : IsIdentifier name) {attributes : List Xml.Attribute}
    (hid : ∀ a ∈ attributes, ¬ (a.space = none ∧ a.name = "id".toList)) (k : Nat) :
    statementOf? source ((kind.entry name h).element attributes k) = some ⟨name, kind,
      source.positionAt k, source.positionAt (k + byteLength (kind.entry name h).text)⟩ := by
  have hkind : StatementKind.ofElementName? (String.ofList kind.elementName.toList) = some kind := by
    cases kind <;> rfl
  -- attributes from a tag broken off come first, but none of them is an id
  have hfind : (attributes.find? fun a => a.space = none && a.name = "id".toList) = none := by
    rw [List.find?_eq_none]
    intro a ha
    simpa using hid a ha
  have hattribute : ((kind.entry name h).element attributes k).attribute? "id" = some name.toList := by
    unfold Xml.Element.attribute? Xml.Entry.element Xml.Element.attributes
    rw [List.find?_append, hfind]
    rfl
  unfold statementOf?
  rw [hattribute]
  show (StatementKind.ofElementName? (String.ofList kind.elementName.toList)).bind _ = _
  rw [hkind, Option.bind_some]
  show some (Statement.mk (String.ofList name.toList) _ _ _) = _
  rw [String.ofList_toList]
  rfl

/-- An entry is the one of the statement that a method of this name would have. -/
def Declares (name : String) (entry : Xml.Entry × List Char) : Prop :=
  ∃ h, entry.1 = (StatementKind.infer name).entry name h

/-- The elements of entries declare the statements of their methods. -/
theorem statements_entryElements (source : IndexedText) {names : List String}
    {entries : List (Xml.Entry × List Char)} (h : List.Forall₂ Declares names entries)
    {attributes : List Xml.Attribute}
    (hid : ∀ a ∈ attributes, ¬ (a.space = none ∧ a.name = "id".toList)) (k : Nat) :
    ((Xml.entryElements attributes k entries).filterMap (statementOf? source)).map Statement.signature
      = names.map fun name => (name, StatementKind.infer name) := by
  induction h generalizing attributes k with
  | nil => rfl
  | @cons name entry names entries hentry _ ih =>
    obtain ⟨e, gap⟩ := entry
    obtain ⟨hname, rfl⟩ := hentry
    rw [Xml.entryElements, List.filterMap_cons_some (statementOf?_entry source _ hname hid _),
      List.map_cons, List.map_cons, ih (by simp)]
    rfl

/-- Entries in front of the closing tag of the root are the last statements of the mapper. -/
theorem parse_insert (c : Xml.ClosedRoot text root)
    (hm : ofRoot uri (.ofText text) root = .ok (some m))
    {blank' space : List Char} (hblank : c.blank = blank' ++ space)
    (hspace : ∀ ch ∈ space, Xml.isSpace ch = true) {names : List String} (hne : names ≠ [])
    {entries : List (Xml.Entry × List Char)} (hentries : List.Forall₂ Declares names entries)
    (hgaps : ∀ entry ∈ entries, ∀ ch ∈ entry.2, Xml.isSpace ch = true)
    (hfresh : ⟨[], "id".toList⟩ ∉ Xml.leftover (c.toFront.text ++ c.blank)) :
    ∃ m' news, parse uri (c.insert blank' entries) = .ok (some m') ∧ m'.uri = m.uri ∧
      m'.namespace_ = m.namespace_ ∧ m'.statements = m.statements ++ news ∧
      news.map Statement.signature = names.map (fun name => (name, StatementKind.infer name)) ∧
      m'.insertPosition = (IndexedText.ofText (c.insert blank' entries)).positionAt
        (byteLength (c.toFront.text ++ (blank' ++ Xml.inserted entries))) := by
  have hne' : entries ≠ [] := by
    rintro rfl
    cases hentries
    exact hne rfl
  obtain ⟨attributes, hid, hparse⟩ := c.parse_insert hblank hspace hne' hgaps hfresh
  -- the last closing tag of the root is still its own, for it stands behind the entries
  have hoffset : insertOffset (c.insert blank' entries) root.start
      (byteLength (c.toFront.text ++ (blank' ++ (Xml.inserted entries ++ c.close))))
      = .ok (byteLength (c.toFront.text ++ (blank' ++ Xml.inserted entries))) := by
    have hclose := insertOffset_close c.toFront c.isClose (blank' ++ Xml.inserted entries)
      (c.tail ++ c.misc)
    rw [c.root_start]
    simpa [Xml.ClosedRoot.insert] using hclose
  have hextend := ofRoot_extend c hm
    (blank' ++ (Xml.inserted entries ++ (c.close ++ c.tail)) ++ c.misc)
    (Xml.entryElements attributes (byteLength (c.toFront.text ++ blank')) entries) hoffset
  exact ⟨_, _, parse_eq_some_iff.2 ⟨_, hparse, hextend⟩, rfl, rfl, rfl,
    statements_entryElements _ hentries hid _, rfl⟩

/-- Where an id is left from a tag broken off, no statement can be inserted. -/
theorem parse_insert_error (uri : String) (c : Xml.ClosedRoot text root)
    {blank' space : List Char} (hblank : c.blank = blank' ++ space)
    (hspace : ∀ ch ∈ space, Xml.isSpace ch = true) {entries : List (Xml.Entry × List Char)}
    (hne : entries ≠ []) (hgaps : ∀ entry ∈ entries, ∀ ch ∈ entry.2, Xml.isSpace ch = true)
    (hleft : ⟨[], "id".toList⟩ ∈ Xml.leftover (c.toFront.text ++ c.blank)) :
    ∃ f, parse uri (c.insert blank' entries) = .error (.malformed f) := by
  have hparse := c.parse_insert_ne_ok hblank hspace hne hgaps hleft
  unfold parse
  cases hresult : Xml.parse (c.insert blank' entries) with
  | error f => exact ⟨_, rfl⟩
  | ok root' => exact absurd hresult (hparse root')

/-! ## Actions -/

/-- The statements behind others are found where the others have no such name. -/
theorem find?_append {m m' : XmlMapper} {news : List Statement}
    (h : m'.statements = m.statements ++ news) (name : String) :
    m'.find? name = (m.find? name).or (news.find? fun s => s.name = name) := by
  unfold find?
  rw [h, List.find?_append]

end XmlMapper

/-- The action with another place for a new statement. -/
def Action.placedAt (position : Position) : Action → Action
  | .navigate uri selection => .navigate uri selection
  | .generate uri _ skeleton => .generate uri position skeleton

namespace XmlMapper

/-- New statements leave the actions for other methods as they are, but for the place of new ones. -/
theorem actionFor_other {m m' : XmlMapper} {news : List Statement} (huri : m'.uri = m.uri)
    (h : m'.statements = m.statements ++ news) {method : JavaMethod}
    (hother : ∀ s ∈ news, s.name ≠ method.name) :
    m'.actionFor method = (m.actionFor method).placedAt m'.insertPosition := by
  have hnone : (news.find? fun s => s.name = method.name) = none := by
    rw [List.find?_eq_none]
    intro s hs
    simpa using hother s hs
  have hfind : m'.find? method.name = m.find? method.name := by
    rw [find?_append h, hnone, Option.or_none]
  unfold actionFor
  rw [hfind, huri]
  cases m.find? method.name <;> rfl

/-- The action for a method without a statement leads to the first new one that has its name. -/
theorem actionFor_new {m m' : XmlMapper} {news : List Statement} (huri : m'.uri = m.uri)
    (h : m'.statements = m.statements ++ news) {method : JavaMethod} {new : Statement}
    (hfresh : ∀ s ∈ m.statements, s.name ≠ method.name)
    (hnew : (news.find? fun s => s.name = method.name) = some new) :
    m'.actionFor method = .navigate m.uri ⟨new.start, new.stop⟩ := by
  have hnone : m.find? method.name = none := by
    unfold find?
    rw [List.find?_eq_none]
    intro s hs
    simpa using hfresh s hs
  have hfind : m'.find? method.name = some new := by
    rw [find?_append h, hnone, hnew, Option.none_or]
  unfold actionFor
  rw [hfind, huri]

end XmlMapper

/-! ## Executing a lens -/

/-- The text after the skeleton of the statement of a method has been inserted at a position. -/
def insertSkeleton (position : Position) (text : List Char) (name : String) : List Char :=
  applyChanges text
    [⟨some ⟨position, position⟩, (skeleton (StatementKind.infer name) name).toList⟩]

/-- Whether the text in front of a position breaks off inside a tag that has an id, which is then left
to the next tag. -/
def LeavesId (position : Position) (text : List Char) : Prop :=
  ⟨[], "id".toList⟩ ∈ Xml.leftover (takeBytes ((IndexedText.ofText text).offsetAt position) text)

instance (position : Position) (text : List Char) : Decidable (LeavesId position text) :=
  inferInstanceAs (Decidable (_ ∈ Xml.leftover _))

theorem insertSkeleton_eq {position : Position} {text a b : List Char} (htext : text = a ++ b)
    (h : (IndexedText.ofText text).offsetAt position = byteLength a) (name : String) :
    insertSkeleton position text name
      = a ++ ((skeleton (StatementKind.infer name) name).toList ++ b) := by
  subst htext
  show takeBytes ((IndexedText.ofText (a ++ b)).offsetAt position) (a ++ b) ++ _
    ++ dropBytes (max _ ((IndexedText.ofText (a ++ b)).offsetAt position)) (a ++ b) = _
  rw [h, Nat.max_self, takeBytes_append, dropBytes_append, List.append_assoc]

/-- The skeleton of a statement has five line feeds. -/
theorem count_skeleton (kind : StatementKind) {name : String} (h : IsIdentifier name) :
    (skeleton kind name).toList.count '\n' = 5 := by
  have hname : name.toList.count '\n' = 0 := by
    rw [List.count_eq_zero]
    intro hmem
    exact absurd (h.isPlainXml _ hmem) (by decide)
  have hkind : kind.elementName.toList.count '\n' = 0 := by cases kind <;> rfl
  unfold skeleton
  simp only [String.toList_append, List.count_append, hname, hkind]
  rfl

namespace XmlMapper

/-- What is left behind at the place for new statements is left by the text in front of the closing tag. -/
theorem leavesId_insertPosition (c : Xml.ClosedRoot text root)
    (hm : ofRoot uri (.ofText text) root = .ok (some m)) :
    LeavesId m.insertPosition text
      ↔ ⟨[], "id".toList⟩ ∈ Xml.leftover (c.toFront.text ++ c.blank) := by
  have htake := takeBytes_append (c.toFront.text ++ c.blank) (c.close ++ (c.tail ++ c.misc))
  rw [← c.text_split] at htake
  unfold LeavesId
  rw [offsetAt_insertPosition c hm, htake]

theorem insertSkeleton_insertPosition (c : Xml.ClosedRoot text root)
    (hm : ofRoot uri (.ofText text) root = .ok (some m)) {name : String} (h : IsIdentifier name) :
    insertSkeleton m.insertPosition text name
      = c.insert c.blank [((StatementKind.infer name).entry name h, [])] := by
  rw [insertSkeleton_eq c.text_split (offsetAt_insertPosition c hm), skeleton_toList _ h]
  simp [Xml.ClosedRoot.insert, Xml.inserted]

/-- After a skeleton new statements go to the start of the line behind it. -/
theorem positionAt_skeleton (c : Xml.ClosedRoot text root)
    (hm : ofRoot uri (.ofText text) root = .ok (some m)) {name : String} (h : IsIdentifier name) :
    (IndexedText.ofText (c.insert c.blank [((StatementKind.infer name).entry name h, [])])).positionAt
        (byteLength (c.toFront.text
          ++ (c.blank ++ Xml.inserted [((StatementKind.infer name).entry name h, [])])))
      = ⟨m.insertPosition.line + 5, 0⟩ := by
  obtain ⟨front, last, hsplit, hfront, hlast⟩ := exists_lastLine (c.toFront.text ++ c.blank)
  have hline : m.insertPosition.line = front.count '\n' := by
    rw [insertPosition_eq_of_line c hm hsplit hfront hlast]
  have hinserted : Xml.inserted [((StatementKind.infer name).entry name h, [])]
      = (skeleton (StatementKind.infer name) name).toList := by
    rw [skeleton_toList _ h]
    simp [Xml.inserted]
  -- the text in front of the new place ends with a line feed, so its last line is empty
  have hends : EndsLine
      (c.toFront.text ++ (c.blank ++ (skeleton (StatementKind.infer name) name).toList)) := by
    refine Or.inr ⟨c.toFront.text ++ (c.blank ++ (Xml.Entry.lead
      ++ (((StatementKind.infer name).entry name h).text ++ ['\n']))), ?_⟩
    rw [skeleton_toList _ h]
    simp [Xml.Entry.trail]
  have hcount : (c.toFront.text
      ++ (c.blank ++ (skeleton (StatementKind.infer name) name).toList)).count '\n'
      = front.count '\n' + 5 := by
    rw [← List.append_assoc, List.count_append, hsplit, List.count_append, List.count_eq_zero.2 hlast,
      count_skeleton _ h]
  have hpos := positionAt_eq ((c.close ++ c.tail) ++ c.misc) hends (show '\n' ∉ [] by simp)
  rw [hline, ← hcount]
  unfold Xml.ClosedRoot.insert
  rw [hinserted]
  simpa using hpos

end XmlMapper

/-- Whether the root element of a text has a closing tag. A root that closes itself holds no `</`, for
its text is a single tag. -/
def Xml.RootCloses (text : List Char) : Prop :=
  ∃ root, Xml.parse text = .ok root ∧ "</".toList <:+: slice root.start root.stop text

instance (text : List Char) : Decidable (Xml.RootCloses text) :=
  match h : Xml.parse text with
  | .ok root =>
    decidable_of_iff (contains "</".toList (slice root.start root.stop text) = true) (by
      unfold Xml.RootCloses
      simp [h, contains_iff])
  | .error _ => isFalse (by simp [Xml.RootCloses, h])

theorem XmlMapper.exists_closedRoot
    (hm : XmlMapper.parse uri text = .ok (some m)) (hclose : Xml.RootCloses text) :
    ∃ root, ofRoot uri (.ofText text) root = .ok (some m) ∧ Nonempty (Xml.ClosedRoot text root) := by
  obtain ⟨root, hparse, hroot⟩ := parse_eq_some_iff.1 hm
  obtain ⟨root', hparse', hinfix⟩ := hclose
  rw [hparse] at hparse'
  cases hparse'
  exact ⟨root, hroot, Xml.exists_closedRoot hparse hinfix⟩

/-- Without entities every tag ends where it should, so no id is left behind. -/
theorem XmlMapper.not_leavesId (c : Xml.ClosedRoot text root)
    (hm : ofRoot uri (.ofText text) root = .ok (some m)) (hsubset : Xml.hasSubset text = false) :
    ¬ LeavesId m.insertPosition text := by
  rw [leavesId_insertPosition c hm, c.leftover_front, c.pending_before hsubset]
  exact List.not_mem_nil

/-- Executing a lens that generates a statement makes it one that leads to the statement, and moves no
other one. It fails exactly where the text in front of the closing tag leaves an id behind, which a text
without an internal subset never does. -/
theorem generate_then_navigate (uri : String) (text : List Char) (m : XmlMapper) (name : String)
    (hm : XmlMapper.parse uri text = .ok (some m)) (hclose : Xml.RootCloses text)
    (hname : IsIdentifier name) (hnew : ∀ s ∈ m.statements, s.name ≠ name) :
    (¬ LeavesId m.insertPosition text → ∃ m' new,
      XmlMapper.parse uri (insertSkeleton m.insertPosition text name) = .ok (some m') ∧
      m'.uri = m.uri ∧ m'.namespace_ = m.namespace_ ∧ m'.statements = m.statements ++ [new] ∧
      new.name = name ∧ new.kind = StatementKind.infer name ∧
      m'.insertPosition = ⟨m.insertPosition.line + 5, 0⟩ ∧
      (∀ method : JavaMethod, method.name = name →
        m'.actionFor method = .navigate m.uri ⟨new.start, new.stop⟩) ∧
      ∀ method : JavaMethod, method.name ≠ name →
        m'.actionFor method = (m.actionFor method).placedAt m'.insertPosition) ∧
    (LeavesId m.insertPosition text →
      ∃ f, XmlMapper.parse uri (insertSkeleton m.insertPosition text name) = .error (.malformed f)) ∧
    (Xml.hasSubset text = false → ¬ LeavesId m.insertPosition text) := by
  obtain ⟨root, hroot, ⟨c⟩⟩ := XmlMapper.exists_closedRoot hm hclose
  rw [← and_assoc]
  refine ⟨?_, XmlMapper.not_leavesId c hroot⟩
  rw [XmlMapper.leavesId_insertPosition c hroot, XmlMapper.insertSkeleton_insertPosition c hroot hname]
  have hgaps : ∀ entry ∈ [((StatementKind.infer name).entry name hname, ([] : List Char))],
      ∀ ch ∈ entry.2, Xml.isSpace ch = true := by simp
  have hblank : c.blank = c.blank ++ [] := (List.append_nil _).symm
  constructor
  · intro hleft
    obtain ⟨m', news, hparse, huri, hspace, hstatements, hpairs, hposition⟩ :=
      XmlMapper.parse_insert c hroot hblank (by simp) (List.cons_ne_nil name [])
        (.cons ⟨hname, rfl⟩ .nil) hgaps hleft
    obtain ⟨new, rfl, hpair⟩ := List.map_eq_singleton_iff.1 hpairs
    obtain ⟨hnewName, hnewKind⟩ := Prod.mk.inj hpair
    rw [XmlMapper.positionAt_skeleton c hroot hname] at hposition
    refine ⟨m', new, hparse, huri, hspace, hstatements, hnewName, hnewKind, hposition, ?_, ?_⟩
    · rintro method rfl
      exact XmlMapper.actionFor_new huri hstatements hnew (by simp [hnewName])
    · intro method hother
      refine XmlMapper.actionFor_other huri hstatements fun s hs => ?_
      rw [List.mem_singleton.1 hs, hnewName]
      exact Ne.symm hother
  · exact XmlMapper.parse_insert_error uri c hblank (by simp) (by simp) hgaps

/-- A mapper in which an entity breaks off inside a tag that has an id. -/
def brokenTag : List Char :=
  "<!DOCTYPE m [<!ENTITY e '<b id=\"1\"'>]><mapper namespace=\"x\">&e;</mapper>".toList

/-- The id that is left behind and the id of the new statement clash. -/
theorem generate_behind_broken_tag :
    XmlMapper.parse "u" brokenTag = .ok (some ⟨"u", "x", [], ⟨0, 63⟩⟩) ∧ Xml.RootCloses brokenTag ∧
    IsIdentifier "foo" ∧ XmlMapper.parse "u" (insertSkeleton ⟨0, 63⟩ brokenTag "foo")
      = .error (.malformed "u: attribute 'id' at 2:10 is already defined") :=
  ⟨by decide +kernel, by decide +kernel, by decide +kernel, by decide +kernel⟩

/-- A mapper with a comment that looks like its closing tag, a wide character, a carriage return in
front of the closing tag and an entity that breaks off inside a tag without an id. -/
def mixedMapper : List Char :=
  ("<!DOCTYPE m [<!ENTITY e '<b x=\"1\"'>]>\r\n<m:mapper xmlns:m=\"u\" namespace=\" x \">\n" ++
    "<select id=\"one\"/><!-- </mapper> -->\r\n😀&e;\r</m:mapper>\n").toList

theorem generate_then_navigate_mixedMapper :
    XmlMapper.parse "u" mixedMapper
      = .ok (some ⟨"u", "x", [⟨"one", .select, ⟨2, 0⟩, ⟨2, 18⟩⟩], ⟨3, 6⟩⟩) ∧
    Xml.RootCloses mixedMapper ∧ IsIdentifier "addInsertÉ" ∧ ¬ LeavesId ⟨3, 6⟩ mixedMapper ∧
    ∃ m' new, XmlMapper.parse "u" (insertSkeleton ⟨3, 6⟩ mixedMapper "addInsertÉ") = .ok (some m') ∧
      m'.statements = [⟨"one", .select, ⟨2, 0⟩, ⟨2, 18⟩⟩, new] ∧ new.name = "addInsertÉ" ∧
      new.kind = .insert ∧ m'.insertPosition = ⟨8, 0⟩ := by
  have hparse : XmlMapper.parse "u" mixedMapper
      = .ok (some ⟨"u", "x", [⟨"one", .select, ⟨2, 0⟩, ⟨2, 18⟩⟩], ⟨3, 6⟩⟩) := by decide +kernel
  have hclose : Xml.RootCloses mixedMapper := by decide +kernel
  have hname : IsIdentifier "addInsertÉ" := by decide +kernel
  have hleft : ¬ LeavesId ⟨3, 6⟩ mixedMapper := by decide +kernel
  obtain ⟨m', new, hparse', -, -, hstatements, hnewName, hnewKind, hposition, -⟩ :=
    (generate_then_navigate "u" mixedMapper _ "addInsertÉ" hparse hclose hname (by decide)).1 hleft
  exact ⟨hparse, hclose, hname, hleft, m', new, hparse', hstatements, hnewName,
    hnewKind.trans (by decide +kernel), hposition⟩

end StatementLens
