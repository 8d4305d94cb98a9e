import StatementLens.Mapper.Xml
import StatementLens.Proofs.Positions
import StatementLens.Proofs.Xml.Insertion
import StatementLens.Proofs.Xml.Written

/-!
# The mapper of a root element

A root with a closing tag has the place for new statements in front of the tag
(`offsetAt_insertPosition`), and further elements of the root are further statements of the mapper
(`ofRoot_extend`). There is no place in a root that stops before it starts (`exists_inverted_iff`).
-/

namespace StatementLens

open Text

/-! ## The place for new statements -/

private theorem lastClosingFrom_of_no_closing {cs : List Char} (h : ¬ ['<', '/'] <:+: cs) (offset : Nat)
    (last : Option Nat) : lastClosingFrom offset last cs = last := by
  induction cs generalizing offset with
  | nil => rfl
  | cons c cs ih =>
    rw [List.infix_cons_iff, not_or] at h
    have hfirst : ¬ ['<', '/'].isPrefixOf (c :: cs) = true := mt List.isPrefixOf_iff_prefix.1 h.1
    rw [lastClosingFrom, if_neg hfirst]
    exact ih h.2 _

private theorem lastClosingFrom_append (x : List Char) {y : List Char} (hy : '<' ∉ y) (offset : Nat)
    (last : Option Nat) :
    lastClosingFrom offset last (x ++ '<' :: '/' :: y) = some (offset + byteLength x) := by
  induction x generalizing offset last with
  | nil =>
    rw [List.nil_append, lastClosingFrom]
    refine lastClosingFrom_of_no_closing (fun hclosing => ?_) _ _
    have hmem : '<' ∈ '/' :: y := hclosing.subset (by simp)
    simp [hy] at hmem
  | cons c x ih =>
    rw [List.cons_append, lastClosingFrom, ih, byteLength_cons, Nat.add_assoc]

/-- The last closing tag of a text is the one behind which there is no markup. -/
theorem lastClosing_append (x : List Char) {y : List Char} (hy : '<' ∉ y) :
    lastClosing (x ++ '<' :: '/' :: y) = some (byteLength x) := by
  unfold lastClosing
  rw [lastClosingFrom_append x hy, Nat.zero_add]

/-- New statements go behind a root that has no closing tag. -/
theorem insertOffset_of_no_closing {text : List Char} {start stop : Nat} (hle : start ≤ stop)
    (h : ¬ ['<', '/'] <:+: slice start stop text) : insertOffset text start stop = .ok stop := by
  unfold insertOffset lastClosing
  rw [if_neg (Nat.not_lt.2 hle), lastClosingFrom_of_no_closing h]

/-- New statements go in front of the closing tag of the root. -/
theorem insertOffset_close (f : Xml.Front) {name : Xml.QName} {c : List Char}
    (hc : Xml.IsCloseTag name c) (x y : List Char) :
    insertOffset (f.text ++ (x ++ (c ++ y))) (byteLength f.prolog) (byteLength (f.text ++ (x ++ c)))
      = .ok (byteLength (f.text ++ x)) := by
  obtain ⟨v, rfl, hv⟩ := hc.shape
  have htext : f.text ++ (x ++ ('<' :: '/' :: (v ++ ['>']) ++ y))
      = f.prolog ++ (('<' :: (f.name ++ f.attributes) ++ (f.head ++ x))
        ++ '<' :: '/' :: (v ++ ['>']) ++ y) := by
    simp [Xml.Front.text, Xml.Front.opening]
  have hstop : byteLength (f.text ++ (x ++ '<' :: '/' :: (v ++ ['>']))) = byteLength f.prolog +
      byteLength (('<' :: (f.name ++ f.attributes) ++ (f.head ++ x)) ++ '<' :: '/' :: (v ++ ['>'])) := by
    simp only [Xml.Front.text, Xml.Front.opening, byteLength_append]
    omega
  have hlast := lastClosing_append ('<' :: (f.name ++ f.attributes) ++ (f.head ++ x))
    (show '<' ∉ v ++ ['>'] by simp [hv])
  have hplace : byteLength (f.text ++ x)
      = byteLength f.prolog + byteLength ('<' :: (f.name ++ f.attributes) ++ (f.head ++ x)) := by
    simp only [Xml.Front.text, Xml.Front.opening, byteLength_append]
    omega
  unfold insertOffset
  rw [htext, hstop, if_neg (Nat.not_lt.2 (Nat.le_add_right _ _)), slice_append, hlast, hplace]

/-- Only a root that stops before it starts has no place. -/
theorem insertOffset_eq_error_iff {text : List Char} {start stop : Nat} {fault : XmlMapper.Fault} :
    insertOffset text start stop = .error fault ↔ stop < start ∧ fault = .inverted start stop := by
  unfold insertOffset
  by_cases hlt : stop < start
  · simp [hlt, eq_comm]
  · cases lastClosing (slice start stop text) <;> simp [hlt]

/-! ## The mapper of a root -/

variable {uri : String} {text : List Char} {root : Xml.Element} {m : XmlMapper}

/-- A closing tag cuts the text in two. -/
theorem Xml.ClosedRoot.text_split (c : Xml.ClosedRoot text root) :
    text = (c.toFront.text ++ c.blank) ++ (c.close ++ (c.tail ++ c.misc)) := by
  rw [List.append_assoc]
  exact c.text_eq

/-- The root starts behind the prolog. -/
theorem Xml.ClosedRoot.root_start (c : Xml.ClosedRoot text root) : root.start = byteLength c.prolog :=
  (congrArg Xml.Element.start c.root_eq).trans c.start_eq

namespace XmlMapper

/-- A mapper is read from the root of a well-formed document. -/
theorem parse_eq_some_iff :
    parse uri text = .ok (some m) ↔
      ∃ root, Xml.parse text = .ok root ∧ ofRoot uri (.ofText text) root = .ok (some m) := by
  unfold parse
  cases hparse : Xml.parse text with
  | error f => simp
  | ok root => simp

/-- The namespace of a root is what its attribute holds, if it is a mapper and this is more than blank
space. -/
theorem namespaceOf?_eq_some_iff {space : List Char} :
    namespaceOf? root = some space ↔ root.qname.name = mapperElement.toList ∧
      ∃ written, root.attribute? "namespace" = some written ∧ trim written ≠ [] ∧ space = trim written := by
  unfold namespaceOf?
  by_cases hname : root.qname.name = mapperElement.toList
  · rw [if_neg (not_not.2 hname)]
    cases hspace : root.attribute? "namespace" with
    | none => simp
    | some written =>
      rw [Option.map_some, Option.filter_eq_some_iff]
      constructor
      · rintro ⟨hsame, hne⟩
        obtain rfl := Option.some.inj hsame
        exact ⟨hname, written, rfl, by simpa using hne, rfl⟩
      · rintro ⟨-, _, hsame, hne, rfl⟩
        cases hsame
        exact ⟨rfl, by simpa using hne⟩
  · simp [hname]

/-- A root is a mapper with the statements that its elements declare. -/
theorem ofRoot_eq_some_iff {source : IndexedText} :
    ofRoot uri source root = .ok (some m) ↔
      ∃ space offset, namespaceOf? root = some space ∧
        insertOffset source.text root.start root.stop = .ok offset ∧
        m = ⟨uri, String.ofList space, root.children.filterMap (statementOf? source),
          source.positionAt offset⟩ := by
  unfold ofRoot
  cases namespaceOf? root with
  | none => simp
  | some space =>
    cases insertOffset source.text root.start root.stop with
    | error f => simp [Except.map]
    | ok offset => simp [Except.map, eq_comm]

/-- A root that stops before it starts is no mapper that can be read. -/
theorem ofRoot_eq_error_iff {source : IndexedText} {fault : Fault} :
    ofRoot uri source root = .error fault ↔ (namespaceOf? root).isSome = true ∧
      root.stop < root.start ∧ fault = .inverted root.start root.stop := by
  unfold ofRoot
  cases namespaceOf? root with
  | none => simp
  | some space =>
    rw [← @insertOffset_eq_error_iff source.text, Option.isSome_some, eq_self_iff_true, true_and]
    cases insertOffset source.text root.start root.stop <;> simp [Except.map]

/-- Whether a text is that of a mapper whose root stops before it starts. -/
def breaksOff (text : List Char) : Bool :=
  (Xml.parse text).toOption.any fun root =>
    (namespaceOf? root).isSome && decide (root.stop < root.start)

/-- These are the texts whose reading breaks off, under whatever URL. -/
theorem exists_inverted_iff :
    (∃ start stop, parse uri text = .error (.inverted start stop)) ↔ breaksOff text = true := by
  unfold parse breaksOff
  cases Xml.parse text with
  | error f => simp [Except.toOption]
  | ok root => simp [Except.toOption, ofRoot_eq_error_iff]

/-- Without entities no reading breaks off. -/
theorem breaksOff_of_no_subset (h : Xml.hasSubset text = false) : breaksOff text = false := by
  unfold breaksOff
  cases hparse : Xml.parse text with
  | error f => rfl
  | ok root =>
    obtain ⟨p, t, z, -, helement⟩ := Xml.exists_isElement hparse h
    simp [Except.toOption, helement.start_lt_stop.le]

/-- The statement that an element declares depends only on the text up to the end of the element. -/
theorem statementOf?_congr {front : List Char} {e : Xml.Element} (hstart : e.start ≤ byteLength front)
    (hstop : e.stop ≤ byteLength front) (x y : List Char) :
    statementOf? (.ofText (front ++ x)) e = statementOf? (.ofText (front ++ y)) e := by
  unfold statementOf?
  rw [positionAt_front hstart x y, positionAt_front hstop x y]

/-- A root with further elements is the mapper with further statements. -/
theorem ofRoot_extend (c : Xml.ClosedRoot text root)
    (hm : ofRoot uri (.ofText text) root = .ok (some m)) (z : List Char) (news : List Xml.Element)
    {stop offset : Nat} (hoffset : insertOffset (c.toFront.text ++ z) root.start stop = .ok offset) :
    ofRoot uri (.ofText (c.toFront.text ++ z)) (root.extend news stop) = .ok (some
      { m with
        statements := m.statements ++ news.filterMap (statementOf? (.ofText (c.toFront.text ++ z)))
        insertPosition := (IndexedText.ofText (c.toFront.text ++ z)).positionAt offset }) := by
  obtain ⟨space, place, hspace, -, rfl⟩ := ofRoot_eq_some_iff.1 hm
  -- the elements of the root end in front of the place, so their positions stay
  have hold : root.children.filterMap (statementOf? (.ofText (c.toFront.text ++ z)))
      = root.children.filterMap (statementOf? (.ofText text)) := by
    refine List.filterMap_congr fun e he => ?_
    have hmem : e ∈ c.open_.children := by
      have hchildren : root.children = c.open_.children.reverse :=
        congrArg Xml.Element.children c.root_eq
      rw [hchildren] at he
      exact List.mem_reverse.1 he
    obtain ⟨hstart, hstop⟩ := c.children_within e hmem
    rw [show IndexedText.ofText text = _ from congrArg IndexedText.ofText c.text_eq]
    exact statementOf?_congr hstart hstop _ _
  refine ofRoot_eq_some_iff.2 ⟨space, offset, hspace, hoffset, ?_⟩
  have hchildren : (root.extend news stop).children = root.children ++ news := rfl
  rw [hchildren, List.filterMap_append, hold]

/-! ## The place of new statements -/

/-- New statements go in front of the closing tag. -/
theorem insertPosition_eq (c : Xml.ClosedRoot text root)
    (hm : ofRoot uri (.ofText text) root = .ok (some m)) :
    m.insertPosition
      = (IndexedText.ofText text).positionAt (byteLength (c.toFront.text ++ c.blank)) := by
  obtain ⟨space, offset, -, hplace, rfl⟩ := ofRoot_eq_some_iff.1 hm
  have hstop : root.stop = byteLength (c.toFront.text ++ (c.blank ++ c.close)) := by
    refine (congrArg Xml.Element.stop c.root_eq).trans ?_
    rw [← List.append_assoc, byteLength_append (c.toFront.text ++ c.blank)]
    rfl
  have hoffset := insertOffset_close c.toFront c.isClose c.blank (c.tail ++ c.misc)
  rw [← c.text_eq, ← c.root_start, ← hstop] at hoffset
  replace hplace : insertOffset text root.start root.stop = .ok offset := hplace
  rw [hoffset] at hplace
  exact congrArg (IndexedText.ofText text).positionAt (Except.ok.inj hplace).symm

/-- The position of the place is counted in the line in front of the closing tag. -/
theorem insertPosition_eq_of_line (c : Xml.ClosedRoot text root)
    (hm : ofRoot uri (.ofText text) root = .ok (some m)) {front last : List Char}
    (hsplit : c.toFront.text ++ c.blank = front ++ last) (hfront : EndsLine front)
    (hlast : '\n' ∉ last) :
    m.insertPosition = ⟨front.count '\n', unitLength last⟩ := by
  have hpos := positionAt_eq (c.close ++ (c.tail ++ c.misc)) hfront hlast
  rw [← List.append_assoc, ← hsplit, ← c.text_split, ← byteLength_append, ← hsplit] at hpos
  rw [insertPosition_eq c hm, hpos]

/-- A place in front of a tag is found again from its position. -/
theorem offsetAt_insertPosition (c : Xml.ClosedRoot text root)
    (hm : ofRoot uri (.ofText text) root = .ok (some m)) :
    (IndexedText.ofText text).offsetAt m.insertPosition
      = byteLength (c.toFront.text ++ c.blank) := by
  obtain ⟨v, hv⟩ := c.exists_close
  -- an angle bracket follows the place, so its line does not leave it out
  have hplace : ¬ BehindReturn (c.toFront.text ++ c.blank) (c.close ++ (c.tail ++ c.misc)) := by
    rw [hv]
    rintro ⟨-, hnil | ⟨p, hp⟩⟩
    · cases hnil
    · cases hp
  have hoffset := offsetAt_positionAt hplace
  rw [← c.text_split] at hoffset
  rw [insertPosition_eq c hm, hoffset]

end XmlMapper

end StatementLens
