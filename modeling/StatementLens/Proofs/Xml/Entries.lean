import StatementLens.Proofs.Xml.ClosedRoot

/-!
# Entries

An entry is an element with an id that holds nothing but blanks. Entries can be put in front of a
closing tag, with white space around them: they are cut one by one (`content_inserted`), and each adds
one element (`addTokens_entries`).
-/

namespace StatementLens.Xml

open Text

/-- An element with an id and nothing but blanks in it. -/
structure Entry where
  name : List Char
  id : List Char
  isValid : (QName.ofChars name).isValid = true
  isName : ∀ c ∈ name, isNameChar c = true
  isLocal : QName.ofChars name = ⟨[], name⟩
  isId : ∀ c ∈ id, isXmlChar c = true ∧ c ≠ '"' ∧ c ≠ '<' ∧ isPlain c = true

namespace Entry

/-- The qualified name of an entry. -/
def qname (e : Entry) : QName := ⟨[], e.name⟩

/-- The attribute of an entry. -/
def idText (e : Entry) : List Char := "id=\"".toList ++ (e.id ++ "\"".toList)

/-- The opening tag of an entry. -/
def opening (e : Entry) : List Char := '<' :: (e.name ++ (' ' :: (e.idText ++ ['>'])))

/-- The blanks in an entry. -/
def body : List Char := "\n          \n    ".toList

/-- The closing tag of an entry. -/
def closing (e : Entry) : List Char := '<' :: '/' :: (e.name ++ ['>'])

/-- The text of an entry. -/
def text (e : Entry) : List Char := e.opening ++ (body ++ e.closing)

/-- The attribute of an entry that starts at zero, its value not looked at. -/
def raw (e : Entry) : RawAttribute :=
  ⟨⟨[], "id".toList⟩, ⟨byteLength ('<' :: (e.name ++ " id=\"".toList)), e.id⟩,
    byteLength ('<' :: (e.name ++ " ".toList))⟩

/-- The tokens of an entry that starts at zero. -/
def tokens (e : Entry) : List Token :=
  tagTokens e.qname [e.raw] .opened (byteLength e.opening) ++
    [.text ⟨byteLength e.opening, body⟩,
      .closeTag e.qname (byteLength (e.opening ++ body)) (byteLength e.text)]

theorem takes_idText (e : Entry) :
    Takes takeAttribute e.idText fun o => ⟨⟨[], "id".toList⟩, ⟨o + 4, e.id⟩, o⟩ := by
  intro o y
  have hname := @takeQName_append "id".toList ('=' :: '"' :: (e.id ++ '"' :: y)) rfl
    (List.all_eq_true.1 (by decide))
    (stopsAt_cons.2 (by decide)) o
  have hequals := @takeEquals_append [] [] ('"' :: (e.id ++ '"' :: y)) (by simp) (by simp)
    (stopsAt_cons.2 (by decide)) (o + byteLength "id".toList)
  have hruns : RunsTo (fun cs => cs.head? = some '"' || cs.head? = some '<') e.id ('"' :: y) := by
    refine ⟨fun c hc => (e.isId c hc).1, ?_, .inr ⟨'"', y, rfl, by decide, by simp⟩⟩
    intro u v huv hv
    obtain ⟨c, v, rfl⟩ := List.exists_cons_of_ne_nil hv
    obtain ⟨-, hquote, hangle, -⟩ := e.isId c (huv ▸ by simp)
    simp [hquote, hangle]
  have hpiece : e.idText ++ y = "id".toList ++ ('=' :: '"' :: (e.id ++ '"' :: y)) := by
    unfold idText
    simp
  unfold takeAttribute
  rw [hpiece, hname, ok_bind]
  dsimp only
  rw [show '=' :: '"' :: (e.id ++ '"' :: y) = [] ++ '=' :: ([] ++ '"' :: (e.id ++ '"' :: y)) from rfl,
    hequals, ok_bind, takeQuote_append rfl, ok_bind]
  dsimp only
  rw [takeUntil_append hruns, ok_bind]
  dsimp only
  rw [takeChar_append, ok_bind]
  have hlength : byteLength e.idText = 4 + (byteLength e.id + 1) := by
    unfold idText
    rw [byteLength_append, byteLength_append]
    rfl
  have hend : o + 2 + 1 + 1 + byteLength e.id + 1 = o + byteLength e.idText := by omega
  rw [← hend]
  rfl

/-- The opening tag of an entry opens an element. -/
theorem piece_opening (e : Entry) (d : Nat) :
    Piece d e.opening (tagTokens e.qname [e.raw] .opened (byteLength e.opening)) (d + 1) := by
  have hstarts : StartsName e.idText := ⟨'i', "d=\"".toList ++ (e.id ++ "\"".toList), rfl, by decide⟩
  have htakes : Takes takeAttribute e.idText fun o =>
      RawAttribute.move o ⟨⟨[], "id".toList⟩, ⟨4, e.id⟩, 0⟩ := e.takes_idText
  have hattributes := CutsAttributes.cons (b := [' ']) (by simp) (List.all_eq_true.1 (by decide)) hstarts
    htakes
    (cutsAttributes_opened (b := []) (by simp))
  have hraw : (RawAttribute.move (byteLength [' ']) ⟨⟨[], "id".toList⟩, ⟨4, e.id⟩, 0⟩ ::
      [].map (RawAttribute.move (byteLength ([' '] ++ e.idText)))).map
        (RawAttribute.move (byteLength ('<' :: e.name))) = [e.raw] := by
    have hvalue : byteLength ('<' :: e.name) + (byteLength [' '] + 4)
        = byteLength ('<' :: (e.name ++ " id=\"".toList)) := by
      rw [← List.cons_append, byteLength_append]
      rfl
    have hstart : byteLength ('<' :: e.name) + (byteLength [' '] + 0)
        = byteLength ('<' :: (e.name ++ " ".toList)) := by
      rw [← List.cons_append, byteLength_append]
      rfl
    unfold raw
    rw [← hvalue, ← hstart]
    rfl
  have hcuts : CutsTag e.opening e.qname [e.raw] .opened := by
    rw [← hraw, show e.qname = .ofChars e.name from e.isLocal.symm]
    exact cutsTag e.isValid e.isName (stopsAt_cons.2 (by decide)) (by simp) hattributes
  have hname : StartsName (e.name ++ (' ' :: (e.idText ++ ['>']))) := by
    obtain ⟨c, n, hn⟩ := List.exists_cons_of_ne_nil (ne_nil_of_isValid e.isValid)
    refine StartsName.append ⟨c, n, hn, e.isName c ?_⟩ _
    rw [hn]
    exact List.mem_cons_self
  have hlast : e.opening.getLast? = some '>' := by
    unfold opening
    rw [← List.cons_append, ← List.cons_append, ← List.append_assoc, List.getLast?_concat]
  exact .tag (e := .opened) nofun hname hlast hcuts

/-- The closing tag of an entry closes it. -/
theorem isCloseTag_closing (e : Entry) : IsCloseTag e.qname e.closing := by
  have htakes := takeCloseTag_append (b := []) e.isValid e.isName (by simp) (stopsAt_cons.2 (by decide))
  rw [List.append_nil, e.isLocal] at htakes
  refine ⟨⟨e.name, [], by simp [closing], e.isLocal.symm, by simp, fun hmem => ?_⟩, htakes⟩
  rw [List.append_nil] at hmem
  exact isNameChar_ne_angle (e.isName _ hmem) rfl

end Entry

/-! ## White space around entries -/

theorem isXmlChar_of_isSpace {c : Char} (h : isSpace c = true) : isXmlChar c = true := by
  simp only [isSpace, Bool.or_eq_true, decide_eq_true_eq] at h
  rcases h with ((rfl | rfl) | rfl) | rfl <;> decide

/-- White space may follow text. -/
theorem IsCharacters.append_space {w s : List Char} (h : IsCharacters w)
    (hs : ∀ c ∈ s, isSpace c = true) : IsCharacters (w ++ s) := by
  refine ⟨?_, ?_, ?_⟩
  · intro c hc
    rcases List.mem_append.1 hc with hc | hc
    · exact h.chars c hc
    · exact isXmlChar_of_isSpace (hs c hc)
  · intro hmem
    rcases List.mem_append.1 hmem with hmem | hmem
    · exact h.noMarkup hmem
    · exact isSpace_ne_angle (hs _ hmem) rfl
  · rw [Bool.eq_false_iff]
    intro hcontains
    refine absurd ?_ (Bool.eq_false_iff.1 h.noSectionEnd)
    -- the end of a section ends with a sign that is no white space
    obtain ⟨a, z, haz⟩ := contains_iff.1 hcontains
    rcases List.append_eq_append_iff.1 haz with ⟨v, hw, -⟩ | ⟨v, hv, rfl⟩
    · rw [hw]
      exact contains_iff.2 ⟨a, v, rfl⟩
    · cases v with
      | nil =>
        rw [List.append_nil] at hv
        rw [← hv]
        exact contains_iff.2 ⟨a, [], by simp⟩
      | cons c v =>
        have hlast : (c :: v).getLast? = some '>' := by
          rw [← List.getLast?_append_of_ne_nil w (List.cons_ne_nil c v), ← hv, List.getLast?_append]
          rfl
        have hspace := hs '>' (List.mem_append_left z (List.mem_of_getLast? hlast))
        exact absurd hspace (by decide)

theorem IsCharacters.of_append {w s : List Char} (h : IsCharacters (w ++ s)) : IsCharacters w := by
  refine ⟨fun c hc => h.chars c (List.mem_append_left s hc),
    fun hmem => h.noMarkup (List.mem_append_left s hmem), ?_⟩
  rw [Bool.eq_false_iff]
  intro hcontains
  refine absurd ?_ (Bool.eq_false_iff.1 h.noSectionEnd)
  exact contains_iff.2 ((contains_iff.1 hcontains).trans (List.prefix_append w s).isInfix)

namespace Entry

/-- The line break and the indentation in front of an entry. -/
def lead : List Char := "\n    ".toList

/-- The line breaks behind an entry. -/
def trail : List Char := "\n\n".toList

end Entry

/-- Entries with white space around them, each with the white space that follows it besides. -/
def inserted : List (Entry × List Char) → List Char
  | [] => []
  | (e, gap) :: rest => Entry.lead ++ (e.text ++ (Entry.trail ++ gap ++ inserted rest))

/-- The tokens of text, entries and what follows them. -/
def insertedTokens (w : List Char) : List (Entry × List Char) → List Token → List Token
  | [], toks => textTokens w ++ toks.map (Token.move (byteLength w))
  | (e, gap) :: rest, toks =>
    .text ⟨0, w ++ Entry.lead⟩ ::
      (e.tokens ++ (insertedTokens (Entry.trail ++ gap) rest toks).map
        (Token.move (byteLength e.text))).map (Token.move (byteLength (w ++ Entry.lead)))

/-- Text in front of markup is content with it. -/
theorem Content.text {d : Nat} {w x z : List Char} {toks : List Token} (hw : IsCharacters w)
    (hx : Content d x z toks) (hangle : ∃ v, x = '<' :: v) :
    Content d (w ++ x) z (textTokens w ++ toks.map (Token.move (byteLength w))) := by
  unfold textTokens
  split
  next hnil =>
    rw [hnil, byteLength_nil, Token.move_zero, List.map_id]
    exact hx
  next hne =>
    obtain ⟨v, rfl⟩ := hangle
    exact .characters hne hw (.inr ⟨_, rfl⟩) hx

/-- Entries in front of a closing tag are content with it. -/
theorem content_inserted {d : Nat} {x z : List Char} {toks : List Token}
    (hx : Content (d + 1) x z toks) (hangle : ∃ v, x = '<' :: v) {w : List Char} (hw : IsCharacters w)
    {entries : List (Entry × List Char)}
    (hgaps : ∀ entry ∈ entries, ∀ c ∈ entry.2, isSpace c = true) :
    Content (d + 1) (w ++ (inserted entries ++ x)) z (insertedTokens w entries toks) := by
  induction entries generalizing w with
  | nil => exact hx.text hw hangle
  | cons entry rest ih =>
    obtain ⟨e, gap⟩ := entry
    have htrail : IsCharacters (Entry.trail ++ gap) :=
      IsCharacters.append_space ⟨List.all_eq_true.1 (by decide), by decide, by decide⟩
        (hgaps _ List.mem_cons_self)
    have hrest := ih htrail fun entry hentry => hgaps entry (List.mem_cons_of_mem _ hentry)
    have hclosing := Content.piece (.closeTag (d := d + 2) (by omega) e.isCloseTag_closing) hrest
    have hbody := Content.characters (t := Entry.body) (by decide)
      ⟨List.all_eq_true.1 (by decide), by decide, by decide⟩ (.inr ⟨_, rfl⟩) hclosing
    have hentry := Content.piece (e.piece_opening (d + 1)) hbody
    have hlead := Content.characters (t := w ++ Entry.lead) (by simp [Entry.lead])
      (hw.append_space (List.all_eq_true.1 (by decide))) (.inr ⟨_, rfl⟩) hentry
    have htext : w ++ (inserted ((e, gap) :: rest) ++ x) = w ++ Entry.lead ++ (e.opening ++ (Entry.body ++
        (e.closing ++ (Entry.trail ++ gap ++ (inserted rest ++ x))))) := by
      simp [inserted, Entry.text]
    rw [htext]
    convert hlead using 1
    simp [insertedTokens, Entry.tokens, Entry.text, Token.move, Nat.add_assoc]

/-! ## Attributes -/

namespace Builder

theorem resolveAttributes_append (bindings : List Binding) (done : List Attribute)
    (ps qs : List PendingAttribute) :
    resolveAttributes bindings done (ps ++ qs)
      = resolveAttributes bindings done ps >>= fun as => resolveAttributes bindings as qs := by
  induction ps generalizing done with
  | nil => rfl
  | cons p ps ih =>
    rw [List.cons_append, resolveAttributes, resolveAttributes, bind_assoc]
    congr 1
    funext a
    split
    · rfl
    · exact ih _

/-- Resolved attributes have the names that they had before. -/
theorem mem_of_resolveAttributes {bindings : List Binding} {done as : List Attribute}
    {ps : List PendingAttribute} (h : resolveAttributes bindings done ps = .ok as) (name : List Char) :
    (∃ a ∈ as, a.space = none ∧ a.name = name) ↔
      (∃ a ∈ done, a.space = none ∧ a.name = name) ∨ ⟨[], name⟩ ∈ ps.map PendingAttribute.name := by
  induction ps generalizing done with
  | nil =>
    cases h
    simp
  | cons p ps ih =>
    rw [resolveAttributes] at h
    obtain ⟨a, ha, h⟩ := bind_eq_ok.1 h
    obtain ⟨hname, hspace, -⟩ := resolveAttribute_eq_ok ha
    split at h
    · cases h
    next =>
      have hp : (a.space = none ∧ a.name = name) ↔ p.name = ⟨[], name⟩ := by
        rw [hspace, hname]
        obtain ⟨⟨space, local_⟩, value, start⟩ := p
        simp
      rw [ih h, List.map_cons, List.mem_cons]
      simp only [List.mem_append, List.mem_singleton, or_and_right, exists_or, exists_eq_left]
      rw [hp, or_assoc, eq_comm]

/-- An id can be added to attributes that have none. -/
theorem resolveAttributes_id {bindings : List Binding} {as : List Attribute}
    {ps : List PendingAttribute} (h : resolveAttributes bindings [] ps = .ok as) (id : List Char)
    (start : Nat) :
    (⟨[], "id".toList⟩ ∉ ps.map PendingAttribute.name ∧
      resolveAttributes bindings [] (ps ++ [⟨⟨[], "id".toList⟩, id, start⟩])
        = .ok (as ++ [⟨none, "id".toList, id⟩])) ∨
    (⟨[], "id".toList⟩ ∈ ps.map PendingAttribute.name ∧
      ∀ as', resolveAttributes bindings [] (ps ++ [⟨⟨[], "id".toList⟩, id, start⟩]) ≠ .ok as') := by
  have hnames := mem_of_resolveAttributes h "id".toList
  have hone : resolveAttributes bindings as [⟨⟨[], "id".toList⟩, id, start⟩]
      = if as.any fun d => d.space = none && d.name = "id".toList then
          .error ⟨.duplicateAttribute (String.ofList "id".toList), start⟩
        else .ok (as ++ [⟨none, "id".toList, id⟩]) := rfl
  have hany : (as.any fun d => d.space = none && d.name = "id".toList) = true ↔
      ⟨[], "id".toList⟩ ∈ ps.map PendingAttribute.name := by
    rw [List.any_eq_true]
    simpa using hnames
  rw [resolveAttributes_append, h, ok_bind, hone]
  by_cases hmem : ⟨[], "id".toList⟩ ∈ ps.map PendingAttribute.name
  · exact .inr ⟨hmem, by rw [if_pos (hany.2 hmem)]; nofun⟩
  · exact .inl ⟨hmem, if_neg fun htrue => hmem (hany.1 htrue)⟩

end Builder

/-! ## Adding entries -/

/-- The element that an entry at `k` adds. It also has the attributes of a tag broken off before. -/
def Entry.element (e : Entry) (attributes : List Attribute) (k : Nat) : Element :=
  .mk e.qname (attributes ++ [⟨none, "id".toList, e.id⟩]) k (k + byteLength e.text) []

namespace Builder

/-- An opening tag with an id, in front of its end. -/
def inEntry (b : Builder) (e : Entry) (k : Nat) : Builder :=
  { b with
    tag := some (e.qname, k)
    pending := ⟨⟨[], "id".toList⟩, e.id, k + byteLength ('<' :: (e.name ++ " ".toList))⟩ :: b.pending }

theorem addToken_id (levels : Nat) (b : Builder) (e : Entry) (k : Nat) :
    addToken levels (expandContent levels) { b with tag := some (e.qname, k) } (.attr (e.raw.move k))
      = .ok (b.inEntry e k) := by
  have hread : readValue b.entities levels b.references (e.raw.move k).value = .ok (e.id, b.references) :=
    readValue_plain _ _ _ fun c hc => (e.isId c hc).2.2.2
  show Builder.addAttribute _ _ _ = _
  unfold addAttribute
  dsimp only
  rw [hread]
  rfl

/-- The tokens of an entry, one by one. -/
theorem tokens_entry (e : Entry) (k : Nat) :
    e.tokens.map (Token.move k) = [.tagStart e.qname k, .attr (e.raw.move k),
      .tagEnd false (k + byteLength e.opening), .text ⟨k + byteLength e.opening, Entry.body⟩,
      .closeTag e.qname (k + byteLength (e.opening ++ Entry.body)) (k + byteLength e.text)] := rfl

/-- Behind the opening tag of an entry. -/
def insideEntry (b : Builder) (e : Entry) (attributes : List Attribute) (k : Nat) : Builder :=
  { b.leaveTag with
    tag := some (e.qname, k)
    opened := ⟨e.qname, attributes ++ [⟨none, "id".toList, e.id⟩], b.inScope, k, []⟩ :: b.opened }

theorem lookupPrefix_nil (bindings : List Binding) (offset : Nat) :
    ∃ uri, lookupPrefix bindings [] offset = .ok uri := by
  unfold lookupPrefix
  cases bindings.find? fun d => d.space = [] with
  | none => exact ⟨none, rfl⟩
  | some d => exact ⟨some d.uri, rfl⟩

theorem endTag_inEntry {b : Builder} (e : Entry) (k stop : Nat) {attributes : List Attribute}
    (hattributes : resolveAttributes b.inScope [] b.pending.reverse = .ok attributes)
    (hfresh : ⟨[], "id".toList⟩ ∉ b.pending.map PendingAttribute.name) :
    (b.inEntry e k).endTag false stop = .ok (b.insideEntry e attributes k) := by
  have hid : resolveAttributes (b.inEntry e k).inScope [] (b.inEntry e k).pending.reverse
      = .ok (attributes ++ [⟨none, "id".toList, e.id⟩]) := by
    rcases resolveAttributes_id hattributes e.id (k + byteLength ('<' :: (e.name ++ " ".toList))) with
      ⟨-, hok⟩ | ⟨hmem, -⟩
    · show resolveAttributes b.inScope [] (_ :: b.pending).reverse = _
      rw [List.reverse_cons]
      exact hok
    · rw [List.map_reverse, List.mem_reverse] at hmem
      exact absurd hmem hfresh
  rw [endTag_eq_ok]
  exact ⟨e.qname, k, _, rfl, hid, lookupPrefix_nil _ _, rfl⟩

theorem closeElement_insideEntry (b : Builder) (e : Entry) (attributes : List Attribute)
    (k start : Nat) :
    (b.insideEntry e attributes k).closeElement e.qname start (k + byteLength e.text)
      = .ok ({ b.leaveTag with tag := some (e.qname, k) }.addElement (e.element attributes k)) := by
  rw [closeElement_eq_ok]
  refine ⟨_, b.opened, [], rfl, rfl, rfl, rfl, ?_⟩
  unfold addElement leaveTag insideEntry
  cases b.opened <;> rfl

/-- An entry adds one element to the innermost open one, if no id is left from a tag broken off before. -/
theorem addTokens_entry (levels : Nat) (e : Entry) (k : Nat) {b : Builder} {attributes : List Attribute}
    (hattributes : resolveAttributes b.inScope [] b.pending.reverse = .ok attributes)
    (hfresh : ⟨[], "id".toList⟩ ∉ b.pending.map PendingAttribute.name) :
    b.addTokens levels (e.tokens.map (Token.move k))
      = .ok ({ b.leaveTag with tag := some (e.qname, k) }.addElement (e.element attributes k)) := by
  rw [tokens_entry]
  refine addTokens_cons_eq_ok.2 ⟨_, addToken_tagStart_eq_ok.2 ⟨show [] ≠ "xmlns".toList by decide, rfl⟩, ?_⟩
  refine addTokens_cons_eq_ok.2 ⟨_, addToken_id levels b e k, ?_⟩
  refine addTokens_cons_eq_ok.2 ⟨_, endTag_inEntry e k _ hattributes hfresh, ?_⟩
  refine addTokens_cons_eq_ok.2 ⟨_, addText_plain _ _ _ (by decide), ?_⟩
  exact addTokens_cons_eq_ok.2 ⟨_, closeElement_insideEntry b e attributes k _, rfl⟩

/-- An entry cannot be added where an id is left from a tag broken off before. -/
theorem addTokens_entry_ne_ok (levels : Nat) (e : Entry) (k : Nat) {b : Builder}
    (hleft : ⟨[], "id".toList⟩ ∈ b.pending.map PendingAttribute.name) (b' : Builder) :
    b.addTokens levels (e.tokens.map (Token.move k)) ≠ .ok b' := by
  intro h
  rw [tokens_entry] at h
  obtain ⟨b₁, hstart, h₁⟩ := addTokens_cons_eq_ok.1 h
  obtain ⟨-, rfl⟩ := addToken_tagStart_eq_ok.1 hstart
  obtain ⟨b₂, hid, h₂⟩ := addTokens_cons_eq_ok.1 h₁
  rw [addToken_id] at hid
  cases hid
  obtain ⟨b₃, hend, -⟩ := addTokens_cons_eq_ok.1 h₂
  obtain ⟨-, -, attributes, -, hattributes, -⟩ :=
    endTag_eq_ok.1 (show (b.inEntry e k).endTag false _ = .ok b₃ from hend)
  unfold inEntry at hattributes
  rw [List.reverse_cons, resolveAttributes_append] at hattributes
  obtain ⟨as, has, -⟩ := bind_eq_ok.1 hattributes
  -- the id of the entry comes last, so it is the one that is a duplicate
  rcases resolveAttributes_id has e.id (k + byteLength ('<' :: (e.name ++ " ".toList))) with
    ⟨hfresh, -⟩ | ⟨-, hnever⟩
  · rw [List.map_reverse, List.mem_reverse] at hfresh
    exact hfresh hleft
  · rw [resolveAttributes_append] at hnever
    exact hnever attributes hattributes

theorem addTokens_append_of_ok {levels : Nat} {b b₁ : Builder} {toks : List Token}
    (h : b.addTokens levels toks = .ok b₁) (toks' : List Token) :
    b.addTokens levels (toks ++ toks') = b₁.addTokens levels toks' := by
  unfold addTokens at h ⊢
  rw [List.foldlM_append, h, ok_bind]

theorem addTokens_textTokens_plain (levels : Nat) (b : Builder) {w : List Char} (hw : '&' ∉ w)
    (k : Nat) : b.addTokens levels ((textTokens w).map (Token.move k)) = .ok b := by
  unfold textTokens
  split
  · rfl
  · exact addTokens_cons_eq_ok.2 ⟨b, addText_plain _ b _ hw, rfl⟩

end Builder

theorem notMem_of_isSpace {s : List Char} {c : Char} (hc : isSpace c = false)
    (hs : ∀ d ∈ s, isSpace d = true) : c ∉ s := by
  intro hmem
  rw [hs c hmem] at hc
  cases hc

/-- The elements that entries add. Only the first of them gets the attributes of a tag broken off. -/
def entryElements (attributes : List Attribute) (k : Nat) : List (Entry × List Char) → List Element
  | [] => []
  | (e, gap) :: rest =>
    e.element attributes (k + byteLength Entry.lead) ::
      entryElements [] (k + byteLength (Entry.lead ++ (e.text ++ (Entry.trail ++ gap)))) rest

/-- There is no reference behind an entry. -/
private theorem ampersand_notMem_trail {gap : List Char} (hgap : ∀ c ∈ gap, isSpace c = true) :
    '&' ∉ Entry.trail ++ gap := by
  intro hmem
  rcases List.mem_append.1 hmem with hmem | hmem
  · exact absurd hmem (by decide)
  · exact notMem_of_isSpace rfl hgap hmem

private theorem addElement_leaveTag (b : Builder) (e : Element) (t : Option (QName × Nat)) :
    { (b.addElement e).leaveTag with tag := t }
      = Builder.addElement { b.leaveTag with tag := t } e := by
  unfold Builder.addElement Builder.leaveTag
  cases b.opened <;> rfl

/-- Entries add their elements to the innermost open one, one by one. -/
theorem Builder.addTokens_entries (levels : Nat) {e : Entry} {gap : List Char}
    {rest : List (Entry × List Char)}
    (hgaps : ∀ entry ∈ (e, gap) :: rest, ∀ c ∈ entry.2, isSpace c = true) (k : Nat) {b : Builder}
    {attributes : List Attribute}
    (hattributes : resolveAttributes b.inScope [] b.pending.reverse = .ok attributes)
    (hfresh : ⟨[], "id".toList⟩ ∉ b.pending.map PendingAttribute.name) :
    ∃ t, ∀ toks, b.addTokens levels ((e.tokens ++
        (insertedTokens (Entry.trail ++ gap) rest toks).map (Token.move (byteLength e.text))).map
          (Token.move (k + byteLength Entry.lead)))
      = ((entryElements attributes k ((e, gap) :: rest)).foldl addElement
          { b.leaveTag with tag := some t }).addTokens levels
            (toks.map (Token.move (k + byteLength (inserted ((e, gap) :: rest))))) := by
  induction rest generalizing e gap k b attributes with
  | nil =>
    refine ⟨(e.qname, k + byteLength Entry.lead), fun toks => ?_⟩
    have hgap := ampersand_notMem_trail (hgaps _ List.mem_cons_self)
    rw [List.map_append, addTokens_append_of_ok (addTokens_entry levels e _ hattributes hfresh),
      insertedTokens, List.map_append, List.map_append, List.map_map, Token.move_comp_move,
      addTokens_append_of_ok (addTokens_textTokens_plain levels _ hgap _)]
    simp [inserted, entryElements, Nat.add_assoc]
  | cons entry rest ih =>
    obtain ⟨e', gap'⟩ := entry
    -- the first entry takes what is left behind, so the next one starts without attributes
    let b₁ := { b.leaveTag with tag := some (e.qname, k + byteLength Entry.lead) }.addElement
      (e.element attributes (k + byteLength Entry.lead))
    have hpending : b₁.pending = [] := by
      simp only [b₁, addElement, leaveTag]
      cases b.opened <;> rfl
    have hattributes' : resolveAttributes b₁.inScope [] b₁.pending.reverse = .ok [] := by
      rw [hpending]
      rfl
    have hfresh' : ⟨[], "id".toList⟩ ∉ b₁.pending.map PendingAttribute.name := by
      rw [hpending]
      exact List.not_mem_nil
    have hlead : '&' ∉ Entry.trail ++ gap ++ Entry.lead := by
      intro hmem
      rcases List.mem_append.1 hmem with hmem | hmem
      · exact ampersand_notMem_trail (hgaps _ List.mem_cons_self) hmem
      · exact absurd hmem (by decide)
    obtain ⟨t, ht⟩ := ih (fun entry hentry => hgaps entry (List.mem_cons_of_mem _ hentry))
      (k + byteLength (Entry.lead ++ (e.text ++ (Entry.trail ++ gap)))) hattributes' hfresh'
    refine ⟨t, fun toks => ?_⟩
    -- leaving a tag and adding an element can be swapped, so the fold goes on from where it was
    have hfold : (entryElements [] (k + byteLength (Entry.lead ++ (e.text ++ (Entry.trail ++ gap))))
          ((e', gap') :: rest)).foldl addElement { b₁.leaveTag with tag := some t }
        = (entryElements attributes k ((e, gap) :: (e', gap') :: rest)).foldl addElement
          { b.leaveTag with tag := some t } := by
      rw [addElement_leaveTag]
      rfl
    have hlength : k + byteLength (Entry.lead ++ (e.text ++ (Entry.trail ++ gap)))
        + byteLength (inserted ((e', gap') :: rest))
        = k + byteLength (inserted ((e, gap) :: (e', gap') :: rest)) := by
      rw [show inserted ((e, gap) :: (e', gap') :: rest) = Entry.lead ++ (e.text ++
        (Entry.trail ++ gap ++ inserted ((e', gap') :: rest))) from rfl]
      simp only [byteLength_append]
      omega
    rw [← hfold, ← hlength, ← ht, List.map_append,
      addTokens_append_of_ok (addTokens_entry levels e _ hattributes hfresh), insertedTokens]
    have htext : ∀ o, b₁.addTokens levels [.text ⟨o, Entry.trail ++ gap ++ Entry.lead⟩] = .ok b₁ :=
      fun o => addTokens_cons_eq_ok.2 ⟨b₁, addText_plain _ b₁ o hlead, rfl⟩
    -- the text between two entries and the lead of the second one are one token
    have hoffset : k + byteLength Entry.lead + byteLength e.text
        + byteLength (Entry.trail ++ gap ++ Entry.lead)
        = k + byteLength (Entry.lead ++ (e.text ++ (Entry.trail ++ gap))) + byteLength Entry.lead := by
      simp only [byteLength_append]
      omega
    rw [List.map_cons, List.map_cons, ← List.singleton_append, map_move_move, map_move_move, hoffset]
    exact addTokens_append_of_ok (htext _) _

end StatementLens.Xml
