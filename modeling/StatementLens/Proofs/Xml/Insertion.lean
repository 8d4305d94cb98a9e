import StatementLens.Proofs.Xml.Entries

/-!
# Entries in front of the closing tag of a root

Entries that are put in front of the closing tag of a root become its last elements (`parse_insert`),
unless an entity in front of them breaks off inside a tag that has an id (`parse_insert_ne_ok`).
-/

namespace StatementLens.Xml

open Text

/-- The names of the attributes that the front of a document leaves to the next tag. An entity that
breaks off inside a tag leaves the attributes of the tag. -/
def leftover (front : List Char) : List QName :=
  match buildText front with
  | .ok b => b.pending.map PendingAttribute.name
  | .error _ => []

theorem Pieces.depth_pos {d d' : Nat} {t : List Char} {toks : List Token} (h : Pieces d t toks d')
    (hd : 0 < d) : 0 < d' := by
  induction h with
  | nil => exact hd
  | piece h _ ih => exact ih (h.depth_pos hd)
  | characters _ _ _ _ ih => exact ih hd

namespace Builder

theorem exists_entitiesWithin (b : Builder) : ∃ n, b.EntitiesWithin n := by
  unfold EntitiesWithin
  induction b.entities with
  | nil => exact ⟨0, by simp⟩
  | cons e entities ih =>
    obtain ⟨n, hn⟩ := ih
    refine ⟨max e.value.stop n, fun e' he' => ?_⟩
    rcases List.mem_cons.1 he' with rfl | he'
    · exact Nat.le_max_left _ _
    · exact Nat.le_trans (hn e' he') (Nat.le_max_right _ _)

theorem exists_tagWithin (b : Builder) : ∃ n, b.TagWithin n := by
  unfold TagWithin
  cases b.tag with
  | none => exact ⟨0, nofun⟩
  | some t =>
    refine ⟨t.2, fun name start hsome => ?_⟩
    cases hsome
    exact Nat.le_refl _

/-- Tokens of content keep the elements that are finished. -/
theorem finished_suffix {levels n : Nat} {b b' : Builder} {toks : List Token}
    (htoks : ∀ tok ∈ toks, tok.Within n) (h : b.addTokens levels toks = .ok b') :
    b.finished <:+ b'.finished := by
  obtain ⟨k, hentities⟩ := b.exists_entitiesWithin
  obtain ⟨l, htag⟩ := b.exists_tagWithin
  have htag' : b.TagWithin (max n (max k l)) :=
    fun name start hsome => Nat.le_trans (htag name start hsome) (by omega)
  obtain ⟨hextends, -⟩ := addTokens_extends (m := max n (max k l)) (by omega) hentities htag'
    (fun tok htok => (htoks tok htok).mono (by omega)) h
  exact reflTransGen_keeps (P := fun s => b.finished <:+ s.finished)
    (fun s s' hstep hs => hs.trans hstep.finished) hextends.stack List.suffix_rfl

/-- Elements are added to the innermost open one. -/
theorem foldl_addElement {b : Builder} {o : OpenElement} {rest : List OpenElement}
    (h : b.opened = o :: rest) (news : List Element) :
    news.foldl addElement b
      = { b with opened := { o with children := news.reverse ++ o.children } :: rest } := by
  induction news generalizing b o with
  | nil => simp [← h]
  | cons e news ih =>
    have hstep : b.addElement e = { b with opened := { o with children := e :: o.children } :: rest } := by
      unfold addElement
      rw [h]
    rw [List.foldl_cons, hstep, ih rfl]
    simp

end Builder

/-- An element with new elements behind the others, which stops at `stop`. -/
def Element.extend (e : Element) (news : List Element) (stop : Nat) : Element :=
  .mk e.qname e.attributes e.start stop (e.children ++ news)

namespace ClosedRoot

variable {text : List Char} {root : Element}

/-- The text with entries in place of what follows `blank'` up to the closing tag. -/
def insert (c : ClosedRoot text root) (blank' : List Char) (entries : List (Entry × List Char)) :
    List Char :=
  c.toFront.text ++ ((blank' ++ (inserted entries ++ (c.close ++ c.tail))) ++ c.misc)

theorem exists_close (c : ClosedRoot text root) : ∃ v, c.close = '<' :: v := by
  obtain ⟨v, hv, -⟩ := c.isClose.shape
  exact ⟨_, hv⟩

/-- The entries are cut one by one, and what follows them is cut as before. -/
theorem scan_insert (c : ClosedRoot text root) {blank' space : List Char}
    (hblank : c.blank = blank' ++ space) {entries : List (Entry × List Char)}
    (hgaps : ∀ entry ∈ entries, ∀ ch ∈ entry.2, isSpace ch = true) :
    scanDocument (c.insert blank' entries)
      = (c.toFront.tokens ++ (insertedTokens blank' entries
          (.closeTag c.closeName 0 (byteLength c.close) :: c.tailTokens)).map
            (Token.move (byteLength c.toFront.text)), .ok ()) := by
  have hdepth : 0 < c.depth := c.isHead.depth_pos (by omega)
  obtain ⟨d, hd⟩ : ∃ d, c.depth = d + 1 := ⟨c.depth - 1, by omega⟩
  have hblank' : IsCharacters blank' := IsCharacters.of_append (hblank ▸ c.isBlank)
  have htail := c.isTail
  rw [hd] at htail
  have hangle : ∃ v, c.close ++ c.tail = '<' :: v := by
    obtain ⟨v, hv⟩ := c.exists_close
    exact ⟨v ++ c.tail, by rw [hv]; rfl⟩
  have hcontent := content_inserted htail hangle hblank' hgaps
  rw [← hd] at hcontent
  exact c.toFront.scan hcontent c.isMisc

/-- What is under construction in front of the closing tag is what the text in front of it builds. -/
theorem buildText_front (c : ClosedRoot text root) :
    buildText (c.toFront.text ++ c.blank) = .ok c.before := by
  have hscan := c.toFront.scan (c.isBlank.content c.depth) (isMisc_space (b := []) (by simp))
  rw [List.append_nil] at hscan
  exact buildText_eq_ok.2 ⟨_, hscan, c.addBefore⟩

theorem leftover_front (c : ClosedRoot text root) :
    leftover (c.toFront.text ++ c.blank) = c.before.pending.map PendingAttribute.name := by
  unfold leftover
  rw [c.buildText_front]

/-- Text in front of entries refers to the same entities as the text in front of the closing tag. -/
theorem addTokens_lead (c : ClosedRoot text root) {blank' space : List Char}
    (hblank : c.blank = blank' ++ space) (hspace : ∀ ch ∈ space, isSpace ch = true) :
    ∃ b, ({} : Builder).addTokens maxLevels c.toFront.tokens = .ok b ∧
      ∀ o, b.addTokens maxLevels [.text ⟨o, blank' ++ Entry.lead⟩] = .ok c.before := by
  have hsteady := expandContent_steady maxLevels
  obtain ⟨b, hfront, hadd⟩ := Builder.addTokens_append_eq_ok.1 c.addBefore
  have hnames : ∃ names, Refers c.blank names ∧
      names.foldlM (Builder.addReference maxLevels (Builder.expandContent maxLevels)) b = .ok c.before := by
    unfold textTokens at hadd
    split at hadd
    next hnil =>
      rw [hnil]
      exact ⟨[], .plain List.not_mem_nil, hadd⟩
    next =>
      obtain ⟨b', htext, hlast⟩ := Builder.addTokens_cons_eq_ok.1 hadd
      cases hlast
      exact (Builder.addToken_text_eq_ok hsteady).1 htext
  obtain ⟨names, hrefers, hnames⟩ := hnames
  rw [hblank] at hrefers
  have hlead : Refers (blank' ++ Entry.lead) names :=
    (hrefers.of_append (notMem_of_isSpace rfl hspace)).append (by decide)
  refine ⟨b, hfront, fun o => ?_⟩
  exact Builder.addTokens_cons_eq_ok.2
    ⟨c.before, (Builder.addToken_text_eq_ok hsteady).2 ⟨names, hlead, hnames⟩, rfl⟩

/-- All tokens up to the first entry lead to what was under construction in front of the closing tag. -/
theorem addTokens_insert (c : ClosedRoot text root) {blank' space : List Char}
    (hblank : c.blank = blank' ++ space) (hspace : ∀ ch ∈ space, isSpace ch = true) {e : Entry}
    {gap : List Char} {rest : List (Entry × List Char)} (toks : List Token) :
    ({} : Builder).addTokens maxLevels (c.toFront.tokens ++
        (insertedTokens blank' ((e, gap) :: rest) toks).map (Token.move (byteLength c.toFront.text)))
      = c.before.addTokens maxLevels ((e.tokens ++
        (insertedTokens (Entry.trail ++ gap) rest toks).map (Token.move (byteLength e.text))).map
          (Token.move (byteLength (c.toFront.text ++ blank') + byteLength Entry.lead))) := by
  obtain ⟨b, hfront, hlead⟩ := c.addTokens_lead hblank hspace
  have hoffset : byteLength c.toFront.text + byteLength (blank' ++ Entry.lead)
      = byteLength (c.toFront.text ++ blank') + byteLength Entry.lead := by
    simp only [byteLength_append]
    omega
  rw [Builder.addTokens_append_of_ok hfront, insertedTokens, List.map_cons, map_move_move, hoffset,
    ← List.singleton_append]
  exact Builder.addTokens_append_of_ok (hlead _) _

/-- Entries in front of the closing tag become the last elements of the root. -/
theorem parse_insert (c : ClosedRoot text root) {blank' space : List Char}
    (hblank : c.blank = blank' ++ space) (hspace : ∀ ch ∈ space, isSpace ch = true)
    {entries : List (Entry × List Char)} (hne : entries ≠ [])
    (hgaps : ∀ entry ∈ entries, ∀ ch ∈ entry.2, isSpace ch = true)
    (hfresh : ⟨[], "id".toList⟩ ∉ leftover (c.toFront.text ++ c.blank)) :
    ∃ attributes, (∀ a ∈ attributes, ¬ (a.space = none ∧ a.name = "id".toList)) ∧
      parse (c.insert blank' entries) = .ok (root.extend
        (entryElements attributes (byteLength (c.toFront.text ++ blank')) entries)
        (byteLength (c.toFront.text ++ (blank' ++ (inserted entries ++ c.close))))) := by
  obtain ⟨⟨e, gap⟩, rest, rfl⟩ := List.exists_cons_of_ne_nil hne
  rw [c.leftover_front] at hfresh
  obtain ⟨o, rest', attributes, htag, hattributes, hopened, hname, hbehind⟩ :=
    Builder.closeElement_eq_ok.1 c.addClose
  rw [c.opened_before] at hopened
  cases hopened
  -- the closing tag resolves what is left behind as well, so its attributes are those of the first entry
  have hnoid : ∀ a ∈ attributes, ¬ (a.space = none ∧ a.name = "id".toList) := by
    intro a ha hid
    rcases (Builder.mem_of_resolveAttributes hattributes "id".toList).1 ⟨a, ha, hid⟩ with
      ⟨a', hnil, -⟩ | hmem
    · cases hnil
    · rw [List.map_reverse, List.mem_reverse] at hmem
      exact hfresh hmem
  refine ⟨attributes, hnoid, ?_⟩
  obtain ⟨t, ht⟩ := Builder.addTokens_entries maxLevels hgaps (byteLength (c.toFront.text ++ blank'))
    hattributes hfresh
  -- the closing tag is met with the entries in the root
  let o' : OpenElement := { c.open_ with children :=
    (entryElements attributes (byteLength (c.toFront.text ++ blank')) ((e, gap) :: rest)).reverse ++
      c.open_.children }
  let b' : Builder := { c.before.leaveTag with tag := some t, opened := [o'] }
  have hfold : (entryElements attributes (byteLength (c.toFront.text ++ blank'))
      ((e, gap) :: rest)).foldl Builder.addElement { c.before.leaveTag with tag := some t } = b' :=
    Builder.foldl_addElement (b := { c.before.leaveTag with tag := some t }) c.opened_before _
  let k := byteLength (c.toFront.text ++ blank') + byteLength (inserted ((e, gap) :: rest))
  let behind' : Builder := { b'.leaveTag with opened := [] }.addElement (o'.close (k + byteLength c.close))
  have hclose : b'.closeElement c.closeName k (k + byteLength c.close) = .ok behind' :=
    Builder.closeElement_eq_ok.2 ⟨o', [], [], rfl, rfl, rfl, hname, rfl⟩
  -- behind the closing tag both documents go on with the same tokens, which only stand elsewhere
  have halike : Builder.Alike false c.behind behind' := by
    rw [hbehind]
    refine Builder.Alike.addElement ?_ _ _
    exact ⟨rfl, htag.symm, nofun, rfl, rfl, rfl, rfl⟩
  have hwithin : ∀ tok ∈ c.tailTokens, tok.Within (byteLength (c.close ++ c.tail)) :=
    fun tok htok => c.isTail.within tok (List.mem_cons_of_mem _ htok)
  have htagged : Tagged false c.tailTokens := c.isTail.tagged
  obtain ⟨last', hlast', hsame⟩ := Builder.addTokens_alike hwithin htagged halike _ k c.addTail
  have hopened' : last'.opened = [] := by
    have hmap := hsame.opened
    rwa [c.opened_last, List.map_nil, List.map_eq_nil_iff] at hmap
  -- the root stays the element that was finished first, whatever else is finished behind it
  obtain ⟨front, hfront⟩ : [o'.close (k + byteLength c.close)] <:+ last'.finished := by
    have hbehind' : behind'.finished = [o'.close (k + byteLength c.close)] := by
      show _ :: c.before.finished = _
      rw [c.finished_before]
    rw [← hbehind']
    refine Builder.finished_suffix (n := k + byteLength (c.close ++ c.tail)) (fun tok htok => ?_) hlast'
    obtain ⟨tok, hmem, rfl⟩ := List.mem_map.1 htok
    exact (hwithin tok hmem).move k
  refine parse_eq_ok.2 ⟨last', ?_, hopened', ?_⟩
  · refine buildText_eq_ok.2 ⟨_, c.scan_insert hblank hgaps, ?_⟩
    rw [c.addTokens_insert hblank hspace, ht, hfold]
    exact Builder.addTokens_cons_eq_ok.2 ⟨behind', hclose, hlast'⟩
  · have hqname : root.qname = c.open_.name := congrArg Element.qname c.root_eq
    have hattrs : root.attributes = c.open_.attributes := congrArg Element.attributes c.root_eq
    have hstart : root.start = c.open_.start := congrArg Element.start c.root_eq
    have hchildren : root.children = c.open_.children.reverse := congrArg Element.children c.root_eq
    rw [← hfront, List.getLast?_concat, Element.extend, hqname, hattrs, hstart, hchildren]
    simp [OpenElement.close, o', k, Nat.add_assoc]

/-- Where an id is left from a tag broken off, no entry can be put in front of the closing tag. -/
theorem parse_insert_ne_ok (c : ClosedRoot text root) {blank' space : List Char}
    (hblank : c.blank = blank' ++ space) (hspace : ∀ ch ∈ space, isSpace ch = true)
    {entries : List (Entry × List Char)} (hne : entries ≠ [])
    (hgaps : ∀ entry ∈ entries, ∀ ch ∈ entry.2, isSpace ch = true)
    (hleft : ⟨[], "id".toList⟩ ∈ leftover (c.toFront.text ++ c.blank)) (root' : Element) :
    parse (c.insert blank' entries) ≠ .ok root' := by
  intro h
  obtain ⟨⟨e, gap⟩, rest, rfl⟩ := List.exists_cons_of_ne_nil hne
  rw [c.leftover_front] at hleft
  obtain ⟨b, hbuild, -, -⟩ := parse_eq_ok.1 h
  obtain ⟨toks, hscan, hadd⟩ := buildText_eq_ok.1 hbuild
  rw [c.scan_insert hblank hgaps] at hscan
  cases hscan
  rw [c.addTokens_insert hblank hspace, List.map_append] at hadd
  -- the first entry already fails, so nothing behind it matters
  obtain ⟨b₁, hentry, -⟩ := Builder.addTokens_append_eq_ok.1 hadd
  exact Builder.addTokens_entry_ne_ok maxLevels e _ hleft b₁ hentry

end ClosedRoot

end StatementLens.Xml
