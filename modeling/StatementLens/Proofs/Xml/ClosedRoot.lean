import StatementLens.Mapper.Xml
import StatementLens.Proofs.Xml.Document

/-!
# Documents whose root is closed

A document whose root element has a closing tag of its own falls into a front that ends in markup, a
stretch of text, the closing tag and what follows it (`exists_closedRoot`). The front can be followed
by any content (`Front.scan`).
-/

namespace StatementLens.Xml

open Text

/-! ## Fronts -/

/-- The front of a document: its prolog, its root tag and pieces of content, inside `depth` elements. -/
structure Front where
  prolog : List Char
  entities : List Token
  name : List Char
  attributes : List Char
  raws : List RawAttribute
  head : List Char
  headTokens : List Token
  depth : Nat
  isProlog : IsProlog prolog entities
  isTag : IsTag name attributes raws .opened
  isHead : Pieces 1 head headTokens depth

namespace Front

/-- The text of a front up to the end of the root tag. -/
def opening (f : Front) : List Char := f.prolog ++ '<' :: (f.name ++ f.attributes)

/-- The text of a front. -/
def text (f : Front) : List Char := f.opening ++ f.head

/-- The tokens of a front up to the end of the root tag. -/
def openingTokens (f : Front) : List Token :=
  f.entities ++ rootTokens f.name f.attributes f.raws .opened (byteLength f.prolog)

/-- The tokens of a front. -/
def tokens (f : Front) : List Token :=
  f.openingTokens ++ f.headTokens.map (Token.move (byteLength f.opening))

/-- A front is cut in the same way whatever content follows. -/
theorem scan (f : Front) {x z : List Char} {toks : List Token} (h : Content f.depth x z toks)
    (hz : IsMisc z) :
    scanDocument (f.text ++ (x ++ z))
      = (f.tokens ++ toks.map (Token.move (byteLength f.text)), .ok ()) := by
  have hscan := scanDocument_element f.isProlog f.isTag (f.isHead.content h) hz
  have htext : f.text ++ (x ++ z)
      = f.prolog ++ ('<' :: (f.name ++ f.attributes) ++ (f.head ++ x ++ z)) := by
    unfold text opening
    simp
  rw [htext, hscan]
  simp [tokens, openingTokens, opening, text, Nat.add_assoc]

/-- A front ends with an angle bracket. -/
theorem getLast?_text (f : Front) : f.text.getLast? = some '>' := by
  have hopening : f.opening.getLast? = some '>' := by
    unfold opening
    rw [List.getLast?_append, getLast?_tag f.name (f.isTag.last nofun), Option.some_or]
  unfold text
  rcases f.isHead.getLast? with hnil | hlast
  · rw [hnil, List.append_nil, hopening]
  · rw [List.getLast?_append, hlast, Option.some_or]

/-- The tokens behind the root tag, with those of a text that follows the front. -/
def innerTokens (f : Front) (w : List Char) : List Token :=
  (f.headTokens ++ (textTokens w).map (Token.move (byteLength f.head))).map
    (Token.move (byteLength f.opening))

theorem tokens_append_text (f : Front) (w : List Char) :
    f.tokens ++ (textTokens w).map (Token.move (byteLength f.text))
      = f.openingTokens ++ f.innerTokens w := by
  simp [tokens, innerTokens, text]

/-- What follows the root tag stands within the front; a text has no offsets to look at. -/
theorem within_text (f : Front) (w : List Char) :
    ∀ tok ∈ f.innerTokens w, tok.Within (byteLength f.text) := by
  intro tok htok
  obtain ⟨tok, hmem, rfl⟩ := List.mem_map.1 htok
  unfold text
  rw [byteLength_append]
  rcases List.mem_append.1 hmem with hmem | hmem
  · have hwithin := (f.isHead.content .ended).within
    rw [List.append_nil, List.map_nil, List.append_nil] at hwithin
    exact (hwithin tok hmem).move _
  · obtain ⟨tok, htext, rfl⟩ := List.mem_map.1 hmem
    unfold textTokens at htext
    split at htext
    · cases htext
    · rw [List.mem_singleton.1 htext]
      trivial

end Front

/-- The text of a tag holds no closing tag. -/
theorem IsTag.no_closing {n u : List Char} {raws : List RawAttribute} {e : TagEnd}
    (h : IsTag n u raws e) : ¬ "</".toList <:+: '<' :: (n ++ u) := by
  intro hpart
  rcases List.infix_cons_iff.1 hpart with hfirst | hpart
  · obtain ⟨c, n, rfl, hc⟩ := h.name
    obtain ⟨y, hy⟩ := hfirst
    cases hy
    exact absurd hc (by decide)
  · exact h.angle (hpart.subset (by decide))

/-! ## Closed roots -/

/-- A document with a root that has a closing tag: the parts of its text, and what is under
construction between them. -/
structure ClosedRoot (text : List Char) (root : Element) extends Front where
  blank : List Char
  close : List Char
  tail : List Char
  misc : List Char
  closeName : QName
  tailTokens : List Token
  /-- What is under construction in front of the closing tag, behind it and at the end. -/
  before : Builder
  behind : Builder
  last : Builder
  open_ : OpenElement
  text_eq : text = toFront.text ++ (blank ++ (close ++ (tail ++ misc)))
  root_eq : root = open_.close (byteLength (toFront.text ++ blank) + byteLength close)
  isBlank : IsCharacters blank
  isClose : IsCloseTag closeName close
  isTail : Content depth (close ++ tail) misc (.closeTag closeName 0 (byteLength close) :: tailTokens)
  isMisc : IsMisc misc
  addBefore : ({} : Builder).addTokens maxLevels
    (toFront.tokens ++ (textTokens blank).map (Token.move (byteLength toFront.text))) = .ok before
  addClose : before.closeElement closeName (byteLength (toFront.text ++ blank))
    (byteLength (toFront.text ++ blank) + byteLength close) = .ok behind
  addTail : behind.addTokens maxLevels
    (tailTokens.map (Token.move (byteLength (toFront.text ++ blank)))) = .ok last
  opened_before : before.opened = [open_]
  finished_before : before.finished = []
  opened_last : last.opened = []
  start_eq : open_.start = byteLength toFront.prolog
  children_within : ∀ e ∈ open_.children,
    e.start ≤ byteLength toFront.text ∧ e.stop ≤ byteLength toFront.text

/-- Entities add no elements. -/
theorem Builder.stack_addTokens_entities {levels : Nat} {b b' : Builder} {toks : List Token}
    (htoks : AllEntities toks) (h : b.addTokens levels toks = .ok b') : b'.stack = b.stack := by
  induction toks generalizing b with
  | nil =>
    cases h
    rfl
  | cons tok toks ih =>
    obtain ⟨b₁, hstep, hrest⟩ := Builder.addTokens_cons_eq_ok.1 h
    obtain ⟨name, value, rfl⟩ := htoks tok List.mem_cons_self
    cases hstep
    rw [ih (fun tok htok => htoks tok (List.mem_cons_of_mem _ htok)) hrest]
    rfl

/-- What has been opened by a root tag, and by tokens behind it that stand within `m`, holds elements
within `m`. -/
theorem Builder.children_within {n m : Nat} (hnm : n ≤ m) {r o : OpenElement} {b b' : Builder}
    {toks : List Token} (hopened : b.opened = [r]) (hstart : r.start ≤ m) (hchildren : r.children = [])
    (hb : b.EntitiesWithin n) (htag : b.TagWithin m) (htoks : ∀ tok ∈ toks, tok.Within m)
    (h : b.addTokens maxLevels toks = .ok b') (ho : o ∈ b'.opened) :
    ∀ e ∈ o.children, e.start ≤ m ∧ e.stop ≤ m := by
  obtain ⟨hextends, -⟩ := Builder.addTokens_extends hnm hb htag htoks h
  have hroot : b.stack.Within m := by
    intro o ho
    rw [show b.stack.opened = [r] from hopened, List.mem_singleton] at ho
    subst ho
    exact ⟨hstart, by simp [hchildren]⟩
  have hwithin : b'.stack.Within m :=
    reflTransGen_keeps (fun _ _ hstep hs => hstep.within hs) hextends.stack hroot
  exact (hwithin o ho).2

/-- A root element that a tag opens is closed by a closing tag in the text, or else by an entity, in
which case it stops before it starts. -/
private theorem closedRoot_of_element {p n u c z : List Char} {entities toks : List Token}
    {raws : List RawAttribute} (hp : IsProlog p entities) (ht : IsTag n u raws .opened)
    (hc : Content 1 c z toks) (hz : IsMisc z) {b : Builder} {root : Element}
    (hadd : ({} : Builder).addTokens maxLevels
      (entities ++ (rootTokens n u raws .opened (byteLength p) ++
        toks.map (Token.move (byteLength (p ++ '<' :: (n ++ u)))))) = .ok b)
    (hopened : b.opened = []) (hlast : b.finished.getLast? = some root) :
    root.stop < root.start ∨
      Nonempty (ClosedRoot (p ++ ('<' :: (n ++ u) ++ (c ++ z))) root) := by
  rw [← List.append_assoc] at hadd
  obtain ⟨b₁, hroot, hcontent⟩ := Builder.addTokens_append_eq_ok.1 hadd
  obtain ⟨r, hr⟩ := exists_rootOpened hp hroot
  have hle : byteLength p ≤ byteLength (p ++ '<' :: (n ++ u)) + byteLength c := by
    rw [byteLength_append]
    omega
  have hentities : b₁.EntitiesWithin (byteLength p - 1) := fun e he => Nat.le_pred_of_lt (hr.entities e he)
  have hne : b.finished ≠ [] := by
    intro hnil
    rw [hnil] at hlast
    cases hlast
  -- entities end in front of the root, so an entity that closes the root does so before its start
  rcases Builder.exists_closing ((Nat.sub_le _ _).trans hle) hr.opened hr.finished hentities (hr.tag _ hle)
    (hc.within_move _) hcontent hne with
    ⟨hsome, front', e, he, _, stop, hstop, rfl⟩ | ⟨before, name, start, stop, after, b₂, b₃, children, front',
      hsplit, hbefore, hfinished₂, hopened₂, hclose, hafter, he⟩
  · left
    rw [he, List.getLast?_concat] at hlast
    cases hlast
    obtain ⟨entity, hentity⟩ := List.exists_mem_of_ne_nil _ hsome
    have hbefore := hr.entities entity hentity
    show stop < r.start
    rw [hr.start]
    omega
  · right
    rw [he, List.getLast?_concat] at hlast
    cases hlast
    -- the closing tag among the tokens is one in the content, which it cuts in two
    obtain ⟨before, start, stop, after, rfl, rfl, rfl, rfl, rfl⟩ := eq_of_map_move hsplit
    obtain ⟨head, w, cl, rest, headTokens, d, tailTokens, rfl, hhead, hw, hcl, htail, rfl, rfl, rfl, rfl⟩ :=
      hc.closesAt
    let f : Front := ⟨p, entities, n, u, raws, head, headTokens, d, hp, ht, hhead⟩
    have hoffset : byteLength (p ++ '<' :: (n ++ u)) + byteLength (head ++ w)
        = byteLength (f.text ++ w) := by
      simp [f, Front.text, Front.opening, Nat.add_assoc]
    rw [← Nat.add_assoc] at hclose
    rw [map_move_move] at hafter
    rw [hoffset] at hclose hafter
    have hfront : byteLength p ≤ byteLength f.text := by
      simp [f, Front.text, Front.opening]
    have haddBefore : ({} : Builder).addTokens maxLevels
        (f.tokens ++ (textTokens w).map (Token.move (byteLength f.text))) = .ok b₂ := by
      rw [f.tokens_append_text]
      exact Builder.addTokens_append_eq_ok.2 ⟨b₁, hroot, hbefore⟩
    refine ⟨{
      toFront := f
      blank := w
      close := cl
      tail := rest
      misc := z
      closeName := name
      tailTokens := tailTokens
      before := b₂
      behind := b₃
      last := b
      open_ := { r with children := children }
      text_eq := ?_
      root_eq := ?_
      isBlank := hw
      isClose := hcl
      isTail := htail
      isMisc := hz
      addBefore := haddBefore
      addClose := hclose
      addTail := hafter
      opened_before := hopened₂
      finished_before := hfinished₂
      opened_last := hopened
      start_eq := hr.start
      children_within := ?_ }⟩
    · simp [f, Front.text, Front.opening]
    · rw [← Nat.add_assoc, hoffset]
    · exact Builder.children_within hfront hr.opened (hr.start ▸ hfront) hr.children hr.entitiesWithin
        (hr.tag _ hfront) (f.within_text w) hbefore (by rw [hopened₂]; exact List.mem_singleton_self _)

/-! ## Roots that close themselves -/

/-- A document with a root that closes itself: the parts of its text, and what is built from them. -/
structure SelfClosedRoot (text : List Char) (root : Element) where
  prolog : List Char
  entities : List Token
  name : List Char
  attributes : List Char
  raws : List RawAttribute
  rest : List Char
  values : List Attribute
  last : Builder
  isProlog : IsProlog prolog entities
  isTag : IsTag name attributes raws .selfClosed
  text_eq : text = prolog ++ ('<' :: (name ++ attributes) ++ rest)
  root_eq : root = .mk (.ofChars name) values (byteLength prolog)
    (byteLength prolog + byteLength ('<' :: (name ++ attributes))) []
  add : ({} : Builder).addTokens maxLevels
    (entities ++ rootTokens name attributes raws .selfClosed (byteLength prolog)) = .ok last

namespace SelfClosedRoot

variable {text : List Char} {root : Element}

/-- The text up to the end of the root. -/
def front (c : SelfClosedRoot text root) : List Char := c.prolog ++ '<' :: (c.name ++ c.attributes)

theorem text_eq_front (c : SelfClosedRoot text root) : text = c.front ++ c.rest := by
  refine c.text_eq.trans ?_
  simp [front]

theorem root_start (c : SelfClosedRoot text root) : root.start = byteLength c.prolog :=
  congrArg Element.start c.root_eq

theorem root_stop (c : SelfClosedRoot text root) : root.stop = byteLength c.front := by
  refine (congrArg Element.stop c.root_eq).trans ?_
  unfold front
  rw [byteLength_append]
  rfl

/-- The text of the root is its tag. -/
theorem slice_root (c : SelfClosedRoot text root) :
    slice root.start root.stop text = '<' :: (c.name ++ c.attributes) := by
  have hslice := slice_append c.prolog ('<' :: (c.name ++ c.attributes)) c.rest
  rwa [← c.text_eq, ← byteLength_append, ← c.root_start, ← front, ← c.root_stop] at hslice

end SelfClosedRoot

/-- A root closes itself, has a closing tag of its own or is closed by an entity, in which case it stops
before it starts. -/
theorem selfClosedRoot_or {text : List Char} {root : Element} (h : parse text = .ok root) :
    Nonempty (SelfClosedRoot text root) ∨ root.stop < root.start ∨ Nonempty (ClosedRoot text root) := by
  obtain ⟨b, hbuild, hopened, hlast⟩ := parse_eq_ok.1 h
  obtain ⟨toks, hscan, hadd⟩ := buildText_eq_ok.1 hbuild
  have hdocument := scanDocument_ok hscan
  cases hdocument with
  | empty hentities =>
    have hstack := Builder.stack_addTokens_entities hentities hadd
    rw [show b.finished = [] from congrArg Stack.finished hstack] at hlast
    cases hlast
  | @tag p n u z entities raws e hp ht he =>
    obtain ⟨b₀, hadd₀, hrest⟩ := Builder.addTokens_append_eq_ok.1 hadd
    obtain ⟨es, hes, -⟩ := Builder.addTokens_entities maxLevels hp.within {}
    rw [hes] at hadd₀
    cases hadd₀
    rcases Builder.addTokens_rootTokens_finished he rfl rfl rfl hrest with
      hnil | ⟨rfl, attributes, -, hone⟩
    · rw [hnil] at hlast
      cases hlast
    · rw [hone, List.getLast?_singleton] at hlast
      cases hlast
      exact .inl ⟨⟨p, entities, n, u, raws, z, attributes, b, hp, ht, rfl, rfl, hadd⟩⟩
  | @element p n u c z entities toks raws hp ht hc hz =>
    exact .inr (closedRoot_of_element hp ht hc hz hadd hopened hlast)

/-- A document whose root has a closing tag of its own falls into parts. -/
theorem exists_closedRoot {text : List Char} {root : Element} (h : parse text = .ok root)
    (hclose : "</".toList <:+: slice root.start root.stop text) : Nonempty (ClosedRoot text root) := by
  rcases selfClosedRoot_or h with ⟨⟨c⟩⟩ | hlt | hclosed
  · rw [c.slice_root] at hclose
    exact absurd hclose c.isTag.no_closing
  · rw [slice_of_le hlt.le] at hclose
    exact absurd (List.infix_nil.1 hclose) (by decide)
  · exact hclosed

end StatementLens.Xml
