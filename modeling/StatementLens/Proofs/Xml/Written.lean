import StatementLens.Proofs.Xml.RootTag

/-!
# Elements as they are written

Where no entities are declared, an element is its tag, what stands between this tag and its closing tag,
and the closing tag, or a tag that closes itself. The root of a document is such an element
(`exists_isElement`). What is under construction is followed along the text: each open element has its tag
in the text, and behind the tag the elements that are in it already.
-/

namespace StatementLens.Xml

open Text

/-! ## Elements in a text -/

/-- What may stand between elements. -/
inductive IsGap : List Char → Prop where
  | comment {v : List Char} (h : Skips takeComment ("<!--".toList ++ (v ++ "-->".toList))) :
      IsGap ("<!--".toList ++ (v ++ "-->".toList))
  | cdata {v : List Char} (h : Skips takeCData ("<![CDATA[".toList ++ (v ++ "]]>".toList))) :
      IsGap ("<![CDATA[".toList ++ (v ++ "]]>".toList))
  | instruction {v : List Char} (h : Skips takeInstruction ("<?".toList ++ (v ++ "?>".toList))) :
      IsGap ("<?".toList ++ (v ++ "?>".toList))
  | characters {t : List Char} (h : IsCharacters t) : IsGap t

/-- The attributes of an element are those that are written in its tag and declare no namespaces. -/
structure Carries (attributes : List Attribute) (raws : List RawAttribute) : Prop where
  reads : ∀ a ∈ attributes, ∃ raw ∈ raws, a.Reads raw
  keeps : ∀ raw ∈ raws, ¬ raw.DeclaresSpace → ∃ a ∈ attributes, a.Reads raw

/-- The elements stand in a text that starts at `k`, with gaps around them; the last one comes first. -/
inductive Siblings (P : Element → List Char → Nat → Prop) : List Element → List Char → Nat → Prop where
  | nil {k : Nat} : Siblings P [] [] k
  | gap {es : List Element} {t g : List Char} {k : Nat} (h : Siblings P es t k) (hg : IsGap g) :
      Siblings P es (t ++ g) k
  | cons {e : Element} {es : List Element} {t v : List Char} {k : Nat} (h : Siblings P es t k)
      (he : P e v (k + byteLength t)) : Siblings P (e :: es) (t ++ v) k

/-- The element is written as a text that starts at `k`. -/
inductive IsElement : Element → List Char → Nat → Prop where
  | empty {n u : List Char} {raws : List RawAttribute} {attributes : List Attribute} {k : Nat}
      (htag : IsTag n u raws .selfClosed) (hattributes : Carries attributes raws) :
      IsElement (.mk (.ofChars n) attributes k (k + byteLength ('<' :: (n ++ u))) [])
        ('<' :: (n ++ u)) k
  | closed {n u c cl : List Char} {raws : List RawAttribute} {attributes : List Attribute}
      {children : List Element} {k : Nat} (htag : IsTag n u raws .opened)
      (hattributes : Carries attributes raws)
      (hinner : Siblings IsElement children c (k + byteLength ('<' :: (n ++ u))))
      (hclose : IsCloseTag (.ofChars n) cl) :
      IsElement
        (.mk (.ofChars n) attributes k (k + byteLength ('<' :: (n ++ u) ++ (c ++ cl))) children.reverse)
        ('<' :: (n ++ u) ++ (c ++ cl)) k

namespace Siblings

variable {P : Element → List Char → Nat → Prop} {es : List Element} {t : List Char} {k : Nat}

/-- Each of the elements is a part of the text. -/
theorem exists_of_mem (h : Siblings P es t k) {e : Element} (he : e ∈ es) :
    ∃ x v y, t = x ++ (v ++ y) ∧ P e v (k + byteLength x) := by
  induction h with
  | nil => cases he
  | @gap es t g k h hg ih =>
    obtain ⟨x, v, y, rfl, hv⟩ := ih he
    exact ⟨x, v, y ++ g, by simp, hv⟩
  | @cons e' es t v k h he' ih =>
    rcases List.mem_cons.1 he with rfl | he
    · exact ⟨t, v, [], by simp, he'⟩
    · obtain ⟨x, w, y, rfl, hw⟩ := ih he
      exact ⟨x, w, y ++ v, by simp, hw⟩

end Siblings

namespace IsElement

variable {e : Element} {t : List Char} {k : Nat}

theorem start_eq (h : IsElement e t k) : e.start = k := by
  cases h <;> rfl

theorem stop_eq (h : IsElement e t k) : e.stop = k + byteLength t := by
  cases h <;> rfl

/-- An element begins with its tag and ends with an angle bracket. -/
theorem exists_tag (h : IsElement e t k) :
    ∃ n u v raws tagEnd, t = '<' :: (n ++ u) ++ v ∧ IsTag n u raws tagEnd ∧ tagEnd ≠ .cutOff ∧
      Carries e.attributes raws ∧ e.qname = .ofChars n ∧ t.getLast? = some '>' := by
  cases h with
  | @empty n u raws attributes k htag hattributes =>
    exact ⟨n, u, [], raws, _, by simp, htag, nofun, hattributes, rfl,
      getLast?_tag n (htag.last nofun)⟩
  | @closed n u c cl raws attributes children k htag hattributes hinner hclose =>
    refine ⟨n, u, c ++ cl, raws, _, rfl, htag, nofun, hattributes, rfl, ?_⟩
    obtain ⟨v, rfl, -⟩ := hclose.shape
    rw [← List.append_assoc, List.getLast?_append, ← List.cons_append, ← List.cons_append,
      List.getLast?_concat]
    rfl

theorem ne_nil (h : IsElement e t k) : t ≠ [] := by
  obtain ⟨n, u, v, raws, tagEnd, rfl, -⟩ := h.exists_tag
  exact List.cons_ne_nil _ _

theorem start_lt_stop (h : IsElement e t k) : e.start < e.stop := by
  obtain ⟨n, u, v, raws, tagEnd, rfl, -⟩ := h.exists_tag
  have hangle : 0 < ('<').utf8Size := Char.utf8Size_pos '<'
  rw [h.start_eq, h.stop_eq, List.cons_append, byteLength_cons]
  omega

/-- The elements in an element are parts of its text. -/
theorem exists_child (h : IsElement e t k) {child : Element} (hchild : child ∈ e.children) :
    ∃ x v y, t = x ++ (v ++ y) ∧ IsElement child v (k + byteLength x) := by
  cases h with
  | empty => cases hchild
  | @closed n u c cl raws attributes children k htag hattributes hinner hclose =>
    obtain ⟨x, v, y, rfl, hv⟩ := hinner.exists_of_mem (List.mem_reverse.1 hchild)
    refine ⟨'<' :: (n ++ u) ++ x, v, y ++ cl, by simp, ?_⟩
    rw [byteLength_append, ← Nat.add_assoc]
    exact hv

end IsElement

/-- An element ends before the next one starts. -/
theorem Siblings.pairwise {es : List Element} {t : List Char} {k : Nat}
    (h : Siblings IsElement es t k) : es.Pairwise fun e e' => e'.stop ≤ e.start := by
  induction h with
  | nil => exact .nil
  | gap h hg ih => exact ih
  | @cons e es t v k h he ih =>
    refine List.pairwise_cons.2 ⟨fun e' he' => ?_, ih⟩
    -- an element before the last one is a part of the text in front of the last one
    obtain ⟨x, w, y, rfl, hw⟩ := h.exists_of_mem he'
    rw [hw.stop_eq, he.start_eq]
    simp only [byteLength_append]
    omega

theorem IsElement.children_pairwise {e : Element} {t : List Char} {k : Nat} (h : IsElement e t k) :
    e.children.Pairwise fun a b => a.stop ≤ b.start := by
  cases h with
  | empty => exact .nil
  | closed _ _ hinner _ => exact List.pairwise_reverse.2 hinner.pairwise

/-- An attribute without a prefix is one that is written so, if it declares no namespace. -/
theorem Carries.attribute?_isSome_iff {e : Element} {raws : List RawAttribute}
    (h : Carries e.attributes raws) {name : String} (hname : name ≠ "xmlns") :
    (e.attribute? name).isSome = true ↔ ∃ raw ∈ raws, raw.name = ⟨[], name.toList⟩ := by
  unfold Element.attribute?
  rw [Option.isSome_map, List.find?_isSome]
  constructor
  · rintro ⟨a, ha, hfound⟩
    have hfound : a.space = none ∧ a.name = name.toList := by simpa using hfound
    obtain ⟨raw, hraw, hlocal, hspace, -⟩ := h.reads a ha
    refine ⟨raw, hraw, ?_⟩
    obtain ⟨⟨space, local_⟩, value, start⟩ := raw
    obtain rfl := hspace.1 hfound.1
    rw [← hfound.2, hlocal]
  · rintro ⟨raw, hraw, hwritten⟩
    have hown : ¬ raw.DeclaresSpace := by
      unfold RawAttribute.DeclaresSpace
      rw [hwritten]
      rintro (hspace | hlocal)
      · exact absurd hspace (show ([] : List Char) ≠ "xmlns".toList by decide)
      · exact hname (String.toList_inj.1 hlocal)
    obtain ⟨a, ha, hlocal, hspace, -⟩ := h.keeps raw hraw hown
    rw [hwritten] at hlocal hspace
    exact ⟨a, ha, by simp [hspace, hlocal]⟩

/-! ## Open elements in a text -/

/-- A text that starts with `p` and leaves elements open, the innermost first. -/
inductive Opened (p : List Char) : List Char → List OpenElement → Prop where
  | nil : Opened p p []
  | cons {x n u c : List Char} {raws : List RawAttribute} {o : OpenElement} {os : List OpenElement}
      (h : Opened p x os) (htag : IsTag n u raws .opened) (hname : o.name = .ofChars n)
      (hattributes : Carries o.attributes raws) (hstart : o.start = byteLength x)
      (hinner : Siblings IsElement o.children c (byteLength (x ++ '<' :: (n ++ u)))) :
      Opened p (x ++ ('<' :: (n ++ u) ++ c)) (o :: os)

namespace Opened

variable {p x : List Char} {o : OpenElement} {os : List OpenElement}

/-- The innermost element goes on. -/
theorem extend (h : Opened p x (o :: os)) {t : List Char} {es : List Element}
    (hextend : ∀ k c, k + byteLength c = byteLength x → Siblings IsElement o.children c k →
      Siblings IsElement es (c ++ t) k) :
    Opened p (x ++ t) ({ o with children := es } :: os) := by
  cases h with
  | @cons x n u c raws _ _ h htag hname hattributes hstart hinner =>
    have hlength : byteLength (x ++ '<' :: (n ++ u)) + byteLength c
        = byteLength (x ++ ('<' :: (n ++ u) ++ c)) := by
      rw [← byteLength_append, List.append_assoc]
    have hcons := Opened.cons (o := { o with children := es }) h htag hname hattributes hstart
      (hextend _ c hlength hinner)
    simpa using hcons

theorem gap (h : Opened p x (o :: os)) {g : List Char} (hg : IsGap g) : Opened p (x ++ g) (o :: os) :=
  h.extend fun _ _ _ hs => .gap hs hg

theorem add (h : Opened p x (o :: os)) {t : List Char} {e : Element}
    (he : IsElement e t (byteLength x)) :
    Opened p (x ++ t) ({ o with children := e :: o.children } :: os) :=
  h.extend fun _ _ hlength hs => .cons hs (hlength ▸ he)

/-- A closing tag makes an element of the innermost open one. -/
theorem close (h : Opened p x (o :: os)) {cl : List Char} (hclose : IsCloseTag o.name cl) :
    ∃ x' t, x ++ cl = x' ++ t ∧ Opened p x' os ∧
      IsElement (o.close (byteLength x + byteLength cl)) t (byteLength x') := by
  cases h with
  | @cons x n u c raws _ _ h htag hname hattributes hstart hinner =>
    refine ⟨x, '<' :: (n ++ u) ++ (c ++ cl), by simp, h, ?_⟩
    rw [hname] at hclose
    rw [byteLength_append] at hinner
    have helement := IsElement.closed htag hattributes hinner hclose
    have hstop : byteLength (x ++ ('<' :: (n ++ u) ++ c)) + byteLength cl
        = byteLength x + byteLength ('<' :: (n ++ u) ++ (c ++ cl)) := by
      simp only [byteLength_append]
      omega
    unfold OpenElement.close
    rw [hname, hstart, hstop]
    exact helement

end Opened

/-! ## Following what is under construction -/

/-- The piece that is cut into a tag is one. -/
theorem CutsTag.isTag {t : List Char} {name : QName} {raws : List RawAttribute} {e : TagEnd}
    (h : CutsTag ('<' :: t) name raws e) :
    ∃ n u, t = n ++ u ∧ name = .ofChars n ∧ IsTag n u raws e := by
  have hscan := h [] 0 [] fun _ => rfl
  rw [List.append_nil] at hscan
  obtain ⟨n, u, y, raws', rfl, hname, hchars, hstops, hangle, hcut, hlast, hslash, hvalues, hcuts⟩ :=
    scanTag_ok hscan
  -- the text is cut in two ways, which leave the same tokens and the same rest
  rw [← List.cons_append, hcuts [] 0 y hcut] at hscan
  obtain ⟨htokens, hrest⟩ := Prod.mk.inj hscan
  obtain ⟨-, rfl⟩ : byteLength y = 0 ∧ y = [] := by simpa using hrest.symm
  simp only [Token.move_zero, List.map_id, List.append_nil, List.reverse_inj, List.cons.injEq,
    Token.tagStart.injEq, and_true, List.append_cancel_right_eq] at htokens
  obtain ⟨rfl, hraws⟩ := htokens
  obtain rfl := List.map_injective_iff.2 (fun _ _ heq => Token.attr.inj heq) hraws
  exact ⟨n, u, by simp, rfl, hname, hchars, hstops, hangle, hlast, hslash, hvalues, hcuts⟩

namespace Builder

/-- A tag adds an element that has the attributes written in the tag, or opens one. -/
theorem addTokens_tag {levels : Nat} {b b' : Builder} {n u : List Char} {raws : List RawAttribute}
    {e : TagEnd} {k : Nat} (he : e ≠ .cutOff) (hpending : b.pending = [])
    (h : b.addTokens levels (rootTokens n u raws e k) = .ok b') :
    ∃ attributes bindings, Carries attributes raws ∧ b'.entities = b.entities ∧ b'.pending = [] ∧
      b'.stack = if e = .opened then
          ⟨⟨.ofChars n, attributes, bindings, k, []⟩ :: b.opened, b.finished⟩
        else b.stack.add (.mk (.ofChars n) attributes k (k + byteLength ('<' :: (n ++ u))) []) := by
  obtain ⟨b₁, htag, hentities, hstack, hreads, hkeeps, hrest⟩ := addTokens_rootTokens h
  have hends : ∃ selfClosing, b₁.endTag selfClosing (k + byteLength ('<' :: (n ++ u))) = .ok b' ∧
      (selfClosing = false ↔ e = .opened) := by
    cases e with
    | cutOff => exact absurd rfl he
    | opened =>
      obtain ⟨b₂, hend, hlast⟩ := addTokens_cons_eq_ok.1 hrest
      cases hlast
      exact ⟨false, hend, by simp⟩
    | selfClosed =>
      obtain ⟨b₂, hend, hlast⟩ := addTokens_cons_eq_ok.1 hrest
      cases hlast
      exact ⟨true, hend, by simp⟩
  obtain ⟨selfClosing, hend, hopened⟩ := hends
  obtain ⟨name, start, attributes, htag', hattributes, -, rfl⟩ := endTag_eq_ok.1 hend
  rw [htag] at htag'
  cases htag'
  have hcarries : Carries attributes raws := by
    constructor
    · refine resolveAttributes_reads hattributes (by simp) fun p hp => ?_
      exact (hreads p (List.mem_reverse.1 hp)).resolve_left (by simp [hpending])
    · intro raw hraw hown
      obtain ⟨p, hp, hread⟩ := hkeeps raw hraw hown
      exact (resolveAttributes_keeps hattributes).2 p (List.mem_reverse.2 hp) raw hread
  refine ⟨attributes, b₁.inScope, hcarries, ?_⟩
  cases selfClosing with
  | false =>
    rw [if_pos (hopened.1 rfl), if_neg (by decide)]
    obtain ⟨hopened₁, hfinished₁⟩ := Stack.mk.inj hstack
    refine ⟨hentities, rfl, ?_⟩
    show Stack.mk (_ :: b₁.opened) b₁.finished = _
    rw [hopened₁, hfinished₁]
  | true =>
    have hne : e ≠ .opened := fun heq => absurd (hopened.2 heq) (by decide)
    rw [if_neg hne, if_pos rfl]
    refine ⟨?_, ?_, ?_⟩
    · rw [entities_addElement]
      exact hentities
    · unfold addElement
      split <;> rfl
    · rw [stack_addElement]
      exact congrArg (Stack.add · _) hstack

end Builder

/-- What is under construction behind the text `x`, of which `p` stands in front of the root. -/
structure Tracks (p x : List Char) (b : Builder) : Prop where
  entities : b.entities = []
  pending : b.pending = []
  finished : b.finished = []
  opened : Opened p x b.opened

namespace Tracks

variable {levels d : Nat} {p x t : List Char} {b b' : Builder}

theorem gap (hb : Tracks p x b) (hopened : b.opened ≠ []) (ht : IsGap t) : Tracks p (x ++ t) b := by
  obtain ⟨o, os, hcons⟩ := List.exists_cons_of_ne_nil hopened
  refine ⟨hb.entities, hb.pending, hb.finished, ?_⟩
  have hgap := hb.opened
  rw [hcons] at hgap ⊢
  exact hgap.gap ht

/-- An element that is added inside of another one. -/
theorem add (hb : Tracks p x b) (hopened : b.opened ≠ []) {e : Element}
    (he : IsElement e t (byteLength x)) (hentities : b'.entities = []) (hpending : b'.pending = [])
    (hstack : b'.stack = b.stack.add e) :
    Tracks p (x ++ t) b' ∧ b'.opened.length = b.opened.length := by
  obtain ⟨o, os, hcons⟩ := List.exists_cons_of_ne_nil hopened
  have hadd := hb.opened
  rw [hcons] at hadd
  unfold Stack.add Builder.stack at hstack
  rw [hcons] at hstack
  obtain ⟨hopened', hfinished'⟩ := Stack.mk.inj hstack
  refine ⟨⟨hentities, hpending, hfinished'.trans hb.finished, ?_⟩, ?_⟩
  · rw [hopened']
    exact hadd.add he
  · rw [hopened', hcons]
    rfl

/-- A tag that opens an element. -/
theorem opens {n u : List Char} {raws : List RawAttribute} (hb : Tracks p x b)
    (htag : IsTag n u raws .opened)
    (h : b.addTokens levels (rootTokens n u raws .opened (byteLength x)) = .ok b') :
    Tracks p (x ++ '<' :: (n ++ u)) b' ∧ b'.opened.length = b.opened.length + 1 := by
  obtain ⟨attributes, bindings, hcarries, hentities, hpending, hstack⟩ :=
    Builder.addTokens_tag (by decide) hb.pending h
  rw [if_pos rfl] at hstack
  obtain ⟨hopened', hfinished'⟩ := Stack.mk.inj hstack
  have hcons := Opened.cons (c := []) (o := ⟨.ofChars n, attributes, bindings, byteLength x, []⟩)
    hb.opened htag rfl hcarries rfl .nil
  rw [List.append_nil] at hcons
  refine ⟨⟨hentities.trans hb.entities, hpending, hfinished'.trans hb.finished, ?_⟩, ?_⟩
  · rw [hopened']
    exact hcons
  · rw [hopened']
    rfl

/-- A closing tag that leaves an element open. -/
theorem closeTag {name : QName} (hb : Tracks p x b) (hlength : 1 < b.opened.length)
    (hclose : IsCloseTag name t)
    (h : b.closeElement name (byteLength x) (byteLength x + byteLength t) = .ok b') :
    Tracks p (x ++ t) b' ∧ b'.opened.length = b.opened.length - 1 := by
  obtain ⟨o, os, attributes, -, -, hcons, rfl, rfl⟩ := Builder.closeElement_eq_ok.1 h
  have hopened := hb.opened
  rw [hcons] at hopened hlength ⊢
  obtain ⟨x', v, hx, houter, helement⟩ := hopened.close hclose
  have hne : os ≠ [] := by
    rintro rfl
    simp at hlength
  have hrest : Tracks p x' { b.leaveTag with opened := os } :=
    ⟨hb.entities, rfl, hb.finished, houter⟩
  rw [hx]
  refine hrest.add hne helement ?_ ?_ (Builder.stack_addElement _ _)
  · rw [Builder.entities_addElement]
    exact hb.entities
  · unfold Builder.addElement
    split <;> rfl

/-- A piece of markup is followed. -/
theorem piece {d' : Nat} {toks : List Token} (hb : Tracks p x b) (hlength : b.opened.length = d)
    (hd : 0 < d) (hpiece : Piece d t toks d')
    (h : b.addTokens levels (toks.map (Token.move (byteLength x))) = .ok b') :
    Tracks p (x ++ t) b' ∧ b'.opened.length = d' := by
  have hopened : b.opened ≠ [] := by
    intro hnil
    rw [hnil] at hlength
    simp at hlength
    omega
  cases hpiece with
  | comment hskips =>
    cases h
    exact ⟨hb.gap hopened (.comment hskips), hlength⟩
  | cdata hskips =>
    cases h
    exact ⟨hb.gap hopened (.cdata hskips), hlength⟩
  | instruction hskips =>
    cases h
    exact ⟨hb.gap hopened (.instruction hskips), hlength⟩
  | closeTag hlt hclose =>
    obtain ⟨b₁, hstep, hlast⟩ := Builder.addTokens_cons_eq_ok.1 h
    cases hlast
    subst hlength
    exact hb.closeTag hlt hclose hstep
  | @tag t name raws e he hname hlast hcuts =>
    obtain ⟨n, u, rfl, rfl, htag⟩ := hcuts.isTag
    subst hlength
    cases e with
    | cutOff => exact absurd rfl he
    | opened => exact hb.opens htag h
    | selfClosed =>
      obtain ⟨attributes, bindings, hcarries, hentities, hpending, hstack⟩ :=
        Builder.addTokens_tag (by decide) hb.pending h
      rw [if_neg (by decide)] at hstack
      exact hb.add hopened (.empty htag hcarries) (hentities.trans hb.entities) hpending hstack

/-- A stretch of text inside of an element is followed. -/
theorem characters {s : Span} (hb : Tracks p x b) (hlength : b.opened.length = d) (hd : 0 < d)
    (ht : IsCharacters t)
    (h : Builder.addToken levels (Builder.expandContent levels) b (.text s) = .ok b') :
    Tracks p (x ++ t) b' ∧ b'.opened.length = d := by
  obtain rfl := Builder.addToken_text_of_no_entities hb.entities h
  have hopened : b'.opened ≠ [] := by
    intro hnil
    rw [hnil] at hlength
    simp at hlength
    omega
  exact ⟨hb.gap hopened (.characters ht), hlength⟩

/-- A run of pieces of markup and text is followed. -/
theorem pieces {d' : Nat} {toks : List Token} (hpieces : Pieces d t toks d') (hb : Tracks p x b)
    (hlength : b.opened.length = d) (hd : 0 < d)
    (h : b.addTokens levels (toks.map (Token.move (byteLength x))) = .ok b') :
    Tracks p (x ++ t) b' ∧ b'.opened.length = d' := by
  induction hpieces generalizing x b with
  | nil =>
    cases h
    rw [List.append_nil]
    exact ⟨hb, hlength⟩
  | @piece d d' d'' t u toks toks' hpiece hu ih =>
    rw [List.map_append, map_move_move, ← byteLength_append] at h
    obtain ⟨b₁, hstep, hrest⟩ := Builder.addTokens_append_eq_ok.1 h
    obtain ⟨hb₁, hlength₁⟩ := hb.piece hlength hd hpiece hstep
    rw [← List.append_assoc]
    exact ih hb₁ hlength₁ (hpiece.depth_pos hd) hrest
  | @characters d d' t u toks hne hchars hangle hu ih =>
    rw [List.map_cons, map_move_move, ← byteLength_append] at h
    obtain ⟨b₁, hstep, hrest⟩ := Builder.addTokens_cons_eq_ok.1 h
    obtain ⟨hb₁, hlength₁⟩ := hb.characters hlength hd hchars hstep
    rw [← List.append_assoc]
    exact ih hb₁ hlength₁ hd hrest

/-- Content is followed to the closing tag of the root. -/
theorem content {z : List Char} {toks : List Token} (hcontent : Content d t z toks)
    (hb : Tracks p x b) (hlength : b.opened.length = d) (hd : 0 < d)
    (h : b.addTokens levels (toks.map (Token.move (byteLength x))) = .ok b') (hopened : b'.opened = []) :
    ∃ v e, x ++ t = p ++ v ∧ IsElement e v (byteLength p) ∧ b'.finished = [e] := by
  induction hcontent generalizing x b with
  | ended =>
    cases h
    rw [hopened] at hlength
    exact absurd hlength.symm (Nat.ne_of_gt hd)
  | @closed d t y name hle hclose =>
    obtain ⟨b₁, hstep, hlast⟩ := Builder.addTokens_cons_eq_ok.1 h
    cases hlast
    obtain ⟨o, os, attributes, -, -, hcons, rfl, rfl⟩ := Builder.closeElement_eq_ok.1 hstep
    -- the root is the only element that is open
    obtain rfl : os = [] := by
      rw [hcons] at hlength
      rw [← List.length_eq_zero_iff]
      simp at hlength
      omega
    have hopened := hb.opened
    rw [hcons] at hopened
    obtain ⟨x', v, hx, houter, helement⟩ := hopened.close hclose
    cases houter
    refine ⟨v, _, hx, helement, ?_⟩
    simp [Builder.addElement, Builder.leaveTag, hb.finished]
  | @piece d d' t u y toks toks' hpiece hu ih =>
    rw [List.map_append, map_move_move, ← byteLength_append] at h
    obtain ⟨b₁, hstep, hrest⟩ := Builder.addTokens_append_eq_ok.1 h
    obtain ⟨hb₁, hlength₁⟩ := hb.piece hlength hd hpiece hstep
    rw [← List.append_assoc]
    exact ih hb₁ hlength₁ (hpiece.depth_pos hd) hrest
  | @characters d t u y toks hne hchars hfollows hu ih =>
    rw [List.map_cons, map_move_move, ← byteLength_append] at h
    obtain ⟨b₁, hstep, hrest⟩ := Builder.addTokens_cons_eq_ok.1 h
    obtain ⟨hb₁, hlength₁⟩ := hb.characters hlength hd hchars hstep
    rw [← List.append_assoc]
    exact ih hb₁ hlength₁ hd hrest
  | @cutOff d t name raws hname hcuts =>
    obtain ⟨n, u, rfl, rfl, -⟩ := hcuts.isTag
    obtain ⟨b₁, -, -, hstack, -, -, hlast⟩ := Builder.addTokens_rootTokens h
    cases hlast
    obtain ⟨hopened₁, -⟩ := Stack.mk.inj hstack
    rw [← hopened₁, hopened] at hlength
    exact absurd hlength.symm (Nat.ne_of_gt hd)

end Tracks

/-! ## Documents without entities -/

/-- Whether the document type of a text has declarations of its own. -/
def hasSubset (text : List Char) : Bool :=
  match takeStart ⟨0, text⟩ with
  | .ok s =>
    s.startsWith "<!DOCTYPE".toList && ((takeDoctypeHead s).toOption.map Prod.fst).getD false
  | .error _ => false

/-- Entities are declared only among the declarations of a document type. -/
theorem scanProlog_of_no_subset {text : List Char} (h : hasSubset text = false) :
    (scanProlog ⟨0, text⟩).1 = [] := by
  unfold hasSubset at h
  unfold scanProlog
  cases hstart : takeStart ⟨0, text⟩ with
  | error f => rfl
  | ok s =>
    rw [hstart] at h
    dsimp only at h
    rw [after_ok]
    by_cases hdoctype : s.startsWith "<!DOCTYPE".toList = true
    · rw [hdoctype] at h
      rw [if_pos hdoctype]
      have hnone : (scanDoctype s).1 = [] := by
        unfold scanDoctype
        cases hhead : takeDoctypeHead s with
        | error f => rfl
        | ok head =>
          obtain ⟨more, rest⟩ := head
          obtain rfl : more = false := by simpa [hhead, Except.toOption] using h
          rfl
      dsimp only
      cases (scanDoctype s).2 <;> exact hnone
    · rw [if_neg hdoctype]

/-- A prolog without such declarations has no entities. -/
theorem IsProlog.no_entities {p z : List Char} {entities : List Token} (hp : IsProlog p entities)
    (hz : StartsName z) (h : hasSubset (p ++ '<' :: z) = false) : entities = [] := by
  have hscan := scanProlog_of_no_subset h
  rw [hp.scan z hz] at hscan
  exact List.reverse_eq_nil_iff.1 hscan

/-- The root of a document without entities is the element that is written in it. -/
theorem exists_isElement {text : List Char} {root : Element} (h : parse text = .ok root)
    (hsubset : hasSubset text = false) :
    ∃ p t z, text = p ++ (t ++ z) ∧ IsElement root t (byteLength p) := by
  obtain ⟨b, hbuild, hopened, hlast⟩ := parse_eq_ok.1 h
  obtain ⟨toks, hscan, hadd⟩ := buildText_eq_ok.1 hbuild
  have hdocument := scanDocument_ok hscan
  cases hdocument with
  | empty hentities =>
    have hstack := Builder.stack_addTokens_entities hentities hadd
    rw [show b.finished = [] from congrArg Stack.finished hstack] at hlast
    cases hlast
  | @tag p n u z entities raws e hp ht he =>
    obtain rfl := hp.no_entities ((ht.name.append u).append z) hsubset
    rw [List.nil_append] at hadd
    rcases Builder.addTokens_rootTokens_finished he rfl rfl rfl hadd with hnil | ⟨rfl, -⟩
    · rw [hnil] at hlast
      cases hlast
    · obtain ⟨attributes, _, hcarries, -, -, hstack⟩ := Builder.addTokens_tag (by decide) rfl hadd
      rw [show b.finished = [_] from congrArg Stack.finished hstack, List.getLast?_singleton] at hlast
      cases hlast
      exact ⟨p, _, z, rfl, .empty ht hcarries⟩
  | @element p n u c z entities toks raws hp ht hc hz =>
    obtain rfl := hp.no_entities ((ht.name.append u).append (c ++ z)) hsubset
    rw [List.nil_append] at hadd
    obtain ⟨b₁, hroot, hcontent⟩ := Builder.addTokens_append_eq_ok.1 hadd
    have hempty : Tracks p p {} := ⟨rfl, rfl, rfl, .nil⟩
    obtain ⟨hb₁, hlength⟩ := hempty.opens ht hroot
    obtain ⟨v, e, hx, helement, hfinished⟩ := hb₁.content hc hlength Nat.one_pos hcontent hopened
    rw [hfinished, List.getLast?_singleton] at hlast
    cases hlast
    refine ⟨p, v, z, ?_, helement⟩
    rw [← List.append_assoc p v z, ← hx]
    simp

/-- In a document without entities every tag in front of the closing tag of the root has ended, so none of
its attributes is left to the next tag. -/
theorem ClosedRoot.pending_before {text : List Char} {root : Element} (c : ClosedRoot text root)
    (hsubset : hasSubset text = false) : c.before.pending = [] := by
  have htext : text = c.prolog ++ '<' :: (c.name ++ c.attributes ++ (c.head ++ (c.blank ++
      (c.close ++ (c.tail ++ c.misc))))) := by
    have htext := c.text_eq
    unfold Front.text Front.opening at htext
    simpa using htext
  rw [htext] at hsubset
  have hnone := c.isProlog.no_entities ((c.isTag.name.append _).append _) hsubset
  obtain ⟨b, hfront, hblank⟩ := Builder.addTokens_append_eq_ok.1 c.addBefore
  unfold Front.tokens Front.openingTokens at hfront
  rw [hnone, List.nil_append] at hfront
  obtain ⟨b₁, hroot, hhead⟩ := Builder.addTokens_append_eq_ok.1 hfront
  have hempty : Tracks c.prolog c.prolog {} := ⟨rfl, rfl, rfl, .nil⟩
  obtain ⟨hb₁, hlength₁⟩ := hempty.opens c.isTag hroot
  obtain ⟨hb, -⟩ := hb₁.pieces c.isHead hlength₁ Nat.one_pos hhead
  -- what stands between the last piece of markup and the closing tag refers to no entity
  unfold textTokens at hblank
  split at hblank
  next =>
    cases hblank
    exact hb.pending
  next =>
    obtain ⟨b₂, hstep, hlast⟩ := Builder.addTokens_cons_eq_ok.1 hblank
    cases hlast
    rw [Builder.addToken_text_of_no_entities hb.entities hstep]
    exact hb.pending

end StatementLens.Xml
