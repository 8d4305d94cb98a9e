import Mathlib.Data.List.Forall2
import StatementLens.Proofs.Xml.Building

/-!
# Documents that go on alike

Two documents under construction that differ only in offsets and in the elements finished so far go on
alike: tokens that one of them takes, the other one takes too (`addTokens_alike`).
-/

namespace StatementLens.Xml

open Text

/-- Two tokens of content that differ only in offsets. -/
inductive Token.Alike : Token → Token → Prop where
  | tagStart (name : QName) (start start' : Nat) : Alike (.tagStart name start) (.tagStart name start')
  | attr (name : QName) (value : List Char) (offset offset' start start' : Nat) :
      Alike (.attr ⟨name, ⟨offset, value⟩, start⟩) (.attr ⟨name, ⟨offset', value⟩, start'⟩)
  | tagEnd (selfClosing : Bool) (stop stop' : Nat) :
      Alike (.tagEnd selfClosing stop) (.tagEnd selfClosing stop')
  | closeTag (name : QName) (start start' stop stop' : Nat) :
      Alike (.closeTag name start stop) (.closeTag name start' stop')
  | text (content : List Char) (offset offset' : Nat) :
      Alike (.text ⟨offset, content⟩) (.text ⟨offset', content⟩)

/-- A token that is moved by two distances is alike. -/
theorem Token.Within.alike {n : Nat} {tok : Token} (h : tok.Within n) (k k' : Nat) :
    Token.Alike (tok.move k) (tok.move k') := by
  cases tok with
  | entity => cases h
  | tagStart | attr | tagEnd | closeTag | text => constructor

theorem Token.Within.alike_self {n : Nat} {tok : Token} (h : tok.Within n) : Token.Alike tok tok := by
  cases tok with
  | entity => cases h
  | tagStart | attr | tagEnd | closeTag | text => constructor

namespace Builder

/-- Two documents under construction that differ only in offsets and in finished elements. Inside a
tag (`inTag`), its name is the same. -/
structure Alike (inTag : Bool) (b b' : Builder) : Prop where
  entities : b'.entities = b.entities
  started : b'.tag.isSome = b.tag.isSome
  named : inTag = true → b'.tag.map Prod.fst = b.tag.map Prod.fst
  pending : b'.pending.map (fun p => (p.name, p.value)) = b.pending.map fun p => (p.name, p.value)
  declared : b'.declared = b.declared
  opened : b'.opened.map (fun e => (e.name, e.attributes, e.bindings))
    = b.opened.map fun e => (e.name, e.attributes, e.bindings)
  references : b'.references = b.references

variable {inTag : Bool} {b b' b₁ : Builder}

/-! ## Names and attributes -/

/-- What a prefix stands for does not depend on where it is looked up. -/
theorem lookupPrefix_ok {bindings : List Binding} {space : List Char} {offset : Nat}
    {uri : Option (List Char)} (h : lookupPrefix bindings space offset = .ok uri) (offset' : Nat) :
    lookupPrefix bindings space offset' = .ok uri := by
  unfold lookupPrefix at h ⊢
  split at h
  · exact h
  · split at h
    next hempty => rw [if_pos hempty, h]
    next => cases h

/-- An attribute is resolved by its name and value, wherever it stands. -/
theorem resolveAttribute_ok {bindings : List Binding} {p p' : PendingAttribute} {a : Attribute}
    (h : resolveAttribute bindings p = .ok a) (hp : (p'.name, p'.value) = (p.name, p.value)) :
    resolveAttribute bindings p' = .ok a := by
  obtain ⟨hname, hvalue⟩ := Prod.mk.inj hp
  unfold resolveAttribute at h ⊢
  rw [hname, hvalue]
  dsimp only at h ⊢
  split at h
  next hxml => rw [if_pos hxml, h]
  next hxml =>
    rw [if_neg hxml]
    split at h
    next hempty => rw [if_pos hempty, h]
    next hempty =>
      obtain ⟨space, hspace, hpure⟩ := bind_eq_ok.1 h
      rw [if_neg hempty, lookupPrefix_ok hspace, ok_bind, hpure]

/-- So are several. -/
theorem resolveAttributes_ok {bindings : List Binding} {done as : List Attribute}
    {ps ps' : List PendingAttribute} (h : resolveAttributes bindings done ps = .ok as)
    (hps : ps'.map (fun p => (p.name, p.value)) = ps.map fun p => (p.name, p.value)) :
    resolveAttributes bindings done ps' = .ok as := by
  induction ps generalizing done ps' with
  | nil =>
    rw [List.map_nil, List.map_eq_nil_iff] at hps
    rw [hps]
    exact h
  | cons p ps ih =>
    obtain ⟨p', ps', rfl, hp, hps⟩ := List.map_eq_cons_iff.1 hps
    rw [resolveAttributes] at h ⊢
    obtain ⟨a, ha, h⟩ := bind_eq_ok.1 h
    rw [resolveAttribute_ok ha hp, ok_bind]
    split at h
    next => cases h
    next hfresh => rw [if_neg hfresh, ih h hps]

theorem Alike.inScope (h : Alike inTag b b') : b'.inScope = b.inScope := by
  have hopened := h.opened
  unfold Builder.inScope
  rw [h.declared]
  cases hb : b.opened with
  | nil =>
    rw [hb, List.map_nil, List.map_eq_nil_iff] at hopened
    rw [hopened]
  | cons e rest =>
    rw [hb] at hopened
    obtain ⟨e', rest', hb', he, -⟩ := List.map_eq_cons_iff.1 hopened
    rw [hb']
    obtain ⟨-, he⟩ := Prod.mk.inj he
    obtain ⟨-, hbindings⟩ := Prod.mk.inj he
    dsimp only
    rw [hbindings]

/-- Documents that are alike have the same attributes in the last tag. -/
theorem Alike.resolveAttributes (h : Alike inTag b b') {as : List Attribute}
    (hb : resolveAttributes b.inScope [] b.pending.reverse = .ok as) :
    resolveAttributes b'.inScope [] b'.pending.reverse = .ok as := by
  rw [h.inScope]
  refine resolveAttributes_ok hb ?_
  rw [List.map_reverse, List.map_reverse, h.pending]

/-! ## Steps -/

/-- Elements do not matter for being alike. -/
theorem Alike.addElement (h : Alike inTag b b') (e e' : Element) :
    Alike inTag (b.addElement e) (b'.addElement e') := by
  have hopened := h.opened
  unfold Builder.addElement
  cases hb : b.opened with
  | nil =>
    rw [hb, List.map_nil, List.map_eq_nil_iff] at hopened
    rw [hopened]
    exact ⟨h.entities, h.started, h.named, h.pending, h.declared, rfl, h.references⟩
  | cons o rest =>
    rw [hb] at hopened
    obtain ⟨o', rest', hb', ho, hrest⟩ := List.map_eq_cons_iff.1 hopened
    rw [hb']
    refine ⟨h.entities, h.started, h.named, h.pending, h.declared, ?_, h.references⟩
    simpa [hrest] using ho

theorem Alike.leaveTag (h : Alike inTag b b') : Alike inTag b.leaveTag b'.leaveTag :=
  ⟨h.entities, h.started, h.named, rfl, rfl, h.opened, h.references⟩

/-- A tag that starts in both makes them alike in a tag. -/
theorem Alike.tagStart (h : Alike inTag b b') (name : QName) (start start' : Nat) :
    Alike true { b with tag := some (name, start) } { b' with tag := some (name, start') } :=
  ⟨h.entities, rfl, fun _ => rfl, h.pending, h.declared, h.opened, h.references⟩

/-- A prefix is declared in both or in none. -/
theorem Alike.declarePrefixed (h : Alike inTag b b') {space uri : List Char} {start : Nat}
    (hb : b.declarePrefixed space uri start = .ok b₁) (start' : Nat) :
    ∃ b₁', b'.declarePrefixed space uri start' = .ok b₁' ∧ Alike inTag b₁ b₁' := by
  unfold Builder.declarePrefixed at hb ⊢
  rw [h.declared]
  split at hb
  · cases hb
  next hxmlns =>
  split at hb
  · cases hb
  next hxml =>
  split at hb
  · cases hb
  next hother =>
  split at hb
  · cases hb
  next hfresh =>
  rw [if_neg hxmlns, if_neg hxml, if_neg hother, if_neg hfresh]
  split at hb
  next huri =>
    cases hb
    exact ⟨b', if_pos huri, h⟩
  next huri =>
    cases hb
    exact ⟨_, if_neg huri, h.entities, h.started, h.named, h.pending, rfl, h.opened, h.references⟩

/-- So is a default. -/
theorem Alike.declareDefault (h : Alike inTag b b') {uri : List Char} {start : Nat}
    (hb : b.declareDefault uri start = .ok b₁) (start' : Nat) :
    ∃ b₁', b'.declareDefault uri start' = .ok b₁' ∧ Alike inTag b₁ b₁' := by
  unfold Builder.declareDefault at hb ⊢
  rw [h.declared]
  split at hb
  · cases hb
  next hxml =>
  split at hb
  · cases hb
  next hxmlns =>
  cases hb
  rw [if_neg hxml, if_neg hxmlns]
  exact ⟨_, rfl, h.entities, h.started, h.named, h.pending, rfl, h.opened, h.references⟩

/-- An attribute is added to both or to none. -/
theorem Alike.addAttribute (h : Alike inTag b b') {levels offset start : Nat} {name : QName}
    {value : List Char} (hb : b.addAttribute levels ⟨name, ⟨offset, value⟩, start⟩ = .ok b₁)
    (offset' start' : Nat) :
    ∃ b₁', b'.addAttribute levels ⟨name, ⟨offset', value⟩, start'⟩ = .ok b₁' ∧ Alike inTag b₁ b₁' := by
  obtain ⟨⟨text, references⟩, hread, hb⟩ := bind_eq_ok.1 hb
  have hread' : readValue b'.entities levels b'.references ⟨offset', value⟩ = .ok (text, references) := by
    rw [h.entities, h.references]
    exact readValue_ok hread offset'
  unfold Builder.addAttribute
  rw [hread', ok_bind]
  have hcounted : Alike inTag { b with references := references }
      { b' with references := references } :=
    ⟨h.entities, h.started, h.named, h.pending, h.declared, h.opened, rfl⟩
  dsimp only at hb ⊢
  split at hb
  next hspace =>
    rw [if_pos hspace]
    exact hcounted.declarePrefixed hb start'
  next hspace =>
  rw [if_neg hspace]
  split at hb
  next hname =>
    rw [if_pos hname]
    exact hcounted.declareDefault hb start'
  next hname =>
    rw [if_neg hname]
    cases hb
    refine ⟨_, rfl, h.entities, h.started, h.named, ?_, h.declared, h.opened, rfl⟩
    simp [h.pending]

/-- A tag ends in both or in none. -/
theorem Alike.endTag (h : Alike true b b') {selfClosing : Bool} {stop : Nat}
    (hb : b.endTag selfClosing stop = .ok b₁) (stop' : Nat) :
    ∃ b₁', b'.endTag selfClosing stop' = .ok b₁' ∧ Alike true b₁ b₁' := by
  obtain ⟨name, start, attributes, htag, hattributes, ⟨uri, huri⟩, rfl⟩ := endTag_eq_ok.1 hb
  have hnamed := h.named rfl
  rw [htag] at hnamed
  obtain ⟨⟨name', start'⟩, htag', rfl⟩ := Option.map_eq_some_iff.1 hnamed
  -- only a failed lookup tells where it was made
  have hlookup : lookupPrefix b'.inScope name'.space (start' + 1) = .ok uri := by
    rw [h.inScope]
    exact lookupPrefix_ok huri _
  refine ⟨_, endTag_eq_ok.2 ⟨name', start', attributes, htag', h.resolveAttributes hattributes,
    ⟨uri, hlookup⟩, rfl⟩, ?_⟩
  cases selfClosing with
  | true => exact h.leaveTag.addElement _ _
  | false =>
    refine ⟨h.entities, h.started, h.named, rfl, rfl, ?_, h.references⟩
    simp [h.opened, h.inScope]

/-- An element is closed in both or in none. -/
theorem Alike.closeElement (h : Alike inTag b b') {name : QName} {start stop : Nat}
    (hb : b.closeElement name start stop = .ok b₁) (start' stop' : Nat) :
    ∃ b₁', b'.closeElement name start' stop' = .ok b₁' ∧ Alike inTag b₁ b₁' := by
  obtain ⟨e, rest, attributes, htag, hattributes, hopened, rfl, rfl⟩ := closeElement_eq_ok.1 hb
  have hsame := h.opened
  rw [hopened] at hsame
  obtain ⟨e', rest', hopened', he, hrest⟩ := List.map_eq_cons_iff.1 hsame
  obtain ⟨hname, -⟩ := Prod.mk.inj he
  refine ⟨_, closeElement_eq_ok.2 ⟨e', rest', attributes, h.started.trans htag,
    h.resolveAttributes hattributes, hopened', hname, rfl⟩, ?_⟩
  refine Alike.addElement ?_ _ _
  exact ⟨h.entities, h.started, h.named, rfl, rfl, hrest, h.references⟩

/-! ## Text -/

/-- Documents that are alike stay so when an entity is expanded. -/
def ExpandsAlike (expand : ContentExpander) : Prop :=
  ∀ inTag value rest b b' b₁, Alike inTag b b' → expand value rest b = .ok b₁ →
    ∃ b₁', expand value rest b' = .ok b₁' ∧ Alike inTag b₁ b₁'

/-- A reference is expanded in both or in none. -/
theorem Alike.addReference {expand : ContentExpander} (hexpand : ExpandsAlike expand) {levels : Nat}
    (h : Alike inTag b b') {name : List Char} (hb : b.addReference levels expand name = .ok b₁) :
    ∃ b₁', b'.addReference levels expand name = .ok b₁' ∧ Alike inTag b₁ b₁' := by
  obtain ⟨value, count, inner, hvalue, hcount, hinner, rfl⟩ := addReferenceAt_eq_ok.1 hb
  have hcounted : Alike inTag { b with references := count } { b' with references := count } :=
    ⟨h.entities, h.started, h.named, h.pending, h.declared, h.opened, rfl⟩
  obtain ⟨inner', hinner', halike⟩ := hexpand _ _ _ _ _ _ hcounted hinner
  rw [← h.entities] at hvalue
  rw [← h.references] at hcount
  refine ⟨_, addReferenceAt_eq_ok.2 ⟨value, count, inner', hvalue, hcount, hinner', rfl⟩, ?_⟩
  exact ⟨halike.entities, halike.started, halike.named, halike.pending, halike.declared,
    halike.opened, by rw [halike.references]⟩

/-- So are several. -/
theorem Alike.addReferences {expand : ContentExpander} (hexpand : ExpandsAlike expand)
    {levels : Nat} (h : Alike inTag b b') {names : List (List Char)}
    (hb : names.foldlM (Builder.addReference levels expand) b = .ok b₁) :
    ∃ b₁', names.foldlM (Builder.addReference levels expand) b' = .ok b₁' ∧ Alike inTag b₁ b₁' := by
  induction names generalizing b b' with
  | nil =>
    cases hb
    exact ⟨b', rfl, h⟩
  | cons name names ih =>
    rw [List.foldlM_cons, bind_eq_ok] at hb
    obtain ⟨b₂, hstep, hrest⟩ := hb
    obtain ⟨b₂', hstep', h₂⟩ := h.addReference hexpand hstep
    obtain ⟨b₁', hrest', h₁⟩ := ih h₂ hrest
    exact ⟨b₁', by rw [List.foldlM_cons, hstep', ok_bind, hrest'], h₁⟩

/-- Text is added to both or to none. -/
theorem Alike.addText {expand : ContentExpander} (hsteady : Steady expand)
    (hexpand : ExpandsAlike expand) {levels : Nat} (h : Alike inTag b b') {content : List Char}
    {offset : Nat} (hb : addToken levels expand b (.text ⟨offset, content⟩) = .ok b₁)
    (offset' : Nat) :
    ∃ b₁', addToken levels expand b' (.text ⟨offset', content⟩) = .ok b₁' ∧ Alike inTag b₁ b₁' := by
  obtain ⟨names, hnames, hadd⟩ := (addToken_text_eq_ok hsteady).1 hb
  obtain ⟨b₁', hadd', halike⟩ := h.addReferences hexpand hadd
  exact ⟨b₁', (addToken_text_eq_ok hsteady).2 ⟨names, hnames, hadd'⟩, halike⟩

/-! ## Runs -/

theorem Alike.forget (h : Alike inTag b b') : Alike false b b' :=
  ⟨h.entities, h.started, nofun, h.pending, h.declared, h.opened, h.references⟩

/-- Alike tokens are added to both or to none, provided entities are expanded alike. -/
private theorem addTokens_alike_of {levels : Nat} (hexpand : ExpandsAlike (expandContent levels))
    {toks toks' : List Token} (htoks : List.Forall₂ Token.Alike toks toks')
    (htagged : Tagged inTag toks) (h : Alike inTag b b') (hb : b.addTokens levels toks = .ok b₁) :
    ∃ b₁', b'.addTokens levels toks' = .ok b₁' ∧ Alike false b₁ b₁' := by
  induction htoks generalizing inTag b b' with
  | nil =>
    cases hb
    exact ⟨b', rfl, h.forget⟩
  | @cons tok tok' rest rest' htok hrest ih =>
    obtain ⟨b₂, hstep, hb⟩ := addTokens_cons_eq_ok.1 hb
    -- each kind of token leads to documents that are alike, from which the rest goes on
    have hgoes : ∀ {inTag' b₂'}, Tagged inTag' rest →
        addToken levels (expandContent levels) b' tok' = .ok b₂' → Alike inTag' b₂ b₂' →
        ∃ b₁', b'.addTokens levels (tok' :: rest') = .ok b₁' ∧ Alike false b₁ b₁' := by
      intro inTag' b₂' htagged' hstep' h₂
      obtain ⟨b₁', hrest', h₁⟩ := ih htagged' h₂ hb
      exact ⟨b₁', addTokens_cons_eq_ok.2 ⟨b₂', hstep', hrest'⟩, h₁⟩
    cases htok with
    | tagStart name start start' =>
      obtain ⟨hspace, rfl⟩ := addToken_tagStart_eq_ok.1 hstep
      exact hgoes htagged (addToken_tagStart_eq_ok.2 ⟨hspace, rfl⟩) (h.tagStart name start start')
    | attr name value offset offset' start start' =>
      obtain ⟨b₂', hstep', h₂⟩ := h.addAttribute hstep offset' start'
      exact @hgoes inTag _ htagged hstep' h₂
    | tagEnd selfClosing stop stop' =>
      obtain ⟨rfl, htagged⟩ := htagged
      obtain ⟨b₂', hstep', h₂⟩ := h.endTag hstep stop'
      exact hgoes htagged hstep' h₂
    | closeTag name start start' stop stop' =>
      obtain ⟨b₂', hstep', h₂⟩ := h.closeElement hstep start' stop'
      exact @hgoes inTag _ htagged hstep' h₂
    | text content offset offset' =>
      obtain ⟨b₂', hstep', h₂⟩ := h.addText (expandContent_steady levels) hexpand hstep offset'
      exact @hgoes inTag _ htagged hstep' h₂

/-- Entities are expanded alike at all levels. -/
theorem expandsAlike_expandContent (levels : Nat) : ExpandsAlike (expandContent levels) := by
  induction levels with
  | zero =>
    intro inTag value rest b b' b₁ _ hb
    cases hb
  | succ levels ih =>
    intro inTag value rest b b' b₁ h hb
    obtain ⟨r, inner, hr, hadd, rfl⟩ := expandContent_succ_eq_ok.1 hb
    obtain ⟨hwithin, htagged⟩ := scanFragment_ok hr
    -- the replacement text stands in the prolog and is cut at the same offsets in both documents
    have hself : List.Forall₂ Token.Alike (scanFragment value).1.reverse
        (scanFragment value).1.reverse :=
      List.forall₂_same.2 fun tok htok => (hwithin tok htok).alike_self
    have hstart : Alike false { b with tag := none } { b' with tag := none } :=
      ⟨h.entities, rfl, nofun, h.pending, h.declared, h.opened, h.references⟩
    obtain ⟨inner', hadd', halike⟩ := addTokens_alike_of ih hself htagged hstart hadd
    refine ⟨_, expandContent_succ_eq_ok.2 ⟨r, inner', hr, hadd', rfl⟩, ?_⟩
    exact ⟨halike.entities, h.started, h.named, halike.pending, halike.declared, halike.opened,
      halike.references⟩

/-- Tokens that one of two documents takes, the other one takes wherever they stand. -/
theorem addTokens_alike {levels n : Nat} {toks : List Token} (hwithin : ∀ tok ∈ toks, tok.Within n)
    (htagged : Tagged false toks) (h : Alike false b b') (k k' : Nat)
    (hb : b.addTokens levels (toks.map (Token.move k)) = .ok b₁) :
    ∃ b₁', b'.addTokens levels (toks.map (Token.move k')) = .ok b₁' ∧ Alike false b₁ b₁' := by
  have htoks : List.Forall₂ Token.Alike (toks.map (Token.move k)) (toks.map (Token.move k')) := by
    rw [List.forall₂_map_left_iff, List.forall₂_map_right_iff]
    exact List.forall₂_same.2 fun tok htok => (hwithin tok htok).alike k k'
  exact addTokens_alike_of (expandsAlike_expandContent levels) htoks (htagged.move k) h hb

end Builder

end StatementLens.Xml
