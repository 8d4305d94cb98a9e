import Mathlib.Logic.Relation
import StatementLens.Proofs.Xml.Content
import StatementLens.Proofs.Xml.Reference

/-!
# Building elements

What a token can do to a document under construction is said once (`addToken_extends`): it opens, adds and
closes elements within bounds. The place where the root is closed and the offsets of the elements in
it follow from this.
-/

namespace StatementLens.Xml

open Text Relation

/-- An open element, closed at `stop`. -/
def OpenElement.close (e : OpenElement) (stop : Nat) : Element :=
  .mk e.name e.attributes e.start stop e.children.reverse

/-- An attribute has the name that is written in a tag, and the value if nothing in it is to be
replaced. -/
def PendingAttribute.Reads (p : PendingAttribute) (raw : RawAttribute) : Prop :=
  p.name = raw.name ∧ ((∀ c ∈ raw.value.chars, isPlain c = true) → p.value = raw.value.chars)

/-- The same of an attribute whose prefix has been resolved. -/
def Attribute.Reads (a : Attribute) (raw : RawAttribute) : Prop :=
  a.name = raw.name.name ∧ (a.space = none ↔ raw.name.space = []) ∧
    ((∀ c ∈ raw.value.chars, isPlain c = true) → a.value = raw.value.chars)

/-- Whether an attribute declares a namespace. -/
def RawAttribute.DeclaresSpace (raw : RawAttribute) : Prop :=
  raw.name.space = "xmlns".toList ∨ raw.name.name = "xmlns".toList

namespace Builder

/-- Takes tokens into account one after the other, with `levels` levels of entities to go. -/
def addTokens (levels : Nat) (b : Builder) (toks : List Token) : Except Fault Builder :=
  toks.foldlM (addToken levels (expandContent levels)) b

@[simp]
theorem addTokens_nil (levels : Nat) (b : Builder) : b.addTokens levels [] = .ok b := rfl

/-- Tokens are taken into account one by one. -/
theorem addTokens_cons_eq_ok {levels : Nat} {b b' : Builder} {tok : Token} {toks : List Token} :
    b.addTokens levels (tok :: toks) = .ok b' ↔
      ∃ b₁, addToken levels (expandContent levels) b tok = .ok b₁ ∧
        b₁.addTokens levels toks = .ok b' := by
  unfold addTokens
  rw [List.foldlM_cons, bind_eq_ok]

/-- So are two runs of them. -/
theorem addTokens_append_eq_ok {levels : Nat} {b b' : Builder} {toks toks' : List Token} :
    b.addTokens levels (toks ++ toks') = .ok b' ↔
      ∃ b₁, b.addTokens levels toks = .ok b₁ ∧ b₁.addTokens levels toks' = .ok b' := by
  unfold addTokens
  rw [List.foldlM_append, bind_eq_ok]

/-! ## What a token does -/

/-- The beginning of a tag is noted, unless its prefix is reserved. -/
theorem addToken_tagStart_eq_ok {levels : Nat} {expand : ContentExpander} {b b' : Builder}
    {name : QName} {start : Nat} : addToken levels expand b (.tagStart name start) = .ok b' ↔
      name.space ≠ "xmlns".toList ∧ b' = { b with tag := some (name, start) } := by
  rw [addToken]
  by_cases h : name.space = "xmlns".toList
  · simp [h]
  · simp only [h, if_false, Except.ok.injEq, ne_eq, not_false_eq_true, true_and]
    exact eq_comm

/-- A declared prefix changes nothing but what is declared. -/
theorem declarePrefixed_ok {b b' : Builder} {space uri : List Char} {start : Nat}
    (h : b.declarePrefixed space uri start = .ok b') :
    ∃ declared, b' = { b with declared := declared } := by
  unfold declarePrefixed at h
  split at h
  · cases h
  split at h
  · cases h
  split at h
  · cases h
  split at h
  · cases h
  split at h
  · cases h
    exact ⟨b.declared, rfl⟩
  · cases h
    exact ⟨_, rfl⟩

/-- Nor does a declared default. -/
theorem declareDefault_ok {b b' : Builder} {uri : List Char} {start : Nat}
    (h : b.declareDefault uri start = .ok b') : ∃ declared, b' = { b with declared := declared } := by
  unfold declareDefault at h
  split at h
  · cases h
  split at h
  · cases h
  · cases h
    exact ⟨_, rfl⟩

/-- An attribute changes nothing but what is known of the last tag. -/
theorem addAttribute_ok {b b' : Builder} {levels : Nat} {raw : RawAttribute}
    (h : b.addAttribute levels raw = .ok b') : ∃ pending declared references,
      b' = { b with pending := pending, declared := declared, references := references } ∧
      ∀ p ∈ pending, p ∈ b.pending ∨ p.Reads raw := by
  obtain ⟨⟨value, references⟩, hvalue, h⟩ := bind_eq_ok.1 h
  dsimp only at h
  split at h
  · obtain ⟨declared, rfl⟩ := declarePrefixed_ok h
    exact ⟨_, declared, references, rfl, fun p hp => .inl hp⟩
  split at h
  · obtain ⟨declared, rfl⟩ := declareDefault_ok h
    exact ⟨_, declared, references, rfl, fun p hp => .inl hp⟩
  · cases h
    refine ⟨_, _, references, rfl, fun p hp => ?_⟩
    rcases List.mem_cons.1 hp with rfl | hp
    · refine .inr ⟨rfl, fun hplain => ?_⟩
      rw [readValue_plain _ _ _ hplain] at hvalue
      cases hvalue
      rfl
    · exact .inl hp

/-- An attribute that declares no namespace is kept. -/
theorem addAttribute_keeps {b b' : Builder} {levels : Nat} {raw : RawAttribute}
    (h : b.addAttribute levels raw = .ok b') :
    (∀ p ∈ b.pending, p ∈ b'.pending) ∧ (¬ raw.DeclaresSpace → ∃ p ∈ b'.pending, p.Reads raw) := by
  obtain ⟨⟨value, references⟩, hvalue, h⟩ := bind_eq_ok.1 h
  dsimp only at h
  split at h
  next hspace =>
    obtain ⟨declared, rfl⟩ := declarePrefixed_ok h
    exact ⟨fun p hp => hp, fun hown => absurd (.inl hspace) hown⟩
  split at h
  next hname =>
    obtain ⟨declared, rfl⟩ := declareDefault_ok h
    exact ⟨fun p hp => hp, fun hown => absurd (.inr hname) hown⟩
  · cases h
    refine ⟨fun p hp => List.mem_cons_of_mem _ hp, fun _ => ⟨_, List.mem_cons_self, rfl, fun hplain => ?_⟩⟩
    rw [readValue_plain _ _ _ hplain] at hvalue
    cases hvalue
    rfl

/-- Resolving an attribute keeps its name and its value. -/
theorem resolveAttribute_eq_ok {bindings : List Binding} {p : PendingAttribute} {a : Attribute}
    (h : resolveAttribute bindings p = .ok a) :
    a.name = p.name.name ∧ (a.space = none ↔ p.name.space = []) ∧ a.value = p.value := by
  unfold resolveAttribute at h
  dsimp only at h
  split at h
  next hxml =>
    cases h
    refine ⟨rfl, ⟨nofun, fun hempty => ?_⟩, rfl⟩
    rw [hempty] at hxml
    exact absurd hxml (by decide)
  next =>
    split at h
    next hempty =>
      cases h
      exact ⟨rfl, ⟨fun _ => List.isEmpty_iff.1 hempty, fun _ => rfl⟩, rfl⟩
    next hempty =>
      obtain ⟨space, hspace, hpure⟩ := bind_eq_ok.1 h
      cases hpure
      refine ⟨rfl, ⟨fun hnone => ?_, fun hnil => absurd (List.isEmpty_iff.2 hnil) hempty⟩, rfl⟩
      dsimp only at hnone
      subst hnone
      unfold lookupPrefix at hspace
      split at hspace
      · cases hspace
      · rw [if_neg hempty] at hspace
        cases hspace

/-- A resolved attribute is the one that is written, if it was so before. -/
theorem reads_of_resolveAttribute {bindings : List Binding} {p : PendingAttribute} {a : Attribute}
    (h : resolveAttribute bindings p = .ok a) {raw : RawAttribute} (hreads : p.Reads raw) :
    a.Reads raw := by
  obtain ⟨hname, hspace, hvalue⟩ := resolveAttribute_eq_ok h
  obtain ⟨hpname, hpvalue⟩ := hreads
  exact ⟨by rw [hname, hpname], by rw [hspace, hpname], fun hplain => hvalue.trans (hpvalue hplain)⟩

/-- Resolved attributes are those that are written in the tag. -/
theorem resolveAttributes_reads {bindings : List Binding} {done as : List Attribute}
    {ps : List PendingAttribute} {raws : List RawAttribute}
    (h : resolveAttributes bindings done ps = .ok as)
    (hdone : ∀ a ∈ done, ∃ raw ∈ raws, a.Reads raw) (hps : ∀ p ∈ ps, ∃ raw ∈ raws, p.Reads raw) :
    ∀ a ∈ as, ∃ raw ∈ raws, a.Reads raw := by
  induction ps generalizing done with
  | nil =>
    cases h
    exact hdone
  | cons p ps ih =>
    rw [resolveAttributes] at h
    obtain ⟨a, ha, h⟩ := bind_eq_ok.1 h
    obtain ⟨raw, hraw, hreads⟩ := hps p List.mem_cons_self
    split at h
    · cases h
    · refine ih h (fun a' ha' => ?_) fun p' hp' => hps p' (List.mem_cons_of_mem p hp')
      rcases List.mem_append.1 ha' with ha' | ha'
      · exact hdone a' ha'
      · rw [List.mem_singleton.1 ha']
        exact ⟨raw, hraw, reads_of_resolveAttribute ha hreads⟩

/-- All attributes that are written in a tag are resolved. -/
theorem resolveAttributes_keeps {bindings : List Binding} {done as : List Attribute}
    {ps : List PendingAttribute} (h : resolveAttributes bindings done ps = .ok as) :
    (∀ a ∈ done, a ∈ as) ∧ ∀ p ∈ ps, ∀ raw, p.Reads raw → ∃ a ∈ as, a.Reads raw := by
  induction ps generalizing done with
  | nil =>
    cases h
    exact ⟨fun a ha => ha, nofun⟩
  | cons p ps ih =>
    rw [resolveAttributes] at h
    obtain ⟨a, ha, h⟩ := bind_eq_ok.1 h
    split at h
    · cases h
    · obtain ⟨hdone, hps⟩ := ih h
      refine ⟨fun a' ha' => hdone a' (List.mem_append_left _ ha'), fun p' hp' raw hreads => ?_⟩
      rcases List.mem_cons.1 hp' with rfl | hp'
      · exact ⟨a, hdone a (by simp), reads_of_resolveAttribute ha hreads⟩
      · exact hps p' hp' raw hreads

/-- The builder after the end of a tag, or of an element. -/
def leaveTag (b : Builder) : Builder := { b with pending := [], declared := [] }

/-- The end of a tag adds an element, finished or open, with the attributes that have been collected. -/
theorem endTag_eq_ok {b b' : Builder} {selfClosing : Bool} {stop : Nat} :
    b.endTag selfClosing stop = .ok b' ↔
      ∃ name start attributes, b.tag = some (name, start) ∧
        resolveAttributes b.inScope [] b.pending.reverse = .ok attributes ∧
        (∃ uri, lookupPrefix b.inScope name.space (start + 1) = .ok uri) ∧
        b' = if selfClosing then b.leaveTag.addElement (.mk name attributes start stop [])
          else { b.leaveTag with opened := ⟨name, attributes, b.inScope, start, []⟩ :: b.opened } := by
  unfold endTag
  constructor
  · intro h
    split at h
    · cases h
    next name start htag =>
      obtain ⟨attributes, hattributes, h⟩ := bind_eq_ok.1 h
      obtain ⟨uri, hlookup, h⟩ := bind_eq_ok.1 h
      refine ⟨name, start, attributes, htag, hattributes, ⟨uri, hlookup⟩, ?_⟩
      cases selfClosing with
      | false =>
        cases h
        rfl
      | true =>
        cases h
        rfl
  · rintro ⟨name, start, attributes, htag, hattributes, ⟨uri, hlookup⟩, rfl⟩
    split
    next hnone =>
      rw [htag] at hnone
      cases hnone
    next name' start' hsome =>
      rw [htag] at hsome
      cases hsome
      dsimp only
      rw [hattributes, ok_bind, hlookup, ok_bind]
      cases selfClosing <;> rfl

/-- A closing tag finishes the innermost open element, whose name it has. -/
theorem closeElement_eq_ok {b b' : Builder} {name : QName} {start stop : Nat} :
    b.closeElement name start stop = .ok b' ↔
      ∃ e rest attributes, b.tag.isSome = true ∧
        resolveAttributes b.inScope [] b.pending.reverse = .ok attributes ∧
        b.opened = e :: rest ∧ e.name = name ∧
        b' = { b.leaveTag with opened := rest }.addElement (e.close stop) := by
  unfold closeElement
  constructor
  · intro h
    split at h
    · cases h
    next htag =>
      obtain ⟨attributes, hattributes, h⟩ := bind_eq_ok.1 h
      split at h
      · cases h
      next e rest hopened =>
        split at h
        · cases h
        next hname =>
          cases h
          exact ⟨e, rest, attributes, by simpa [Option.isSome_iff_ne_none] using htag, hattributes,
            hopened, Decidable.of_not_not hname, rfl⟩
  · rintro ⟨e, rest, attributes, htag, hattributes, hopened, rfl, rfl⟩
    rw [if_neg (by simpa [Option.isSome_iff_ne_none] using htag), hattributes, ok_bind]
    split
    next hnil =>
      rw [hopened] at hnil
      cases hnil
    next e' rest' hcons =>
      rw [hopened] at hcons
      cases hcons
      rw [if_neg (by simp)]
      rfl

end Builder

/-! ## The open and the finished elements -/

/-- The elements of a document under construction. -/
structure Stack where
  /-- The open elements, the innermost first. -/
  opened : List OpenElement
  /-- The finished elements outside of all others, the last one first. -/
  finished : List Element

/-- Adds a finished element to the innermost open one, or to the document. -/
def Stack.add (s : Stack) (e : Element) : Stack :=
  match s.opened with
  | [] => ⟨[], e :: s.finished⟩
  | parent :: rest => ⟨{ parent with children := e :: parent.children } :: rest, s.finished⟩

/-- The elements of a document under construction. -/
def Builder.stack (b : Builder) : Stack := ⟨b.opened, b.finished⟩

@[simp]
theorem Builder.stack_addElement (b : Builder) (e : Element) :
    (b.addElement e).stack = b.stack.add e := by
  unfold addElement Stack.add stack
  cases b.opened <;> rfl

@[simp]
theorem Builder.entities_addElement (b : Builder) (e : Element) :
    (b.addElement e).entities = b.entities := by
  unfold addElement
  cases b.opened <;> rfl

@[simp]
theorem Builder.tag_addElement (b : Builder) (e : Element) : (b.addElement e).tag = b.tag := by
  unfold addElement
  cases b.opened <;> rfl

/-- What a step can do to the elements of a document, all new offsets being at most `m`. -/
inductive Grows (m : Nat) : Stack → Stack → Prop where
  | opens {s : Stack} {e : OpenElement} (hstart : e.start ≤ m) (hchildren : e.children = []) :
      Grows m s ⟨e :: s.opened, s.finished⟩
  | adds {s : Stack} {e : Element} (hstart : e.start ≤ m) (hstop : e.stop ≤ m) : Grows m s (s.add e)
  | closes {e : OpenElement} {opened : List OpenElement} {finished : List Element} {stop : Nat}
      (hstop : stop ≤ m) :
      Grows m ⟨e :: opened, finished⟩ (Stack.add ⟨opened, finished⟩ (e.close stop))

/-- With a greater bound, elements grow within it all the more. -/
theorem Grows.mono {m n : Nat} {s s' : Stack} (h : Grows m s s') (hle : m ≤ n) : Grows n s s' := by
  cases h with
  | opens hstart hchildren => exact .opens (Nat.le_trans hstart hle) hchildren
  | adds hstart hstop => exact .adds (Nat.le_trans hstart hle) (Nat.le_trans hstop hle)
  | closes hstop => exact .closes (Nat.le_trans hstop hle)

namespace Builder

/-- What tokens of content can do: entities stay, and elements grow within the bound `m`. -/
structure Extends (m : Nat) (b b' : Builder) : Prop where
  entities : b'.entities = b.entities
  stack : ReflTransGen (Grows m) b.stack b'.stack

theorem Extends.refl (m : Nat) (b : Builder) : b.Extends m b := ⟨rfl, .refl⟩

/-- Elements that have grown twice have grown. -/
theorem Extends.trans {m : Nat} {b b' b'' : Builder} (h : b.Extends m b') (h' : b'.Extends m b'') :
    b.Extends m b'' :=
  ⟨h'.entities.trans h.entities, h.stack.trans h'.stack⟩

/-- With a greater bound, elements grow within it all the more. -/
theorem Extends.mono {m n : Nat} {b b' : Builder} (h : b.Extends m b') (hle : m ≤ n) :
    b.Extends n b' :=
  ⟨h.entities, ReflTransGen.mono (fun _ _ hstep => Grows.mono hstep hle) _ _ h.stack⟩

/-- The replacement texts of all entities end at `n` or before. -/
def EntitiesWithin (n : Nat) (b : Builder) : Prop := ∀ e ∈ b.entities, e.value.stop ≤ n

/-- The last tag, if there is one, starts at `m` or before. -/
def TagWithin (m : Nat) (b : Builder) : Prop := ∀ name start, b.tag = some (name, start) → start ≤ m

/-- Expanding entities whose texts end at `n` or before grows elements within `n`. -/
def Expands (n : Nat) (expand : ContentExpander) : Prop :=
  ∀ value rest b b', value.stop ≤ n → b.EntitiesWithin n → expand value rest b = .ok b' →
    b.Extends n b' ∧ b'.tag = b.tag

/-- A replacement text is that of a declared entity. -/
theorem mem_of_replacement {entities : List Entity} {name : List Char} {s value : Span}
    (h : replacement entities name s = .ok value) : ∃ e ∈ entities, e.value = value := by
  unfold replacement at h
  split at h
  next e hfind =>
    cases h
    exact ⟨e, List.mem_of_find?_eq_some hfind, rfl⟩
  · cases h

/-- A reference grows elements within the bound of the entities, and leaves the last tag. -/
theorem addReference_extends {levels n : Nat} {expand : ContentExpander} (hexpand : Expands n expand)
    {b b' : Builder} {name : List Char} (hb : b.EntitiesWithin n)
    (h : b.addReference levels expand name = .ok b') : b.Extends n b' ∧ b'.tag = b.tag := by
  obtain ⟨value, count, inner, hvalue, -, hinner, rfl⟩ := addReferenceAt_eq_ok.1 h
  obtain ⟨e, he, rfl⟩ := mem_of_replacement hvalue
  obtain ⟨hextends, htag⟩ := hexpand _ _ { b with references := count } _ (hb e he) hb hinner
  exact ⟨⟨hextends.entities, hextends.stack⟩, htag⟩

/-- So does a list of references. -/
theorem addReferences_extends {levels n : Nat} {expand : ContentExpander}
    (hexpand : Expands n expand) {b b' : Builder} {names : List (List Char)}
    (hb : b.EntitiesWithin n) (h : names.foldlM (addReference levels expand) b = .ok b') :
    b.Extends n b' ∧ b'.tag = b.tag := by
  induction names generalizing b with
  | nil =>
    cases h
    exact ⟨.refl n _, rfl⟩
  | cons name names ih =>
    rw [List.foldlM_cons, bind_eq_ok] at h
    obtain ⟨b₁, hstep, hrest⟩ := h
    obtain ⟨hextends, htag⟩ := addReference_extends hexpand hb hstep
    have hb₁ : b₁.EntitiesWithin n := by
      unfold EntitiesWithin
      rw [hextends.entities]
      exact hb
    obtain ⟨hextends', htag'⟩ := ih hb₁ hrest
    exact ⟨hextends.trans hextends', htag'.trans htag⟩

/-- Text grows elements within the bound of the entities. -/
theorem addToken_text_extends {levels n : Nat} {expand : ContentExpander} (hsteady : Steady expand)
    (hexpand : Expands n expand) {b b' : Builder} {s : Span} (hb : b.EntitiesWithin n)
    (h : addToken levels expand b (.text s) = .ok b') : b.Extends n b' ∧ b'.tag = b.tag := by
  obtain ⟨names, -, hadd⟩ := (addToken_text_eq_ok hsteady).1 h
  exact addReferences_extends hexpand hb hadd

/-- A token of content grows elements within a bound of the entities, of the last tag and of its own
offsets. -/
theorem addToken_extends {levels n m : Nat} {expand : ContentExpander} (hsteady : Steady expand)
    (hexpand : Expands n expand) (hnm : n ≤ m) {b b' : Builder} {tok : Token}
    (hb : b.EntitiesWithin n) (htag : b.TagWithin m) (htok : tok.Within m)
    (h : addToken levels expand b tok = .ok b') : b.Extends m b' ∧ b'.TagWithin m := by
  cases tok with
  | entity name value => cases htok
  | tagStart name start =>
    obtain ⟨-, rfl⟩ := addToken_tagStart_eq_ok.1 h
    refine ⟨⟨rfl, .refl⟩, fun name' start' hsome => ?_⟩
    cases hsome
    exact htok
  | attr raw =>
    obtain ⟨pending, declared, references, rfl, -⟩ := addAttribute_ok h
    exact ⟨⟨rfl, .refl⟩, htag⟩
  | tagEnd selfClosing stop =>
    obtain ⟨name, start, attributes, hsome, -, -, rfl⟩ := endTag_eq_ok.1 h
    -- an element starts where its tag does, which may be behind the entities
    have hstart : start ≤ m := htag name start hsome
    cases selfClosing with
    | false => exact ⟨⟨rfl, .single (.opens hstart rfl)⟩, htag⟩
    | true =>
      refine ⟨⟨by simp [leaveTag], ?_⟩, by simpa [TagWithin, leaveTag] using htag⟩
      rw [if_pos rfl, stack_addElement]
      exact .single (.adds hstart htok)
  | closeTag name start stop =>
    obtain ⟨e, rest, attributes, -, -, hopened, -, rfl⟩ := closeElement_eq_ok.1 h
    refine ⟨⟨by simp [leaveTag], ?_⟩, by simpa [TagWithin, leaveTag] using htag⟩
    rw [stack_addElement]
    unfold stack
    rw [hopened]
    exact .single (.closes htok)
  | text s =>
    obtain ⟨hextends, hsame⟩ := addToken_text_extends hsteady hexpand hb h
    exact ⟨hextends.mono hnm, by simpa [TagWithin, hsame] using htag⟩

/-- The entities stay within their bound while elements grow. -/
theorem EntitiesWithin.of_extends {n m : Nat} {b b' : Builder} (hb : b.EntitiesWithin n)
    (h : b.Extends m b') : b'.EntitiesWithin n := by
  unfold EntitiesWithin
  rw [h.entities]
  exact hb

/-- Tokens grow elements within a bound, provided the expansion of entities does. -/
private theorem addTokens_extends_of {levels n m : Nat} (hexpand : Expands n (expandContent levels))
    (hnm : n ≤ m) {b b' : Builder} {toks : List Token} (hb : b.EntitiesWithin n)
    (htag : b.TagWithin m) (htoks : ∀ tok ∈ toks, tok.Within m)
    (h : b.addTokens levels toks = .ok b') : b.Extends m b' ∧ b'.TagWithin m := by
  induction toks generalizing b with
  | nil =>
    cases h
    exact ⟨.refl m _, htag⟩
  | cons tok toks ih =>
    obtain ⟨b₁, hstep, hrest⟩ := addTokens_cons_eq_ok.1 h
    obtain ⟨hextends, htag₁⟩ := addToken_extends (expandContent_steady levels) hexpand hnm hb htag
      (htoks tok List.mem_cons_self) hstep
    obtain ⟨hextends', htag'⟩ := ih (hb.of_extends hextends) htag₁
      (fun tok' htok' => htoks tok' (List.mem_cons_of_mem tok htok')) hrest
    exact ⟨hextends.trans hextends', htag'⟩

/-- The tokens of a replacement text stand within it, and none ends a tag that it has not started. -/
theorem scanFragment_ok {value r : Span} (h : (scanFragment value).2 = .ok r) :
    (∀ tok ∈ (scanFragment value).1.reverse, tok.Within value.stop) ∧
      Tagged false (scanFragment value).1.reverse := by
  obtain ⟨o, cs⟩ := value
  -- a replacement text is content, though it may break off where it likes
  obtain ⟨t, y, toks, rfl, hcontent⟩ := scanContent_ok (Prod.ext rfl h) (Nat.lt_succ_self _)
  have hscan : scanFragment ⟨o, t ++ y⟩
      = ((toks.map (Token.move o)).reverse ++ [], .ok ⟨o + byteLength t, y⟩) :=
    hcontent.scan (Nat.lt_succ_self _) [] o
  rw [hscan, List.append_nil, List.reverse_reverse]
  refine ⟨fun tok htok => ?_, hcontent.tagged.move o⟩
  obtain ⟨tok, hmem, rfl⟩ := List.mem_map.1 htok
  refine ((hcontent.within tok hmem).move o).mono ?_
  simp [Span.stop]

/-- An expansion takes the tokens of the replacement text into account. -/
theorem expandContent_succ_eq_ok {levels : Nat} {value rest : Span} {b b' : Builder} :
    expandContent (levels + 1) value rest b = .ok b' ↔
      ∃ r inner, (scanFragment value).2 = .ok r ∧
        { b with tag := none }.addTokens levels (scanFragment value).1.reverse = .ok inner ∧
        b' = { inner with tag := b.tag } := by
  have hunfold : expandContent (levels + 1) value rest b
      = (addScan levels (expandContent levels) { b with tag := none }
        (scanFragment value).1.reverse (scanFragment value).2 >>= fun inner =>
          Except.ok { inner with tag := b.tag }) := rfl
  rw [hunfold]
  unfold addScan addTokens
  simp only [bind_eq_ok]
  constructor
  · rintro ⟨inner, ⟨inner', hadd, r, hr, hpure⟩, h⟩
    cases hpure
    cases h
    exact ⟨r, inner, hr, hadd, rfl⟩
  · rintro ⟨r, inner, hr, hadd, rfl⟩
    exact ⟨inner, ⟨inner, hadd, r, hr, rfl⟩, rfl⟩

/-- The expansion of entities grows elements within the bound of the entities, at all levels. -/
theorem expands_expandContent (levels n : Nat) : Expands n (expandContent levels) := by
  induction levels with
  | zero =>
    intro value rest b b' _ _ h
    cases h
  | succ levels ih =>
    intro value rest b b' hvalue hb h
    obtain ⟨r, inner, hr, hadd, rfl⟩ := expandContent_succ_eq_ok.1 h
    obtain ⟨hwithin, -⟩ := scanFragment_ok hr
    obtain ⟨hextends, -⟩ := addTokens_extends_of ih (Nat.le_refl n) (b := { b with tag := none }) hb
      (fun _ _ hsome => (by cases hsome)) (fun tok htok => (hwithin tok htok).mono hvalue) hadd
    exact ⟨⟨hextends.entities, hextends.stack⟩, rfl⟩

/-- Tokens of content grow elements within a bound of the entities, of the last tag and of the tokens. -/
theorem addTokens_extends {levels n m : Nat} (hnm : n ≤ m) {b b' : Builder} {toks : List Token}
    (hb : b.EntitiesWithin n) (htag : b.TagWithin m) (htoks : ∀ tok ∈ toks, tok.Within m)
    (h : b.addTokens levels toks = .ok b') : b.Extends m b' ∧ b'.TagWithin m :=
  addTokens_extends_of (expands_expandContent levels n) hnm hb htag htoks h

end Builder

/-! ## What stays true -/

/-- Finished elements stay, and new ones come in front of them. -/
theorem Grows.finished {m : Nat} {s s' : Stack} (h : Grows m s s') : s.finished <:+ s'.finished := by
  have hadd : ∀ (s : Stack) (e : Element), s.finished <:+ (s.add e).finished := by
    intro s e
    unfold Stack.add
    split
    · exact List.suffix_cons e s.finished
    · exact List.suffix_rfl
  cases h with
  | opens => exact List.suffix_rfl
  | adds => exact hadd s _
  | @closes e opened finished => exact hadd ⟨opened, finished⟩ _

/-- All elements in open ones stand within `m`. -/
def Stack.Within (m : Nat) (s : Stack) : Prop :=
  ∀ o ∈ s.opened, o.start ≤ m ∧ ∀ e ∈ o.children, e.start ≤ m ∧ e.stop ≤ m

theorem Stack.Within.add {m : Nat} {s : Stack} (h : s.Within m) {e : Element} (hstart : e.start ≤ m)
    (hstop : e.stop ≤ m) : (s.add e).Within m := by
  unfold Stack.add
  split
  · intro o ho
    cases ho
  next parent rest hopened =>
    intro o ho
    rcases List.mem_cons.1 ho with rfl | ho
    · obtain ⟨hparent, hchildren⟩ := h parent (hopened ▸ List.mem_cons_self)
      refine ⟨hparent, fun e' he' => ?_⟩
      rcases List.mem_cons.1 he' with rfl | he'
      · exact ⟨hstart, hstop⟩
      · exact hchildren e' he'
    · exact h o (hopened ▸ List.mem_cons_of_mem parent ho)

/-- Elements stay within a bound that they grow within. -/
theorem Grows.within {m : Nat} {s s' : Stack} (h : Grows m s s') (hs : s.Within m) : s'.Within m := by
  cases h with
  | opens hstart hchildren =>
    intro o ho
    rcases List.mem_cons.1 ho with rfl | ho
    · exact ⟨hstart, by simp [hchildren]⟩
    · exact hs o ho
  | adds hstart hstop => exact hs.add hstart hstop
  | @closes e opened finished stop hstop =>
    have hrest : Stack.Within m ⟨opened, finished⟩ := fun o ho => hs o (List.mem_cons_of_mem e ho)
    exact hrest.add (hs e List.mem_cons_self).1 hstop

/-- What becomes of an open element that is closed at `n` or before. -/
def OpenElement.Closed (r : OpenElement) (n : Nat) (e : Element) : Prop :=
  ∃ children stop, stop ≤ n ∧ e = { r with children := children }.close stop

/-- The element opened first is the root `r`, and all others stand in it, or the root has been closed
at `n` or before. -/
def Stack.Rooted (r : OpenElement) (n : Nat) (s : Stack) : Prop :=
  (s.finished = [] ∧ ∃ front children, s.opened = front ++ [{ r with children := children }]) ∨
    ∃ front e, s.finished = front ++ [e] ∧ r.Closed n e

theorem Stack.Rooted.add {r : OpenElement} {n : Nat} {s : Stack} (h : s.Rooted r n) (e : Element) :
    (s.add e).Rooted r n := by
  unfold Stack.add
  rcases h with ⟨hfinished, front, children, hopened⟩ | ⟨front, e', hfinished, hclosed⟩
  · rw [hopened, hfinished]
    cases front with
    | nil => exact .inl ⟨rfl, [], _, rfl⟩
    | cons o front => exact .inl ⟨rfl, _ :: front, children, rfl⟩
  · rw [hfinished]
    cases s.opened with
    | nil => exact .inr ⟨e :: front, e', rfl, hclosed⟩
    | cons o opened => exact .inr ⟨front, e', rfl, hclosed⟩

/-- The root stays the outermost element while elements grow behind it. -/
theorem Grows.rooted {r : OpenElement} {n : Nat} {s s' : Stack} (h : Grows n s s')
    (hs : s.Rooted r n) : s'.Rooted r n := by
  cases h with
  | @opens s e hstart hchildren =>
    rcases hs with ⟨hfinished, front, children, hopened⟩ | hclosed
    · exact .inl ⟨hfinished, e :: front, children, by rw [hopened]; rfl⟩
    · exact .inr hclosed
  | adds => exact hs.add _
  | @closes e opened finished stop hstop =>
    rcases hs with ⟨hfinished, front, children, hopened⟩ | hclosed
    · dsimp only at hfinished hopened
      subst hfinished
      cases front with
      | nil =>
        -- the root itself is closed
        cases hopened
        exact .inr ⟨[], _, rfl, children, stop, hstop, rfl⟩
      | cons o front =>
        cases hopened
        exact Stack.Rooted.add (s := ⟨front ++ [{ r with children := children }], []⟩)
          (.inl ⟨rfl, front, children, rfl⟩) _
    · exact Stack.Rooted.add (s := ⟨opened, finished⟩) (.inr hclosed) _

/-- What each step keeps holds after all steps. -/
theorem reflTransGen_keeps {m : Nat} {P : Stack → Prop} {s s' : Stack}
    (hstep : ∀ s s', Grows m s s' → P s → P s') (h : ReflTransGen (Grows m) s s') (hs : P s) :
    P s' := by
  induction h with
  | refl => exact hs
  | tail _ hlast ih => exact hstep _ _ hlast ih

/-! ## The place where the root is closed -/

namespace Builder

/-- The first token after which an element is finished. -/
theorem exists_finishing {levels : Nat} {b b' : Builder} {toks : List Token}
    (h : b.addTokens levels toks = .ok b') (hb : b.finished = []) (hb' : b'.finished ≠ []) :
    ∃ before tok after b₁ b₂, toks = before ++ tok :: after ∧ b.addTokens levels before = .ok b₁ ∧
      b₁.finished = [] ∧ addToken levels (expandContent levels) b₁ tok = .ok b₂ ∧
      b₂.finished ≠ [] ∧ b₂.addTokens levels after = .ok b' := by
  induction toks generalizing b with
  | nil =>
    cases h
    exact absurd hb hb'
  | cons tok toks ih =>
    obtain ⟨b₁, hstep, hrest⟩ := addTokens_cons_eq_ok.1 h
    by_cases hfinished : b₁.finished = []
    · obtain ⟨before, tok', after, b₂, b₃, rfl, hbefore, h₂, htok, h₃, hafter⟩ := ih hrest hfinished
      exact ⟨tok :: before, tok', after, b₂, b₃, rfl,
        addTokens_cons_eq_ok.2 ⟨b₁, hstep, hbefore⟩, h₂, htok, h₃, hafter⟩
    · exact ⟨[], tok, toks, b, b₁, rfl, rfl, hb, hstep, hfinished, hrest⟩

/-- A tag ends or an element is closed; of these, only the closing tag of the element opened first
finishes an element while elements are open. -/
theorem finished_of_addToken {levels : Nat} {b b' : Builder} {tok : Token}
    (h : addToken levels (expandContent levels) b tok = .ok b') (hb : b.finished = [])
    (hopened : b.opened ≠ []) (hb' : b'.finished ≠ []) :
    (∃ s, tok = .text s) ∨
      ∃ name start stop e, tok = .closeTag name start stop ∧ b.opened = [e] ∧
        b'.finished = [e.close stop] := by
  cases tok with
  | entity name value =>
    cases h
    exact absurd hb hb'
  | tagStart name start =>
    obtain ⟨-, rfl⟩ := addToken_tagStart_eq_ok.1 h
    exact absurd hb hb'
  | attr raw =>
    obtain ⟨pending, declared, references, rfl, -⟩ := addAttribute_ok h
    exact absurd hb hb'
  | tagEnd selfClosing stop =>
    obtain ⟨name, start, attributes, -, -, -, rfl⟩ := endTag_eq_ok.1 h
    obtain ⟨o, opened, hcons⟩ := List.exists_cons_of_ne_nil hopened
    cases selfClosing with
    | false => exact absurd hb hb'
    | true => simp [addElement, leaveTag, hcons, hb] at hb'
  | closeTag name start stop =>
    obtain ⟨e, rest, attributes, -, -, hcons, -, rfl⟩ := closeElement_eq_ok.1 h
    cases rest with
    | nil =>
      refine .inr ⟨name, start, stop, e, rfl, hcons, ?_⟩
      simp [addElement, leaveTag, hb]
    | cons o rest => simp [addElement, leaveTag, hb] at hb'
  | text s => exact .inl ⟨s, rfl⟩

/-- Without entities, text adds nothing. -/
theorem addToken_text_of_no_entities {levels : Nat} {b b' : Builder} {s : Span} (hb : b.entities = [])
    (h : addToken levels (expandContent levels) b (.text s) = .ok b') : b' = b := by
  obtain ⟨names, -, hadd⟩ := (addToken_text_eq_ok (expandContent_steady levels)).1 h
  cases names with
  | nil =>
    cases hadd
    rfl
  | cons name names =>
    rw [List.foldlM_cons, bind_eq_ok] at hadd
    obtain ⟨b₁, hstep, -⟩ := hadd
    obtain ⟨value, -, -, hvalue, -⟩ := addReferenceAt_eq_ok.1 hstep
    rw [hb] at hvalue
    cases hvalue

/-- While tokens are taken into account with the root `r` open, the root is closed by a text, and so in an
entity and at `n` or before, or by a closing tag among the tokens. -/
theorem exists_closing {levels n m : Nat} (hnm : n ≤ m) {r : OpenElement} {b b' : Builder}
    {toks : List Token} (hopened : b.opened = [r]) (hfinished : b.finished = [])
    (hb : b.EntitiesWithin n) (htag : b.TagWithin m) (htoks : ∀ tok ∈ toks, tok.Within m)
    (h : b.addTokens levels toks = .ok b') (hb' : b'.finished ≠ []) :
    (b.entities ≠ [] ∧ ∃ front e, b'.finished = front ++ [e] ∧ r.Closed n e) ∨
      ∃ before name start stop after b₁ b₂ children front,
        toks = before ++ .closeTag name start stop :: after ∧
        b.addTokens levels before = .ok b₁ ∧ b₁.finished = [] ∧
        b₁.opened = [{ r with children := children }] ∧
        b₁.closeElement name start stop = .ok b₂ ∧ b₂.addTokens levels after = .ok b' ∧
        b'.finished = front ++ [{ r with children := children }.close stop] := by
  obtain ⟨before, tok, after, b₁, b₂, rfl, hbefore, h₁, htok, h₂, hafter⟩ :=
    exists_finishing h hfinished hb'
  have hwithin : ∀ tok ∈ before, tok.Within m := fun t ht => htoks t (by simp [ht])
  obtain ⟨hextends₁, htag₁⟩ := addTokens_extends hnm hb htag hwithin hbefore
  have hb₁ := hb.of_extends hextends₁
  obtain ⟨hextends₂, htag₂⟩ := addToken_extends (expandContent_steady levels)
    (expands_expandContent levels n) hnm hb₁ htag₁ (htoks tok (by simp)) htok
  obtain ⟨hextends₃, -⟩ := addTokens_extends hnm (hb₁.of_extends hextends₂) htag₂
    (fun t ht => htoks t (by simp [ht])) hafter
  -- what is finished at first stays last
  have hsuffix : b₂.finished <:+ b'.finished :=
    reflTransGen_keeps (P := fun s => b₂.finished <:+ s.finished)
      (fun s s' hstep hs => hs.trans hstep.finished) hextends₃.stack List.suffix_rfl
  have hrooted₁ : b₁.stack.Rooted r m :=
    reflTransGen_keeps (fun _ _ hstep hs => hstep.rooted hs) hextends₁.stack
      (.inl ⟨hfinished, [], r.children, hopened⟩)
  rcases hrooted₁ with ⟨-, front, children, hopened₁⟩ | ⟨front, e, hclosed, -⟩
  · replace hopened₁ : b₁.opened = front ++ [{ r with children := children }] := hopened₁
    rcases finished_of_addToken htok h₁ (by simp [hopened₁]) h₂ with
      ⟨s, rfl⟩ | ⟨name, start, stop, e, rfl, hone, hclose⟩
    · -- a text that closes the root closes it within an entity
      obtain ⟨hextends, -⟩ := addToken_text_extends (expandContent_steady levels)
        (expands_expandContent levels n) hb₁ htok
      have hrooted₂ : b₂.stack.Rooted r n :=
        reflTransGen_keeps (fun _ _ hstep hs => hstep.rooted hs) hextends.stack
          (.inl ⟨h₁, front, children, hopened₁⟩)
      rcases hrooted₂ with ⟨hnil, -⟩ | ⟨front', e, hlast, hclosed⟩
      · exact absurd hnil h₂
      · obtain ⟨front'', hfront⟩ := hsuffix
        refine .inl ⟨fun hnone => ?_, front'' ++ front', e, ?_, hclosed⟩
        · rw [addToken_text_of_no_entities (hextends₁.entities.trans hnone) htok] at h₂
          exact h₂ h₁
        · rw [← hfront, show b₂.finished = front' ++ [e] from hlast, List.append_assoc]
    · rw [hopened₁] at hone
      obtain ⟨rfl, rfl⟩ : front = [] ∧ e = { r with children := children } := by
        cases front with
        | nil =>
          cases hone
          exact ⟨rfl, rfl⟩
        | cons o front => simp at hone
      obtain ⟨front, hfront⟩ := hsuffix
      exact .inr ⟨before, name, start, stop, after, b₁, b₂, children, front, rfl, hbefore, h₁,
        hopened₁, htok, hafter, by rw [← hfront, hclose]⟩
  · rw [show b₁.stack.finished = [] from h₁] at hclosed
    simp at hclosed

end Builder

end StatementLens.Xml
