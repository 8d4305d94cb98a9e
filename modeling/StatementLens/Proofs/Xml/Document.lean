import StatementLens.Proofs.Xml.Alike
import StatementLens.Proofs.Xml.Prolog

/-!
# Whole documents

A document that has been cut is a prolog, a root tag, content and what may follow it
(`scanDocument_ok`), and such a document is cut piece by piece (`scanDocument_element`).
-/

namespace StatementLens.Xml

open Text

/-! ## Tokens of a prolog -/

/-- All tokens are entities. -/
def AllEntities (toks : List Token) : Prop := ∀ tok ∈ toks, ∃ name value, tok = .entity name value

theorem allEntities_after {α β : Type} {done : List Token} {step : Except Fault α}
    {next : α → Scan β} (hdone : AllEntities done) (hnext : ∀ a, AllEntities (next a).1) :
    AllEntities (Scan.after done step next).1 := by
  cases step with
  | error f => exact hdone
  | ok a => exact hnext a

private theorem scanEntity_allEntities {done : List Token} (hdone : AllEntities done) (s : Span) :
    AllEntities (scanEntity done s).1 := by
  unfold scanEntity
  refine allEntities_after hdone fun (name, value, rest) => ?_
  cases value with
  | none => exact hdone
  | some value =>
    intro tok htok
    rcases List.mem_cons.1 htok with rfl | htok
    · exact ⟨name, value, rfl⟩
    · exact hdone tok htok

private theorem scanSubset_allEntities (doctype fuel : Nat) {done : List Token}
    (hdone : AllEntities done) (s : Span) : AllEntities (scanSubset doctype fuel done s).1 := by
  induction fuel generalizing done s with
  | zero => exact hdone
  | succ fuel ih =>
    rw [scanSubset]
    dsimp only
    split
    · exact hdone
    split
    · exact allEntities_after (scanEntity_allEntities hdone _)
        fun rest => ih (scanEntity_allEntities hdone _) rest
    split
    · exact allEntities_after hdone fun rest => ih hdone rest
    split
    · exact allEntities_after hdone fun rest => ih hdone rest
    split
    · exact hdone
    split
    · exact allEntities_after hdone fun rest => ih hdone rest
    · exact hdone

theorem scanProlog_allEntities (s : Span) : AllEntities (scanProlog s).1 := by
  have hnil : AllEntities [] := fun tok htok => (by cases htok)
  have hdoctype : ∀ s, AllEntities (scanDoctype s).1 := by
    intro s
    refine allEntities_after hnil fun (more, rest) => ?_
    cases more with
    | true => exact scanSubset_allEntities _ _ hnil rest
    | false => exact hnil
  unfold scanProlog
  refine allEntities_after hnil fun s => ?_
  split
  · exact allEntities_after (hdoctype s) fun _ => hdoctype s
  · exact hnil

/-! ## Documents -/

/-- What stands in front of a root element, and its tokens. -/
structure IsProlog (p : List Char) (entities : List Token) : Prop where
  within : ∀ tok ∈ entities, tok.IsEntity (byteLength p)
  scan : ∀ z, StartsName z →
    scanProlog ⟨0, p ++ '<' :: z⟩ = (entities.reverse, .ok ⟨byteLength p, '<' :: z⟩)

/-- A tag with the name that is written `n` and with attributes, which `u` holds. -/
structure IsTag (n u : List Char) (raws : List RawAttribute) (e : TagEnd) : Prop where
  name : StartsName n
  chars : ∀ c ∈ n, isNameChar c = true
  stops : StopsAt isNameChar u
  angle : '<' ∉ n ++ u
  last : e ≠ .cutOff → u.getLast? = some '>'
  slash : e = .selfClosed → ['/', '>'] <:+ u
  values : ∀ raw : RawAttribute, raw ∈ raws → raw.value.chars <:+: u
  cuts : CutsTag ('<' :: (n ++ u)) (.ofChars n) raws e

/-- The tokens of a root tag that starts at `k`. -/
def rootTokens (n u : List Char) (raws : List RawAttribute) (e : TagEnd) (k : Nat) : List Token :=
  (tagTokens (.ofChars n) raws e (byteLength ('<' :: (n ++ u)))).map (Token.move k)

/-- A document with its tokens. -/
inductive IsDocument : List Char → List Token → Prop where
  | empty {text : List Char} {toks : List Token} (h : AllEntities toks) : IsDocument text toks
  | tag {p n u z : List Char} {entities : List Token} {raws : List RawAttribute} {e : TagEnd}
      (hp : IsProlog p entities) (ht : IsTag n u raws e) (he : e ≠ .opened) :
      IsDocument (p ++ ('<' :: (n ++ u) ++ z)) (entities ++ rootTokens n u raws e (byteLength p))
  | element {p n u c z : List Char} {entities toks : List Token} {raws : List RawAttribute}
      (hp : IsProlog p entities) (ht : IsTag n u raws .opened) (hc : Content 1 c z toks)
      (hz : IsMisc z) :
      IsDocument (p ++ ('<' :: (n ++ u) ++ (c ++ z)))
        (entities ++ (rootTokens n u raws .opened (byteLength p) ++
          toks.map (Token.move (byteLength (p ++ '<' :: (n ++ u))))))

theorem scanDocument_eq (text : List Char) :
    scanDocument text
      = ((Scan.after (scanProlog ⟨0, text⟩).1 (scanProlog ⟨0, text⟩).2
          (scanRoot (scanProlog ⟨0, text⟩).1)).1.reverse,
        (Scan.after (scanProlog ⟨0, text⟩).1 (scanProlog ⟨0, text⟩).2
          (scanRoot (scanProlog ⟨0, text⟩).1)).2) := rfl

/-- A root element and what may follow it are cut piece by piece. -/
theorem scanDocument_element {p n u c z : List Char} {entities toks : List Token}
    {raws : List RawAttribute} (hp : IsProlog p entities) (ht : IsTag n u raws .opened)
    (hc : Content 1 c z toks) (hz : IsMisc z) :
    scanDocument (p ++ ('<' :: (n ++ u) ++ (c ++ z)))
      = (entities ++ (rootTokens n u raws .opened (byteLength p) ++
          toks.map (Token.move (byteLength (p ++ '<' :: (n ++ u))))), .ok ()) := by
  have hprolog := hp.scan ((n ++ u) ++ (c ++ z)) ((ht.name.append u).append _)
  have hmisc := takeAllMisc_append hz endsMisc_nil
    (byteLength p + byteLength ('<' :: (n ++ u)) + byteLength c)
  have htag := ht.cuts entities.reverse (byteLength p) (c ++ z) nofun
  have hcontent := hc.scan (Nat.lt_succ_self (c ++ z).length)
    ((rootTokens n u raws .opened (byteLength p)).reverse ++ entities.reverse)
    (byteLength p + byteLength ('<' :: (n ++ u)))
  rw [List.append_nil] at hmisc
  rw [List.cons_append] at htag ⊢
  rw [scanDocument_eq, hprolog]
  dsimp only
  rw [after_ok]
  unfold scanRoot
  have hhead : Span.head? ⟨byteLength p, '<' :: (n ++ u ++ (c ++ z))⟩ = some '<' := rfl
  rw [if_pos hhead]
  unfold scanElement
  rw [htag]
  dsimp only
  rw [after_ok, if_pos rfl]
  unfold rootTokens tagTokens at hcontent
  rw [hcontent]
  dsimp only
  rw [ok_bind, hmisc, ok_bind]
  simp [rootTokens, tagTokens, Span.atEnd]
  rfl

/-- Behind a root element stands nothing that counts. -/
theorem scanRoot_ok {done done' : List Token} {o : Nat} {cs : List Char}
    (h : scanRoot done ⟨o, '<' :: cs⟩ = (done', .ok ())) :
    ∃ o' z, scanElement done ⟨o, '<' :: cs⟩ = (done', .ok ⟨o', z⟩) ∧ IsMisc z := by
  have hhead : Span.head? ⟨o, '<' :: cs⟩ = some '<' := rfl
  unfold scanRoot at h
  rw [if_pos hhead] at h
  rcases helement : scanElement done ⟨o, '<' :: cs⟩ with ⟨done₁, result⟩
  rw [helement] at h
  obtain ⟨rfl, hrest⟩ := Prod.mk.inj h
  obtain ⟨⟨o', z⟩, rfl, hbehind⟩ := bind_eq_ok.1 hrest
  obtain ⟨s, hmisc, hend⟩ := bind_eq_ok.1 hbehind
  obtain ⟨t, y, rfl, -, ht, rfl⟩ := takeAllMisc_ok hmisc
  refine ⟨o', t ++ y, rfl, ?_⟩
  cases y with
  | nil =>
    rw [List.append_nil]
    exact ht
  | cons c y => cases hend

/-- What has been cut is a document. -/
theorem scanDocument_ok {text : List Char} {toks : List Token}
    (h : scanDocument text = (toks, .ok ())) : IsDocument text toks := by
  rw [scanDocument_eq] at h
  rcases hprolog : scanProlog ⟨0, text⟩ with ⟨done, result⟩
  have hentities := scanProlog_allEntities ⟨0, text⟩
  rw [hprolog] at h hentities
  dsimp only at h hentities
  rcases hafter : Scan.after done result (scanRoot done) with ⟨done', last⟩
  rw [hafter] at h
  cases h
  obtain ⟨⟨o, cs⟩, rfl, hroot⟩ := after_eq_ok.1 hafter
  by_cases hangle : cs.head? = some '<'
  · obtain ⟨cs, rfl⟩ := List.head?_eq_some_iff.1 hangle
    obtain ⟨p, rfl, hwithin, hscan⟩ := scanProlog_ok hprolog rfl
    have hp : IsProlog p done.reverse :=
      ⟨fun tok htok => hwithin tok (List.mem_reverse.1 htok), fun z hz => by
        rw [List.reverse_reverse]
        exact hscan z hz⟩
    obtain ⟨o', z, helement, hz⟩ := scanRoot_ok hroot
    unfold scanElement at helement
    rcases htag : scanTag done ⟨o, '<' :: cs⟩ with ⟨done₁, tagResult⟩
    rw [htag] at helement
    obtain ⟨⟨e, rest⟩, rfl, hcontent⟩ := after_eq_ok.1 helement
    obtain ⟨n, u, y, raws, rfl, hname, hchars, hstops, hmarkup, hcut, hlast, hslash, hvalues, hcuts⟩ :=
      scanTag_ok htag
    have ht : IsTag n u raws e := ⟨hname, hchars, hstops, hmarkup, hlast, hslash, hvalues, hcuts⟩
    -- the root starts where the prolog ends
    have ho : o = byteLength p := by
      have hoffset := hscan (n ++ u ++ y) ((hname.append u).append y)
      rw [hprolog] at hoffset
      cases hoffset
      rfl
    subst ho
    rw [← List.cons_append, hcuts _ _ _ hcut] at htag
    cases htag
    dsimp only at hcontent
    -- only a tag that opens an element has content behind it
    by_cases he : e = .opened
    · subst he
      rw [if_pos rfl] at hcontent
      obtain ⟨c, z, toks, rfl, hc⟩ := scanContent_ok hcontent (Nat.lt_succ_self _)
      rw [hc.scan (Nat.lt_succ_self _)] at hcontent
      cases hcontent
      have hdocument := IsDocument.element hp ht hc hz
      simpa [rootTokens, tagTokens] using hdocument
    · rw [if_neg he] at hcontent
      cases hcontent
      have hdocument := IsDocument.tag (z := z) hp ht he
      simpa [rootTokens, tagTokens] using hdocument
  · -- without a root there are only the tokens of the prolog
    have hhead : ¬ Span.head? ⟨o, cs⟩ = some '<' := hangle
    unfold scanRoot at hroot
    rw [if_neg hhead] at hroot
    obtain ⟨rfl, -⟩ := Prod.mk.inj hroot
    exact .empty fun tok htok => hentities tok (List.mem_reverse.1 htok)

/-! ## Building a document -/

/-- What is under construction once all of a text is taken into account. -/
def buildText (text : List Char) : Except Fault Builder :=
  Builder.addScan maxLevels (Builder.expandContent maxLevels) {} (scanDocument text).1
    (scanDocument text).2

theorem buildText_eq_ok {text : List Char} {b : Builder} :
    buildText text = .ok b ↔ ∃ toks, scanDocument text = (toks, .ok ()) ∧
      ({} : Builder).addTokens maxLevels toks = .ok b := by
  unfold buildText Builder.addScan Builder.addTokens
  simp only [bind_eq_ok]
  constructor
  · rintro ⟨b', hadd, r, hr, hpure⟩
    cases hpure
    exact ⟨_, Prod.ext rfl hr, hadd⟩
  · rintro ⟨toks, hscan, hadd⟩
    rw [hscan]
    exact ⟨b, hadd, (), rfl, rfl⟩

/-- The root of a document is the element finished first, if all elements are closed. -/
theorem parse_eq_ok {text : List Char} {root : Element} :
    parse text = .ok root ↔
      ∃ b, buildText text = .ok b ∧ b.opened = [] ∧ b.finished.getLast? = some root := by
  have hunfold : parseElements text = buildText text >>= fun b =>
      (if b.finished.isEmpty && b.opened.isEmpty then .error ⟨.noRoot, 0⟩
      else if !b.opened.isEmpty then .error ⟨.unclosedRoot, 0⟩
      else return b.finished.reverse) := rfl
  unfold parse
  rw [bind_eq_ok, hunfold]
  constructor
  · rintro ⟨elements, helements, hroot⟩
    obtain ⟨b, hb, helements⟩ := bind_eq_ok.1 helements
    split at helements
    · cases helements
    split at helements
    · cases helements
    next hopened =>
    cases helements
    split at hroot
    · cases hroot
    next root' rest hreverse =>
    cases hroot
    refine ⟨b, hb, by simpa using hopened, ?_⟩
    rw [List.getLast?_eq_head?_reverse, hreverse, List.head?_cons]
  · rintro ⟨b, hb, hopened, hlast⟩
    obtain ⟨front, hfinished⟩ := List.getLast?_eq_some_iff.1 hlast
    refine ⟨b.finished.reverse, ?_, ?_⟩
    · rw [hb, ok_bind]
      simp [hopened, hfinished]
      rfl
    · simp [hfinished]
      rfl

namespace Builder

/-- The tokens of a prolog are entities, which end before it does. -/
theorem addTokens_entities (levels : Nat) {n : Nat} {toks : List Token}
    (h : ∀ tok ∈ toks, tok.IsEntity n) (b : Builder) :
    ∃ entities, b.addTokens levels toks = .ok { b with entities := b.entities ++ entities } ∧
      ∀ e ∈ entities, e.value.stop < n := by
  induction toks generalizing b with
  | nil => exact ⟨[], by simp, by simp⟩
  | cons tok toks ih =>
    obtain ⟨name, value, rfl, hstop⟩ := h tok List.mem_cons_self
    obtain ⟨entities, hadd, hentities⟩ := ih (fun tok' htok' => h tok' (List.mem_cons_of_mem _ htok'))
      { b with entities := b.entities ++ [⟨name, value⟩] }
    refine ⟨⟨name, value⟩ :: entities, ?_, ?_⟩
    · refine addTokens_cons_eq_ok.2 ⟨_, rfl, ?_⟩
      rw [hadd, List.append_assoc]
      rfl
    · intro e he
      rcases List.mem_cons.1 he with rfl | he
      · exact hstop
      · exact hentities e he

/-- Attributes change nothing but what is known of the last tag. -/
theorem addTokens_attributes {levels : Nat} {b b' : Builder} {raws : List RawAttribute}
    (h : b.addTokens levels (raws.map Token.attr) = .ok b') : ∃ pending declared references,
      b' = { b with pending := pending, declared := declared, references := references } ∧
      ∀ p ∈ pending, p ∈ b.pending ∨ ∃ raw ∈ raws, p.Reads raw := by
  induction raws generalizing b with
  | nil =>
    cases h
    exact ⟨_, _, _, rfl, fun p hp => .inl hp⟩
  | cons raw raws ih =>
    obtain ⟨b₁, hstep, hrest⟩ := addTokens_cons_eq_ok.1 h
    obtain ⟨pending, declared, references, rfl, hreads⟩ := addAttribute_ok hstep
    obtain ⟨pending', declared', references', rfl, hreads'⟩ := ih hrest
    refine ⟨pending', declared', references', rfl, fun p hp => ?_⟩
    rcases hreads' p hp with hp | ⟨raw', hraw', hp⟩
    · rcases hreads p hp with hp | hp
      · exact .inl hp
      · exact .inr ⟨raw, List.mem_cons_self, hp⟩
    · exact .inr ⟨raw', List.mem_cons_of_mem raw hraw', hp⟩

/-- Attributes that declare no namespaces are kept. -/
theorem addTokens_attributes_keeps {levels : Nat} {b b' : Builder} {raws : List RawAttribute}
    (h : b.addTokens levels (raws.map Token.attr) = .ok b') :
    (∀ p ∈ b.pending, p ∈ b'.pending) ∧
      ∀ raw ∈ raws, ¬ raw.DeclaresSpace → ∃ p ∈ b'.pending, p.Reads raw := by
  induction raws generalizing b with
  | nil =>
    cases h
    exact ⟨fun p hp => hp, nofun⟩
  | cons raw raws ih =>
    obtain ⟨b₁, hstep, hrest⟩ := addTokens_cons_eq_ok.1 h
    obtain ⟨hkept, hraw⟩ := addAttribute_keeps hstep
    obtain ⟨hkept', hraws⟩ := ih hrest
    refine ⟨fun p hp => hkept' p (hkept p hp), fun raw' hmem hown => ?_⟩
    rcases List.mem_cons.1 hmem with rfl | hmem
    · obtain ⟨p, hp, hreads⟩ := hraw hown
      exact ⟨p, hkept' p hp, hreads⟩
    · exact hraws raw' hmem hown

/-- A tag starts and has attributes; then it ends. -/
theorem addTokens_rootTokens {levels : Nat} {b b' : Builder} {n u : List Char}
    {raws : List RawAttribute} {e : TagEnd} {k : Nat}
    (h : b.addTokens levels (rootTokens n u raws e k) = .ok b') :
    ∃ b₁ : Builder, b₁.tag = some (.ofChars n, k) ∧ b₁.entities = b.entities ∧ b₁.stack = b.stack ∧
      (∀ p ∈ b₁.pending, p ∈ b.pending ∨ ∃ raw ∈ raws, p.Reads raw) ∧
      (∀ raw ∈ raws, ¬ raw.DeclaresSpace → ∃ p ∈ b₁.pending, p.Reads raw) ∧
      b₁.addTokens levels (e.tokens (k + byteLength ('<' :: (n ++ u)))) = .ok b' := by
  unfold rootTokens tagTokens at h
  rw [List.map_cons, List.map_append, ← map_attr_move, TagEnd.tokens_move] at h
  obtain ⟨b₁, hstart, hrest⟩ := addTokens_cons_eq_ok.1 h
  obtain ⟨-, rfl⟩ := addToken_tagStart_eq_ok.1 hstart
  obtain ⟨b₂, hattributes, hend⟩ := addTokens_append_eq_ok.1 hrest
  obtain ⟨-, hkeeps⟩ := addTokens_attributes_keeps hattributes
  obtain ⟨pending, declared, references, rfl, hreads⟩ := addTokens_attributes hattributes
  refine ⟨_, ?_, ?_, ?_, fun p hp => ?_, fun raw hraw hown => ?_, hend⟩
  · rfl
  · rfl
  · rfl
  · rcases hreads p hp with hp | ⟨raw, hraw, hp⟩
    · exact .inl hp
    · obtain ⟨raw', hraw', rfl⟩ := List.mem_map.1 hraw
      exact .inr ⟨raw', hraw', hp⟩
  · exact hkeeps (raw.move k) (List.mem_map_of_mem hraw) hown

/-- A root tag that closes itself finishes an element, and one that is cut off does not. -/
theorem addTokens_rootTokens_finished {levels : Nat} {b b' : Builder} {n u : List Char}
    {raws : List RawAttribute} {e : TagEnd} {k : Nat} (he : e ≠ .opened) (hopened : b.opened = [])
    (hfinished : b.finished = []) (hpending : b.pending = [])
    (h : b.addTokens levels (rootTokens n u raws e k) = .ok b') :
    b'.finished = [] ∨
      e = .selfClosed ∧ ∃ attributes, (∀ a ∈ attributes, ∃ raw ∈ raws, a.Reads raw) ∧
        b'.finished = [.mk (.ofChars n) attributes k (k + byteLength ('<' :: (n ++ u))) []] := by
  obtain ⟨b₁, htag, hentities, hstack, hreads, -, hrest⟩ := addTokens_rootTokens h
  obtain ⟨hopened₁, hfinished₁⟩ := Stack.mk.inj hstack
  cases e with
  | opened => exact absurd rfl he
  | cutOff =>
    cases hrest
    exact .inl (hfinished₁.trans hfinished)
  | selfClosed =>
    obtain ⟨b₂, hend, hlast⟩ := addTokens_cons_eq_ok.1 hrest
    cases hlast
    obtain ⟨name, start, attributes, htag', hattributes, -, rfl⟩ := endTag_eq_ok.1 hend
    rw [htag] at htag'
    cases htag'
    refine .inr ⟨rfl, attributes, resolveAttributes_reads hattributes (by simp) fun p hp => ?_, ?_⟩
    · exact (hreads p (List.mem_reverse.1 hp)).resolve_left (by simp [hpending])
    · simp [addElement, leaveTag, hopened₁, hopened, hfinished₁, hfinished]

end Builder

/-- What is under construction just behind a root tag that opens the element `r`. -/
structure RootOpened (p : List Char) (raws : List RawAttribute) (b : Builder) (r : OpenElement) : Prop where
  opened : b.opened = [r]
  finished : b.finished = []
  start : r.start = byteLength p
  children : r.children = []
  reads : ∀ a ∈ r.attributes, ∃ raw ∈ raws, a.Reads raw
  entities : ∀ e ∈ b.entities, e.value.stop < byteLength p
  tag : ∀ m, byteLength p ≤ m → b.TagWithin m

theorem RootOpened.entitiesWithin {p : List Char} {raws : List RawAttribute} {b : Builder}
    {r : OpenElement} (h : RootOpened p raws b r) : b.EntitiesWithin (byteLength p) :=
  fun e he => Nat.le_of_lt (h.entities e he)

/-- A prolog and a root tag leave the root open. -/
theorem exists_rootOpened {p n u : List Char} {entities : List Token} {raws : List RawAttribute}
    {b : Builder} (hp : IsProlog p entities)
    (h : ({} : Builder).addTokens maxLevels
      (entities ++ rootTokens n u raws .opened (byteLength p)) = .ok b) :
    ∃ r, RootOpened p raws b r := by
  obtain ⟨b₀, hadd₀, hroot⟩ := Builder.addTokens_append_eq_ok.1 h
  obtain ⟨es, hes, hwithin⟩ := Builder.addTokens_entities maxLevels hp.within {}
  rw [hes] at hadd₀
  cases hadd₀
  obtain ⟨b₁, htag, hentities, hstack, hreads, -, hrest⟩ := Builder.addTokens_rootTokens hroot
  obtain ⟨hopened, hfinished⟩ := Stack.mk.inj hstack
  obtain ⟨b₂, hend, hlast⟩ := Builder.addTokens_cons_eq_ok.1 hrest
  cases hlast
  obtain ⟨name, start, attributes, htag', hattributes, -, rfl⟩ := Builder.endTag_eq_ok.1 hend
  rw [htag] at htag'
  cases htag'
  refine ⟨⟨.ofChars n, attributes, b₁.inScope, byteLength p, []⟩, ?_, hfinished, rfl, rfl, ?_, ?_, ?_⟩
  · show _ :: b₁.opened = _
    rw [hopened]
  -- nothing is left behind in front of the root, so all its attributes are written in its tag
  · refine Builder.resolveAttributes_reads hattributes (by simp) fun q hq => ?_
    exact (hreads q (List.mem_reverse.1 hq)).resolve_left (by simp)
  · intro entity hentity
    refine hwithin entity ?_
    replace hentity : entity ∈ b₁.entities := hentity
    rw [hentities] at hentity
    exact hentity
  · intro m hm name start hsome
    replace hsome : b₁.tag = some (name, start) := hsome
    rw [htag] at hsome
    cases hsome
    exact hm

end StatementLens.Xml
