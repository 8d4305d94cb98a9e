import StatementLens.Proofs.Xml.ClosedRoot

/-!
# Root tags

The attributes of a root are those that are written in its tag, and a value in which nothing is to be
replaced stands in the text as it is (`exists_written`).
-/

namespace StatementLens.Xml

open Text

/-- The attribute that a token is. -/
def Token.attr? : Token → Option RawAttribute
  | .attr raw => some raw
  | _ => none

/-- The attributes of the tag at an offset of a text, as they are written. -/
def attributesAt (text : List Char) (offset : Nat) : List RawAttribute :=
  (scanTag [] ⟨offset, dropBytes offset text⟩).1.filterMap Token.attr?

theorem scanTag_at {n u : List Char} {raws : List RawAttribute} {e : TagEnd} (ht : IsTag n u raws e)
    (he : e ≠ .cutOff) (p z : List Char) :
    scanTag [] ⟨byteLength p, dropBytes (byteLength p) (p ++ ('<' :: (n ++ u) ++ z))⟩
      = ((rootTokens n u raws e (byteLength p)).reverse,
        .ok (e, ⟨byteLength p + byteLength ('<' :: (n ++ u)), z⟩)) := by
  rw [dropBytes_append, ht.cuts [] (byteLength p) z fun h => absurd h he, List.append_nil]
  rfl

theorem mem_attributesAt_iff {n u : List Char} {raws : List RawAttribute} {e : TagEnd}
    (ht : IsTag n u raws e) (he : e ≠ .cutOff) (p z : List Char) {raw : RawAttribute} :
    raw ∈ attributesAt (p ++ ('<' :: (n ++ u) ++ z)) (byteLength p) ↔
      ∃ raw' ∈ raws, raw = raw'.move (byteLength p) := by
  unfold attributesAt
  rw [scanTag_at ht he]
  simp only [List.mem_filterMap, List.mem_reverse, rootTokens, tagTokens, List.map_cons, List.map_append,
    List.mem_cons, List.mem_append, List.mem_map]
  constructor
  · rintro ⟨tok, rfl | ⟨_, ⟨raw', hraw', rfl⟩, rfl⟩ | ⟨_, htok, rfl⟩, hattr⟩
    · cases hattr
    · cases hattr
      exact ⟨raw', hraw', rfl⟩
    · cases e with
      | cutOff => cases htok
      | opened | selfClosed =>
        rw [List.mem_singleton.1 htok] at hattr
        cases hattr
  · rintro ⟨raw', hraw', rfl⟩
    exact ⟨_, .inr (.inl ⟨_, ⟨raw', hraw', rfl⟩, rfl⟩), rfl⟩

/-- The root of a document has the attributes of its tag. -/
theorem exists_rootTag {text : List Char} {root : Element} (h : parse text = .ok root) :
    ∃ p n u z raws e, text = p ++ ('<' :: (n ++ u) ++ z) ∧ IsTag n u raws e ∧ e ≠ .cutOff ∧
      root.start = byteLength p ∧ ∀ a ∈ root.attributes, ∃ raw ∈ raws, a.Reads raw := by
  obtain ⟨b, hbuild, -, hlast⟩ := parse_eq_ok.1 h
  obtain ⟨toks, hscan, hadd⟩ := buildText_eq_ok.1 hbuild
  have hdocument := scanDocument_ok hscan
  cases hdocument with
  | empty hentities =>
    have hstack := Builder.stack_addTokens_entities hentities hadd
    rw [show b.finished = [] from congrArg Stack.finished hstack] at hlast
    cases hlast
  | @tag p n u z entities raws e hp ht he =>
    obtain ⟨b₀, hadd₀, hadd⟩ := Builder.addTokens_append_eq_ok.1 hadd
    obtain ⟨es, hes, -⟩ := Builder.addTokens_entities maxLevels hp.within {}
    rw [hes] at hadd₀
    cases hadd₀
    rcases Builder.addTokens_rootTokens_finished he rfl rfl rfl hadd with
      hnil | ⟨rfl, attributes, hreads, hone⟩
    · rw [hnil] at hlast
      cases hlast
    · rw [hone, List.getLast?_singleton] at hlast
      cases hlast
      exact ⟨p, n, u, z, raws, _, rfl, ht, nofun, rfl, hreads⟩
  | @element p n u c z entities toks raws hp ht hc hz =>
    rw [← List.append_assoc] at hadd
    obtain ⟨b₁, hroot, hcontent⟩ := Builder.addTokens_append_eq_ok.1 hadd
    obtain ⟨r, hr⟩ := exists_rootOpened hp hroot
    have hle : byteLength p ≤ byteLength (p ++ '<' :: (n ++ u)) + byteLength c := by
      rw [byteLength_append]
      omega
    obtain ⟨hextends, -⟩ :=
      Builder.addTokens_extends hle hr.entitiesWithin (hr.tag _ hle) (hc.within_move _) hcontent
    -- the element opened first is the one finished first
    have hrooted : b.stack.Rooted r (byteLength (p ++ '<' :: (n ++ u)) + byteLength c) :=
      reflTransGen_keeps (fun _ _ hstep hs => hstep.rooted hs) hextends.stack
        (.inl ⟨hr.finished, [], r.children, hr.opened⟩)
    rcases hrooted with ⟨hnil, -⟩ | ⟨front, e, he, children, stop, -, rfl⟩
    · rw [show b.finished = [] from hnil] at hlast
      cases hlast
    · rw [show b.finished = _ from he, List.getLast?_concat] at hlast
      cases hlast
      exact ⟨p, n, u, c ++ z, raws, _, rfl, ht, nofun, hr.start, hr.reads⟩

/-- The value of an attribute of the root is written in its tag. -/
theorem exists_written {text : List Char} {root : Element} (h : parse text = .ok root) {name : String}
    {value : List Char} (hvalue : root.attribute? name = some value) :
    ∃ raw ∈ attributesAt text root.start, raw.name = ⟨[], name.toList⟩ ∧
      raw.value.chars <:+: text ∧
      ((∀ c ∈ raw.value.chars, isPlain c = true) → value = raw.value.chars) := by
  obtain ⟨p, n, u, z, raws, e, rfl, ht, he, hstart, hreads⟩ := exists_rootTag h
  unfold Element.attribute? at hvalue
  obtain ⟨a, hfind, rfl⟩ := Option.map_eq_some_iff.1 hvalue
  have ha : a.space = none ∧ a.name = name.toList := by simpa using List.find?_some hfind
  obtain ⟨raw, hraw, hname, hspace, hplain⟩ := hreads a (List.mem_of_find?_eq_some hfind)
  refine ⟨raw.move (byteLength p), hstart ▸ (mem_attributesAt_iff ht he p z).2 ⟨raw, hraw, rfl⟩, ?_, ?_, hplain⟩
  · obtain ⟨⟨space, local_⟩, span, start⟩ := raw
    obtain rfl := hspace.1 ha.1
    rw [← ha.2, hname]
    rfl
  -- the value is a part of the tag, wherever the tag is moved to
  · have hpart : raw.value.chars <:+: u := ht.values raw hraw
    have hu : u <:+: p ++ ('<' :: (n ++ u) ++ z) := ⟨p ++ '<' :: n, z, by simp⟩
    exact hpart.trans hu

end StatementLens.Xml
