import StatementLens.Proofs.Xml.Readers

/-!
# Pieces of markup

Comments, instructions, sections of raw text, closing tags and tags each end in an angle bracket of
their own, so what follows one of them does not change how it is read. Only a tag in which the text
ends is different, and a stretch of text, which ends where markup begins.
-/

namespace StatementLens.Xml

open Text

/-! ## Markup without tokens -/

/-- A comment ends with its first double dash, and what follows does not matter. -/
theorem takeComment_ok {o : Nat} {cs : List Char} {r : Span}
    (h : takeComment ⟨o, "<!--".toList ++ cs⟩ = .ok r) :
    ∃ v y, cs = v ++ "-->".toList ++ y ∧
      Skips takeComment ("<!--".toList ++ (v ++ "-->".toList)) := by
  have hdrop : ∀ o cs, Span.drop 4 ⟨o, "<!--".toList ++ cs⟩ = ⟨o + byteLength "<!--".toList, cs⟩ :=
    fun o cs => drop_append "<!--".toList cs o
  unfold takeComment at h
  rw [hdrop] at h
  obtain ⟨⟨v, s⟩, hthrough, hrest⟩ := bind_eq_ok.1 h
  obtain ⟨y, rfl, -, htakes⟩ := takeThrough_ok (by decide) hthrough
  refine ⟨v, y, rfl, fun o' y' => ?_⟩
  unfold takeComment
  rw [List.append_assoc, hdrop, htakes, ok_bind]
  dsimp only at hrest ⊢
  split at hrest
  · cases hrest
  next hvalid =>
    rw [if_neg hvalid]
    simp [Nat.add_assoc, pure, Except.pure]

/-- A section ends with its first two brackets, and what follows does not matter. -/
theorem takeCData_ok {o : Nat} {cs : List Char} {r : Span}
    (h : takeCData ⟨o, "<![CDATA[".toList ++ cs⟩ = .ok r) :
    ∃ v y, cs = v ++ "]]>".toList ++ y ∧
      Skips takeCData ("<![CDATA[".toList ++ (v ++ "]]>".toList)) := by
  have hdrop : ∀ o cs,
      Span.drop 9 ⟨o, "<![CDATA[".toList ++ cs⟩ = ⟨o + byteLength "<![CDATA[".toList, cs⟩ :=
    fun o cs => drop_append "<![CDATA[".toList cs o
  unfold takeCData at h
  rw [hdrop] at h
  obtain ⟨⟨v, s⟩, hthrough, -⟩ := bind_eq_ok.1 h
  obtain ⟨y, rfl, -, htakes⟩ := takeThrough_ok (by decide) hthrough
  refine ⟨v, y, rfl, fun o' y' => ?_⟩
  unfold takeCData
  rw [List.append_assoc, hdrop, htakes, ok_bind]
  simp [Nat.add_assoc, pure, Except.pure]

/-- An instruction ends with its first question mark in front of an angle bracket. -/
theorem takeInstruction_ok {o : Nat} {cs : List Char} {r : Span}
    (h : takeInstruction ⟨o, "<?".toList ++ cs⟩ = .ok r) :
    ∃ v y, cs = v ++ "?>".toList ++ y ∧
      Skips takeInstruction ("<?".toList ++ (v ++ "?>".toList)) := by
  have hdrop : ∀ o cs, Span.drop 2 ⟨o, "<?".toList ++ cs⟩ = ⟨o + byteLength "<?".toList, cs⟩ :=
    fun o cs => drop_append "<?".toList cs o
  unfold takeInstruction at h
  rw [hdrop] at h
  split at h
  · cases h
  next hdeclaration =>
    obtain ⟨⟨n, s⟩, hname, h⟩ := bind_eq_ok.1 h
    obtain ⟨y, rfl, hn, hfirst, hstop, rfl⟩ := takeName_ok hname
    obtain ⟨b, y, rfl, hb, hspace, hskip⟩ := exists_skipSpace (o + byteLength "<?".toList + byteLength n) y
    dsimp only at h
    rw [hskip] at h
    obtain ⟨⟨v, s⟩, hthrough, -⟩ := bind_eq_ok.1 h
    obtain ⟨z, rfl, -, htakes⟩ := takeThrough_ok (by decide) hthrough
    refine ⟨n ++ (b ++ v), z, by simp, fun o' y' => ?_⟩
    have hstop' : StopsAt isNameChar (b ++ (v ++ "?>".toList ++ y')) := by
      rw [← List.append_assoc] at hstop ⊢
      exact hstop.of_append (by simp) y'
    have hdeclaration' : ¬ Span.startsWith "<?xml ".toList
        ⟨o', "<?".toList ++ (n ++ (b ++ v) ++ "?>".toList) ++ y'⟩ = true := by
      rw [show "<?".toList ++ (n ++ (b ++ (v ++ "?>".toList ++ z)))
        = "<?".toList ++ (n ++ (b ++ v) ++ "?>".toList) ++ z by simp] at hdeclaration
      unfold Span.startsWith at hdeclaration ⊢
      rw [isPrefixOf_append_of_mem (c := '>') (by simp) (by decide)] at hdeclaration ⊢
      exact hdeclaration
    unfold takeInstruction
    rw [if_neg hdeclaration']
    rw [show "<?".toList ++ (n ++ (b ++ v) ++ "?>".toList) ++ y'
      = "<?".toList ++ (n ++ (b ++ (v ++ "?>".toList ++ y'))) by simp, hdrop,
      takeName_append hn hfirst hstop', ok_bind]
    dsimp only
    rw [skipSpace_append hb (hspace.of_append (by simp) y'), htakes, ok_bind]
    simp [Nat.add_assoc, pure, Except.pure]

/-! ## Closing tags -/

private theorem drop_closeTag (o : Nat) (cs : List Char) :
    Span.drop 2 ⟨o, '<' :: '/' :: cs⟩ = ⟨o + byteLength ['<', '/'], cs⟩ :=
  drop_append ['<', '/'] cs o

/-- A closing tag is its name and white space. -/
theorem takeCloseTag_append {n b : List Char} (hvalid : (QName.ofChars n).isValid = true)
    (hn : ∀ c ∈ n, isNameChar c = true) (hb : ∀ c ∈ b, isSpace c = true)
    (hstop : StopsAt isNameChar (b ++ ['>'])) :
    Takes takeCloseTag ('<' :: '/' :: (n ++ b ++ ['>'])) fun _ => .ofChars n := by
  intro o y
  have hpiece : '<' :: '/' :: (n ++ b ++ ['>']) ++ y = '<' :: '/' :: (n ++ (b ++ '>' :: y)) := by
    simp
  unfold takeCloseTag
  rw [hpiece, drop_closeTag, takeQName_append hvalid hn (hstop.append_cons y), ok_bind]
  dsimp only
  rw [skipSpace_append hb (stopsAt_cons.2 (by decide)), takeChar_append, ok_bind]
  simp [Nat.add_assoc, pure, Except.pure]

/-- What has been taken is a closing tag without an angle bracket inside. -/
theorem takeCloseTag_ok {o : Nat} {cs : List Char} {q : QName} {r : Span}
    (h : takeCloseTag ⟨o, '<' :: '/' :: cs⟩ = .ok (q, r)) :
    ∃ n b y, cs = n ++ b ++ '>' :: y ∧ q = .ofChars n ∧ (∀ c ∈ b, isSpace c = true) ∧ '<' ∉ n ++ b ∧
      Takes takeCloseTag ('<' :: '/' :: (n ++ b ++ ['>'])) fun _ => q := by
  unfold takeCloseTag at h
  rw [drop_closeTag] at h
  obtain ⟨⟨q, s⟩, hname, h⟩ := bind_eq_ok.1 h
  obtain ⟨n, y, rfl, rfl, hvalid, hn, hstop, rfl⟩ := takeQName_ok hname
  obtain ⟨b, y, rfl, hb, -, hskip⟩ :=
    exists_skipSpace (o + byteLength ['<', '/'] + byteLength n) y
  dsimp only at h
  rw [hskip] at h
  obtain ⟨s, hchar, h⟩ := bind_eq_ok.1 h
  cases h
  obtain ⟨z, rfl, -⟩ := takeChar_ok hchar
  refine ⟨n, b, z, by simp, rfl, hb, ?_, takeCloseTag_append hvalid hn hb (hstop.append_cons [])⟩
  rw [List.mem_append, not_or]
  exact ⟨fun hmem => isNameChar_ne_angle (hn _ hmem) rfl,
    fun hmem => isSpace_ne_angle (hb _ hmem) rfl⟩

/-! ## Stretches of text -/

/-- The characters can stand between pieces of markup. -/
structure IsCharacters (t : List Char) : Prop where
  chars : ∀ c ∈ t, isXmlChar c = true
  noMarkup : '<' ∉ t
  noSectionEnd : Text.contains [']', ']', '>'] t = false

/-- The end of the text or markup follows. -/
def MarkupFollows (y : List Char) : Prop := y = [] ∨ ∃ z, y = '<' :: z

/-- A stretch of text goes up to the next markup. -/
theorem takeCharacters_append {t y : List Char} (ht : IsCharacters t) (hy : MarkupFollows y)
    (o : Nat) : takeCharacters ⟨o, t ++ y⟩ = .ok (⟨o, t⟩, ⟨o + byteLength t, y⟩) := by
  have hrun : RunsTo (fun cs => cs.head? = some '<') t y := by
    refine ⟨ht.chars, ?_, ?_⟩
    · intro u v huv hv
      obtain ⟨c, v, rfl⟩ := List.exists_cons_of_ne_nil hv
      have hc : c ≠ '<' := by
        rintro rfl
        exact ht.noMarkup (huv ▸ by simp)
      simp [hc]
    · rcases hy with rfl | ⟨z, rfl⟩
      · exact .inl rfl
      · exact .inr ⟨'<', z, rfl, by decide, by simp⟩
  unfold takeCharacters
  rw [takeUntil_append hrun, ok_bind]
  dsimp only
  rw [ht.noSectionEnd]
  rfl

/-- What has been taken is a stretch of text, and markup follows. -/
theorem takeCharacters_ok {o : Nat} {cs : List Char} {v r : Span}
    (h : takeCharacters ⟨o, cs⟩ = .ok (v, r)) :
    ∃ t y, cs = t ++ y ∧ IsCharacters t ∧ MarkupFollows y := by
  obtain ⟨⟨t, s⟩, huntil, hrest⟩ := bind_eq_ok.1 h
  obtain ⟨y, rfl, hrun, rfl⟩ := takeUntil_ok huntil
  refine ⟨t, y, rfl, ⟨hrun.chars, hrun.not_mem (by simp), ?_⟩, ?_⟩
  · by_contra hcontains
    rw [Bool.not_eq_false] at hcontains
    simp only [hcontains, if_true] at hrest
    cases hrest
  · rcases hrun.ends with hnil | ⟨c, z, rfl, -, hstop⟩
    · exact .inl hnil
    · have hc : c = '<' := by simpa using hstop
      exact .inr ⟨z, by rw [hc]⟩

/-! ## Tokens further on -/

/-- The token that stands `k` bytes further on. -/
def Token.move (k : Nat) : Token → Token
  | .entity name value => .entity name ⟨k + value.offset, value.chars⟩
  | .tagStart name start => .tagStart name (k + start)
  | .attr raw => .attr (raw.move k)
  | .tagEnd selfClosing stop => .tagEnd selfClosing (k + stop)
  | .closeTag name start stop => .closeTag name (k + start) (k + stop)
  | .text content => .text ⟨k + content.offset, content.chars⟩

@[simp]
theorem Token.move_zero : Token.move 0 = id := by
  funext tok
  cases tok <;> simp [Token.move, RawAttribute.move]

@[simp]
theorem Token.move_comp_move (k l : Nat) : Token.move k ∘ Token.move l = Token.move (k + l) := by
  funext tok
  cases tok <;> simp [Token.move, RawAttribute.move, Nat.add_assoc]

/-- Tokens that are moved twice are moved by both distances. -/
theorem map_move_move (k l : Nat) (toks : List Token) :
    (toks.map (Token.move l)).map (Token.move k) = toks.map (Token.move (k + l)) := by
  rw [List.map_map, Token.move_comp_move]

/-- Attributes move with their tokens. -/
theorem map_attr_move (k : Nat) (raws : List RawAttribute) :
    (raws.map (RawAttribute.move k)).map Token.attr = (raws.map Token.attr).map (Token.move k) := by
  rw [List.map_map, List.map_map]
  rfl

/-- The token for the end of a tag at an offset. -/
def TagEnd.tokens (stop : Nat) : TagEnd → List Token
  | .opened => [.tagEnd false stop]
  | .selfClosed => [.tagEnd true stop]
  | .cutOff => []

/-- So does the end of a tag. -/
theorem TagEnd.tokens_move (k stop : Nat) (e : TagEnd) :
    (e.tokens stop).map (Token.move k) = e.tokens (k + stop) := by
  cases e <;> rfl

/-! ## Tags -/

/-- An angle bracket ends a tag. -/
theorem scanAttributes_opened {b : List Char} (hb : ∀ c ∈ b, isSpace c = true) (fuel : Nat)
    (done : List Token) (o : Nat) (y : List Char) :
    scanAttributes (fuel + 1) done ⟨o, b ++ '>' :: y⟩
      = (.tagEnd false (o + byteLength (b ++ ['>'])) :: done,
        .ok (.opened, ⟨o + byteLength (b ++ ['>']), y⟩)) := by
  unfold scanAttributes
  rw [skipSpace_append hb (stopsAt_cons.2 (by decide))]
  simp [Span.atEnd, Span.head?, Span.tail, Nat.add_assoc]

/-- A slash in front of it closes the element at once. -/
theorem scanAttributes_selfClosed {b : List Char} (hb : ∀ c ∈ b, isSpace c = true) (fuel : Nat)
    (done : List Token) (o : Nat) (y : List Char) :
    scanAttributes (fuel + 1) done ⟨o, b ++ '/' :: '>' :: y⟩
      = (.tagEnd true (o + byteLength (b ++ ['/', '>'])) :: done,
        .ok (.selfClosed, ⟨o + byteLength (b ++ ['/', '>']), y⟩)) := by
  unfold scanAttributes
  rw [skipSpace_append hb (stopsAt_cons.2 (by decide))]
  simp [Span.atEnd, Span.head?, Span.tail, takeChar_append, Nat.add_assoc]

theorem isNameChar_not_space {c : Char} (h : isNameChar c = true) : isSpace c = false := by
  by_contra hspace
  rw [Bool.not_eq_false] at hspace
  simp only [isSpace, Bool.or_eq_true, decide_eq_true_eq] at hspace
  rcases hspace with ((rfl | rfl) | rfl) | rfl
  all_goals exact absurd h (by decide)

/-- An attribute is cut off, with the white space in front of it. -/
theorem scanAttributes_attribute {b t : List Char} {raw : RawAttribute} (hne : b ≠ [])
    (hb : ∀ c ∈ b, isSpace c = true) (hname : StartsName t)
    (ht : Takes takeAttribute t fun o => raw.move o) (fuel : Nat) (done : List Token) (o : Nat)
    (y : List Char) :
    scanAttributes (fuel + 1) done ⟨o, b ++ (t ++ y)⟩
      = scanAttributes fuel (.attr (raw.move (o + byteLength b)) :: done)
          ⟨o + byteLength (b ++ t), y⟩ := by
  obtain ⟨c, u, rfl, hc⟩ := hname
  obtain ⟨d, b, rfl⟩ := List.exists_cons_of_ne_nil hne
  have hskip : skipSpace ⟨o, d :: b ++ (c :: u ++ y)⟩ = ⟨o + byteLength (d :: b), c :: u ++ y⟩ :=
    skipSpace_append hb (stopsAt_cons.2 (isNameChar_not_space hc)) o
  have hstarts : startsWithSpace ⟨o, d :: b ++ (c :: u ++ y)⟩ = true := hb d List.mem_cons_self
  rw [scanAttributes, hskip, hstarts]
  dsimp only
  rw [ht]
  simp only [Span.atEnd, Span.head?, List.cons_append, List.isEmpty_cons, List.head?_cons,
    Bool.false_eq_true, if_false]
  split
  next h => cases h
  next h =>
    cases h
    exact absurd hc (by decide)
  next h =>
    cases h
    exact absurd hc (by decide)
  next h => simp [Nat.add_assoc]

/-- The piece `t` is cut into attributes, which stand at these offsets if the piece starts at zero,
and the end of the tag. Only where the text ends in the tag, nothing may follow. -/
def CutsAttributes (t : List Char) (raws : List RawAttribute) (e : TagEnd) : Prop :=
  ∀ fuel done o y, (e = .cutOff → y = []) → (t ++ y).length < fuel →
    scanAttributes fuel done ⟨o, t ++ y⟩
      = (((raws.map Token.attr ++ e.tokens (byteLength t)).map (Token.move o)).reverse ++ done,
        .ok (e, ⟨o + byteLength t, y⟩))

theorem cutsAttributes_cutOff : CutsAttributes [] [] .cutOff := by
  intro fuel done o y hy hfuel
  obtain ⟨fuel, rfl⟩ : ∃ n, fuel = n + 1 := ⟨fuel - 1, by omega⟩
  rw [hy rfl]
  rfl

theorem cutsAttributes_opened {b : List Char} (hb : ∀ c ∈ b, isSpace c = true) :
    CutsAttributes (b ++ ['>']) [] .opened := by
  intro fuel done o y _ hfuel
  obtain ⟨fuel, rfl⟩ : ∃ n, fuel = n + 1 := ⟨fuel - 1, by omega⟩
  rw [List.append_assoc]
  exact scanAttributes_opened hb fuel done o y

theorem cutsAttributes_selfClosed {b : List Char} (hb : ∀ c ∈ b, isSpace c = true) :
    CutsAttributes (b ++ ['/', '>']) [] .selfClosed := by
  intro fuel done o y _ hfuel
  obtain ⟨fuel, rfl⟩ : ∃ n, fuel = n + 1 := ⟨fuel - 1, by omega⟩
  rw [List.append_assoc]
  exact scanAttributes_selfClosed hb fuel done o y

/-- An attribute goes in front of those that follow. -/
theorem CutsAttributes.cons {b t u : List Char} {raw : RawAttribute} {raws : List RawAttribute}
    {e : TagEnd} (hne : b ≠ []) (hb : ∀ c ∈ b, isSpace c = true) (hname : StartsName t)
    (ht : Takes takeAttribute t fun o => raw.move o) (hu : CutsAttributes u raws e) :
    CutsAttributes (b ++ t ++ u)
      (raw.move (byteLength b) :: raws.map (RawAttribute.move (byteLength (b ++ t)))) e := by
  intro fuel done o y hy hfuel
  obtain ⟨fuel, rfl⟩ : ∃ n, fuel = n + 1 := ⟨fuel - 1, by omega⟩
  have hlength : 0 < b.length := List.length_pos_of_ne_nil hne
  rw [show b ++ t ++ u ++ y = b ++ (t ++ (u ++ y)) by simp,
    scanAttributes_attribute hne hb hname ht, hu fuel _ _ y hy (by simp at hfuel ⊢; omega)]
  rw [List.map_cons, map_attr_move, show byteLength (b ++ t ++ u) = byteLength (b ++ t) + byteLength u
    from byteLength_append _ _, ← TagEnd.tokens_move, List.cons_append, ← List.map_append,
    List.map_cons, map_move_move]
  simp [Token.move, RawAttribute.move, Nat.add_assoc]

/-- Attributes that have been cut, and the end of their tag, are a piece without an angle bracket that
opens a tag. -/
theorem scanAttributes_ok {fuel : Nat} {done done' : List Token} {o : Nat} {cs : List Char}
    {e : TagEnd} {r : Span} (h : scanAttributes fuel done ⟨o, cs⟩ = (done', .ok (e, r)))
    (hfuel : cs.length < fuel) :
    ∃ t y raws, cs = t ++ y ∧ '<' ∉ t ∧ (e = .cutOff → y = []) ∧
      (e ≠ .cutOff → t.getLast? = some '>') ∧ (e = .selfClosed → ['/', '>'] <:+ t) ∧
      (∀ raw : RawAttribute, raw ∈ raws → raw.value.chars <:+: t) ∧ CutsAttributes t raws e := by
  induction fuel generalizing done o cs with
  | zero => omega
  | succ fuel ih =>
    obtain ⟨b, y, rfl, hb, hstop, hskip⟩ := exists_skipSpace o cs
    rw [scanAttributes, hskip] at h
    cases y with
    | nil =>
      cases b with
      | nil =>
        cases h
        exact ⟨[], [], [], rfl, by simp, fun _ => rfl, fun h => absurd rfl h,
          fun h => (by cases h), by simp, cutsAttributes_cutOff⟩
      | cons c b => cases h
    | cons c y =>
      have hend : Span.atEnd ⟨o, b ++ c :: y⟩ = false := by simp [Span.atEnd]
      simp only [hend, Span.head?, List.head?_cons, Bool.false_eq_true, if_false] at h
      split at h
      next hc => cases hc
      next hc =>
        cases hc
        obtain ⟨s, hchar, hrest⟩ := after_eq_ok.1 h
        obtain ⟨y, rfl, rfl⟩ := takeChar_ok hchar
        cases hrest
        refine ⟨b ++ ['/', '>'], y, [], by simp, ?_, fun h => (by cases h), by simp,
          fun _ => List.suffix_append b _, by simp, cutsAttributes_selfClosed hb⟩
        simp only [List.mem_append, not_or]
        exact ⟨fun hmem => isSpace_ne_angle (hb _ hmem) rfl, by decide⟩
      next hc =>
        cases hc
        cases h
        refine ⟨b ++ ['>'], y, [], by simp, ?_, fun h => (by cases h), by simp, fun h => (by cases h),
          by simp, cutsAttributes_opened hb⟩
        simp only [List.mem_append, not_or]
        exact ⟨fun hmem => isSpace_ne_angle (hb _ hmem) rfl, by decide⟩
      next hc =>
        cases hc
        split at h
        · cases h
        next hspace =>
          obtain ⟨⟨raw, s⟩, hattribute, hrest⟩ := after_eq_ok.1 h
          obtain ⟨t, z, raw₀, hcs, hname, ht, hvalue, htakes⟩ := takeAttribute_ok hattribute
          rw [hcs, htakes] at hattribute
          cases hattribute
          -- an attribute must be set off by space
          have hne : b ≠ [] := by
            rintro rfl
            apply hspace
            simp [startsWithSpace, Span.head?, stopsAt_cons.1 hstop]
          have hlength : 0 < b.length := List.length_pos_of_ne_nil hne
          rw [hcs] at hfuel ⊢
          obtain ⟨u, y, raws, rfl, hu, hcut, hlast, hslash, hvalues, hcuts⟩ :=
            ih hrest (by simp at hfuel; omega)
          refine ⟨b ++ t ++ u, y, _, by simp, ?_, hcut, ?_, fun he => (hslash he).trans
            (List.suffix_append _ u), ?_, hcuts.cons hne hb hname htakes⟩
          · simp only [List.mem_append, not_or]
            exact ⟨⟨fun hmem => isSpace_ne_angle (hb _ hmem) rfl, ht⟩, hu⟩
          · intro he
            rw [List.getLast?_append, hlast he]
            rfl
          · intro raw hraw
            rcases List.mem_cons.1 hraw with rfl | hraw
            · exact hvalue.trans ⟨b, u, by simp⟩
            · obtain ⟨raw', hraw', rfl⟩ := List.mem_map.1 hraw
              exact (hvalues raw' hraw').trans ⟨b ++ t, [], by simp⟩
/-- The piece `t` is cut into a tag with attributes. -/
def CutsTag (t : List Char) (name : QName) (raws : List RawAttribute) (e : TagEnd) : Prop :=
  ∀ done o y, (e = .cutOff → y = []) →
    scanTag done ⟨o, t ++ y⟩
      = (((.tagStart name 0 :: (raws.map Token.attr ++ e.tokens (byteLength t))).map
          (Token.move o)).reverse ++ done, .ok (e, ⟨o + byteLength t, y⟩))

/-- A tag is cut into its name, its attributes and its end. -/
theorem cutsTag {n u : List Char} {raws : List RawAttribute} {e : TagEnd}
    (hvalid : (QName.ofChars n).isValid = true) (hn : ∀ c ∈ n, isNameChar c = true)
    (hstop : StopsAt isNameChar u) (hend : u = [] → e = .cutOff) (hu : CutsAttributes u raws e) :
    CutsTag ('<' :: (n ++ u)) (.ofChars n) (raws.map (RawAttribute.move (byteLength ('<' :: n)))) e := by
  intro done o y hy
  -- nothing follows a tag that is cut off, and otherwise the name ends within the tag
  have hstop' : StopsAt isNameChar (u ++ y) := by
    by_cases hnil : u = []
    · rw [hnil, hy (hend hnil)]
      exact stopsAt_nil _
    · rw [← List.append_nil u] at hstop
      exact hstop.of_append hnil y
  have htail : Span.tail ⟨o, '<' :: (n ++ u) ++ y⟩ = ⟨o + byteLength ['<'], n ++ (u ++ y)⟩ := by
    simp [Span.tail]
  unfold scanTag
  rw [htail, takeQName_append hvalid hn hstop', after_ok]
  dsimp only
  rw [hu _ _ _ y hy (by simp)]
  rw [map_attr_move, show byteLength ('<' :: (n ++ u)) = byteLength ('<' :: n) + byteLength u
    from byteLength_append ('<' :: n) u, ← TagEnd.tokens_move, ← List.map_append, List.map_cons,
    map_move_move]
  simp [Token.move, Nat.add_assoc]

/-- A tag ends as its attributes do. -/
theorem getLast?_tag (n : List Char) {u : List Char} {c : Char} (h : u.getLast? = some c) :
    ('<' :: (n ++ u)).getLast? = some c := by
  rw [← List.cons_append, List.getLast?_append, h]
  rfl

/-- A tag that has been cut is a piece in which only its first character is an angle bracket that
opens a tag. -/
theorem scanTag_ok {done done' : List Token} {o : Nat} {cs : List Char} {e : TagEnd} {r : Span}
    (h : scanTag done ⟨o, '<' :: cs⟩ = (done', .ok (e, r))) :
    ∃ n u y raws, cs = n ++ u ++ y ∧ StartsName n ∧ (∀ c ∈ n, isNameChar c = true) ∧
      StopsAt isNameChar u ∧ '<' ∉ n ++ u ∧
      (e = .cutOff → y = []) ∧ (e ≠ .cutOff → u.getLast? = some '>') ∧
      (e = .selfClosed → ['/', '>'] <:+ u) ∧
      (∀ raw : RawAttribute, raw ∈ raws → raw.value.chars <:+: u) ∧
      CutsTag ('<' :: (n ++ u)) (.ofChars n) raws e := by
  obtain ⟨⟨q, s⟩, hname, hrest⟩ := after_eq_ok.1 h
  obtain ⟨n, z, rfl, rfl, hvalid, hn, hstop, rfl⟩ := takeQName_ok hname
  obtain ⟨u, y, raws, rfl, hu, hcut, hlast, hslash, hvalues, hcuts⟩ :=
    scanAttributes_ok hrest (Nat.lt_succ_self _)
  have hend : u = [] → e = .cutOff := by
    intro hnil
    by_contra he
    have hlast' := hlast he
    rw [hnil] at hlast'
    cases hlast'
  have hstops : StopsAt isNameChar u := by
    by_cases hnil : u = []
    · rw [hnil]
      exact stopsAt_nil _
    · rw [← List.append_nil u]
      exact hstop.of_append hnil []
  refine ⟨n, u, y, _, by simp, ?_, hn, hstops, ?_, hcut, hlast, hslash, ?_,
    cutsTag hvalid hn hstops hend hcuts⟩
  · obtain ⟨c, m, rfl⟩ := List.exists_cons_of_ne_nil (ne_nil_of_isValid hvalid)
    exact ⟨c, m, rfl, hn c List.mem_cons_self⟩
  · simp only [List.mem_append, not_or]
    exact ⟨fun hmem => isNameChar_ne_angle (hn _ hmem) rfl, hu⟩
  · intro raw hraw
    obtain ⟨raw', hraw', rfl⟩ := List.mem_map.1 hraw
    exact hvalues raw' hraw'

end StatementLens.Xml
