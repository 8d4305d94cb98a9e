import StatementLens.Proofs.Xml.Markup

/-!
# Content

Content is a sequence of pieces. A piece of markup is cut in the same way wherever it stands and
whatever follows it, so pieces that end in markup can be followed by any content (`Pieces.content`).
What has been cut is content (`scanContent_ok`), and content is cut in the same way everywhere
(`Content.scan`).
-/

namespace StatementLens.Xml

open Text

/-- The texts that a kind of markup stands at the front of. -/
def Markup.Begins : Markup → List Char → Prop
  | .nothing, cs => cs = []
  | .comment, cs => ∃ rest, cs = "<!--".toList ++ rest
  | .cdata, cs => ∃ rest, cs = "<![CDATA[".toList ++ rest
  | .instruction, cs => ∃ rest, cs = "<?".toList ++ rest
  | .closeTag, cs => ∃ rest, cs = '<' :: '/' :: rest
  | .tag, cs => ∃ rest, cs = '<' :: rest
  | .unknown, _ => True
  | .characters, cs => ∃ c rest, cs = c :: rest ∧ c ≠ '<'

/-- Markup is told by how it begins. -/
theorem markupOf_begins (cs : List Char) : (markupOf cs).Begins cs := by
  unfold markupOf
  split
  · rfl
  · split
    next h =>
      obtain ⟨rest, rfl⟩ := List.isPrefixOf_iff_prefix.1 h
      exact ⟨rest, rfl⟩
    next =>
      split
      next h =>
        obtain ⟨rest, rfl⟩ := List.isPrefixOf_iff_prefix.1 h
        exact ⟨rest, rfl⟩
      next => trivial
  · exact ⟨_, rfl⟩
  · exact ⟨_, rfl⟩
  · trivial
  · exact ⟨_, rfl⟩
  next h =>
    cases cs with
    | nil => exact absurd rfl (by assumption)
    | cons c rest =>
      refine ⟨c, rest, rfl, ?_⟩
      rintro rfl
      exact h rest rfl

/-- An angle bracket in front of a name begins a tag. -/
theorem markupOf_tag {t : List Char} (h : StartsName t) (y : List Char) :
    markupOf ('<' :: (t ++ y)) = .tag := by
  obtain ⟨c, u, rfl, hc⟩ := h
  have hbang : c ≠ '!' := by
    rintro rfl
    exact absurd hc (by decide)
  have hquestion : c ≠ '?' := by
    rintro rfl
    exact absurd hc (by decide)
  have hslash : c ≠ '/' := by
    rintro rfl
    exact absurd hc (by decide)
  unfold markupOf
  split <;> simp_all

/-- Anything but an angle bracket begins a stretch of text. -/
theorem markupOf_characters {c : Char} (h : c ≠ '<') (y : List Char) :
    markupOf (c :: y) = .characters := by
  unfold markupOf
  split <;> simp_all

theorem StartsName.append {t : List Char} (h : StartsName t) (u : List Char) :
    StartsName (t ++ u) := by
  obtain ⟨c, v, rfl, hc⟩ := h
  exact ⟨c, v ++ u, rfl, hc⟩

/-! ## Pieces -/

/-- A closing tag with a name. -/
structure IsCloseTag (name : QName) (t : List Char) : Prop where
  spelled : ∃ n b, t = '<' :: '/' :: (n ++ b ++ ['>']) ∧ name = .ofChars n ∧
    (∀ c ∈ b, isSpace c = true) ∧ '<' ∉ n ++ b
  takes : Takes takeCloseTag t fun _ => name

/-- A closing tag has no angle bracket inside. -/
theorem IsCloseTag.shape {name : QName} {t : List Char} (h : IsCloseTag name t) :
    ∃ v, t = '<' :: '/' :: (v ++ ['>']) ∧ '<' ∉ v := by
  obtain ⟨n, b, ht, -, -, hangle⟩ := h.spelled
  exact ⟨n ++ b, ht, hangle⟩

/-- The tokens of a tag that starts at zero and whose text is as long as `stop` says. -/
def tagTokens (name : QName) (raws : List RawAttribute) (e : TagEnd) (stop : Nat) : List Token :=
  .tagStart name 0 :: (raws.map Token.attr ++ e.tokens stop)

/-- A piece of markup inside `d` elements, its tokens, and the number of elements behind it. -/
inductive Piece (d : Nat) : List Char → List Token → Nat → Prop where
  | comment {v : List Char} (h : Skips takeComment ("<!--".toList ++ (v ++ "-->".toList))) :
      Piece d ("<!--".toList ++ (v ++ "-->".toList)) [] d
  | cdata {v : List Char} (h : Skips takeCData ("<![CDATA[".toList ++ (v ++ "]]>".toList))) :
      Piece d ("<![CDATA[".toList ++ (v ++ "]]>".toList)) [] d
  | instruction {v : List Char} (h : Skips takeInstruction ("<?".toList ++ (v ++ "?>".toList))) :
      Piece d ("<?".toList ++ (v ++ "?>".toList)) [] d
  | closeTag {t : List Char} {name : QName} (hd : 1 < d) (h : IsCloseTag name t) :
      Piece d t [.closeTag name 0 (byteLength t)] (d - 1)
  | tag {t : List Char} {name : QName} {raws : List RawAttribute} {e : TagEnd} (he : e ≠ .cutOff)
      (hname : StartsName t) (hlast : ('<' :: t).getLast? = some '>')
      (h : CutsTag ('<' :: t) name raws e) :
      Piece d ('<' :: t) (tagTokens name raws e (byteLength ('<' :: t)))
        (if e = .opened then d + 1 else d)

/-- A piece of markup is cut in the same way everywhere. -/
theorem Piece.scan {d d' : Nat} {t : List Char} {toks : List Token} (h : Piece d t toks d')
    (fuel : Nat) (done : List Token) (o : Nat) (y : List Char) :
    scanContent (fuel + 1) d done ⟨o, t ++ y⟩
      = scanContent fuel d' ((toks.map (Token.move o)).reverse ++ done) ⟨o + byteLength t, y⟩ := by
  rw [scanContent]
  cases h with
  | comment h =>
    have hmarkup : ∀ z, markupOf ("<!--".toList ++ z) = .comment := fun _ => rfl
    rw [h, List.append_assoc, hmarkup]
    rfl
  | cdata h =>
    have hmarkup : ∀ z, markupOf ("<![CDATA[".toList ++ z) = .cdata := fun _ => rfl
    rw [h, List.append_assoc, hmarkup]
    rfl
  | instruction h =>
    have hmarkup : ∀ z, markupOf ("<?".toList ++ z) = .instruction := fun _ => rfl
    rw [h, List.append_assoc, hmarkup]
    rfl
  | closeTag hd h =>
    obtain ⟨v, rfl, -⟩ := h.shape
    have hmarkup : ∀ z, markupOf ('<' :: '/' :: z) = .closeTag := fun _ => rfl
    rw [h.takes]
    dsimp only [List.cons_append]
    rw [hmarkup]
    simp [Token.move, show ¬ d ≤ 1 by omega]
  | @tag t name raws e he hname hlast h =>
    rw [h _ _ _ fun h => absurd h he]
    dsimp only [List.cons_append]
    rw [markupOf_tag hname]
    rfl

/-- Pieces of markup begin with an angle bracket. -/
theorem Piece.angle {d d' : Nat} {t : List Char} {toks : List Token} (h : Piece d t toks d') :
    ∃ u, t = '<' :: u := by
  cases h with
  | comment => exact ⟨_, rfl⟩
  | cdata => exact ⟨_, rfl⟩
  | instruction => exact ⟨_, rfl⟩
  | closeTag _ h =>
    obtain ⟨v, rfl, -⟩ := h.shape
    exact ⟨_, rfl⟩
  | tag => exact ⟨_, rfl⟩

/-- They end with one as well. -/
theorem Piece.getLast? {d d' : Nat} {t : List Char} {toks : List Token} (h : Piece d t toks d') :
    t.getLast? = some '>' := by
  cases h with
  | comment | cdata | instruction =>
    rw [List.getLast?_append, List.getLast?_append]
    rfl
  | closeTag _ h =>
    obtain ⟨v, rfl, -⟩ := h.shape
    rw [← List.cons_append, ← List.cons_append, List.getLast?_concat]
  | tag _ _ hlast => exact hlast

/-- No piece leaves the outermost element. -/
theorem Piece.depth_pos {d d' : Nat} {t : List Char} {toks : List Token} (h : Piece d t toks d')
    (hd : 0 < d) : 0 < d' := by
  cases h with
  | comment | cdata | instruction => exact hd
  | closeTag hlt => omega
  | tag =>
    split
    · omega
    · exact hd

/-- A token of content whose offsets are at most `n`. -/
def Token.Within (n : Nat) : Token → Prop
  | .entity _ _ => False
  | .tagStart _ start => start ≤ n
  | .attr _ => True
  | .tagEnd _ stop => stop ≤ n
  | .closeTag _ _ stop => stop ≤ n
  | .text _ => True

/-- Tokens that are moved stay within a bound that is moved. -/
theorem Token.Within.move {n : Nat} {tok : Token} (h : tok.Within n) (k : Nat) :
    (tok.move k).Within (k + n) := by
  cases tok <;> simp_all [Token.Within, Token.move]

theorem Token.Within.mono {m n : Nat} {tok : Token} (h : tok.Within m) (hle : m ≤ n) :
    tok.Within n := by
  cases tok <;> simp only [Token.Within] at h ⊢ <;> omega

/-- The tokens of a tag stand within it. -/
theorem tagTokens_within (name : QName) (raws : List RawAttribute) (e : TagEnd) (stop : Nat) :
    ∀ tok ∈ tagTokens name raws e stop, tok.Within stop := by
  intro tok htok
  rcases List.mem_cons.1 htok with rfl | htok
  · exact Nat.zero_le stop
  · rcases List.mem_append.1 htok with htok | htok
    · obtain ⟨raw, -, rfl⟩ := List.mem_map.1 htok
      trivial
    · cases e with
      | opened =>
        rw [List.mem_singleton.1 htok]
        exact Nat.le_refl stop
      | selfClosed =>
        rw [List.mem_singleton.1 htok]
        exact Nat.le_refl stop
      | cutOff => cases htok

/-- The tokens of a piece stand within it. -/
theorem Piece.within {d d' : Nat} {t : List Char} {toks : List Token} (h : Piece d t toks d') :
    ∀ tok ∈ toks, tok.Within (byteLength t) := by
  cases h with
  | comment => simp
  | cdata => simp
  | instruction => simp
  | closeTag => simp [Token.Within]
  | tag => exact tagTokens_within _ _ _ _

/-- No tag ends among the tokens before one has started, if none has started (`inTag`). -/
def Tagged : Bool → List Token → Prop
  | _, [] => True
  | _, .tagStart _ _ :: rest => Tagged true rest
  | inTag, .tagEnd _ _ :: rest => inTag = true ∧ Tagged inTag rest
  | inTag, _ :: rest => Tagged inTag rest

theorem Tagged.start {toks : List Token} {inTag : Bool} (h : Tagged inTag toks) :
    Tagged true toks := by
  induction toks generalizing inTag with
  | nil => trivial
  | cons tok toks ih =>
    cases tok with
    | tagStart name start => exact h
    | tagEnd selfClosing stop => exact ⟨rfl, ih h.2⟩
    | entity | attr | closeTag | text => exact @ih inTag h

/-- Ends of tags stay behind their starts if whole runs of tokens follow each other. -/
theorem Tagged.append {toks toks' : List Token} {inTag : Bool} (h : Tagged inTag toks)
    (h' : Tagged false toks') : Tagged inTag (toks ++ toks') := by
  induction toks generalizing inTag with
  | nil =>
    cases inTag with
    | false => exact h'
    | true => exact h'.start
  | cons tok toks ih =>
    cases tok with
    | tagStart name start => exact @ih true h
    | tagEnd selfClosing stop => exact ⟨h.1, ih h.2⟩
    | entity | attr | closeTag | text => exact @ih inTag h

theorem Tagged.move {toks : List Token} {inTag : Bool} (h : Tagged inTag toks) (k : Nat) :
    Tagged inTag (toks.map (Token.move k)) := by
  induction toks generalizing inTag with
  | nil => trivial
  | cons tok toks ih =>
    cases tok with
    | tagStart name start => exact @ih true h
    | tagEnd selfClosing stop => exact ⟨h.1, ih h.2⟩
    | entity | attr | closeTag | text => exact @ih inTag h

/-- The tokens of a tag end no other tag. -/
theorem tagTokens_tagged (name : QName) (raws : List RawAttribute) (e : TagEnd) (stop : Nat) :
    Tagged false (tagTokens name raws e stop) := by
  show Tagged true (raws.map Token.attr ++ e.tokens stop)
  induction raws with
  | nil =>
    cases e with
    | opened | selfClosed => exact ⟨rfl, trivial⟩
    | cutOff => trivial
  | cons raw raws ih => exact ih

/-- Nor do those of a piece. -/
theorem Piece.tagged {d d' : Nat} {t : List Char} {toks : List Token} (h : Piece d t toks d') :
    Tagged false toks := by
  cases h with
  | comment | cdata | instruction | closeTag => trivial
  | tag => exact tagTokens_tagged _ _ _ _

/-! ## Steps -/

/-- A stretch of text is one token. -/
theorem scanContent_characters {t y : List Char} (ht : IsCharacters t) (hne : t ≠ [])
    (hy : MarkupFollows y) (fuel d : Nat) (done : List Token) (o : Nat) :
    scanContent (fuel + 1) d done ⟨o, t ++ y⟩
      = scanContent fuel d (.text ⟨o, t⟩ :: done) ⟨o + byteLength t, y⟩ := by
  have hchars := takeCharacters_append ht hy o
  obtain ⟨c, t, rfl⟩ := List.exists_cons_of_ne_nil hne
  have hc : c ≠ '<' := by
    rintro rfl
    exact ht.noMarkup List.mem_cons_self
  rw [scanContent, hchars]
  dsimp only [List.cons_append]
  rw [markupOf_characters hc]
  rfl

/-- The closing tag of the outermost element ends the content. -/
theorem scanContent_closeTag {t : List Char} {name : QName} (h : IsCloseTag name t) {d : Nat}
    (hd : d ≤ 1) (fuel : Nat) (done : List Token) (o : Nat) (y : List Char) :
    scanContent (fuel + 1) d done ⟨o, t ++ y⟩
      = (.closeTag name o (o + byteLength t) :: done, .ok ⟨o + byteLength t, y⟩) := by
  obtain ⟨v, rfl, -⟩ := h.shape
  have hmarkup : ∀ z, markupOf ('<' :: '/' :: z) = .closeTag := fun _ => rfl
  rw [scanContent, h.takes]
  dsimp only [List.cons_append]
  rw [hmarkup]
  simp [hd]

/-- A tag in which the text ends. -/
theorem scanContent_cutOff {t : List Char} {name : QName} {raws : List RawAttribute}
    (hname : StartsName t) (h : CutsTag ('<' :: t) name raws .cutOff) (fuel d : Nat)
    (done : List Token) (o : Nat) :
    scanContent (fuel + 1) d done ⟨o, '<' :: t⟩
      = (((tagTokens name raws .cutOff (byteLength ('<' :: t))).map (Token.move o)).reverse ++ done,
        .ok ⟨o + byteLength ('<' :: t), []⟩) := by
  have hscan := h done o [] fun _ => rfl
  have hmarkup := markupOf_tag hname []
  rw [List.append_nil] at hscan hmarkup
  rw [scanContent, hscan, hmarkup]
  cases fuel <;> rfl

/-- What a step of cutting content can do, if the content can be cut to its end: it stops at the end of
the text or at the closing tag of the outermost element, or it goes over a piece of markup, a stretch
of text or a tag in which the text ends. -/
theorem scanContent_cases {fuel d : Nat} {done done' : List Token} {o : Nat} {cs : List Char}
    {r : Span} (h : scanContent (fuel + 1) d done ⟨o, cs⟩ = (done', .ok r)) :
    cs = [] ∨
    (∃ t y name, cs = t ++ y ∧ d ≤ 1 ∧ IsCloseTag name t) ∨
    (∃ t y toks d', cs = t ++ y ∧ Piece d t toks d') ∨
    (∃ t y, cs = t ++ y ∧ t ≠ [] ∧ IsCharacters t ∧ MarkupFollows y) ∨
    (∃ t name raws, cs = '<' :: t ∧ StartsName t ∧ CutsTag ('<' :: t) name raws .cutOff) := by
  have hbegins := markupOf_begins cs
  rw [scanContent] at h
  cases hmarkup : markupOf cs with
  | nothing =>
    rw [hmarkup] at hbegins
    exact .inl hbegins
  | unknown =>
    rw [hmarkup] at h
    cases h
  | comment =>
    rw [hmarkup] at hbegins h
    obtain ⟨rest, rfl⟩ := hbegins
    obtain ⟨s, hcomment, -⟩ := after_eq_ok.1 h
    obtain ⟨v, y, rfl, hskips⟩ := takeComment_ok hcomment
    exact .inr (.inr (.inl ⟨_, y, _, _, by simp, .comment hskips⟩))
  | cdata =>
    rw [hmarkup] at hbegins h
    obtain ⟨rest, rfl⟩ := hbegins
    obtain ⟨s, hcdata, -⟩ := after_eq_ok.1 h
    obtain ⟨v, y, rfl, hskips⟩ := takeCData_ok hcdata
    exact .inr (.inr (.inl ⟨_, y, _, _, by simp, .cdata hskips⟩))
  | instruction =>
    rw [hmarkup] at hbegins h
    obtain ⟨rest, rfl⟩ := hbegins
    obtain ⟨s, hinstruction, -⟩ := after_eq_ok.1 h
    obtain ⟨v, y, rfl, hskips⟩ := takeInstruction_ok hinstruction
    exact .inr (.inr (.inl ⟨_, y, _, _, by simp, .instruction hskips⟩))
  | closeTag =>
    rw [hmarkup] at hbegins h
    obtain ⟨rest, rfl⟩ := hbegins
    obtain ⟨⟨name, s⟩, hclose, -⟩ := after_eq_ok.1 h
    obtain ⟨n, b, y, rfl, hname, hblank, hangle, htakes⟩ := takeCloseTag_ok hclose
    have htag : IsCloseTag name ('<' :: '/' :: (n ++ b ++ ['>'])) :=
      ⟨⟨n, b, rfl, hname, hblank, hangle⟩, htakes⟩
    -- the closing tag of the outermost element ends the content, any other is a piece of it
    by_cases hd : d ≤ 1
    · exact .inr (.inl ⟨_, y, name, by simp, hd, htag⟩)
    · exact .inr (.inr (.inl ⟨_, y, _, _, by simp, .closeTag (by omega) htag⟩))
  | tag =>
    rw [hmarkup] at hbegins h
    obtain ⟨rest, rfl⟩ := hbegins
    obtain ⟨⟨e, s⟩, htag, -⟩ := after_eq_ok.1 h
    obtain ⟨n, u, y, raws, rfl, hname, -, -, -, hcut, hlast, -, -, hcuts⟩ :=
      scanTag_ok (Prod.ext rfl htag)
    have hstarts : StartsName (n ++ u) := hname.append u
    -- a tag that the text breaks off is no piece, for nothing can follow it
    by_cases he : e = .cutOff
    · rw [hcut he, List.append_nil]
      subst he
      exact .inr (.inr (.inr (.inr ⟨n ++ u, _, raws, rfl, hstarts, hcuts⟩)))
    · exact .inr (.inr (.inl ⟨_, y, _, _, rfl,
        .tag he hstarts (getLast?_tag n (hlast he)) hcuts⟩))
  | characters =>
    rw [hmarkup] at hbegins h
    obtain ⟨c, rest, rfl, hc⟩ := hbegins
    obtain ⟨⟨v, s⟩, hchars, -⟩ := after_eq_ok.1 h
    obtain ⟨t, y, hcs, ht, hy⟩ := takeCharacters_ok hchars
    refine .inr (.inr (.inr (.inl ⟨t, y, hcs, ?_, ht, hy⟩)))
    -- the stretch is not empty, for its first character opens no markup
    rintro rfl
    rcases hy with rfl | ⟨z, rfl⟩
    · cases hcs
    · cases hcs
      exact hc rfl

/-! ## Runs -/

/-- Pieces of markup and stretches of text, of which markup comes last. -/
inductive Pieces : Nat → List Char → List Token → Nat → Prop where
  | nil {d : Nat} : Pieces d [] [] d
  | piece {d d' d'' : Nat} {t u : List Char} {toks toks' : List Token} (h : Piece d t toks d')
      (hu : Pieces d' u toks' d'') :
      Pieces d (t ++ u) (toks ++ toks'.map (Token.move (byteLength t))) d''
  | characters {d d' : Nat} {t u : List Char} {toks : List Token} (hne : t ≠ [])
      (h : IsCharacters t) (hangle : ∃ v, u = '<' :: v) (hu : Pieces d u toks d') :
      Pieces d (t ++ u) (.text ⟨0, t⟩ :: toks.map (Token.move (byteLength t))) d'

/-- Content with its tokens. It ends at the end of the text, or at the closing tag of the outermost
element, with `y` left. -/
inductive Content : Nat → List Char → List Char → List Token → Prop where
  | ended {d : Nat} : Content d [] [] []
  | closed {d : Nat} {t y : List Char} {name : QName} (hd : d ≤ 1) (h : IsCloseTag name t) :
      Content d t y [.closeTag name 0 (byteLength t)]
  | piece {d d' : Nat} {t u y : List Char} {toks toks' : List Token} (h : Piece d t toks d')
      (hu : Content d' u y toks') :
      Content d (t ++ u) y (toks ++ toks'.map (Token.move (byteLength t)))
  | characters {d : Nat} {t u y : List Char} {toks : List Token} (hne : t ≠ [])
      (h : IsCharacters t) (hfollows : MarkupFollows (u ++ y)) (hu : Content d u y toks) :
      Content d (t ++ u) y (.text ⟨0, t⟩ :: toks.map (Token.move (byteLength t)))
  | cutOff {d : Nat} {t : List Char} {name : QName} {raws : List RawAttribute}
      (hname : StartsName t) (h : CutsTag ('<' :: t) name raws .cutOff) :
      Content d ('<' :: t) [] (tagTokens name raws .cutOff (byteLength ('<' :: t)))

/-- Content is cut in the same way everywhere. -/
theorem Content.scan {d : Nat} {t y : List Char} {toks : List Token} (h : Content d t y toks)
    {fuel : Nat} (hfuel : (t ++ y).length < fuel) (done : List Token) (o : Nat) :
    scanContent fuel d done ⟨o, t ++ y⟩
      = ((toks.map (Token.move o)).reverse ++ done, .ok ⟨o + byteLength t, y⟩) := by
  obtain ⟨fuel, rfl⟩ : ∃ n, fuel = n + 1 := ⟨fuel - 1, by omega⟩
  induction h generalizing fuel done o with
  | ended => rfl
  | closed hd h => exact scanContent_closeTag h hd fuel done o _
  | @piece d d' t u y toks toks' h hu ih =>
    have hlength : 0 < t.length := by
      obtain ⟨v, rfl⟩ := h.angle
      simp
    rw [List.append_assoc] at hfuel ⊢
    rw [h.scan]
    obtain ⟨fuel, rfl⟩ : ∃ n, fuel = n + 1 := ⟨fuel - 1, by simp at hfuel; omega⟩
    rw [ih _ _ _ (by simp at hfuel ⊢; omega)]
    simp [Nat.add_assoc]
  | @characters d t u y toks hne h hfollows hu ih =>
    have hlength : 0 < t.length := List.length_pos_of_ne_nil hne
    rw [List.append_assoc] at hfuel ⊢
    rw [scanContent_characters h hne hfollows]
    obtain ⟨fuel, rfl⟩ : ∃ n, fuel = n + 1 := ⟨fuel - 1, by simp at hfuel; omega⟩
    rw [ih _ _ _ (by simp at hfuel ⊢; omega)]
    simp [Token.move, Nat.add_assoc]
  | cutOff hname h =>
    rw [List.append_nil]
    exact scanContent_cutOff hname h fuel _ done o

/-- Pieces and content behind them are content. -/
theorem Pieces.content {d d' : Nat} {t u y : List Char} {toks toks' : List Token}
    (h : Pieces d t toks d') (hu : Content d' u y toks') :
    Content d (t ++ u) y (toks ++ toks'.map (Token.move (byteLength t))) := by
  induction h with
  | nil =>
    have hzero : toks'.map (Token.move 0) = toks' := by simp [Token.move_zero]
    rw [List.nil_append, List.nil_append, byteLength_nil, hzero]
    exact hu
  | piece h _ ih => simpa using Content.piece h (ih hu)
  | @characters d d' t v toks hne h hangle _ ih =>
    have hfollows : MarkupFollows ((v ++ u) ++ y) := by
      obtain ⟨z, rfl⟩ := hangle
      exact .inr ⟨z ++ u ++ y, rfl⟩
    simpa [Token.move] using Content.characters hne h hfollows (ih hu)

/-- What has been cut is content. -/
theorem scanContent_ok {fuel d : Nat} {done done' : List Token} {o : Nat} {cs : List Char} {r : Span}
    (h : scanContent fuel d done ⟨o, cs⟩ = (done', .ok r)) (hfuel : cs.length < fuel) :
    ∃ t y toks, cs = t ++ y ∧ Content d t y toks := by
  induction fuel generalizing d done o cs with
  | zero => omega
  | succ fuel ih =>
    rcases scanContent_cases h with rfl | ⟨t, y, name, rfl, hd, hclose⟩ |
      ⟨t, y, toks, d', rfl, hpiece⟩ | ⟨t, y, rfl, hne, ht, hy⟩ | ⟨t, name, raws, rfl, hname, htag⟩
    · exact ⟨[], [], [], rfl, .ended⟩
    · exact ⟨t, y, _, rfl, .closed hd hclose⟩
    · have hlength : 0 < t.length := by
        obtain ⟨v, rfl⟩ := hpiece.angle
        simp
      rw [hpiece.scan] at h
      obtain ⟨u, z, toks', rfl, hcontent⟩ := ih h (by simp at hfuel ⊢; omega)
      exact ⟨t ++ u, z, _, by simp, .piece hpiece hcontent⟩
    · have hlength : 0 < t.length := List.length_pos_of_ne_nil hne
      rw [scanContent_characters ht hne hy] at h
      obtain ⟨u, z, toks', rfl, hcontent⟩ := ih h (by simp at hfuel ⊢; omega)
      exact ⟨t ++ u, z, _, by simp, .characters hne ht hy hcontent⟩
    · exact ⟨'<' :: t, [], _, by simp, .cutOff hname htag⟩

/-- The tokens of content stand within it. -/
theorem Content.within {d : Nat} {t y : List Char} {toks : List Token} (h : Content d t y toks) :
    ∀ tok ∈ toks, tok.Within (byteLength t) := by
  induction h with
  | ended => simp
  | closed => simp [Token.Within]
  | piece h hu ih =>
    intro tok htok
    rw [byteLength_append]
    rcases List.mem_append.1 htok with htok | htok
    · exact (h.within tok htok).mono (Nat.le_add_right _ _)
    · obtain ⟨tok', htok', rfl⟩ := List.mem_map.1 htok
      exact (ih tok' htok').move _
  | characters hne h hfollows hu ih =>
    intro tok htok
    rw [byteLength_append]
    rcases List.mem_cons.1 htok with rfl | htok
    · trivial
    · obtain ⟨tok', htok', rfl⟩ := List.mem_map.1 htok
      exact (ih tok' htok').move _
  | cutOff => exact tagTokens_within _ _ _ _

theorem Content.within_move {d : Nat} {t y : List Char} {toks : List Token} (h : Content d t y toks)
    (k : Nat) : ∀ tok ∈ toks.map (Token.move k), tok.Within (k + byteLength t) := by
  intro tok htok
  obtain ⟨tok, hmem, rfl⟩ := List.mem_map.1 htok
  exact (h.within tok hmem).move k

/-- Content ends no tag that it has not started. -/
theorem Content.tagged {d : Nat} {t y : List Char} {toks : List Token} (h : Content d t y toks) :
    Tagged false toks := by
  induction h with
  | ended | closed => trivial
  | piece h hu ih => exact h.tagged.append (ih.move _)
  | characters hne h hfollows hu ih => exact @Tagged.move _ false ih _
  | cutOff => exact tagTokens_tagged _ _ _ _

/-! ## The place of a closing tag -/

/-- The token of a stretch of text, if there is any text. -/
def textTokens (w : List Char) : List Token := if w = [] then [] else [.text ⟨0, w⟩]

theorem isCharacters_nil : IsCharacters [] := ⟨by simp, by simp, rfl⟩

/-- A stretch of text is content up to the end. -/
theorem IsCharacters.content {w : List Char} (h : IsCharacters w) (d : Nat) :
    Content d w [] (textTokens w) := by
  unfold textTokens
  split
  next hnil =>
    rw [hnil]
    exact .ended
  next hne => simpa using Content.characters hne h (.inl rfl) (.ended (d := d))

/-- Only no pieces make up no text. -/
theorem Pieces.eq_nil {d d' : Nat} {toks : List Token} (h : Pieces d [] toks d') :
    toks = [] ∧ d' = d := by
  generalize ht : ([] : List Char) = t at h
  cases h with
  | nil => exact ⟨rfl, rfl⟩
  | piece h hu =>
    obtain ⟨v, rfl⟩ := h.angle
    cases ht
  | characters hne h hangle hu => exact absurd (List.append_eq_nil_iff.1 ht.symm).1 hne

/-- Pieces end with markup. -/
theorem Pieces.getLast? {d d' : Nat} {t : List Char} {toks : List Token} (h : Pieces d t toks d') :
    t = [] ∨ t.getLast? = some '>' := by
  induction h with
  | nil => exact .inl rfl
  | @piece d d' d'' t u toks toks' h hu ih =>
    right
    rcases ih with rfl | hlast
    · rw [List.append_nil]
      exact h.getLast?
    · rw [List.getLast?_append, hlast, Option.some_or]
  | @characters d d' t u toks hne h hangle hu ih =>
    right
    rcases ih with rfl | hlast
    · obtain ⟨v, hv⟩ := hangle
      cases hv
    · rw [List.getLast?_append, hlast, Option.some_or]

/-- A tag has no closing tag among its tokens. -/
theorem closeTag_notMem_tagTokens (name name' : QName) (raws : List RawAttribute) (e : TagEnd)
    (stop start' stop' : Nat) : Token.closeTag name' start' stop' ∉ tagTokens name raws e stop := by
  cases e <;> simp [tagTokens, TagEnd.tokens]

/-- A piece with a closing tag among its tokens is the closing tag. -/
theorem Piece.eq_closeTag {d d' : Nat} {t : List Char} {before after : List Token} {name : QName}
    {start stop : Nat} (h : Piece d t (before ++ .closeTag name start stop :: after) d') :
    before = [] ∧ after = [] ∧ IsCloseTag name t ∧ start = 0 ∧ stop = byteLength t := by
  generalize htoks : before ++ .closeTag name start stop :: after = toks at h
  cases h with
  | comment | cdata | instruction => simp at htoks
  | closeTag hd h =>
    obtain ⟨rfl, htoks⟩ | ⟨htoks, hnil⟩ := List.append_eq_cons_iff.1 htoks
    · cases htoks
      exact ⟨rfl, rfl, h, rfl, rfl⟩
    · simp at hnil
  | tag =>
    have hmem : Token.closeTag name start stop ∈ before ++ .closeTag name start stop :: after := by
      simp
    rw [htoks] at hmem
    exact absurd hmem (closeTag_notMem_tagTokens _ _ _ _ _ _ _)

/-- In content, a closing tag that starts at `start` stands behind pieces and perhaps a stretch of
text, to which the tokens `before` belong. -/
def ClosesAt (d : Nat) (t y : List Char) (before : List Token) (name : QName) (start stop : Nat)
    (after : List Token) : Prop :=
  ∃ head w c rest toks d' after', t = head ++ (w ++ (c ++ rest)) ∧ Pieces d head toks d' ∧
    IsCharacters w ∧ IsCloseTag name c ∧
    Content d' (c ++ rest) y (.closeTag name 0 (byteLength c) :: after') ∧
    before = toks ++ (textTokens w).map (Token.move (byteLength head)) ∧
    start = byteLength (head ++ w) ∧ stop = byteLength (head ++ w) + byteLength c ∧
    after = after'.map (Token.move (byteLength (head ++ w)))

/-- A piece in front moves the place of a closing tag. -/
theorem ClosesAt.piece {d d' : Nat} {t u y : List Char} {toks before after : List Token}
    {name : QName} {start stop : Nat} (h : Piece d t toks d')
    (hu : ClosesAt d' u y before name start stop after) :
    ClosesAt d (t ++ u) y (toks ++ before.map (Token.move (byteLength t))) name
      (byteLength t + start) (byteLength t + stop) (after.map (Token.move (byteLength t))) := by
  obtain ⟨head, w, c, rest, toks', d'', after', rfl, hpieces, hw, hc, hcontent, rfl, rfl, rfl, rfl⟩ := hu
  refine ⟨t ++ head, w, c, rest, _, d'', after', by simp, .piece h hpieces, hw, hc, hcontent, ?_, ?_,
    ?_, ?_⟩
  all_goals simp [Nat.add_assoc]

/-- So does a stretch of text. -/
theorem ClosesAt.characters {d : Nat} {t u y : List Char} {before after : List Token}
    {name : QName} {start stop : Nat} (hne : t ≠ []) (ht : IsCharacters t)
    (hfollows : MarkupFollows (u ++ y)) (hu : ClosesAt d u y before name start stop after) :
    ClosesAt d (t ++ u) y (.text ⟨0, t⟩ :: before.map (Token.move (byteLength t))) name
      (byteLength t + start) (byteLength t + stop) (after.map (Token.move (byteLength t))) := by
  obtain ⟨head, w, c, rest, toks', d'', after', rfl, hpieces, hw, hc, hcontent, rfl, rfl, rfl, rfl⟩ := hu
  cases head with
  | nil =>
    -- the closing tag follows at once, so the text is the stretch in front of it
    obtain ⟨rfl, rfl⟩ := hpieces.eq_nil
    have hempty : w = [] := by
      cases w with
      | nil => rfl
      | cons a w =>
        rcases hfollows with hnil | ⟨z, hz⟩
        · cases hnil
        · cases hz
          exact absurd List.mem_cons_self hw.noMarkup
    subst hempty
    refine ⟨[], t, c, rest, [], d'', after', by simp, .nil, ht, hc, hcontent, ?_, ?_, ?_, ?_⟩
    all_goals simp [textTokens, hne]
  | cons a head =>
    have hangle : ∃ v, a :: head = '<' :: v := by
      rcases hfollows with hnil | ⟨z, hz⟩
      · cases hnil
      · cases hz
        exact ⟨head, rfl⟩
    refine ⟨t ++ a :: head, w, c, rest, _, d'', after', by simp, .characters hne ht hangle hpieces, hw,
      hc, hcontent, ?_, ?_, ?_, ?_⟩
    all_goals simp [Nat.add_assoc]

/-- A closing tag among moved tokens is a moved closing tag. -/
theorem eq_of_map_move {k : Nat} {toks before after : List Token} {name : QName} {start stop : Nat}
    (h : toks.map (Token.move k) = before ++ .closeTag name start stop :: after) :
    ∃ before' start' stop' after', toks = before' ++ .closeTag name start' stop' :: after' ∧
      before = before'.map (Token.move k) ∧ start = k + start' ∧ stop = k + stop' ∧
      after = after'.map (Token.move k) := by
  obtain ⟨before', rest, rfl, rfl, hrest⟩ := List.map_eq_append_iff.1 h
  obtain ⟨tok, after', rfl, htok, rfl⟩ := List.map_eq_cons_iff.1 hrest
  cases tok with
  | closeTag name' start' stop' =>
    cases htok
    exact ⟨before', start', stop', after', rfl, rfl, rfl, rfl, rfl⟩
  | entity | tagStart | attr | tagEnd | text => cases htok

/-- A closing tag among the tokens of content stands at a place in it. -/
theorem Content.closesAt {d : Nat} {t y : List Char} {before after : List Token} {name : QName}
    {start stop : Nat} (h : Content d t y (before ++ .closeTag name start stop :: after)) :
    ClosesAt d t y before name start stop after := by
  generalize htoks : before ++ .closeTag name start stop :: after = toks at h
  induction h generalizing before after start stop with
  | ended => simp at htoks
  | @closed d t y name' hd h =>
    obtain ⟨rfl, htoks⟩ | ⟨htoks, hnil⟩ := List.append_eq_cons_iff.1 htoks
    · cases htoks
      exact ⟨[], [], t, [], [], d, [], by simp, .nil, isCharacters_nil, h,
        by simpa using .closed hd h, rfl, rfl, by simp, rfl⟩
    · simp at hnil
  | cutOff hname h =>
    have hmem : Token.closeTag name start stop ∈ before ++ .closeTag name start stop :: after := by
      simp
    rw [htoks] at hmem
    exact absurd hmem (closeTag_notMem_tagTokens _ _ _ _ _ _ _)
  | @piece d d' t u y toks toks' h hu ih =>
    -- the closing tag is a token of the piece or of what follows it
    rcases List.append_eq_append_iff.1 htoks with ⟨a, rfl, ha⟩ | ⟨a, rfl, ha⟩
    · cases a with
      | nil =>
        obtain ⟨before', start, stop, after, rfl, hbefore, rfl, rfl, rfl⟩ :=
          @eq_of_map_move _ _ [] _ _ _ _ ha.symm
        rw [List.append_nil] at h
        rw [← List.append_nil before, hbefore]
        exact (ih rfl).piece h
      | cons tok a =>
        cases ha
        obtain ⟨rfl, rfl, hclose, rfl, rfl⟩ := h.eq_closeTag
        exact ⟨[], [], t, u, [], d, _, rfl, .nil, isCharacters_nil, hclose, .piece h hu, rfl, rfl,
          by simp, by simp⟩
    · obtain ⟨before, start, stop, after, rfl, rfl, rfl, rfl, rfl⟩ := eq_of_map_move ha
      exact (ih rfl).piece h
  | @characters d t u y toks hne h hfollows hu ih =>
    obtain ⟨rfl, htoks⟩ | ⟨before', rfl, hrest⟩ := List.append_eq_cons_iff.1 htoks
    · cases htoks
    · obtain ⟨before, start, stop, after, rfl, rfl, rfl, rfl, rfl⟩ := eq_of_map_move hrest
      exact (ih rfl).characters hne h hfollows

end StatementLens.Xml
