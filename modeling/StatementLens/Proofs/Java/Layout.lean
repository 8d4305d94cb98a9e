import StatementLens.Java.Token
import StatementLens.Proofs.Boundaries
import StatementLens.Proofs.Spans

/-!
# Layout of sources

A source that has been cut is its tokens with gaps between them. A gap begins and ends with white
space or a slash. A word is as long as it can be, and a symbol has one of its spellings. So no word
follows another without a gap.
-/

namespace StatementLens.Java

open Text

/-! ## Gaps -/

/-- Whether a character stands at an edge of a gap. -/
def isEdge (c : Char) : Bool := isBlankChar c || c = '/'

/-- White space and comments in front of `after`. A comment that ends with its line has no edge at its
end. -/
structure IsGap (gap after : List Char) : Prop where
  head : ∀ c, gap.head? = some c → isEdge c = true
  last : ∀ c, gap.getLast? = some c → isEdge c = true ∨ StopsAt (· ≠ '\n') after

namespace IsGap

theorem nil (after : List Char) : IsGap [] after := ⟨by simp, by simp⟩

theorem append {a b after : List Char} (ha : IsGap a (b ++ after)) (hb : IsGap b after) :
    IsGap (a ++ b) after := by
  constructor
  · cases a with
    | nil => exact hb.head
    | cons c a => exact ha.head
  · intro c hc
    rcases List.eq_nil_or_concat b with rfl | ⟨b, d, rfl⟩
    · rw [List.append_nil] at hc
      exact ha.last c hc
    · apply hb.last c
      simpa using hc

theorem of_blank {blanks : List Char} (h : ∀ c ∈ blanks, isBlankChar c = true) (after : List Char) :
    IsGap blanks after := by
  have hedge : ∀ c ∈ blanks, isEdge c = true := by
    intro c hc
    simp [isEdge, h c hc]
  constructor
  · intro c hc
    exact hedge c (List.mem_of_mem_head? hc)
  · intro c hc
    exact Or.inl (hedge c (List.mem_of_mem_getLast? hc))

end IsGap

private theorem exists_of_blockEndFrom {length n : Nat} {cs : List Char}
    (h : blockEndFrom length cs = some n) :
    ∃ body after, cs = body ++ (['*', '/'] ++ after) ∧ n = length + body.length + 2 := by
  fun_induction blockEndFrom length cs with
  | case1 length after =>
    cases h
    exact ⟨[], after, rfl, by simp⟩
  | case2 length c rest hne ih =>
    obtain ⟨body, after, rfl, rfl⟩ := ih h
    refine ⟨c :: body, after, rfl, ?_⟩
    rw [List.length_cons]
    omega
  | case3 => cases h

/-- A comment is a gap. -/
theorem exists_of_commentLength {cs : List Char} {n : Nat} (h : commentLength cs = some n) :
    ∃ comment after, cs = comment ++ after ∧ n = comment.length ∧ IsGap comment after := by
  unfold commentLength at h
  split at h
  · next rest =>
    -- behind the comment is a line feed, or nothing
    cases h
    refine ⟨['/', '/'] ++ rest.takeWhile (· ≠ '\n'), rest.dropWhile (· ≠ '\n'), ?_, ?_, ?_, ?_⟩
    · rw [List.append_assoc, List.takeWhile_append_dropWhile]
      rfl
    · simp only [List.length_append, List.length_cons, List.length_nil]
    · intro c hc
      cases hc
      decide
    · intro c hc
      exact Or.inr (stopsAt_dropWhile _ rest)
  · next rest =>
    obtain ⟨k, hk, rfl⟩ := Option.map_eq_some_iff.1 h
    obtain ⟨body, after, rfl, rfl⟩ := exists_of_blockEndFrom hk
    refine ⟨['/', '*'] ++ body ++ ['*', '/'], after, by simp, ?_, ?_, ?_⟩
    · simp only [List.length_append, List.length_cons, List.length_nil]
      omega
    · intro c hc
      cases hc
      decide
    · intro c hc
      rw [List.getLast?_append_of_ne_nil _ (by simp)] at hc
      cases hc
      exact Or.inl (by decide)
  · cases h

/-- Skipping leaves what follows a gap. A gap without comments is white space. -/
theorem exists_of_skipGap (fuel : Nat) (comments : List (List Char)) (s : Span) :
    ∃ gap after found, s.chars = gap ++ after ∧ IsGap gap after ∧
      (found = [] → ∀ c ∈ gap, isBlankChar c = true) ∧
      skipGap fuel comments s = (found ++ comments, ⟨s.offset + byteLength gap, after⟩) := by
  induction fuel generalizing comments s with
  | zero => exact ⟨[], s.chars, [], rfl, .nil _, by simp, rfl⟩
  | succ fuel ih =>
    obtain ⟨offset, cs⟩ := s
    obtain ⟨blanks, rest, rfl, hblanks, -, hsplit⟩ := exists_splitWhile isBlankChar offset cs
    have hdrop : Span.dropWhile isBlankChar ⟨offset, blanks ++ rest⟩
        = ⟨offset + byteLength blanks, rest⟩ := by
      unfold Span.dropWhile
      rw [hsplit]
    unfold skipGap
    simp only [hdrop]
    cases hcomment : commentLength rest with
    | none => exact ⟨blanks, rest, [], rfl, .of_blank hblanks rest, fun _ => hblanks, rfl⟩
    | some n =>
      obtain ⟨comment, more, rfl, rfl, hgap⟩ := exists_of_commentLength hcomment
      obtain ⟨gap, after, found, hmore, hgap', -, hskip⟩ :=
        ih (comment :: comments) ⟨offset + byteLength blanks + byteLength comment, more⟩
      simp only at hmore
      subst hmore
      refine ⟨blanks ++ (comment ++ gap), after, found ++ [comment], by simp, ?_, by simp, ?_⟩
      · exact (IsGap.of_blank hblanks _).append (hgap.append hgap')
      · simp only [Span.drop, List.take_left, List.drop_left, hskip, byteLength_append,
          List.append_assoc, List.singleton_append]
        congr 2
        omega

/-! ## Words and symbols -/

/-- Whether characters make a word. -/
def IsWord (chars : List Char) : Prop :=
  ∃ c rest, chars = c :: rest ∧ isWordStart c = true ∧ ∀ d ∈ rest, isWordPart d = true

theorem isWordPart_of_isWordStart {c : Char} (h : isWordStart c = true) : isWordPart c = true := by
  simp only [isWordStart, Bool.or_eq_true, decide_eq_true_eq] at h
  rcases h with (hstart | rfl) | rfl
  · simp [isWordPart, isIdentifierContinue_of_start hstart]
  · decide
  · decide

/-- What is known of the characters of a token and of those behind it. -/
def IsSpelled (kind : TokenKind) (chars after : List Char) : Prop :=
  match kind with
  | .word _ => IsWord chars ∧ StopsAt isWordPart after
  | .symbol s => (chars, s) ∈ Symbol.spellings
  | _ => True

private theorem take_mem_spellings {cs : List Char} {s : Symbol} {n : Nat}
    (h : Symbol.first? cs = some (s, n)) : (cs.take n, s) ∈ Symbol.spellings := by
  unfold Symbol.first? at h
  obtain ⟨⟨spelling, symbol⟩, hfind, heq⟩ := Option.map_eq_some_iff.1 h
  cases heq
  have hprefix := List.find?_some hfind
  obtain ⟨after, rfl⟩ := List.isPrefixOf_iff_prefix.1 hprefix
  rw [List.take_left]
  exact List.mem_of_find?_eq_some hfind

private theorem isSpelled_of_cutText {block : Bool} {opening n : Nat} {closed embedded kind : TokenKind}
    {around around' : List Interrupted} {cs : List Char} {chars after : List Char}
    (h : cutText block opening closed embedded around cs = some (kind, n, around'))
    (hclosed : IsSpelled closed chars after) (hembedded : IsSpelled embedded chars after) :
    IsSpelled kind chars after := by
  unfold cutText at h
  obtain ⟨⟨stop, length⟩, -, heq⟩ := Option.map_eq_some_iff.1 h
  cases stop with
  | closed =>
    cases heq
    exact hclosed
  | embedded =>
    cases heq
    exact hembedded

private theorem isSpelled_of_cutSymbol {around around' : List Interrupted} {cs : List Char}
    {kind : TokenKind} {n : Nat} (h : cutSymbol around cs = some (kind, n, around')) :
    IsSpelled kind (cs.take n) (cs.drop n) := by
  unfold cutSymbol at h
  split at h
  · cases h
  · next hfirst =>
    cases h
    exact take_mem_spellings hfirst
  · next t rest hfirst =>
    split at h
    · exact isSpelled_of_cutText h trivial trivial
    · cases h
      exact take_mem_spellings hfirst
  · next hfirst _ _ =>
    cases h
    exact take_mem_spellings hfirst

/-- Words are as long as they can be, and symbols have their spellings. -/
theorem isSpelled_of_cutToken {around around' : List Interrupted} {cs : List Char} {kind : TokenKind}
    {n : Nat} (h : cutToken around cs = some (kind, n, around')) :
    IsSpelled kind (cs.take n) (cs.drop n) := by
  unfold cutToken at h
  split at h
  · cases h
  · exact isSpelled_of_cutText h trivial trivial
  · exact isSpelled_of_cutText h trivial trivial
  · obtain ⟨k, -, heq⟩ := Option.map_eq_some_iff.1 h
    cases heq
    trivial
  · next c rest _ _ _ =>
    split at h
    · next hstart =>
      cases h
      have hsplit : c :: rest = (c :: rest.takeWhile isWordPart) ++ rest.dropWhile isWordPart := by
        rw [List.cons_append, List.takeWhile_append_dropWhile]
      rw [hsplit, List.take_left, List.drop_left]
      refine ⟨⟨c, _, rfl, hstart, ?_⟩, stopsAt_dropWhile isWordPart rest⟩
      intro d hd
      exact List.mem_takeWhile_imp hd
    · split at h
      · obtain ⟨left, -, heq⟩ := Option.map_eq_some_iff.1 h
        cases heq
        trivial
      · exact isSpelled_of_cutSymbol h

/-- No token begins with a line feed. -/
theorem cutToken_newline (around : List Interrupted) (cs : List Char) :
    cutToken around ('\n' :: cs) = none := by
  have hword : isWordStart '\n' = false := by decide
  have hdigit : ('\n' : Char).isDigit = false := by decide
  have hsymbol : Symbol.first? ('\n' :: cs) = none := rfl
  simp [cutToken, cutSymbol, hword, hdigit, hsymbol]

/-! ## Tokens -/

/-- The tokens stand in a text that starts at `offset`, with gaps between them. -/
inductive Laid : Nat → List Char → List Token → Prop where
  | nil {offset : Nat} {gap : List Char} (isGap : IsGap gap []) : Laid offset gap []
  | cons {offset : Nat} {gap after : List Char} {t : Token} {ts : List Token}
      (head : ∀ c, gap.head? = some c → isEdge c = true)
      (last : ∀ c, gap.getLast? = some c → isEdge c = true)
      (blank : t.comments = [] → ∀ c ∈ gap, isBlankChar c = true)
      (start : t.start = offset + byteLength gap)
      (stop : t.stop = t.start + byteLength t.chars)
      (glued : ∀ u ∈ ts.head?, u.glued = decide (u.start = t.stop))
      (spelled : IsSpelled t.kind t.chars after)
      (rest : Laid (t.start + byteLength t.chars) after ts) :
      Laid offset (gap ++ (t.chars ++ after)) (t :: ts)

/-- The first token stands behind a gap. -/
theorem Laid.exists_of_cons {offset : Nat} {cs : List Char} {t : Token} {ts : List Token}
    (h : Laid offset cs (t :: ts)) :
    ∃ gap after, cs = gap ++ (t.chars ++ after) ∧ (∀ c, gap.head? = some c → isEdge c = true) ∧
      (∀ c, gap.getLast? = some c → isEdge c = true) ∧ t.start = offset + byteLength gap ∧
      IsSpelled t.kind t.chars after ∧ Laid (t.start + byteLength t.chars) after ts := by
  cases h with
  | cons head last _ start _ _ spelled rest => exact ⟨_, _, rfl, head, last, start, spelled, rest⟩

theorem Laid.exists_isSpelled {offset : Nat} {cs : List Char} {ts : List Token} (h : Laid offset cs ts)
    {t : Token} (ht : t ∈ ts) : ∃ after, IsSpelled t.kind t.chars after := by
  induction h with
  | nil isGap => cases ht
  | cons _ _ _ _ _ _ spelled rest ih =>
    rcases List.mem_cons.1 ht with rfl | ht
    · exact ⟨_, spelled⟩
    · exact ih ht

/-- The tokens that are cut stand in the text. The first of them is glued if it begins at `stop`. -/
theorem exists_laid_of_cutTokens {fuel stop : Nat} {around : List Interrupted}
    {done ts : List Token} {s : Span} (h : cutTokens fuel around done stop s = some ts) :
    ∃ more, ts = done.reverse ++ more ∧ Laid s.offset s.chars more ∧
      ∀ t ∈ more.head?, t.glued = decide (t.start = stop) := by
  induction fuel generalizing around done stop s with
  | zero => cases h
  | succ fuel ih =>
    obtain ⟨gap, after, found, hchars, hgap, hblank, hskip⟩ := exists_of_skipGap (fuel + 1) [] s
    rw [hchars]
    simp only [cutTokens, hskip, Span.atEnd, List.append_nil] at h
    split at h
    · next hend =>
      obtain rfl : after = [] := List.isEmpty_iff.1 hend
      cases h
      exact ⟨[], by simp, by simpa using .nil hgap, by simp⟩
    · obtain ⟨⟨kind, n, around'⟩, hcut, hrest⟩ := Option.bind_eq_some_iff.1 h
      obtain ⟨more, rfl, hlaid, hglued⟩ := ih hrest
      have hspelled := isSpelled_of_cutToken hcut
      -- a comment that ends with its line is followed by a line feed, where no token begins
      have hlast : ∀ c, gap.getLast? = some c → isEdge c = true := by
        intro c hc
        rcases hgap.last c hc with hedge | hstop
        · exact hedge
        · cases after with
          | nil => cases hcut
          | cons d after =>
            obtain rfl : d = '\n' := by simpa using hstop
            rw [cutToken_newline] at hcut
            cases hcut
      have hcons : ∀ t : Token, t.kind = kind → t.chars = after.take n →
          t.start = s.offset + byteLength gap → t.stop = t.start + byteLength t.chars →
          t.comments = found.reverse → Laid s.offset (gap ++ after) (t :: more) := by
        intro t hkind hchars hstart hstop hcomments
        rw [← List.take_append_drop n after, ← hchars]
        rw [← hkind, ← hchars] at hspelled
        have hstop' : t.stop = s.offset + byteLength gap + byteLength (after.take n) := by
          rw [hstop, hstart, hchars]
        refine Laid.cons hgap.head hlast ?_ hstart hstop (hstop' ▸ hglued) hspelled ?_
        · intro hnone
          exact hblank (List.reverse_eq_nil_iff.1 (hcomments ▸ hnone))
        · rw [hstart, hchars]
          exact hlaid
      refine ⟨_ :: more, by rw [List.reverse_cons, List.append_assoc]; rfl, hcons _ rfl rfl rfl rfl rfl, ?_⟩
      rintro t ⟨⟩
      rfl

/-- The tokens of a source stand in it, behind a byte order mark. -/
theorem exists_laid_of_tokens {text : List Char} {ts : List Token} (h : tokens text = some ts) :
    ∃ mark rest, text = mark ++ rest ∧ Laid (byteLength mark) rest ts := by
  unfold tokens at h
  obtain ⟨more, rfl, hlaid, -⟩ := exists_laid_of_cutTokens h
  split at hlaid
  · next hmark =>
    cases text with
    | nil => cases hmark
    | cons c text => exact ⟨[c], text, rfl, by simpa [Span.tail, Span.ofText] using hlaid⟩
  · exact ⟨[], text, rfl, hlaid⟩

/-- Behind some of the tokens stand the others. -/
theorem Laid.of_append {offset : Nat} {cs : List Char} {front ts : List Token}
    (h : Laid offset cs (front ++ ts)) :
    ∃ before rest, cs = before ++ rest ∧ Laid (offset + byteLength before) rest ts := by
  induction front generalizing offset cs with
  | nil => exact ⟨[], cs, rfl, h⟩
  | cons t front ih =>
    obtain ⟨gap, after, rfl, -, -, hstart, -, hrest⟩ := Laid.exists_of_cons h
    obtain ⟨before, rest, rfl, hlaid⟩ := ih hrest
    refine ⟨gap ++ (t.chars ++ before), rest, by simp, ?_⟩
    rw [hstart] at hlaid
    rw [byteLength_append, byteLength_append, ← Nat.add_assoc, ← Nat.add_assoc]
    exact hlaid

end StatementLens.Java
