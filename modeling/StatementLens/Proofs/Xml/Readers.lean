import StatementLens.Proofs.Spans
import StatementLens.Xml.Token

/-!
# What readers take

A reader that ends on a sign of its own (a quote, an angle bracket) takes the same piece off every
text that begins with the piece, wherever the text starts and whatever follows. A reader that ends
where a run of characters ends also looks at the one character behind its piece. The statements here
say so for each reader, with what is known of the piece.
-/

namespace StatementLens.Xml

open Text

/-- A computation that goes on after another one succeeds if both do. -/
theorem bind_eq_ok {ε α β : Type} {x : Except ε α} {f : α → Except ε β} {b : β} :
    (x >>= f) = .ok b ↔ ∃ a, x = .ok a ∧ f a = .ok b := by
  cases x with
  | error e => exact ⟨fun h => (by cases h), fun ⟨a, h, _⟩ => (by cases h)⟩
  | ok a => exact ⟨fun h => ⟨a, rfl, h⟩, fun ⟨a', h, h'⟩ => by cases h; exact h'⟩

@[simp]
theorem ok_bind {ε α β : Type} (a : α) (f : α → Except ε β) :
    ((Except.ok a : Except ε α) >>= f) = f a := rfl

/-- A step without a token succeeds if its computation and what goes on from it do. -/
theorem after_eq_ok {α β : Type} {done done' : List Token} {step : Except Fault α}
    {next : α → Scan β} {b : β} :
    Scan.after done step next = (done', .ok b) ↔ ∃ a, step = .ok a ∧ next a = (done', .ok b) := by
  cases step with
  | error e => exact ⟨fun h => (by cases h), fun ⟨a, h, _⟩ => (by cases h)⟩
  | ok a => exact ⟨fun h => ⟨a, rfl, h⟩, fun ⟨a', h, h'⟩ => by cases h; exact h'⟩

@[simp]
theorem after_ok {α β : Type} (done : List Token) (a : α) (next : α → Scan β) :
    Scan.after done (.ok a) next = next a := rfl

/-! ## Pieces -/

/-- The reader takes the piece `t` off every text that begins with it. The value that it makes of the
piece may depend on where the text starts. -/
def Takes {α : Type} (read : Reader α) (t : List Char) (value : Nat → α) : Prop :=
  ∀ o y, read ⟨o, t ++ y⟩ = .ok (value o, ⟨o + byteLength t, y⟩)

/-- The reader without a value takes the piece `t` off every text that begins with it. -/
def Skips (read : Span → Except Fault Span) (t : List Char) : Prop :=
  ∀ o y, read ⟨o, t ++ y⟩ = .ok ⟨o + byteLength t, y⟩

/-! ## Beginnings -/

/-- Whether a text begins with a word does not depend on what follows as many characters. -/
theorem isPrefixOf_append_of_le {w u : List Char} (h : w.length ≤ u.length) (y : List Char) :
    w.isPrefixOf (u ++ y) = w.isPrefixOf u := by
  rw [Bool.eq_iff_iff, List.isPrefixOf_iff_prefix, List.isPrefixOf_iff_prefix]
  constructor
  · intro hw
    exact List.prefix_of_prefix_length_le hw (List.prefix_append u y) h
  · intro hw
    exact hw.trans (List.prefix_append u y)

/-- Whether a text begins with a word does not depend on what follows a character that does not
stand in the word. -/
theorem isPrefixOf_append_of_mem {w t : List Char} {c : Char} (ht : c ∈ t) (hw : c ∉ w)
    (y : List Char) : w.isPrefixOf (t ++ y) = w.isPrefixOf t := by
  rw [Bool.eq_iff_iff, List.isPrefixOf_iff_prefix, List.isPrefixOf_iff_prefix]
  constructor
  · intro h
    rcases List.prefix_or_prefix_of_prefix h (List.prefix_append t y) with hwt | htw
    · exact hwt
    · exact absurd (htw.subset ht) hw
  · intro h
    exact h.trans (List.prefix_append t y)

/-! ## Runs of characters -/

/-- White space is skipped up to where it stops. -/
theorem skipSpace_append {t y : List Char} (ht : ∀ c ∈ t, isSpace c = true)
    (hy : StopsAt isSpace y) (o : Nat) : skipSpace ⟨o, t ++ y⟩ = ⟨o + byteLength t, y⟩ := by
  unfold skipSpace Span.dropWhile
  rw [splitWhile_append ht hy]

/-- Any text is white space and a rest that begins with none. -/
theorem exists_skipSpace (o : Nat) (cs : List Char) :
    ∃ t y, cs = t ++ y ∧ (∀ c ∈ t, isSpace c = true) ∧ StopsAt isSpace y ∧
      skipSpace ⟨o, cs⟩ = ⟨o + byteLength t, y⟩ := by
  obtain ⟨t, y, hcs, ht, hy, hsplit⟩ := exists_splitWhile isSpace o cs
  exact ⟨t, y, hcs, ht, hy, by unfold skipSpace Span.dropWhile; rw [hsplit]⟩

/-- A text that begins with a sign that is no white space has none to skip. -/
theorem skipSpace_cons {c : Char} (hc : isSpace c = false) (o : Nat) (y : List Char) :
    skipSpace ⟨o, c :: y⟩ = ⟨o, c :: y⟩ :=
  skipSpace_append (t := []) (fun _ h => by cases h) (stopsAt_cons.2 hc) o

theorem isSpace_ne_angle {c : Char} (h : isSpace c = true) : c ≠ '<' := by
  rintro rfl
  exact absurd h (by decide)

theorem isNameChar_ne_angle {c : Char} (h : isNameChar c = true) : c ≠ '<' := by
  rintro rfl
  exact absurd h (by decide)

/-- White space, of which there is some. -/
theorem takeSpace_append {t y : List Char} (hne : t ≠ []) (ht : ∀ c ∈ t, isSpace c = true)
    (hy : StopsAt isSpace y) (o : Nat) : takeSpace ⟨o, t ++ y⟩ = .ok ⟨o + byteLength t, y⟩ := by
  obtain ⟨c, t, rfl⟩ := List.exists_cons_of_ne_nil hne
  unfold takeSpace
  rw [skipSpace_append ht hy]
  simp [Span.head?, ht c List.mem_cons_self]

/-- White space that has been taken is not empty, and nothing of it is left. -/
theorem takeSpace_ok {o : Nat} {cs : List Char} {r : Span} (h : takeSpace ⟨o, cs⟩ = .ok r) :
    ∃ t y, cs = t ++ y ∧ t ≠ [] ∧ (∀ c ∈ t, isSpace c = true) ∧ StopsAt isSpace y ∧
      r = ⟨o + byteLength t, y⟩ := by
  obtain ⟨t, y, rfl, ht, hy, hskip⟩ := exists_skipSpace o cs
  refine ⟨t, y, rfl, ?_, ht, hy, ?_⟩
  · rintro rfl
    cases y with
    | nil => cases h
    | cons c y =>
      simp only [takeSpace, Span.head?, List.nil_append, List.head?_cons, stopsAt_cons.1 hy] at h
      cases h
  · unfold takeSpace at h
    split at h
    · cases h
    · split at h
      · rw [hskip] at h
        cases h
        rfl
      · cases h

/-! ## Signs and words -/

/-- A sign is taken in front of anything. -/
theorem takeChar_append (c : Char) (o : Nat) (y : List Char) :
    takeChar c ⟨o, c :: y⟩ = .ok ⟨o + c.utf8Size, y⟩ := by
  simp [takeChar, Span.head?, Span.tail]

/-- What has been taken is the sign. -/
theorem takeChar_ok {c : Char} {o : Nat} {cs : List Char} {r : Span}
    (h : takeChar c ⟨o, cs⟩ = .ok r) : ∃ y, cs = c :: y ∧ r = ⟨o + c.utf8Size, y⟩ := by
  cases cs with
  | nil => cases h
  | cons d y =>
    by_cases hd : d = c
    · subst hd
      rw [takeChar_append] at h
      cases h
      exact ⟨y, rfl, rfl⟩
    · simp only [takeChar, Span.head?, List.head?_cons, if_neg hd] at h
      cases h

theorem drop_append (t y : List Char) (o : Nat) :
    Span.drop t.length ⟨o, t ++ y⟩ = ⟨o + byteLength t, y⟩ := by
  unfold Span.drop
  rw [List.take_left, List.drop_left]

/-- A text starts with a word if it is the word and something behind it. -/
theorem startsWith_iff {w cs : List Char} {o : Nat} :
    Span.startsWith w ⟨o, cs⟩ = true ↔ ∃ y, cs = w ++ y := by
  unfold Span.startsWith
  rw [List.isPrefixOf_iff_prefix]
  exact ⟨fun ⟨y, h⟩ => ⟨y, h.symm⟩, fun ⟨y, h⟩ => ⟨y, h.symm⟩⟩

/-- A word is taken in front of anything. -/
theorem takeText_append (text : String) (o : Nat) (y : List Char) :
    takeText text ⟨o, text.toList ++ y⟩ = .ok ⟨o + byteLength text.toList, y⟩ := by
  unfold takeText
  rw [if_pos (startsWith_iff.2 ⟨y, rfl⟩), ← String.length_toList, drop_append]

/-- What has been taken is the word. -/
theorem takeText_ok {text : String} {o : Nat} {cs : List Char} {r : Span}
    (h : takeText text ⟨o, cs⟩ = .ok r) :
    ∃ y, cs = text.toList ++ y ∧ r = ⟨o + byteLength text.toList, y⟩ := by
  by_cases hw : Span.startsWith text.toList ⟨o, cs⟩ = true
  · obtain ⟨y, rfl⟩ := startsWith_iff.1 hw
    rw [takeText_append] at h
    cases h
    exact ⟨y, rfl, rfl⟩
  · unfold takeText at h
    rw [if_neg hw] at h
    cases h

theorem takeQuote_append {c : Char} (hc : (c = '"' || c = '\'') = true) (o : Nat) (y : List Char) :
    takeQuote ⟨o, c :: y⟩ = .ok (c, ⟨o + c.utf8Size, y⟩) := by
  unfold takeQuote
  simp only [Span.head?, List.head?_cons, if_pos hc, Span.tail]

/-- What has been taken is one of the two quotes. -/
theorem takeQuote_ok {c : Char} {o : Nat} {cs : List Char} {r : Span}
    (h : takeQuote ⟨o, cs⟩ = .ok (c, r)) :
    ∃ y, cs = c :: y ∧ (c = '"' || c = '\'') = true ∧ r = ⟨o + c.utf8Size, y⟩ := by
  cases cs with
  | nil => cases h
  | cons d y =>
    by_cases hd : (d = '"' || d = '\'') = true
    · rw [takeQuote_append hd] at h
      cases h
      exact ⟨y, rfl, hd, rfl⟩
    · unfold takeQuote at h
      simp only [Span.head?, List.head?_cons, if_neg hd] at h
      cases h

/-- An equals sign with white space around it. -/
theorem takeEquals_append {t u y : List Char} (ht : ∀ c ∈ t, isSpace c = true)
    (hu : ∀ c ∈ u, isSpace c = true) (hy : StopsAt isSpace y) (o : Nat) :
    takeEquals ⟨o, t ++ '=' :: (u ++ y)⟩ = .ok ⟨o + byteLength (t ++ '=' :: u), y⟩ := by
  unfold takeEquals
  rw [skipSpace_append ht (stopsAt_cons.2 (by decide)), takeChar_append, ok_bind,
    skipSpace_append hu hy]
  simp [Nat.add_assoc, pure, Except.pure]

/-- What has been taken is an equals sign with white space around it. -/
theorem takeEquals_ok {o : Nat} {cs : List Char} {r : Span} (h : takeEquals ⟨o, cs⟩ = .ok r) :
    ∃ t u y, cs = t ++ '=' :: (u ++ y) ∧ (∀ c ∈ t, isSpace c = true) ∧
      (∀ c ∈ u, isSpace c = true) ∧ StopsAt isSpace y ∧
      r = ⟨o + byteLength (t ++ '=' :: u), y⟩ := by
  obtain ⟨t, y, rfl, ht, -, hskip⟩ := exists_skipSpace o cs
  obtain ⟨s, hs, hr⟩ := bind_eq_ok.1 h
  rw [hskip] at hs
  obtain ⟨y, rfl, rfl⟩ := takeChar_ok hs
  obtain ⟨u, y, rfl, hu, hy, -⟩ := exists_skipSpace 0 y
  refine ⟨t, u, y, rfl, ht, hu, hy, ?_⟩
  rw [takeEquals_append ht hu hy] at h
  cases h
  rfl

/-! ## Names -/

theorem takeNameOrEnd_append {n y : List Char} (hn : ∀ c ∈ n, isNameChar c = true)
    (hfirst : (n.head?.map isNameStart).getD false = true) (hy : StopsAt isNameChar y) (o : Nat) :
    takeNameOrEnd ⟨o, n ++ y⟩ = .ok (n, ⟨o + byteLength n, y⟩) := by
  cases n with
  | nil => cases hfirst
  | cons c n =>
    have hc : isNameStart c = true := hfirst
    unfold takeNameOrEnd
    rw [splitWhile_append hn hy]
    simp [Span.head?, hc]

/-- A name is taken in front of what cannot go on with it. -/
theorem takeName_append {n y : List Char} (hn : ∀ c ∈ n, isNameChar c = true)
    (hfirst : (n.head?.map isNameStart).getD false = true) (hy : StopsAt isNameChar y) (o : Nat) :
    takeName ⟨o, n ++ y⟩ = .ok (n, ⟨o + byteLength n, y⟩) := by
  unfold takeName
  rw [takeNameOrEnd_append hn hfirst hy]
  cases n with
  | nil => cases hfirst
  | cons c n => rfl

/-- What has been taken is a name, or the text is at its end. -/
theorem takeNameOrEnd_ok {o : Nat} {cs n : List Char} {r : Span}
    (h : takeNameOrEnd ⟨o, cs⟩ = .ok (n, r)) :
    (cs = [] ∧ n = [] ∧ r = ⟨o, []⟩) ∨
      ∃ y, cs = n ++ y ∧ (∀ c ∈ n, isNameChar c = true) ∧
        (n.head?.map isNameStart).getD false = true ∧ StopsAt isNameChar y ∧
        r = ⟨o + byteLength n, y⟩ := by
  cases cs with
  | nil =>
    cases h
    exact .inl ⟨rfl, rfl, rfl⟩
  | cons c cs =>
    right
    by_cases hc : isNameStart c = true
    · obtain ⟨t, y, hcs, ht, hy, hsplit⟩ := exists_splitWhile isNameChar o (c :: cs)
      unfold takeNameOrEnd at h
      simp only [Span.head?, List.head?_cons, if_pos hc, hsplit] at h
      cases h
      cases n with
      | nil =>
        rw [List.nil_append] at hcs
        subst hcs
        have hname : isNameChar c = true := by simp [isNameChar, hc]
        rw [stopsAt_cons.1 hy] at hname
        cases hname
      | cons d n =>
        rw [List.cons_append, List.cons.injEq] at hcs
        obtain ⟨rfl, rfl⟩ := hcs
        exact ⟨y, rfl, ht, hc, hy, rfl⟩
    · simp only [takeNameOrEnd, Span.head?, List.head?_cons, if_neg hc] at h
      cases h

/-- What has been taken is a name, and nothing that could go on with it follows. -/
theorem takeName_ok {o : Nat} {cs n : List Char} {r : Span} (h : takeName ⟨o, cs⟩ = .ok (n, r)) :
    ∃ y, cs = n ++ y ∧ (∀ c ∈ n, isNameChar c = true) ∧
      (n.head?.map isNameStart).getD false = true ∧ StopsAt isNameChar y ∧
      r = ⟨o + byteLength n, y⟩ := by
  obtain ⟨⟨m, s⟩, hend, hrest⟩ := bind_eq_ok.1 h
  by_cases hm : m.isEmpty = true
  · simp only [hm, if_true] at hrest
    cases hrest
  · simp only [hm] at hrest
    cases hrest
    rcases takeNameOrEnd_ok hend with ⟨-, rfl, -⟩ | hname
    · exact absurd rfl hm
    · exact hname

/-- The qualified name that characters spell. -/
def QName.ofChars (cs : List Char) : QName :=
  match cs.span (· ≠ ':') with
  | (front, []) => ⟨[], front⟩
  | (front, _ :: name) => ⟨front, name⟩

/-- A name as it is written is its local part, or the local part behind a prefix and a colon. -/
theorem QName.ofChars_cases (n : List Char) :
    n = (QName.ofChars n).name ∧ (QName.ofChars n).space = [] ∨
      n = (QName.ofChars n).space ++ ':' :: (QName.ofChars n).name := by
  have hn : n.takeWhile (· ≠ ':') ++ n.dropWhile (· ≠ ':') = n := List.takeWhile_append_dropWhile
  unfold ofChars
  rw [List.span_eq_takeWhile_dropWhile]
  cases hback : n.dropWhile (· ≠ ':') with
  | nil =>
    rw [hback, List.append_nil] at hn
    exact .inl ⟨hn.symm, rfl⟩
  | cons c name =>
    -- the first part stops at a colon
    have hc : c = ':' := by
      have hstops := stopsAt_dropWhile (· ≠ ':') n
      rw [hback, stopsAt_cons] at hstops
      simpa using hstops
    rw [hback, hc] at hn
    exact .inr hn.symm

/-- Whether both parts of a qualified name are names. -/
def QName.isValid (q : QName) : Bool :=
  !(q.name.contains ':' || q.name.isEmpty || !beginsLikeName q.name || !beginsLikeName q.space)

/-- A qualified name is all name characters that stand there, if they are valid as one. -/
private theorem takeQName_eq (s : Span) :
    takeQName s = if (QName.ofChars (s.splitWhile isNameChar).1).isValid
      then .ok (QName.ofChars (s.splitWhile isNameChar).1, (s.splitWhile isNameChar).2)
      else fail .invalidName s := by
  unfold takeQName QName.ofChars QName.isValid
  generalize Span.splitWhile isNameChar s = split
  rcases split with ⟨chars, rest⟩
  dsimp only
  rcases chars.span (· ≠ ':') with ⟨front, _ | ⟨c, name⟩⟩
  all_goals
    dsimp only
    split
    next h => rw [h, if_neg (by decide)]
    next h => rw [Bool.eq_false_iff.2 h, if_pos (by decide)]

/-- A qualified name is made of name characters only, and what follows them does not matter. -/
theorem takeQName_ok {o : Nat} {cs : List Char} {q : QName} {r : Span}
    (h : takeQName ⟨o, cs⟩ = .ok (q, r)) :
    ∃ n y, cs = n ++ y ∧ q = .ofChars n ∧ q.isValid = true ∧ (∀ c ∈ n, isNameChar c = true) ∧
      StopsAt isNameChar y ∧ r = ⟨o + byteLength n, y⟩ := by
  obtain ⟨n, y, rfl, hn, hy, hsplit⟩ := exists_splitWhile isNameChar o cs
  rw [takeQName_eq, hsplit] at h
  by_cases hvalid : (QName.ofChars n).isValid = true
  · rw [if_pos hvalid] at h
    cases h
    exact ⟨n, y, rfl, rfl, hvalid, hn, hy, rfl⟩
  · rw [if_neg hvalid] at h
    cases h

/-- A valid qualified name is taken in front of what cannot go on with it. -/
theorem takeQName_append {n y : List Char} (hvalid : (QName.ofChars n).isValid = true)
    (hn : ∀ c ∈ n, isNameChar c = true) (hy : StopsAt isNameChar y) (o : Nat) :
    takeQName ⟨o, n ++ y⟩ = .ok (.ofChars n, ⟨o + byteLength n, y⟩) := by
  rw [takeQName_eq, splitWhile_append hn hy, if_pos hvalid]

theorem ne_nil_of_isValid {n : List Char} (h : (QName.ofChars n).isValid = true) : n ≠ [] := by
  rintro rfl
  exact absurd h (by decide)

/-- The text begins with a character that stands in names. -/
def StartsName (t : List Char) : Prop := ∃ c u, t = c :: u ∧ isNameChar c = true

/-! ## Up to a sign -/

/-- The piece `t` runs up to the first place where `stop` accepts what follows, which is `y`. -/
structure RunsTo (stop : List Char → Bool) (t y : List Char) : Prop where
  chars : ∀ c ∈ t, isXmlChar c = true
  goesOn : ∀ u v, t = u ++ v → v ≠ [] → stop (v ++ y) = false
  ends : y = [] ∨ ∃ c z, y = c :: z ∧ isXmlChar c = true ∧ stop y = true

/-- A run goes on behind each of its characters. -/
theorem RunsTo.tail {stop : List Char → Bool} {c : Char} {t y : List Char}
    (h : RunsTo stop (c :: t) y) : RunsTo stop t y :=
  ⟨fun d hd => h.chars d (List.mem_cons_of_mem c hd),
    fun u v huv hv => h.goesOn (c :: u) v (by rw [huv]; rfl) hv, h.ends⟩

/-- A run is taken up to where it stops, behind what has been taken before. -/
private theorem takeUntilOnto_append {stop : List Char → Bool} {t y : List Char}
    (h : RunsTo stop t y) (taken : List Char) (o : Nat) :
    takeUntilOnto stop taken o (t ++ y) = .ok (taken.reverse ++ t, ⟨o + byteLength t, y⟩) := by
  induction t generalizing taken o with
  | nil =>
    rcases h.ends with rfl | ⟨c, z, rfl, hc, hstop⟩
    · simp [takeUntilOnto]
    · simp [takeUntilOnto, hc, hstop]
  | cons c t ih =>
    have hc := h.chars c List.mem_cons_self
    have hgo : stop (c :: (t ++ y)) = false := h.goesOn [] (c :: t) rfl (List.cons_ne_nil c t)
    rw [List.cons_append, takeUntilOnto]
    simp only [hc, hgo, Bool.not_true, Bool.false_eq_true, if_false]
    rw [ih h.tail]
    simp [Nat.add_assoc]

/-- A run is taken up to where it stops. -/
theorem takeUntil_append {stop : List Char → Bool} {t y : List Char} (h : RunsTo stop t y)
    (o : Nat) : takeUntil stop ⟨o, t ++ y⟩ = .ok (t, ⟨o + byteLength t, y⟩) :=
  takeUntilOnto_append h [] o

private theorem takeUntilOnto_ok {stop : List Char → Bool} {taken : List Char} {o : Nat}
    {cs v : List Char} {r : Span} (h : takeUntilOnto stop taken o cs = .ok (v, r)) :
    ∃ t y, cs = t ++ y ∧ RunsTo stop t y := by
  induction cs generalizing taken o with
  | nil =>
    refine ⟨[], [], rfl, fun c hc => (by cases hc), fun u v huv hv => ?_, .inl rfl⟩
    exact absurd (List.nil_eq_append_iff.1 huv).2 hv
  | cons c cs ih =>
    rw [takeUntilOnto] at h
    by_cases hc : isXmlChar c = true
    · by_cases hstop : stop (c :: cs) = true
      · refine ⟨[], c :: cs, rfl, fun c hc => (by cases hc), fun u v huv hv => ?_,
          .inr ⟨c, cs, rfl, hc, hstop⟩⟩
        exact absurd (List.nil_eq_append_iff.1 huv).2 hv
      · simp only [hc, hstop, Bool.not_true, Bool.false_eq_true, if_false] at h
        obtain ⟨t, y, rfl, hrun⟩ := ih h
        refine ⟨c :: t, y, rfl, ?_, ?_, hrun.ends⟩
        · intro d hd
          rcases List.mem_cons.1 hd with rfl | hd
          · exact hc
          · exact hrun.chars d hd
        · intro u v huv hv
          cases u with
          | nil =>
            rw [List.nil_append] at huv
            rw [← huv]
            exact Bool.eq_false_iff.2 hstop
          | cons d u => exact hrun.goesOn u v (List.cons.inj huv).2 hv
    · simp only [hc, Bool.not_false, if_true] at h
      cases h

/-- What has been taken is a run. -/
theorem takeUntil_ok {stop : List Char → Bool} {o : Nat} {cs v : List Char} {r : Span}
    (h : takeUntil stop ⟨o, cs⟩ = .ok (v, r)) :
    ∃ y, cs = v ++ y ∧ RunsTo stop v y ∧ r = ⟨o + byteLength v, y⟩ := by
  obtain ⟨t, y, rfl, hrun⟩ := takeUntilOnto_ok h
  rw [takeUntil_append hrun] at h
  cases h
  exact ⟨y, rfl, hrun, rfl⟩

/-- A character at which a run stops does not stand in the run. -/
theorem RunsTo.not_mem {stop : List Char → Bool} {t y : List Char} (h : RunsTo stop t y) {c : Char}
    (hc : ∀ z, stop (c :: z) = true) : c ∉ t := by
  intro hmem
  obtain ⟨u, v, rfl⟩ := List.append_of_mem hmem
  have hgo := h.goesOn u (c :: v) rfl (List.cons_ne_nil c v)
  rw [List.cons_append, hc] at hgo
  cases hgo

/-- A run up to a sign does not depend on what follows the sign. -/
theorem RunsTo.sign {stop : List Char → Bool} {t y : List Char} {c : Char}
    (h : RunsTo stop t (c :: y)) (hstop : ∀ d z z', stop (d :: z) = stop (d :: z'))
    (y' : List Char) : RunsTo stop t (c :: y') := by
  refine ⟨h.chars, ?_, ?_⟩
  · intro u v huv hv
    obtain ⟨d, v, rfl⟩ := List.exists_cons_of_ne_nil hv
    rw [← h.goesOn u (d :: v) huv hv]
    exact hstop d _ _
  · rcases h.ends with hnil | ⟨d, z, heq, hd, hends⟩
    · cases hnil
    · cases heq
      exact .inr ⟨c, y', rfl, hd, (hstop c y' y).trans hends⟩

/-- A run up to a word does not depend on what follows the word. -/
theorem RunsTo.word {w t y : List Char} (h : RunsTo w.isPrefixOf t (w ++ y)) (hw : w ≠ [])
    (y' : List Char) : RunsTo w.isPrefixOf t (w ++ y') := by
  refine ⟨h.chars, ?_, ?_⟩
  · intro u v huv hv
    -- the word that ends the run is long enough for the comparison to end within it
    have hgo := h.goesOn u v huv hv
    rw [← List.append_assoc, isPrefixOf_append_of_le (by simp)] at hgo ⊢
    exact hgo
  · right
    obtain ⟨c, w, rfl⟩ := List.exists_cons_of_ne_nil hw
    rcases h.ends with hnil | ⟨d, z, heq, hd, -⟩
    · cases hnil
    · cases heq
      refine ⟨c, w ++ y', rfl, hd, ?_⟩
      exact List.isPrefixOf_iff_prefix.2 (List.prefix_append (c :: w) y')

/-- What has been taken ends with the word, and whatever follows the word does not matter. -/
theorem takeThrough_ok {text : String} (htext : text.toList ≠ []) {o : Nat} {cs v : List Char}
    {r : Span} (h : takeThrough text ⟨o, cs⟩ = .ok (v, r)) :
    ∃ y, cs = v ++ text.toList ++ y ∧ r = ⟨o + byteLength (v ++ text.toList), y⟩ ∧
      Takes (takeThrough text) (v ++ text.toList) fun _ => v := by
  obtain ⟨⟨v', s⟩, huntil, hrest⟩ := bind_eq_ok.1 h
  obtain ⟨y, rfl, hrun, rfl⟩ := takeUntil_ok huntil
  obtain ⟨r', hword, heq⟩ := bind_eq_ok.1 hrest
  cases heq
  obtain ⟨z, rfl, rfl⟩ := takeText_ok hword
  refine ⟨z, by simp, by simp [Nat.add_assoc], fun o' y' => ?_⟩
  unfold takeThrough
  rw [List.append_assoc, takeUntil_append (hrun.word htext y'), ok_bind]
  dsimp only
  rw [takeText_append, ok_bind]
  simp [Nat.add_assoc, pure, Except.pure]

/-- A literal is taken up to its quote. -/
theorem takeLiteral_append {quote : Char} {v : List Char} (hv : quote ∉ v) (o : Nat)
    (y : List Char) :
    takeLiteral quote ⟨o, v ++ quote :: y⟩
      = .ok (⟨o, v⟩, ⟨o + byteLength (v ++ [quote]), y⟩) := by
  have hne : ∀ c ∈ v, decide (c ≠ quote) = true := by
    intro c hc
    exact decide_eq_true fun heq => hv (heq ▸ hc)
  unfold takeLiteral
  rw [splitWhile_append hne (stopsAt_cons.2 (by simp))]
  dsimp only
  rw [takeChar_append, ok_bind]
  simp [Nat.add_assoc, pure, Except.pure]

/-- What has been taken is a literal and its quote. -/
theorem takeLiteral_ok {quote : Char} {o : Nat} {cs : List Char} {v r : Span}
    (h : takeLiteral quote ⟨o, cs⟩ = .ok (v, r)) :
    ∃ t y, cs = t ++ quote :: y ∧ quote ∉ t ∧ v = ⟨o, t⟩ ∧
      r = ⟨o + byteLength (t ++ [quote]), y⟩ := by
  obtain ⟨t, y, rfl, ht, -, hsplit⟩ := exists_splitWhile (· ≠ quote) o cs
  have hquote : quote ∉ t := fun hmem => of_decide_eq_true (ht quote hmem) rfl
  have hrest := h
  unfold takeLiteral at hrest
  rw [hsplit] at hrest
  obtain ⟨s, hchar, -⟩ := bind_eq_ok.1 hrest
  obtain ⟨z, rfl, -⟩ := takeChar_ok hchar
  rw [takeLiteral_append hquote] at h
  cases h
  exact ⟨t, z, rfl, hquote, rfl, rfl⟩

/-! ## Attributes -/

/-- The attribute that starts `k` bytes further on. -/
def RawAttribute.move (k : Nat) (raw : RawAttribute) : RawAttribute :=
  ⟨raw.name, ⟨k + raw.value.offset, raw.value.chars⟩, k + raw.start⟩

/-- An attribute is a piece without an angle bracket in which its value stands. -/
theorem takeAttribute_ok {o : Nat} {cs : List Char} {raw : RawAttribute} {r : Span}
    (h : takeAttribute ⟨o, cs⟩ = .ok (raw, r)) :
    ∃ t y raw₀, cs = t ++ y ∧ StartsName t ∧ '<' ∉ t ∧ raw₀.value.chars <:+: t ∧
      Takes takeAttribute t fun o => RawAttribute.move o raw₀ := by
  obtain ⟨⟨name, s⟩, hname, h⟩ := bind_eq_ok.1 h
  obtain ⟨n, y, rfl, rfl, hvalid, hn, hstop, rfl⟩ := takeQName_ok hname
  obtain ⟨s, hequals, h⟩ := bind_eq_ok.1 h
  obtain ⟨b, u, y, rfl, hb, hu, hspace, rfl⟩ := takeEquals_ok hequals
  obtain ⟨⟨quote, s⟩, hquote, h⟩ := bind_eq_ok.1 h
  obtain ⟨y, rfl, hq, rfl⟩ := takeQuote_ok hquote
  obtain ⟨⟨v, s⟩, huntil, h⟩ := bind_eq_ok.1 h
  obtain ⟨y, rfl, hrun, rfl⟩ := takeUntil_ok huntil
  obtain ⟨s, hclose, -⟩ := bind_eq_ok.1 h
  obtain ⟨z, rfl, -⟩ := takeChar_ok hclose
  refine ⟨n ++ (b ++ '=' :: (u ++ quote :: (v ++ [quote]))), z,
    ⟨.ofChars n, ⟨byteLength (n ++ b ++ '=' :: (u ++ [quote])), v⟩, 0⟩, by simp, ?_, ?_, ?_, ?_⟩
  · obtain ⟨c, m, rfl⟩ := List.exists_cons_of_ne_nil (ne_nil_of_isValid hvalid)
    exact ⟨c, _, rfl, hn c List.mem_cons_self⟩
  · have hquote : '<' ≠ quote := by
      rintro rfl
      exact absurd hq (by decide)
    have hvalue : '<' ∉ v := hrun.not_mem (by simp)
    simp only [List.mem_append, List.mem_cons, List.not_mem_nil, hquote, hvalue, or_false, not_or]
    exact ⟨fun hmem => isNameChar_ne_angle (hn _ hmem) rfl,
      fun hmem => isSpace_ne_angle (hb _ hmem) rfl, by decide,
      fun hmem => isSpace_ne_angle (hu _ hmem) rfl⟩
  · exact ⟨n ++ (b ++ '=' :: (u ++ [quote])), [quote], by simp⟩
  · intro o' y'
    have hpiece : n ++ (b ++ '=' :: (u ++ quote :: (v ++ [quote]))) ++ y'
        = n ++ (b ++ '=' :: (u ++ quote :: (v ++ quote :: y'))) := by simp
    unfold takeAttribute
    rw [hpiece, takeQName_append hvalid hn (hstop.append_cons _), ok_bind]
    dsimp only
    rw [takeEquals_append hb hu (stopsAt_cons.2 (stopsAt_cons.1 hspace)), ok_bind,
      takeQuote_append hq, ok_bind]
    dsimp only
    rw [takeUntil_append (hrun.sign (fun _ _ _ => rfl) y'), ok_bind]
    dsimp only
    rw [takeChar_append, ok_bind]
    simp [Nat.add_assoc, pure, Except.pure, RawAttribute.move]

end StatementLens.Xml
