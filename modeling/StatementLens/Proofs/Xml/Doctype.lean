import StatementLens.Proofs.Xml.Markup

/-!
# The document type

A document type is cut in the same way whatever follows it. Its tokens are entities, whose replacement
texts stand inside the document type. The main statement is `scanDoctype_ok`.
-/

namespace StatementLens.Xml

open Text

/-! ## The head of the document type -/

/-- A quoted text is skipped in the same way whatever follows. -/
theorem takeQuoted_ok {o : Nat} {cs : List Char} {r : Span} (h : takeQuoted ⟨o, cs⟩ = .ok r) :
    ∃ t y, cs = t ++ y ∧ r = ⟨o + byteLength t, y⟩ ∧ Skips takeQuoted t := by
  obtain ⟨s, hspace, h⟩ := bind_eq_ok.1 h
  obtain ⟨b, y, rfl, hne, hb, hstop, rfl⟩ := takeSpace_ok hspace
  obtain ⟨⟨quote, s⟩, hquote, h⟩ := bind_eq_ok.1 h
  obtain ⟨y, rfl, hq, rfl⟩ := takeQuote_ok hquote
  obtain ⟨⟨value, s⟩, hliteral, h⟩ := bind_eq_ok.1 h
  cases h
  obtain ⟨v, y, rfl, hv, rfl, rfl⟩ := takeLiteral_ok hliteral
  refine ⟨b ++ quote :: (v ++ [quote]), y, by simp, by simp [Nat.add_assoc], fun o' y' => ?_⟩
  unfold takeQuoted
  rw [show b ++ quote :: (v ++ [quote]) ++ y' = b ++ quote :: (v ++ quote :: y') by simp,
    takeSpace_append hne hb (stopsAt_cons.2 (stopsAt_cons.1 hstop)), ok_bind, takeQuote_append hq, ok_bind]
  dsimp only
  rw [takeLiteral_append hv, ok_bind]
  simp [Nat.add_assoc, pure, Except.pure]

private theorem drop_system (o : Nat) (cs : List Char) :
    Span.drop 6 ⟨o, "SYSTEM".toList ++ cs⟩ = ⟨o + byteLength "SYSTEM".toList, cs⟩ :=
  drop_append "SYSTEM".toList cs o

private theorem drop_public (o : Nat) (cs : List Char) :
    Span.drop 6 ⟨o, "PUBLIC".toList ++ cs⟩ = ⟨o + byteLength "PUBLIC".toList, cs⟩ :=
  drop_append "PUBLIC".toList cs o

/-- An external identifier that is there is taken in the same way whatever follows. -/
theorem takeExternalId_ok {o : Nat} {cs : List Char} {found : Bool} {r : Span}
    (h : takeExternalId ⟨o, cs⟩ = .ok (found, r)) :
    (found = false ∧ r = ⟨o, cs⟩) ∨
      ∃ t y, found = true ∧ cs = t ++ y ∧ t ≠ [] ∧ r = ⟨o + byteLength t, y⟩ ∧
        Takes takeExternalId t fun _ => true := by
  unfold takeExternalId at h
  split at h
  next hsystem =>
    obtain ⟨rest, rfl⟩ := startsWith_iff.1 hsystem
    rw [drop_system] at h
    obtain ⟨s, hquoted, h⟩ := bind_eq_ok.1 h
    cases h
    obtain ⟨t, y, rfl, rfl, hskips⟩ := takeQuoted_ok hquoted
    refine .inr ⟨"SYSTEM".toList ++ t, y, rfl, by simp, by simp, by simp [Nat.add_assoc],
      fun o' y' => ?_⟩
    unfold takeExternalId
    rw [List.append_assoc, if_pos (startsWith_iff.2 ⟨_, rfl⟩), drop_system, hskips, ok_bind]
    simp [Nat.add_assoc, pure, Except.pure]
  next hsystem =>
    split at h
    next hpublic =>
      obtain ⟨rest, rfl⟩ := startsWith_iff.1 hpublic
      rw [drop_public] at h
      obtain ⟨s, hquoted, h⟩ := bind_eq_ok.1 h
      obtain ⟨t, y, rfl, rfl, hskips⟩ := takeQuoted_ok hquoted
      obtain ⟨s, hquoted', h⟩ := bind_eq_ok.1 h
      cases h
      obtain ⟨u, y, rfl, rfl, hskips'⟩ := takeQuoted_ok hquoted'
      refine .inr ⟨"PUBLIC".toList ++ (t ++ u), y, rfl, by simp, by simp, by simp [Nat.add_assoc],
        fun o' y' => ?_⟩
      have hsystem' : ¬ Span.startsWith "SYSTEM".toList
          ⟨o', "PUBLIC".toList ++ (t ++ (u ++ y'))⟩ = true := by
        simp [Span.startsWith, List.isPrefixOf]
      unfold takeExternalId
      rw [List.append_assoc, List.append_assoc, if_neg hsystem', if_pos (startsWith_iff.2 ⟨_, rfl⟩),
        drop_public, hskips, ok_bind, hskips', ok_bind]
      simp [Nat.add_assoc, pure, Except.pure]
    next hpublic =>
      cases h
      exact .inl ⟨rfl, rfl⟩

/-- The sign behind the head of a document type: whether declarations follow. -/
private def doctypeSign : Reader Bool := fun s =>
  match s.head? with
  | none => fail .endOfStream s
  | some '[' => .ok (true, s.tail)
  | some '>' => .ok (false, s.tail)
  | some c => fail (.wrongThing "'[' or '>'" (leadingByte c)) s

/-- A bracket or an angle bracket decides on whether there is a subset. -/
private theorem doctypeSign_ok {o : Nat} {cs : List Char} {more : Bool} {r : Span}
    (h : doctypeSign ⟨o, cs⟩ = .ok (more, r)) :
    ∃ c y, cs = c :: y ∧ (c = '[' ∨ c = '>') ∧ Takes doctypeSign [c] fun _ => more := by
  unfold doctypeSign at h
  split at h
  next => cases h
  next hhead =>
    obtain ⟨y, rfl⟩ := List.head?_eq_some_iff.1 hhead
    cases h
    exact ⟨'[', y, rfl, .inl rfl, fun o' y' => rfl⟩
  next hhead =>
    obtain ⟨y, rfl⟩ := List.head?_eq_some_iff.1 hhead
    cases h
    exact ⟨'>', y, rfl, .inr rfl, fun o' y' => rfl⟩
  next => cases h

/-- The name of an external resource, if there is one, and the sign behind it. -/
private def doctypeSource : Reader Bool := fun s => do
  let (_, s) ← takeExternalId s
  doctypeSign (skipSpace s)

/-- What stands behind the name of a document type is taken in the same way whatever follows. -/
private theorem doctypeSource_ok {o : Nat} {cs : List Char} {more : Bool} {r : Span}
    (hstop : StopsAt isSpace cs) (h : doctypeSource ⟨o, cs⟩ = .ok (more, r)) :
    ∃ t y, cs = t ++ y ∧ t ≠ [] ∧ Takes doctypeSource t fun _ => more := by
  obtain ⟨⟨found, s⟩, hexternal, h⟩ := bind_eq_ok.1 h
  dsimp only at h
  rcases takeExternalId_ok hexternal with ⟨rfl, rfl⟩ | ⟨t, y, rfl, rfl, hne, rfl, htakes⟩
  · have hskip : skipSpace ⟨o, cs⟩ = ⟨o, cs⟩ := skipSpace_append (t := []) (by simp) hstop o
    rw [hskip] at h
    obtain ⟨c, y, rfl, hc, hsign⟩ := doctypeSign_ok h
    refine ⟨[c], y, rfl, by simp, fun o' y' => ?_⟩
    have hnone : takeExternalId ⟨o', c :: y'⟩ = .ok (false, ⟨o', c :: y'⟩) := by
      rcases hc with rfl | rfl <;> rfl
    unfold doctypeSource
    rw [List.singleton_append, hnone, ok_bind]
    dsimp only
    rw [skipSpace_cons (stopsAt_cons.1 hstop)]
    exact hsign o' y'
  · obtain ⟨b, y, rfl, hb, hspace, hskip⟩ := exists_skipSpace (o + byteLength t) y
    rw [hskip] at h
    obtain ⟨c, y, rfl, -, hsign⟩ := doctypeSign_ok h
    refine ⟨t ++ (b ++ [c]), y, by simp, by simp, fun o' y' => ?_⟩
    unfold doctypeSource
    have hspace' : StopsAt isSpace ([c] ++ y') := stopsAt_cons.2 (stopsAt_cons.1 hspace)
    rw [show t ++ (b ++ [c]) ++ y' = t ++ (b ++ ([c] ++ y')) by simp, htakes, ok_bind]
    dsimp only
    rw [skipSpace_append hb hspace', hsign]
    simp [Nat.add_assoc]

/-- The head is white space, a name and a source. -/
private theorem takeDoctypeHead_eq (s : Span) :
    takeDoctypeHead s = takeSpace (s.drop 9) >>= fun s =>
      takeNameOrEnd s >>= fun named => doctypeSource (skipSpace named.2) := rfl

private theorem drop_doctype (o : Nat) (cs : List Char) :
    Span.drop 9 ⟨o, "<!DOCTYPE".toList ++ cs⟩ = ⟨o + byteLength "<!DOCTYPE".toList, cs⟩ :=
  drop_append "<!DOCTYPE".toList cs o

/-- The head of a document type is taken in the same way whatever follows. -/
theorem takeDoctypeHead_ok {o : Nat} {cs : List Char} {more : Bool} {r : Span}
    (h : takeDoctypeHead ⟨o, "<!DOCTYPE".toList ++ cs⟩ = .ok (more, r)) :
    ∃ t y, cs = t ++ y ∧ Takes takeDoctypeHead ("<!DOCTYPE".toList ++ t) fun _ => more := by
  rw [takeDoctypeHead_eq, drop_doctype] at h
  obtain ⟨s, hspace, h⟩ := bind_eq_ok.1 h
  obtain ⟨b, y, rfl, hne, hb, hstop, rfl⟩ := takeSpace_ok hspace
  obtain ⟨⟨n, s⟩, hname, h⟩ := bind_eq_ok.1 h
  dsimp only at h
  rcases takeNameOrEnd_ok hname with ⟨rfl, -, rfl⟩ | ⟨y, rfl, hn, hfirst, hstop', rfl⟩
  · obtain ⟨t, y, hnil, hne', -⟩ := doctypeSource_ok (stopsAt_nil _) h
    exact absurd (List.append_eq_nil_iff.1 hnil.symm).1 hne'
  · obtain ⟨b', y, rfl, hb', hspace', hskip⟩ :=
      exists_skipSpace (o + byteLength "<!DOCTYPE".toList + byteLength b + byteLength n) y
    rw [hskip] at h
    obtain ⟨t, y, rfl, hne', htakes⟩ := doctypeSource_ok hspace' h
    refine ⟨b ++ (n ++ (b' ++ t)), y, by simp, fun o' y' => ?_⟩
    have hn_ne : n ≠ [] := by
      rintro rfl
      cases hfirst
    have hstop₁ : StopsAt isSpace (n ++ (b' ++ (t ++ y'))) := hstop.of_append hn_ne _
    have hstop₂ : StopsAt isNameChar (b' ++ (t ++ y')) := by
      rw [← List.append_assoc] at hstop' ⊢
      exact hstop'.of_append (by simp [hne']) y'
    rw [takeDoctypeHead_eq,
      show "<!DOCTYPE".toList ++ (b ++ (n ++ (b' ++ t))) ++ y'
        = "<!DOCTYPE".toList ++ (b ++ (n ++ (b' ++ (t ++ y')))) by simp,
      drop_doctype, takeSpace_append hne hb hstop₁, ok_bind, takeNameOrEnd_append hn hfirst hstop₂,
      ok_bind]
    dsimp only
    rw [skipSpace_append hb' (hspace'.of_append hne' y'), htakes]
    simp [Nat.add_assoc]

/-! ## Entities -/

/-- The reader takes a piece off its text, and off every text that begins with the piece. -/
def Closed (f : Span → Except Fault Span) : Prop :=
  ∀ o cs r, f ⟨o, cs⟩ = .ok r → ∃ t y, cs = t ++ y ∧ t ≠ [] ∧ Skips f t

/-- The end of a declaration, with white space in front. -/
def takeDeclarationClose (s : Span) : Except Fault Span := takeChar '>' (skipSpace s)

/-- The end of a declaration depends on nothing that follows. -/
theorem closed_declarationClose : Closed takeDeclarationClose := by
  intro o cs r h
  obtain ⟨b, y, rfl, hb, -, hskip⟩ := exists_skipSpace o cs
  unfold takeDeclarationClose at h
  rw [hskip] at h
  obtain ⟨z, rfl, -⟩ := takeChar_ok h
  refine ⟨b ++ ['>'], z, by simp, by simp, fun o' y' => ?_⟩
  unfold takeDeclarationClose
  rw [List.append_assoc, List.singleton_append, skipSpace_append hb (stopsAt_cons.2 (by decide)),
    takeChar_append]
  simp [Nat.add_assoc]

private theorem drop_ndata (o : Nat) (cs : List Char) :
    Span.drop 5 ⟨o, "NDATA".toList ++ cs⟩ = ⟨o + byteLength "NDATA".toList, cs⟩ :=
  drop_append "NDATA".toList cs o

/-- A kind of data and the end of its declaration depend on nothing that follows. -/
theorem closed_dataKind : Closed fun s => takeDataKind s >>= takeDeclarationClose := by
  intro o cs r h
  obtain ⟨s, hkind, hclose⟩ := bind_eq_ok.1 h
  obtain ⟨b, y, rfl, hb, hspace, hskip⟩ := exists_skipSpace o cs
  unfold takeDataKind at hkind
  rw [hskip] at hkind
  dsimp only at hkind
  split at hkind
  next hndata =>
    obtain ⟨rest, rfl⟩ := startsWith_iff.1 hndata
    rw [drop_ndata] at hkind
    obtain ⟨s, hspace', hkind⟩ := bind_eq_ok.1 hkind
    obtain ⟨b', y, rfl, hne, hb', hstop, rfl⟩ := takeSpace_ok hspace'
    obtain ⟨⟨n, s⟩, hname, hkind⟩ := bind_eq_ok.1 hkind
    cases hkind
    rcases takeNameOrEnd_ok hname with ⟨rfl, -, rfl⟩ | ⟨y, rfl, hn, hfirst, hstop', rfl⟩
    · cases hclose
    · obtain ⟨t, y, rfl, hne', hskips⟩ := closed_declarationClose _ _ _ hclose
      refine ⟨b ++ ("NDATA".toList ++ (b' ++ (n ++ t))), y, by simp, by simp, fun o' y' => ?_⟩
      -- the space in front of the name stops there, whatever follows the declaration
      have hn_ne : n ≠ [] := by
        rintro rfl
        cases hfirst
      have hword : StopsAt isSpace ("NDATA".toList ++ (b' ++ (n ++ (t ++ y')))) :=
        stopsAt_cons.2 (by decide)
      have hstarts : ∀ o, Span.startsWith "NDATA".toList
          ⟨o, "NDATA".toList ++ (b' ++ (n ++ (t ++ y')))⟩ = true := by
        intro o
        exact startsWith_iff.2 ⟨_, rfl⟩
      dsimp only
      unfold takeDataKind
      rw [show b ++ ("NDATA".toList ++ (b' ++ (n ++ t))) ++ y'
        = b ++ ("NDATA".toList ++ (b' ++ (n ++ (t ++ y')))) by simp, skipSpace_append hb hword]
      dsimp only
      rw [if_pos (hstarts _), drop_ndata, takeSpace_append hne hb' (hstop.of_append hn_ne _), ok_bind,
        takeNameOrEnd_append hn hfirst (hstop'.of_append hne' y'), ok_bind]
      dsimp only [pure, Except.pure]
      rw [ok_bind, hskips]
      simp [Nat.add_assoc]
  next hndata =>
    cases hkind
    -- the space is skipped already, so the close of the declaration finds none
    have hidem : skipSpace ⟨o + byteLength b, y⟩ = ⟨o + byteLength b, y⟩ :=
      skipSpace_append (t := []) (by simp) hspace _
    unfold takeDeclarationClose at hclose
    rw [hidem] at hclose
    obtain ⟨z, rfl, -⟩ := takeChar_ok hclose
    refine ⟨b ++ ['>'], z, by simp, by simp, fun o' y' => ?_⟩
    have hndata' : ∀ o, ¬ Span.startsWith "NDATA".toList ⟨o, '>' :: y'⟩ = true := by
      intro o
      simp [Span.startsWith, List.isPrefixOf]
    dsimp only
    unfold takeDataKind
    rw [List.append_assoc, List.singleton_append, skipSpace_append hb (stopsAt_cons.2 (by decide))]
    dsimp only
    rw [if_neg (hndata' _)]
    dsimp only [pure, Except.pure]
    rw [ok_bind, takeDeclarationClose, skipSpace_cons (by decide), takeChar_append]
    simp [Nat.add_assoc]

/-- A quoted definition is a replacement text. -/
theorem takeEntityDefinition_quoted {c : Char} {w : List Char} (hc : (c = '"' || c = '\'') = true)
    (hw : c ∉ w) (general : Bool) (o : Nat) (y : List Char) :
    takeEntityDefinition general ⟨o, c :: (w ++ c :: y)⟩
      = .ok (some ⟨o + c.utf8Size, w⟩, ⟨o + byteLength (c :: (w ++ [c])), y⟩) := by
  unfold takeEntityDefinition
  simp only [Span.head?, List.head?_cons, if_pos hc, Span.tail]
  rw [takeLiteral_append hw, ok_bind]
  simp [Nat.add_assoc, pure, Except.pure]

/-- What may follow the external definition of an entity. -/
def takeEntityKind (general : Bool) (s : Span) : Except Fault Span :=
  if general then takeDataKind s else .ok s

/-- The kind of an entity and the end of its declaration depend on nothing that follows. -/
theorem closed_entityKind (general : Bool) :
    Closed fun s => takeEntityKind general s >>= takeDeclarationClose := by
  cases general with
  | true => exact closed_dataKind
  | false => exact closed_declarationClose

/-- An external definition has no replacement text. -/
theorem takeEntityDefinition_external {c : Char} {t : List Char} (hc : (c = 'S' || c = 'P') = true)
    (ht : Takes takeExternalId (c :: t) fun _ => true) (general : Bool) (o : Nat) (y : List Char) :
    takeEntityDefinition general ⟨o, c :: t ++ y⟩
      = takeEntityKind general ⟨o + byteLength (c :: t), y⟩ >>= fun s => .ok (none, s) := by
  have hquote : ¬ (c = '"' || c = '\'') = true := by
    simp only [Bool.or_eq_true, decide_eq_true_eq] at hc
    rcases hc with rfl | rfl <;> decide
  have htakes := ht o y
  unfold takeEntityDefinition
  simp only [Span.head?, List.cons_append, List.head?_cons, if_neg hquote, if_pos hc] at htakes ⊢
  rw [htakes, ok_bind]
  cases general <;> rfl

/-- The definition of an entity and the end of its declaration. The replacement text stands inside. -/
theorem takeEntityDefinition_ok {general : Bool} {o : Nat} {cs : List Char} {v : Option Span}
    {s r : Span} (h : takeEntityDefinition general ⟨o, cs⟩ = .ok (v, s))
    (hclose : takeDeclarationClose s = .ok r) :
    ∃ t y, cs = t ++ y ∧ t ≠ [] ∧ r = ⟨o + byteLength t, y⟩ ∧
      (∀ value, v = some value → value.stop < o + byteLength t) ∧
      ∀ y', ∃ s', takeEntityDefinition general ⟨o, t ++ y'⟩ = .ok (v, s') ∧
        takeDeclarationClose s' = .ok ⟨o + byteLength t, y'⟩ := by
  cases cs with
  | nil => cases h
  | cons c cs =>
    by_cases hquote : (c = '"' || c = '\'') = true
    · have hliteral := h
      unfold takeEntityDefinition at hliteral
      simp only [Span.head?, List.head?_cons, if_pos hquote] at hliteral
      obtain ⟨⟨value, s⟩, hliteral, -⟩ := bind_eq_ok.1 hliteral
      obtain ⟨w, y, rfl, hw, -, -⟩ := takeLiteral_ok hliteral
      rw [takeEntityDefinition_quoted hquote hw] at h
      cases h
      obtain ⟨t, y, rfl, -, hskips⟩ := closed_declarationClose _ _ _ hclose
      rw [hskips] at hclose
      cases hclose
      refine ⟨c :: (w ++ c :: t), y, by simp, by simp, by simp [Nat.add_assoc], ?_, fun y' => ?_⟩
      · intro value hvalue
        cases hvalue
        have hend : 0 < c.utf8Size := Char.utf8Size_pos c
        simp only [Span.stop, byteLength_cons, byteLength_append]
        omega
      · refine ⟨⟨o + byteLength (c :: (w ++ [c])), t ++ y'⟩, ?_, ?_⟩
        · rw [← takeEntityDefinition_quoted hquote hw general]
          simp
        · rw [hskips]
          simp [Nat.add_assoc]
    · have hexternal := h
      unfold takeEntityDefinition at hexternal
      simp only [Span.head?, List.head?_cons, if_neg hquote] at hexternal
      split at hexternal
      next hletter =>
        obtain ⟨⟨found, s'⟩, hid, hexternal⟩ := bind_eq_ok.1 hexternal
        rcases takeExternalId_ok hid with ⟨rfl, -⟩ | ⟨t, y, -, hcs, hne, -, htakes⟩
        · cases hexternal
        · obtain ⟨d, t, rfl⟩ := List.exists_cons_of_ne_nil hne
          rw [List.cons_append, List.cons.injEq] at hcs
          obtain ⟨rfl, rfl⟩ := hcs
          rw [← List.cons_append, takeEntityDefinition_external hletter htakes] at h
          obtain ⟨s', hkind, h⟩ := bind_eq_ok.1 h
          cases h
          obtain ⟨u, y, rfl, -, hskips⟩ :=
            closed_entityKind general _ _ _ (bind_eq_ok.2 ⟨s, hkind, hclose⟩)
          have hr := hskips (o + byteLength (c :: t)) y
          dsimp only at hr
          rw [hkind, ok_bind, hclose] at hr
          cases hr
          refine ⟨c :: t ++ u, y, by simp, by simp, by simp [Nat.add_assoc],
            fun value hvalue => (by cases hvalue), fun y' => ?_⟩
          obtain ⟨s'', hkind', hclose'⟩ := bind_eq_ok.1 (hskips (o + byteLength (c :: t)) y')
          refine ⟨s'', ?_, ?_⟩
          · rw [List.append_assoc, takeEntityDefinition_external hletter htakes, hkind', ok_bind]
          · rw [hclose']
            simp [Nat.add_assoc]
      next => cases hexternal

/-- The mark of an entity that is used in declarations only. -/
private def takeEntityMark : Reader Bool := fun s => do
  if s.head? = some '%' then do pure (false, ← takeSpace s.tail) else pure (true, s)

/-- Whether an entity is general depends on nothing but the next character. -/
private theorem takeEntityMark_ok {o : Nat} {cs : List Char} {general : Bool} {s : Span}
    (h : takeEntityMark ⟨o, cs⟩ = .ok (general, s)) :
    ∃ p y, cs = p ++ y ∧ s = ⟨o + byteLength p, y⟩ ∧ ∀ o' y', y'.head? = y.head? →
      takeEntityMark ⟨o', p ++ y'⟩ = .ok (general, ⟨o' + byteLength p, y'⟩) := by
  unfold takeEntityMark at h
  split at h
  next hmark =>
    obtain ⟨cs, rfl⟩ := List.head?_eq_some_iff.1 hmark
    obtain ⟨s, hspace, h⟩ := bind_eq_ok.1 h
    cases h
    obtain ⟨b, y, rfl, hne, hb, hstop, rfl⟩ := takeSpace_ok hspace
    refine ⟨'%' :: b, y, rfl, by simp [Nat.add_assoc], fun o' y' hhead => ?_⟩
    unfold takeEntityMark
    rw [if_pos (show Span.head? ⟨o', '%' :: b ++ y'⟩ = some '%' from rfl)]
    show (takeSpace ⟨o' + '%'.utf8Size, b ++ y'⟩ >>= fun s => pure (false, s)) = _
    rw [takeSpace_append hne hb (hstop.of_head hhead), ok_bind]
    simp [Nat.add_assoc, pure, Except.pure]
  next hmark =>
    cases h
    refine ⟨[], cs, rfl, rfl, fun o' y' hhead => ?_⟩
    unfold takeEntityMark
    rw [if_neg (by rw [show Span.head? ⟨o', [] ++ y'⟩ = cs.head? from hhead]; exact hmark)]
    rfl

/-- The declaration of an entity up to its end. -/
private def entityHeader (s : Span) : Except Fault (List Char × Option Span × Span) :=
  takeSpace (s.drop 8) >>= fun s => takeEntityMark s >>= fun marked => takeName marked.2 >>=
    fun named => takeSpace named.2 >>= fun s => takeEntityDefinition marked.1 s >>=
      fun defined => .ok (named.1, defined)

/-- The token of an entity with a replacement text. -/
private def entityTokens (name : List Char) (value : Option Span) : List Token :=
  (value.map (Token.entity name)).toList

private theorem after_congr {α β : Type} {done : List Token} {step step' : Except Fault α}
    {next next' : α → Scan β} (h : step = step') (h' : ∀ a, next a = next' a) :
    Scan.after done step next = Scan.after done step' next' := by
  rw [h, show next = next' from funext h']

/-- An entity is its header, its tokens and the end of its declaration. -/
private theorem scanEntity_eq (done : List Token) (s : Span) :
    scanEntity done s = Scan.after done (entityHeader s) fun header =>
      (entityTokens header.1 header.2.1 ++ done, takeDeclarationClose header.2.2) := by
  refine after_congr ?_ ?_
  · unfold entityHeader takeEntityMark
    cases takeSpace (s.drop 8) with
    | error f => rfl
    | ok s =>
      simp only [ok_bind]
      split
      · cases takeSpace s.tail <;> rfl
      · rfl
  · rintro ⟨name, value, s⟩
    cases value <;> rfl

private theorem drop_entity (o : Nat) (cs : List Char) :
    Span.drop 8 ⟨o, "<!ENTITY".toList ++ cs⟩ = ⟨o + byteLength "<!ENTITY".toList, cs⟩ :=
  drop_append "<!ENTITY".toList cs o

/-- The token is an entity whose replacement text ends before `n`. -/
def Token.IsEntity (n : Nat) (tok : Token) : Prop :=
  ∃ name value, tok = .entity name value ∧ value.stop < n

/-- An entity in front of a place is in front of all later ones. -/
theorem Token.IsEntity.mono {m n : Nat} {tok : Token} (h : tok.IsEntity m) (hle : m ≤ n) :
    tok.IsEntity n := by
  obtain ⟨name, value, rfl, hstop⟩ := h
  exact ⟨name, value, rfl, by omega⟩

/-- A declaration of an entity is cut in the same way whatever follows, and its text stands inside. -/
theorem scanEntity_ok {done done' : List Token} {o : Nat} {cs : List Char} {r : Span}
    (h : scanEntity done ⟨o, "<!ENTITY".toList ++ cs⟩ = (done', .ok r)) :
    ∃ t y toks, cs = t ++ y ∧ (∀ tok ∈ toks, tok.IsEntity (o + byteLength ("<!ENTITY".toList ++ t))) ∧
      ∀ done y', scanEntity done ⟨o, "<!ENTITY".toList ++ t ++ y'⟩
        = (toks ++ done, .ok ⟨o + byteLength ("<!ENTITY".toList ++ t), y'⟩) := by
  rw [scanEntity_eq] at h
  obtain ⟨⟨name, value, s⟩, hheader, hclose⟩ := after_eq_ok.1 h
  have hclose := (Prod.ext_iff.1 hclose).2
  unfold entityHeader at hheader
  rw [drop_entity] at hheader
  obtain ⟨s, hspace, hheader⟩ := bind_eq_ok.1 hheader
  obtain ⟨b, y, rfl, hne, hb, hstop, rfl⟩ := takeSpace_ok hspace
  obtain ⟨⟨general, s⟩, hmark, hheader⟩ := bind_eq_ok.1 hheader
  obtain ⟨p, y, rfl, rfl, hmark'⟩ := takeEntityMark_ok hmark
  obtain ⟨⟨n, s⟩, hname, hheader⟩ := bind_eq_ok.1 hheader
  obtain ⟨y, rfl, hn, hfirst, hstop', rfl⟩ := takeName_ok hname
  obtain ⟨s, hspace', hheader⟩ := bind_eq_ok.1 hheader
  obtain ⟨b', y, rfl, hne', hb', hstop'', rfl⟩ := takeSpace_ok hspace'
  obtain ⟨⟨v, s⟩, hdefinition, hheader⟩ := bind_eq_ok.1 hheader
  cases hheader
  obtain ⟨t, y, rfl, hne'', rfl, hvalue, hdefinition'⟩ := takeEntityDefinition_ok hdefinition hclose
  refine ⟨b ++ (p ++ (n ++ (b' ++ t))), y, entityTokens n value, by simp, ?_, fun done y' => ?_⟩
  · intro tok htok
    obtain ⟨v, rfl, rfl⟩ : ∃ v, value = some v ∧ tok = .entity n v := by
      cases value with
      | none => cases htok
      | some v => exact ⟨v, rfl, List.mem_singleton.1 htok⟩
    refine ⟨n, v, rfl, ?_⟩
    have hstop := hvalue v rfl
    simp only [byteLength_append] at hstop ⊢
    omega
  · have hn_ne : n ≠ [] := by
      rintro rfl
      cases hfirst
    have hhead : (n ++ (b' ++ (t ++ y'))).head? = (n ++ (b' ++ (t ++ y))).head? := by
      obtain ⟨c, n, rfl⟩ := List.exists_cons_of_ne_nil hn_ne
      rfl
    have hstop₁ : StopsAt isSpace (p ++ (n ++ (b' ++ (t ++ y')))) := by
      apply hstop.of_head
      cases p with
      | nil => exact hhead
      | cons c p => rfl
    obtain ⟨s, hdefinition'', hclose''⟩ := hdefinition' y'
    have hheader : entityHeader ⟨o, "<!ENTITY".toList ++ (b ++ (p ++ (n ++ (b' ++ (t ++ y')))))⟩
        = .ok (n, value, s) := by
      unfold entityHeader
      rw [drop_entity, takeSpace_append hne hb hstop₁, ok_bind, hmark' _ _ hhead, ok_bind,
        takeName_append hn hfirst (hstop'.of_append hne' _), ok_bind,
        takeSpace_append hne' hb' (hstop''.of_append hne'' y'), ok_bind, hdefinition'', ok_bind]
    rw [scanEntity_eq, show "<!ENTITY".toList ++ (b ++ (p ++ (n ++ (b' ++ t)))) ++ y'
      = "<!ENTITY".toList ++ (b ++ (p ++ (n ++ (b' ++ (t ++ y'))))) by simp, hheader, after_ok]
    dsimp only
    rw [hclose'']
    simp [Nat.add_assoc]

/-! ## The document type -/

/-- The end of a document type is skipped in the same way whatever follows. -/
theorem takeDoctypeEnd_ok {o : Nat} {cs : List Char} {r : Span}
    (h : takeDoctypeEnd ⟨o, cs⟩ = .ok r) : ∃ t y, cs = t ++ y ∧ Skips takeDoctypeEnd t := by
  obtain ⟨b, y, rfl, hb, -, hskip⟩ := exists_skipSpace o cs
  unfold takeDoctypeEnd at h
  rw [hskip] at h
  dsimp only at h
  split at h
  next => cases h
  next hhead =>
    obtain ⟨y, rfl⟩ := List.head?_eq_some_iff.1 hhead
    refine ⟨b ++ ['>'], y, by simp, fun o' y' => ?_⟩
    unfold takeDoctypeEnd
    rw [List.append_assoc, List.singleton_append, skipSpace_append hb (stopsAt_cons.2 (by decide))]
    simp [Span.head?, Span.tail, Nat.add_assoc]
  next => cases h

/-- So is a declaration of another kind. -/
theorem skipDeclaration_ok {doctype o : Nat} {cs : List Char} {r : Span}
    (h : skipDeclaration doctype ⟨o, cs⟩ = .ok r) :
    ∃ t y, cs = t ++ '>' :: y ∧ Skips (skipDeclaration doctype) (t ++ ['>']) := by
  obtain ⟨t, y, rfl, ht, hstop, hsplit⟩ := exists_splitWhile (· ≠ '>') o cs
  have hdrop : ∀ o y, StopsAt (· ≠ '>') y →
      Span.dropWhile (· ≠ '>') ⟨o, t ++ y⟩ = ⟨o + byteLength t, y⟩ := by
    intro o y hy
    unfold Span.dropWhile
    rw [splitWhile_append ht hy]
  unfold skipDeclaration at h
  rw [hdrop o y hstop] at h
  cases y with
  | nil => cases h
  | cons c y =>
    have hc : c = '>' := by simpa using stopsAt_cons.1 hstop
    subst hc
    refine ⟨t, y, rfl, fun o' y' => ?_⟩
    unfold skipDeclaration
    rw [List.append_assoc, List.singleton_append, hdrop _ _ (stopsAt_cons.2 (by simp))]
    simp [Span.atEnd, Span.tail, Nat.add_assoc]

/-- Cuts one declaration inside a document type, or its end; the flag tells whether it is the end. -/
private def scanDeclaration (doctype : Nat) (done : List Token) (s : Span) : Scan (Bool × Span) :=
  if s.startsWith "<!ENTITY".toList then
    ((scanEntity done s).1, (scanEntity done s).2.map (Prod.mk false))
  else if s.startsWith "<!--".toList then (done, (takeComment s).map (Prod.mk false))
  else if s.startsWith "<?".toList then (done, (takeInstruction s).map (Prod.mk false))
  else if s.startsWith "]".toList then (done, (takeDoctypeEnd s.tail).map (Prod.mk true))
  else if ["<!ELEMENT", "<!ATTLIST", "<!NOTATION"].any fun word => s.startsWith word.toList then
    (done, (skipDeclaration doctype s).map (Prod.mk false))
  else (done, fail .unknownToken s)

private theorem scanSubset_succ (doctype fuel : Nat) (done : List Token) (s : Span) :
    scanSubset doctype (fuel + 1) done s = if s.atEnd then (done, .ok s) else
      let declaration := scanDeclaration doctype done (skipSpace s)
      Scan.after declaration.1 declaration.2 fun result =>
        if result.1 then (declaration.1, .ok result.2)
        else scanSubset doctype fuel declaration.1 result.2 := by
  rw [scanSubset]
  unfold scanDeclaration
  split
  · rfl
  · dsimp only
    split
    · cases (scanEntity done (skipSpace s)).2 <;> rfl
    · split
      · cases takeComment (skipSpace s) <;> rfl
      · split
        · cases takeInstruction (skipSpace s) <;> rfl
        · split
          · cases takeDoctypeEnd (skipSpace s).tail <;> rfl
          · split
            · cases skipDeclaration doctype (skipSpace s) <;> rfl
            · rfl

private theorem map_eq_ok {α β : Type} {x : Except Fault α} {f : α → β} {b : β}
    (h : x.map f = .ok b) : ∃ a, x = .ok a ∧ f a = b := by
  cases x with
  | error e => cases h
  | ok a =>
    cases h
    exact ⟨a, rfl, rfl⟩

/-- Which declaration stands at the front of a piece with an angle bracket does not depend on what
follows the piece. -/
theorem startsWith_append_of_mem {p : List Char} (hp : '>' ∈ p) (o o' : Nat)
    (y y' : List Char) {w : List Char} (hw : '>' ∉ w) :
    Span.startsWith w ⟨o, p ++ y⟩ = Span.startsWith w ⟨o', p ++ y'⟩ := by
  unfold Span.startsWith
  rw [isPrefixOf_append_of_mem hp hw, isPrefixOf_append_of_mem hp hw]

/-- A declaration is cut in the same way whatever follows, and its tokens are entities that stand inside.
-/
private theorem scanDeclaration_ok {doctype : Nat} {done done' : List Token} {o : Nat}
    {cs : List Char} {ended : Bool} {r : Span}
    (h : scanDeclaration doctype done ⟨o, cs⟩ = (done', .ok (ended, r))) :
    ∃ p y toks, cs = p ++ y ∧ p ≠ [] ∧ (∀ tok ∈ toks, tok.IsEntity (o + byteLength p)) ∧
      ∀ done y', scanDeclaration doctype done ⟨o, p ++ y'⟩
        = (toks ++ done, .ok (ended, ⟨o + byteLength p, y'⟩)) := by
  unfold scanDeclaration at h
  split at h
  next hentity =>
    obtain ⟨rest, rfl⟩ := startsWith_iff.1 hentity
    obtain ⟨hdone, hresult⟩ := Prod.ext_iff.1 h
    obtain ⟨s, hscan, heq⟩ := map_eq_ok hresult
    cases heq
    obtain ⟨t, y, toks, rfl, htoks, hcuts⟩ := scanEntity_ok (Prod.ext rfl hscan)
    refine ⟨"<!ENTITY".toList ++ t, y, toks, by simp, by simp, htoks, fun done y' => ?_⟩
    have hstarts : Span.startsWith "<!ENTITY".toList ⟨o, "<!ENTITY".toList ++ t ++ y'⟩ = true :=
      startsWith_iff.2 ⟨_, List.append_assoc _ _ _⟩
    unfold scanDeclaration
    rw [if_pos hstarts, hcuts]
    rfl
  next hentity =>
    split at h
    next hcomment =>
      obtain ⟨rest, rfl⟩ := startsWith_iff.1 hcomment
      obtain ⟨hdone, hresult⟩ := Prod.ext_iff.1 h
      obtain ⟨s, htake, heq⟩ := map_eq_ok hresult
      cases heq
      obtain ⟨v, y, rfl, hskips⟩ := takeComment_ok htake
      refine ⟨"<!--".toList ++ (v ++ "-->".toList), y, [], by simp, by simp, by simp,
        fun done y' => ?_⟩
      have hlook := @startsWith_append_of_mem ("<!--".toList ++ (v ++ "-->".toList)) (by simp) o o y y'
      rw [← List.append_assoc "<!--".toList] at hentity hcomment
      rw [hlook (by decide)] at hentity hcomment
      unfold scanDeclaration
      rw [if_neg hentity, if_pos hcomment, hskips]
      rfl
    next hcomment =>
      split at h
      next hinstruction =>
        obtain ⟨rest, rfl⟩ := startsWith_iff.1 hinstruction
        obtain ⟨hdone, hresult⟩ := Prod.ext_iff.1 h
        obtain ⟨s, htake, heq⟩ := map_eq_ok hresult
        cases heq
        obtain ⟨v, y, rfl, hskips⟩ := takeInstruction_ok htake
        refine ⟨"<?".toList ++ (v ++ "?>".toList), y, [], by simp, by simp, by simp,
          fun done y' => ?_⟩
        have hlook := @startsWith_append_of_mem ("<?".toList ++ (v ++ "?>".toList)) (by simp) o o y y'
        rw [← List.append_assoc "<?".toList] at hentity hcomment hinstruction
        rw [hlook (by decide)] at hentity hcomment hinstruction
        unfold scanDeclaration
        rw [if_neg hentity, if_neg hcomment, if_pos hinstruction, hskips]
        rfl
      next hinstruction =>
        split at h
        next hbracket =>
          obtain ⟨rest, rfl⟩ := startsWith_iff.1 hbracket
          obtain ⟨hdone, hresult⟩ := Prod.ext_iff.1 h
          obtain ⟨s, htake, heq⟩ := map_eq_ok hresult
          cases heq
          obtain ⟨t, y, rfl, hskips⟩ := takeDoctypeEnd_ok htake
          refine ⟨']' :: t, y, [], rfl, by simp, by simp, fun done y' => ?_⟩
          have hread : takeDoctypeEnd (Span.tail ⟨o, ']' :: t ++ y'⟩)
              = .ok ⟨o + ']'.utf8Size + byteLength t, y'⟩ := hskips _ y'
          unfold scanDeclaration
          rw [if_neg (by simp [Span.startsWith, List.isPrefixOf]),
            if_neg (by simp [Span.startsWith, List.isPrefixOf]),
            if_neg (by simp [Span.startsWith, List.isPrefixOf]),
            if_pos (by simp [Span.startsWith, List.isPrefixOf]), hread]
          simp [Except.map, Nat.add_assoc]
        next hbracket =>
          split at h
          next hother =>
            obtain ⟨hdone, hresult⟩ := Prod.ext_iff.1 h
            obtain ⟨s, htake, heq⟩ := map_eq_ok hresult
            cases heq
            obtain ⟨t, y, rfl, hskips⟩ := skipDeclaration_ok htake
            refine ⟨t ++ ['>'], y, [], by simp, by simp, by simp, fun done y' => ?_⟩
            have hlook := @startsWith_append_of_mem (t ++ ['>']) (by simp) o o y y'
            rw [List.append_cons] at hentity hcomment hinstruction hbracket hother
            rw [hlook (by decide)] at hentity hcomment hinstruction hbracket
            -- no keyword holds the sign that ends the declaration, so none reaches across it
            have hother' : (["<!ELEMENT", "<!ATTLIST", "<!NOTATION"].any fun word =>
                Span.startsWith word.toList ⟨o, t ++ ['>'] ++ y'⟩) = true := by
              obtain ⟨word, hword, hstarts⟩ := List.any_eq_true.1 hother
              refine List.any_eq_true.2 ⟨word, hword, ?_⟩
              rw [← hlook]
              · exact hstarts
              · simp only [List.mem_cons, List.not_mem_nil, or_false] at hword
                rcases hword with rfl | rfl | rfl <;> decide
            unfold scanDeclaration
            rw [if_neg hentity, if_neg hcomment, if_neg hinstruction, if_neg hbracket, if_pos hother',
              hskips]
            rfl
          next => cases h

/-- Declarations with their end, which are cut in the same way whatever follows. They stand at `o`. -/
private def CutsSubset (doctype o : Nat) (t : List Char) (toks : List Token) : Prop :=
  ∀ fuel done y, (t ++ y).length < fuel →
    scanSubset doctype fuel done ⟨o, t ++ y⟩ = (toks ++ done, .ok ⟨o + byteLength t, y⟩)

/-- The declarations of a subset are cut in the same way whatever follows. -/
private theorem scanSubset_ok {doctype fuel : Nat} {done done' : List Token} {o : Nat}
    {cs : List Char} {r : Span} (h : scanSubset doctype fuel done ⟨o, cs⟩ = (done', .ok r))
    (hfuel : cs.length < fuel) (hr : r.chars ≠ []) :
    ∃ t y toks, cs = t ++ y ∧ (∀ tok ∈ toks, tok.IsEntity (o + byteLength t)) ∧
      CutsSubset doctype o t toks := by
  induction fuel generalizing done o cs with
  | zero => omega
  | succ fuel ih =>
    obtain ⟨b, y, rfl, hb, hspace, hskip⟩ := exists_skipSpace o cs
    rw [scanSubset_succ, hskip] at h
    split at h
    next hend =>
      cases h
      exact absurd (List.isEmpty_iff.1 hend) hr
    next =>
      obtain ⟨⟨ended, s⟩, hscan, h⟩ := after_eq_ok.1 h
      obtain ⟨p, y, toks, rfl, hne, htoks, hcuts⟩ := scanDeclaration_ok (Prod.ext rfl hscan)
      rw [hcuts] at hscan h
      cases hscan
      -- one declaration is cut in the same way whatever follows it and however much fuel is left
      have hstep : ∀ fuel done y', scanSubset doctype (fuel + 1) done ⟨o, b ++ (p ++ y')⟩
          = if ended then (toks ++ done, .ok ⟨o + byteLength b + byteLength p, y'⟩)
            else scanSubset doctype fuel (toks ++ done) ⟨o + byteLength b + byteLength p, y'⟩ := by
        intro fuel done y'
        rw [scanSubset_succ, skipSpace_append hb (hspace.of_append hne y'), hcuts]
        simp [Span.atEnd, hne]
      have hlength : 0 < p.length := List.length_pos_of_ne_nil hne
      cases ended with
      | true =>
        refine ⟨b ++ p, y, toks, by simp, ?_, fun fuel' done y' hfuel' => ?_⟩
        · intro tok htok
          exact (htoks tok htok).mono (by simp [Nat.add_assoc])
        · obtain ⟨fuel', rfl⟩ : ∃ n, fuel' = n + 1 := ⟨fuel' - 1, by omega⟩
          rw [List.append_assoc, hstep, if_pos rfl]
          simp [Nat.add_assoc]
      | false =>
        obtain ⟨u, z, toks', rfl, htoks', hcuts'⟩ := ih h (by simp at hfuel ⊢; omega)
        refine ⟨b ++ (p ++ u), z, toks' ++ toks, by simp, ?_, fun fuel' done y' hfuel' => ?_⟩
        · intro tok htok
          simp only [byteLength_append]
          rcases List.mem_append.1 htok with htok | htok
          · exact (htoks' tok htok).mono (by omega)
          · exact (htoks tok htok).mono (by omega)
        · obtain ⟨fuel', rfl⟩ : ∃ n, fuel' = n + 1 := ⟨fuel' - 1, by omega⟩
          rw [List.append_assoc, List.append_assoc] at hfuel' ⊢
          rw [hstep, if_neg (by decide), hcuts' _ _ _ (by simp at hfuel' ⊢; omega)]
          simp [Nat.add_assoc]

/-- A document type that stands at `o` is cut in the same way whatever follows. -/
theorem scanDoctype_ok {done : List Token} {o : Nat} {cs : List Char} {r : Span}
    (h : scanDoctype ⟨o, "<!DOCTYPE".toList ++ cs⟩ = (done, .ok r)) (hr : r.chars ≠ []) :
    ∃ t y, cs = t ++ y ∧ (∀ tok ∈ done, tok.IsEntity (o + byteLength ("<!DOCTYPE".toList ++ t))) ∧
      ∀ y', scanDoctype ⟨o, "<!DOCTYPE".toList ++ t ++ y'⟩
        = (done, .ok ⟨o + byteLength ("<!DOCTYPE".toList ++ t), y'⟩) := by
  obtain ⟨⟨more, s⟩, hhead, h⟩ := after_eq_ok.1 h
  obtain ⟨t, y, rfl, htakes⟩ := takeDoctypeHead_ok hhead
  rw [← List.append_assoc, htakes] at hhead
  cases hhead
  cases more with
  | true =>
    dsimp only at h
    rw [if_pos rfl] at h
    obtain ⟨u, y, toks, rfl, htoks, hcuts⟩ := scanSubset_ok h (Nat.lt_succ_self _) hr
    rw [hcuts _ _ _ (Nat.lt_succ_self _)] at h
    cases h
    refine ⟨t ++ u, y, by simp, ?_, fun y' => ?_⟩
    · intro tok htok
      rw [List.append_nil] at htok
      exact (htoks tok htok).mono (by simp [Nat.add_assoc])
    · unfold scanDoctype
      rw [show "<!DOCTYPE".toList ++ (t ++ u) ++ y' = "<!DOCTYPE".toList ++ t ++ (u ++ y') by simp,
        htakes, after_ok]
      dsimp only
      rw [if_pos rfl, hcuts _ _ _ (Nat.lt_succ_self _)]
      simp [Nat.add_assoc]
  | false =>
    cases h
    refine ⟨t, y, rfl, by simp, fun y' => ?_⟩
    unfold scanDoctype
    rw [htakes]
    rfl

end StatementLens.Xml
