import StatementLens.Proofs.Xml.Doctype

/-!
# The prolog

What stands in front of the root element is read in the same way whatever root element follows. The
main statement is `scanProlog_ok`.
-/

namespace StatementLens.Xml

open Text

/-! ## White space, comments and instructions -/

/-- Neither white space nor a comment nor an instruction follows. -/
structure EndsMisc (y : List Char) : Prop where
  space : StopsAt isSpace y
  comment : "<!--".toList.isPrefixOf y = false
  instruction : "<?".toList.isPrefixOf y = false

theorem endsMisc_nil : EndsMisc [] := ⟨stopsAt_nil _, rfl, rfl⟩

/-- A tag is neither white space nor a comment nor an instruction. -/
theorem endsMisc_tag {t : List Char} (h : StartsName t) : EndsMisc ('<' :: t) := by
  obtain ⟨c, u, rfl, hc⟩ := h
  refine ⟨stopsAt_cons.2 (by decide), ?_, ?_⟩
  · have hbang : ('!' == c) = false := by
      rw [beq_eq_false_iff_ne]
      rintro rfl
      exact absurd hc (by decide)
    simp [List.isPrefixOf, hbang]
  · have hquestion : ('?' == c) = false := by
      rw [beq_eq_false_iff_ne]
      rintro rfl
      exact absurd hc (by decide)
    simp [List.isPrefixOf, hquestion]

/-- White space, comments and instructions, which are taken off every text that begins with them and
goes on with something else. -/
def IsMisc (t : List Char) : Prop :=
  ∀ fuel o y, EndsMisc y → (t ++ y).length < fuel →
    takeMisc fuel ⟨o, t ++ y⟩ = .ok ⟨o + byteLength t, y⟩

theorem isMisc_space {b : List Char} (hb : ∀ c ∈ b, isSpace c = true) : IsMisc b := by
  intro fuel o y hy hfuel
  obtain ⟨fuel, rfl⟩ : ∃ n, fuel = n + 1 := ⟨fuel - 1, by omega⟩
  rw [takeMisc, skipSpace_append hb hy.space]
  simp only [Span.startsWith, hy.comment, hy.instruction]
  rfl

/-- A comment is taken off, with the white space in front of it. -/
theorem takeMisc_comment {b v : List Char} (hb : ∀ c ∈ b, isSpace c = true)
    (hv : Skips takeComment ("<!--".toList ++ (v ++ "-->".toList))) (fuel o : Nat)
    (y : List Char) :
    takeMisc (fuel + 1) ⟨o, b ++ ("<!--".toList ++ (v ++ "-->".toList) ++ y)⟩
      = takeMisc fuel ⟨o + byteLength b + byteLength ("<!--".toList ++ (v ++ "-->".toList)), y⟩ := by
  have hspace : StopsAt isSpace ("<!--".toList ++ (v ++ "-->".toList) ++ y) :=
    stopsAt_cons.2 (by decide)
  have hstarts : ∀ o, Span.startsWith "<!--".toList
      ⟨o, "<!--".toList ++ (v ++ "-->".toList) ++ y⟩ = true := by
    intro o
    exact startsWith_iff.2 ⟨_, List.append_assoc _ _ _⟩
  rw [takeMisc, skipSpace_append hb hspace, if_pos (hstarts _), hv, ok_bind]

/-- So is an instruction. -/
theorem takeMisc_instruction {b v : List Char} (hb : ∀ c ∈ b, isSpace c = true)
    (hv : Skips takeInstruction ("<?".toList ++ (v ++ "?>".toList))) (fuel o : Nat)
    (y : List Char) :
    takeMisc (fuel + 1) ⟨o, b ++ ("<?".toList ++ (v ++ "?>".toList) ++ y)⟩
      = takeMisc fuel ⟨o + byteLength b + byteLength ("<?".toList ++ (v ++ "?>".toList)), y⟩ := by
  have hspace : StopsAt isSpace ("<?".toList ++ (v ++ "?>".toList) ++ y) :=
    stopsAt_cons.2 (by decide)
  have hcomment : ∀ o, ¬ Span.startsWith "<!--".toList
      ⟨o, "<?".toList ++ (v ++ "?>".toList) ++ y⟩ = true := by
    intro o
    simp [Span.startsWith, List.isPrefixOf]
  have hstarts : ∀ o, Span.startsWith "<?".toList
      ⟨o, "<?".toList ++ (v ++ "?>".toList) ++ y⟩ = true := by
    intro o
    exact startsWith_iff.2 ⟨_, List.append_assoc _ _ _⟩
  rw [takeMisc, skipSpace_append hb hspace, if_neg (hcomment _), if_pos (hstarts _), hv, ok_bind]

/-- What is taken off in one step goes in front of the rest. -/
theorem IsMisc.append {b p t : List Char} (hp : p ≠ [])
    (hstep : ∀ fuel o y, takeMisc (fuel + 1) ⟨o, b ++ (p ++ y)⟩
      = takeMisc fuel ⟨o + byteLength b + byteLength p, y⟩) (ht : IsMisc t) :
    IsMisc (b ++ (p ++ t)) := by
  intro fuel o y hy hfuel
  obtain ⟨fuel, rfl⟩ : ∃ n, fuel = n + 1 := ⟨fuel - 1, by omega⟩
  have hlength : 0 < p.length := List.length_pos_of_ne_nil hp
  rw [List.append_assoc, List.append_assoc] at hfuel ⊢
  rw [hstep, ht _ _ _ hy (by simp at hfuel ⊢; omega)]
  simp [Nat.add_assoc]

/-- What has been taken off is white space, comments and instructions, and nothing of the kind follows.
-/
theorem takeMisc_ok {fuel o : Nat} {cs : List Char} {r : Span}
    (h : takeMisc fuel ⟨o, cs⟩ = .ok r) (hfuel : cs.length < fuel) :
    ∃ t y, cs = t ++ y ∧ EndsMisc y ∧ IsMisc t := by
  induction fuel generalizing o cs with
  | zero => omega
  | succ fuel ih =>
    obtain ⟨b, y, rfl, hb, hspace, hskip⟩ := exists_skipSpace o cs
    rw [takeMisc, hskip] at h
    split at h
    next hcomment =>
      obtain ⟨rest, rfl⟩ := startsWith_iff.1 hcomment
      obtain ⟨s, hcomment, h⟩ := bind_eq_ok.1 h
      obtain ⟨v, y, rfl, hskips⟩ := takeComment_ok hcomment
      rw [← List.append_assoc "<!--".toList, hskips] at hcomment
      cases hcomment
      obtain ⟨t, z, rfl, hz, ht⟩ := ih h (by simp at hfuel ⊢; omega)
      exact ⟨_, z, by simp, hz, ht.append (by simp) (takeMisc_comment hb hskips)⟩
    next hcomment =>
      split at h
      next hinstruction =>
        obtain ⟨rest, rfl⟩ := startsWith_iff.1 hinstruction
        obtain ⟨s, hinstruction, h⟩ := bind_eq_ok.1 h
        obtain ⟨v, y, rfl, hskips⟩ := takeInstruction_ok hinstruction
        rw [← List.append_assoc "<?".toList, hskips] at hinstruction
        cases hinstruction
        obtain ⟨t, z, rfl, hz, ht⟩ := ih h (by simp at hfuel ⊢; omega)
        exact ⟨_, z, by simp, hz, ht.append (by simp) (takeMisc_instruction hb hskips)⟩
      next hinstruction =>
        exact ⟨b, y, rfl, ⟨hspace, Bool.eq_false_iff.2 hcomment, Bool.eq_false_iff.2 hinstruction⟩,
          isMisc_space hb⟩

/-- There is always fuel enough for the text. -/
theorem takeAllMisc_append {t y : List Char} (ht : IsMisc t) (hy : EndsMisc y) (o : Nat) :
    takeAllMisc ⟨o, t ++ y⟩ = .ok ⟨o + byteLength t, y⟩ :=
  ht _ o y hy (Nat.lt_succ_self _)

/-- What has been taken off is taken off every text that begins with it. -/
theorem takeAllMisc_ok {o : Nat} {cs : List Char} {r : Span} (h : takeAllMisc ⟨o, cs⟩ = .ok r) :
    ∃ t y, cs = t ++ y ∧ EndsMisc y ∧ IsMisc t ∧ r = ⟨o + byteLength t, y⟩ := by
  obtain ⟨t, y, rfl, hy, ht⟩ := takeMisc_ok h (Nat.lt_succ_self _)
  rw [takeAllMisc_append ht hy] at h
  cases h
  exact ⟨t, y, rfl, hy, ht, rfl⟩

/-! ## The declaration of the document -/

/-- The end of the declaration, with white space in front. -/
private def declarationEnd (s : Span) : Except Fault Span := takeText "?>" (skipSpace s)

private def declarationAfterEncoding (s : Span) : Except Fault Span := do
  let s ← if s.startsWith "standalone".toList then takeDeclarationAttribute s else pure s
  declarationEnd s

private def declarationAfterVersion (s : Span) : Except Fault Span := do
  let s ← if s.startsWith "encoding".toList then
      takeDeclarationSpace (← takeDeclarationAttribute s)
    else pure s
  declarationAfterEncoding s

private def declarationAfterSpace (s : Span) : Except Fault Span := do
  if !s.startsWith "version".toList then fail (.wrongText "version") s
  else
    let s ← takeDeclarationSpace (← takeDeclarationAttribute s)
    declarationAfterVersion s

/-- The declaration is white space and its parts. -/
private theorem takeDeclaration_eq (s : Span) :
    takeDeclaration s = takeDeclarationSpace (s.drop 5) >>= declarationAfterSpace := rfl

/-- The reader looks at no more than two characters behind what it takes. -/
private def LooksAhead (f : Span → Except Fault Span) : Prop :=
  ∀ o cs r, f ⟨o, cs⟩ = .ok r → ∃ t y, cs = t ++ y ∧ r = ⟨o + byteLength t, y⟩ ∧
    ∀ o' y', y'.take 2 = y.take 2 → f ⟨o', t ++ y'⟩ = .ok ⟨o' + byteLength t, y'⟩

/-- The reader ends with the end of the declaration. -/
private def EndsDeclaration (f : Span → Except Fault Span) : Prop :=
  ∀ o cs r, f ⟨o, cs⟩ = .ok r → ∃ t y, cs = t ++ "?>".toList ++ y ∧ Skips f (t ++ "?>".toList)

/-- A part of the declaration is skipped in the same way whatever follows. -/
private theorem takeDeclarationAttribute_ok {o : Nat} {cs : List Char} {r : Span}
    (h : takeDeclarationAttribute ⟨o, cs⟩ = .ok r) :
    ∃ t y, cs = t ++ y ∧ r = ⟨o + byteLength t, y⟩ ∧ Skips takeDeclarationAttribute t := by
  obtain ⟨⟨raw, s⟩, hattribute, hrest⟩ := bind_eq_ok.1 h
  cases hrest
  obtain ⟨t, y, raw₀, rfl, -, -, -, htakes⟩ := takeAttribute_ok hattribute
  rw [htakes] at hattribute
  cases hattribute
  refine ⟨t, y, rfl, rfl, fun o' y' => ?_⟩
  unfold takeDeclarationAttribute
  rw [htakes]
  rfl

/-- Whether a span begins with white space depends on its first character. -/
private theorem startsWithSpace_of_stopsAt {y : List Char} (h : StopsAt isSpace y) (o : Nat) :
    startsWithSpace ⟨o, y⟩ = false := by
  cases y with
  | nil => rfl
  | cons c y => exact stopsAt_cons.1 h

/-- White space between parts may be missing only at the end. -/
private theorem takeDeclarationSpace_append {b y : List Char} (hb : ∀ c ∈ b, isSpace c = true)
    (hy : StopsAt isSpace y) (hends : b = [] → y = [] ∨ "?>".toList.isPrefixOf y = true) (o : Nat) :
    takeDeclarationSpace ⟨o, b ++ y⟩ = .ok ⟨o + byteLength b, y⟩ := by
  unfold takeDeclarationSpace
  rw [skipSpace_append hb hy, if_pos]
  cases b with
  | cons c b => simp [startsWithSpace, Span.head?, hb c List.mem_cons_self]
  | nil =>
    rcases hends rfl with rfl | hword
    · rfl
    · rw [show Span.startsWith "?>".toList ⟨o, [] ++ y⟩ = true from hword]
      simp

private theorem looksAhead_declarationSpace : LooksAhead takeDeclarationSpace := by
  intro o cs r h
  obtain ⟨b, y, rfl, hb, hy, -⟩ := exists_skipSpace o cs
  have hends : b = [] → y = [] ∨ "?>".toList.isPrefixOf y = true := by
    rintro rfl
    by_contra hcontra
    rw [not_or] at hcontra
    obtain ⟨c, y, rfl⟩ := List.exists_cons_of_ne_nil hcontra.1
    have hstarts : Span.startsWith "?>".toList ⟨o, c :: y⟩ = false := Bool.eq_false_iff.2 hcontra.2
    unfold takeDeclarationSpace at h
    rw [List.nil_append, startsWithSpace_of_stopsAt hy, hstarts, if_neg (by simp [Span.atEnd])] at h
    simp only [takeSpace, Span.head?, List.head?_cons, stopsAt_cons.1 hy] at h
    cases h
  rw [takeDeclarationSpace_append hb hy hends] at h
  cases h
  refine ⟨b, y, rfl, rfl, fun o' y' htake => takeDeclarationSpace_append hb ?_ ?_ o'⟩
  · intro c hc
    have hhead : y'.head? = y.head? := by
      simpa [List.head?_take] using congrArg List.head? htake
    exact hy c (hhead ▸ hc)
  · intro hnil
    rcases hends hnil with rfl | hword
    · left
      simpa using htake
    · right
      rw [List.isPrefixOf_iff_prefix, List.prefix_iff_eq_take] at hword ⊢
      exact hword.trans htake.symm

private theorem endsDeclaration_end : EndsDeclaration declarationEnd := by
  intro o cs r h
  obtain ⟨b, y, rfl, hb, -, hskip⟩ := exists_skipSpace o cs
  unfold declarationEnd at h
  rw [hskip] at h
  obtain ⟨z, rfl, -⟩ := takeText_ok h
  refine ⟨b, z, by simp, fun o' y' => ?_⟩
  have hstop : StopsAt isSpace ("?>".toList ++ y') := stopsAt_cons.2 (by decide)
  unfold declarationEnd
  rw [List.append_assoc, skipSpace_append hb hstop, takeText_append]
  simp [Nat.add_assoc]

/-- The end of the declaration is long enough for what is looked at in front of it. -/
private theorem LooksAhead.bind {f g : Span → Except Fault Span} (hf : LooksAhead f)
    (hg : EndsDeclaration g) : EndsDeclaration fun s => f s >>= g := by
  intro o cs r h
  obtain ⟨s, hs, hr⟩ := bind_eq_ok.1 h
  obtain ⟨t, y, rfl, rfl, hahead⟩ := hf o cs s hs
  obtain ⟨u, z, rfl, hskips⟩ := hg _ _ _ hr
  refine ⟨t ++ u, z, by simp, fun o' y' => ?_⟩
  have htake : (u ++ "?>".toList ++ y').take 2 = (u ++ "?>".toList ++ z).take 2 := by
    have hlength : 2 ≤ (u ++ "?>".toList).length := by simp
    rw [List.take_append_of_le_length hlength, List.take_append_of_le_length hlength]
  dsimp only
  rw [show t ++ u ++ "?>".toList ++ y' = t ++ (u ++ "?>".toList ++ y') by simp, hahead _ _ htake,
    ok_bind, hskips]
  simp [Nat.add_assoc]

/-- A part that need not be there is told from the end of the declaration by its first word. -/
private theorem EndsDeclaration.ite {f g : Span → Except Fault Span} {w : List Char}
    (hf : EndsDeclaration f) (hg : EndsDeclaration g) (hw : '>' ∉ w) :
    EndsDeclaration fun s => if s.startsWith w then f s else g s := by
  have hlook : ∀ o o' t y y', Span.startsWith w ⟨o, t ++ "?>".toList ++ y⟩
      = Span.startsWith w ⟨o', t ++ "?>".toList ++ y'⟩ := by
    intro o o' t y y'
    have hmem : '>' ∈ t ++ "?>".toList := by simp
    unfold Span.startsWith
    rw [isPrefixOf_append_of_mem hmem hw, isPrefixOf_append_of_mem hmem hw]
  intro o cs r h
  dsimp only at h
  split at h
  next hstarts =>
    obtain ⟨t, y, rfl, hskips⟩ := hf o cs r h
    refine ⟨t, y, rfl, fun o' y' => ?_⟩
    dsimp only
    rw [if_pos (hlook o o' t y y' ▸ hstarts), hskips]
  next hstarts =>
    obtain ⟨t, y, rfl, hskips⟩ := hg o cs r h
    refine ⟨t, y, rfl, fun o' y' => ?_⟩
    dsimp only
    rw [if_neg (hlook o o' t y y' ▸ hstarts), hskips]

private theorem looksAhead_attribute : LooksAhead takeDeclarationAttribute := by
  intro o cs r h
  obtain ⟨t, y, rfl, rfl, hskips⟩ := takeDeclarationAttribute_ok h
  exact ⟨t, y, rfl, rfl, fun o' y' _ => hskips o' y'⟩

private theorem looksAhead_attributeSpace :
    LooksAhead fun s => takeDeclarationAttribute s >>= takeDeclarationSpace := by
  intro o cs r h
  obtain ⟨s, hs, hr⟩ := bind_eq_ok.1 h
  obtain ⟨t, y, rfl, rfl, hskips⟩ := takeDeclarationAttribute_ok hs
  obtain ⟨u, z, rfl, rfl, hahead⟩ := looksAhead_declarationSpace _ _ _ hr
  refine ⟨t ++ u, z, by simp, by simp [Nat.add_assoc], fun o' y' htake => ?_⟩
  dsimp only
  rw [List.append_assoc, hskips, ok_bind, hahead _ _ htake]
  simp [Nat.add_assoc]

/-- Behind the encoding comes the end, perhaps with one more part in front. -/
private theorem endsDeclaration_afterEncoding : EndsDeclaration declarationAfterEncoding := by
  have heq : declarationAfterEncoding = fun s => if s.startsWith "standalone".toList
      then takeDeclarationAttribute s >>= declarationEnd else declarationEnd s := by
    funext s
    unfold declarationAfterEncoding
    split <;> rfl
  rw [heq]
  exact (looksAhead_attribute.bind endsDeclaration_end).ite endsDeclaration_end (by decide)

/-- Behind the version comes the encoding, if it is there. -/
private theorem endsDeclaration_afterVersion : EndsDeclaration declarationAfterVersion := by
  have heq : declarationAfterVersion = fun s => if s.startsWith "encoding".toList
      then takeDeclarationAttribute s >>= takeDeclarationSpace >>= declarationAfterEncoding
      else declarationAfterEncoding s := by
    funext s
    unfold declarationAfterVersion
    rw [bind_assoc]
    split <;> rfl
  rw [heq]
  exact (looksAhead_attributeSpace.bind endsDeclaration_afterEncoding).ite
    endsDeclaration_afterEncoding (by decide)

/-- The version comes first. -/
private theorem endsDeclaration_afterSpace : EndsDeclaration declarationAfterSpace := by
  have hfail : EndsDeclaration fun s => fail (.wrongText "version") s := by
    intro o cs r h
    cases h
  have heq : declarationAfterSpace = fun s => if s.startsWith "version".toList
      then takeDeclarationAttribute s >>= takeDeclarationSpace >>= declarationAfterVersion
      else fail (.wrongText "version") s := by
    funext s
    unfold declarationAfterSpace
    rw [bind_assoc]
    cases s.startsWith "version".toList <;> rfl
  rw [heq]
  exact (looksAhead_attributeSpace.bind endsDeclaration_afterVersion).ite hfail (by decide)

/-- A declaration is taken in the same way whatever follows it. -/
theorem takeDeclaration_ok {o : Nat} {cs : List Char} {r : Span}
    (h : takeDeclaration ⟨o, "<?xml".toList ++ cs⟩ = .ok r) :
    ∃ t y, cs = t ++ "?>".toList ++ y ∧
      Skips takeDeclaration ("<?xml".toList ++ (t ++ "?>".toList)) := by
  have hdrop : ∀ o cs, Span.drop 5 ⟨o, "<?xml".toList ++ cs⟩ = ⟨o + byteLength "<?xml".toList, cs⟩ :=
    fun o cs => drop_append "<?xml".toList cs o
  rw [takeDeclaration_eq, hdrop] at h
  obtain ⟨t, y, rfl, hskips⟩ :=
    looksAhead_declarationSpace.bind endsDeclaration_afterSpace _ _ _ h
  refine ⟨t, y, rfl, fun o' y' => ?_⟩
  have hread := hskips (o' + byteLength "<?xml".toList) y'
  rw [takeDeclaration_eq, List.append_assoc, hdrop]
  dsimp only at hread
  rw [hread]
  simp [Nat.add_assoc]

/-! ## The whole prolog -/

/-- The declaration of the document, if there is one, and what may follow it. -/
private def takeAfterMark (s : Span) : Except Fault Span :=
  (if s.startsWith "<?xml ".toList then takeDeclaration s else .ok s) >>= takeAllMisc

/-- A byte order mark is left out. -/
private theorem takeStart_eq (s : Span) :
    takeStart s = takeAfterMark (if s.head? = some (Char.ofNat 0xFEFF) then s.tail else s) := by
  unfold takeStart takeAfterMark
  dsimp only
  split <;> split <;> rfl

/-- A tag or a document type follows. -/
structure RootFollows (y : List Char) : Prop where
  angle : ∃ z, y = '<' :: z
  misc : EndsMisc y

/-- Whether a declaration stands in front does not depend on which root follows. -/
private theorem startsWith_declaration {t y y' : List Char} (hy : RootFollows y)
    (hy' : RootFollows y') (o o' : Nat) :
    Span.startsWith "<?xml ".toList ⟨o, t ++ y⟩ = Span.startsWith "<?xml ".toList ⟨o', t ++ y'⟩ := by
  -- a root does not start like a declaration, and no declaration goes on across an angle bracket
  have hnone : ∀ y, RootFollows y → "<?xml ".toList.isPrefixOf y = false := by
    intro y hy
    rw [Bool.eq_false_iff]
    intro hdeclaration
    have hinstruction : "<?".toList.isPrefixOf y = true := by
      rw [List.isPrefixOf_iff_prefix] at hdeclaration ⊢
      exact (show "<?".toList <+: "<?xml ".toList from ⟨"xml ".toList, rfl⟩).trans hdeclaration
    rw [hy.misc.instruction] at hinstruction
    cases hinstruction
  unfold Span.startsWith
  cases t with
  | nil =>
    rw [List.nil_append, List.nil_append, hnone y hy, hnone y' hy']
  | cons c t =>
    obtain ⟨z, rfl⟩ := hy.angle
    obtain ⟨z', rfl⟩ := hy'.angle
    have hlook : ∀ z, "?xml ".toList.isPrefixOf (t ++ '<' :: z)
        = "?xml ".toList.isPrefixOf (t ++ ['<']) := by
      intro z
      rw [List.append_cons]
      exact isPrefixOf_append_of_mem (c := '<') (by simp) (by decide) z
    show ('<' == c && "?xml ".toList.isPrefixOf (t ++ '<' :: z))
      = ('<' == c && "?xml ".toList.isPrefixOf (t ++ '<' :: z'))
    rw [hlook z, hlook z']

/-- What stands in front of the root is taken in the same way in front of every root. -/
private theorem takeAfterMark_ok {o : Nat} {cs : List Char} {r : Span}
    (h : takeAfterMark ⟨o, cs⟩ = .ok r) (hr : ∃ z, r.chars = '<' :: z) :
    ∃ t y, cs = t ++ y ∧ RootFollows y ∧ r = ⟨o + byteLength t, y⟩ ∧
      ∀ y', RootFollows y' → takeAfterMark ⟨o, t ++ y'⟩ = .ok ⟨o + byteLength t, y'⟩ := by
  obtain ⟨s, hdeclaration, hmisc⟩ := bind_eq_ok.1 h
  split at hdeclaration
  next hstarts =>
    obtain ⟨rest, rfl⟩ := startsWith_iff.1 hstarts
    have hsplit : ∀ y, "<?xml ".toList ++ y = "<?xml".toList ++ (' ' :: y) := fun _ => rfl
    rw [hsplit] at hdeclaration
    obtain ⟨t, y, hrest, hskips⟩ := takeDeclaration_ok hdeclaration
    rw [hrest, ← List.append_assoc, hskips] at hdeclaration
    cases hdeclaration
    obtain ⟨m, y, rfl, hends, hm, rfl⟩ := takeAllMisc_ok hmisc
    refine ⟨"<?xml".toList ++ (t ++ "?>".toList) ++ m, y, ?_, ⟨hr, hends⟩, ?_, fun y' hy' => ?_⟩
    · rw [hsplit, hrest]
      simp
    · simp [Nat.add_assoc]
    · have hstarts' : Span.startsWith "<?xml ".toList
          ⟨o, "<?xml".toList ++ (t ++ "?>".toList) ++ (m ++ y')⟩ = true := by
        rw [startsWith_append_of_mem (by simp) o o _ (m ++ y) (by decide), List.append_assoc, ← hrest]
        exact hstarts
      unfold takeAfterMark
      rw [List.append_assoc, if_pos hstarts', hskips, ok_bind, takeAllMisc_append hm hy'.misc]
      simp [Nat.add_assoc]
  next hstarts =>
    cases hdeclaration
    obtain ⟨m, y, rfl, hends, hm, rfl⟩ := takeAllMisc_ok hmisc
    refine ⟨m, y, rfl, ⟨hr, hends⟩, rfl, fun y' hy' => ?_⟩
    rw [startsWith_declaration ⟨hr, hends⟩ hy' o o] at hstarts
    unfold takeAfterMark
    rw [if_neg hstarts, ok_bind, takeAllMisc_append hm hy'.misc]

/-- So is it with a byte order mark. -/
private theorem takeStart_ok {o : Nat} {cs : List Char} {r : Span}
    (h : takeStart ⟨o, cs⟩ = .ok r) (hr : ∃ z, r.chars = '<' :: z) :
    ∃ t y, cs = t ++ y ∧ RootFollows y ∧ r = ⟨o + byteLength t, y⟩ ∧
      ∀ y', RootFollows y' → takeStart ⟨o, t ++ y'⟩ = .ok ⟨o + byteLength t, y'⟩ := by
  rw [takeStart_eq] at h
  split at h
  next hmark =>
    obtain ⟨cs, rfl⟩ := List.head?_eq_some_iff.1 hmark
    obtain ⟨t, y, rfl, hy, rfl, htake⟩ := takeAfterMark_ok h hr
    refine ⟨Char.ofNat 0xFEFF :: t, y, rfl, hy, by simp [Nat.add_assoc], fun y' hy' => ?_⟩
    have hmark' : Span.head? ⟨o, Char.ofNat 0xFEFF :: t ++ y'⟩ = some (Char.ofNat 0xFEFF) := rfl
    rw [takeStart_eq, if_pos hmark']
    show takeAfterMark ⟨o + (Char.ofNat 0xFEFF).utf8Size, t ++ y'⟩ = _
    rw [htake y' hy']
    simp [Nat.add_assoc]
  next hmark =>
    obtain ⟨t, y, rfl, hy, rfl, htake⟩ := takeAfterMark_ok h hr
    refine ⟨t, y, rfl, hy, rfl, fun y' hy' => ?_⟩
    -- the mark is looked for at the very front, which is the root itself if nothing precedes it
    have hmark' : ¬ Span.head? ⟨o, t ++ y'⟩ = some (Char.ofNat 0xFEFF) := by
      cases t with
      | nil =>
        obtain ⟨z, rfl⟩ := hy'.angle
        intro hhead
        exact absurd (Option.some.inj hhead) (by decide)
      | cons c t => exact hmark
    rw [takeStart_eq, if_neg hmark']
    exact htake y' hy'

theorem rootFollows_tag {t : List Char} (h : StartsName t) : RootFollows ('<' :: t) :=
  ⟨⟨t, rfl⟩, endsMisc_tag h⟩

/-- What stands in front of a root element is cut in the same way in front of every root element. -/
theorem scanProlog_ok {done : List Token} {cs z : List Char} {r : Span}
    (h : scanProlog ⟨0, cs⟩ = (done, .ok r)) (hr : r.chars = '<' :: z) :
    ∃ p, cs = p ++ '<' :: z ∧ (∀ tok ∈ done, tok.IsEntity (byteLength p)) ∧
      ∀ z', StartsName z' → scanProlog ⟨0, p ++ '<' :: z'⟩ = (done, .ok ⟨byteLength p, '<' :: z'⟩) := by
  obtain ⟨s, hstart, h⟩ := after_eq_ok.1 h
  split at h
  next hdoctype =>
    obtain ⟨rest, hrest⟩ := startsWith_iff.1 hdoctype
    obtain ⟨t, y, rfl, hy, rfl, hstart'⟩ := takeStart_ok hstart ⟨_, hrest⟩
    dsimp only at hrest
    subst hrest
    rcases hscan : scanDoctype ⟨0 + byteLength t, "<!DOCTYPE".toList ++ rest⟩ with ⟨done', result⟩
    rw [hscan] at h
    obtain ⟨⟨o, cs⟩, rfl, h⟩ := after_eq_ok.1 h
    obtain ⟨rfl, hmisc⟩ := Prod.mk.inj h
    obtain ⟨m, y, rfl, hends, hm, rfl⟩ := takeAllMisc_ok hmisc
    dsimp only at hr
    subst hr
    obtain ⟨u, y, rfl, htoks, hcuts⟩ := scanDoctype_ok hscan (by simp)
    have hdoctype' : ∀ y', RootFollows ("<!DOCTYPE".toList ++ u ++ y') := by
      intro y'
      exact ⟨⟨_, rfl⟩, stopsAt_cons.2 (by decide), rfl, rfl⟩
    rw [← List.append_assoc, hcuts] at hscan
    cases hscan
    refine ⟨t ++ ("<!DOCTYPE".toList ++ u ++ m), by simp, ?_, fun z' hz' => ?_⟩
    · intro tok htok
      exact (htoks tok htok).mono (by simp)
    · have hstarts : Span.startsWith "<!DOCTYPE".toList
          ⟨0 + byteLength t, "<!DOCTYPE".toList ++ u ++ (m ++ '<' :: z')⟩ = true :=
        startsWith_iff.2 ⟨_, List.append_assoc _ _ _⟩
      unfold scanProlog
      rw [show t ++ ("<!DOCTYPE".toList ++ u ++ m) ++ '<' :: z'
        = t ++ ("<!DOCTYPE".toList ++ u ++ (m ++ '<' :: z')) by simp, hstart' _ (hdoctype' _), after_ok,
        if_pos hstarts, hcuts]
      dsimp only
      rw [after_ok, takeAllMisc_append hm (endsMisc_tag hz')]
      simp [Nat.add_assoc]
  next hdoctype =>
    cases h
    obtain ⟨t, y, rfl, hy, rfl, hstart'⟩ := takeStart_ok hstart ⟨z, hr⟩
    dsimp only at hr
    subst hr
    refine ⟨t, rfl, by simp, fun z' hz' => ?_⟩
    -- a name follows the angle bracket, and no name starts with an exclamation mark
    have hdoctype' : ¬ Span.startsWith "<!DOCTYPE".toList ⟨0 + byteLength t, '<' :: z'⟩ = true := by
      obtain ⟨c, u, rfl, hc⟩ := hz'
      have hbang : ('!' == c) = false := by
        rw [beq_eq_false_iff_ne]
        rintro rfl
        exact absurd hc (by decide)
      simp [Span.startsWith, List.isPrefixOf, hbang]
    unfold scanProlog
    rw [hstart' _ (rootFollows_tag hz'), after_ok, if_neg hdoctype']
    simp

end StatementLens.Xml
