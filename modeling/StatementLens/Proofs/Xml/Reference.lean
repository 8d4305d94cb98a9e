import StatementLens.Proofs.Xml.Readers
import StatementLens.Xml.Element

/-!
# References in texts and values

A reference ends at its semicolon, so what follows it has no part in it. A stretch of text adds to a
document what its references to entities add, one after the other (`addToken_text_eq_ok`), and a value
without references is read as it is written (`readValue_plain`).
-/

namespace StatementLens.Xml

open Text

/-! ## One reference -/

private theorem takeReferenceBody_hex (o : Nat) (cs : List Char) :
    takeReferenceBody ⟨o, '#' :: 'x' :: cs⟩
      = (charOfDigits 16 (Span.splitWhile isHexDigit ⟨o + 2, cs⟩).1).map fun c =>
        (.char c, (Span.splitWhile isHexDigit ⟨o + 2, cs⟩).2) := rfl

private theorem takeReferenceBody_decimal {cs : List Char} (h : cs.head? ≠ some 'x') (o : Nat) :
    takeReferenceBody ⟨o, '#' :: cs⟩
      = (charOfDigits 10 (Span.splitWhile Char.isDigit ⟨o + 1, cs⟩).1).map fun c =>
        (.char c, (Span.splitWhile Char.isDigit ⟨o + 1, cs⟩).2) := by
  unfold takeReferenceBody
  split
  next hcs =>
    cases hcs
    exact absurd rfl h
  next => rfl
  next hhash => exact absurd rfl (hhash cs)

/-- The reference that a name makes. -/
private def referenceTo (name : List Char) : Reference :=
  ((predefined.lookup (String.ofList name)).map Reference.char).getD (.entity name)

private theorem takeReferenceBody_name {cs : List Char} (h : cs.head? ≠ some '#') (o : Nat) :
    takeReferenceBody ⟨o, cs⟩
      = (takeName ⟨o, cs⟩).toOption.map fun (name, rest) => (referenceTo name, rest) := by
  unfold takeReferenceBody
  split
  next hcs =>
    rw [show cs = _ from hcs] at h
    exact absurd rfl h
  next hcs =>
    rw [show cs = _ from hcs] at h
    exact absurd rfl h
  next =>
    cases takeName ⟨o, cs⟩ with
    | error f => rfl
    | ok pair =>
      obtain ⟨name, rest⟩ := pair
      dsimp only [Except.toOption, Option.map_some, referenceTo]
      cases predefined.lookup (String.ofList name) <;> rfl

/-- The name or number of a reference does not depend on what follows the semicolon. -/
private theorem takeReferenceBody_ok {o o' : Nat} {cs y : List Char} {reference : Reference}
    (h : takeReferenceBody ⟨o, cs⟩ = some (reference, ⟨o', ';' :: y⟩)) :
    ∃ t, cs = t ++ ';' :: y ∧ ∀ o y',
      takeReferenceBody ⟨o, t ++ ';' :: y'⟩ = some (reference, ⟨o + byteLength t, ';' :: y'⟩) := by
  by_cases hhash : cs.head? = some '#'
  · obtain ⟨cs, rfl⟩ := List.head?_eq_some_iff.1 hhash
    by_cases hx : cs.head? = some 'x'
    · obtain ⟨cs, rfl⟩ := List.head?_eq_some_iff.1 hx
      obtain ⟨d, z, rfl, hd, -, hsplit⟩ := exists_splitWhile isHexDigit (o + 2) cs
      rw [takeReferenceBody_hex, hsplit] at h
      obtain ⟨c, hc, hpair⟩ := Option.map_eq_some_iff.1 h
      cases hpair
      refine ⟨'#' :: 'x' :: d, rfl, fun o y' => ?_⟩
      rw [List.cons_append, List.cons_append, takeReferenceBody_hex,
        splitWhile_append hd (stopsAt_cons.2 rfl)]
      dsimp only
      rw [hc, byteLength_cons, byteLength_cons, ← Nat.add_assoc, ← Nat.add_assoc]
      rfl
    · obtain ⟨d, z, rfl, hd, -, hsplit⟩ := exists_splitWhile Char.isDigit (o + 1) cs
      rw [takeReferenceBody_decimal hx, hsplit] at h
      obtain ⟨c, hc, hpair⟩ := Option.map_eq_some_iff.1 h
      cases hpair
      refine ⟨'#' :: d, rfl, fun o y' => ?_⟩
      -- the first sign behind the hash is a digit or the semicolon in both texts
      have hx' : (d ++ ';' :: y').head? ≠ some 'x' := by
        cases d with
        | nil => simp
        | cons c d => exact hx
      rw [List.cons_append, takeReferenceBody_decimal hx',
        splitWhile_append hd (stopsAt_cons.2 rfl)]
      dsimp only
      rw [hc, byteLength_cons, ← Nat.add_assoc]
      rfl
  · rw [takeReferenceBody_name hhash] at h
    obtain ⟨⟨name, rest⟩, hname, hpair⟩ := Option.map_eq_some_iff.1 h
    cases hpair
    cases hok : takeName ⟨o, cs⟩ with
    | error f =>
      rw [hok] at hname
      cases hname
    | ok pair =>
      rw [hok] at hname
      cases hname
      obtain ⟨z, rfl, hn, hfirst, -, hrest⟩ := takeName_ok hok
      cases hrest
      refine ⟨name, rfl, fun o y' => ?_⟩
      have hhash' : (name ++ ';' :: y').head? ≠ some '#' := by
        cases name with
        | nil => simp
        | cons c name => exact hhash
      rw [takeReferenceBody_name hhash', takeName_append hn hfirst (stopsAt_cons.2 (by decide))]
      rfl

/-- A reference is taken in the same way whatever follows it. -/
theorem takeReference_ok {o : Nat} {c : Char} {cs : List Char} {reference : Reference} {r : Span}
    (h : takeReference ⟨o, c :: cs⟩ = .ok (reference, r)) :
    ∃ t y, c :: cs = t ++ y ∧ t ≠ [] ∧ t.getLast? = some ';' ∧ r.chars = y ∧
      Takes takeReference t fun _ => reference := by
  have htail : ∀ o cs, Span.tail ⟨o, c :: cs⟩ = ⟨o + c.utf8Size, cs⟩ := fun _ _ => rfl
  unfold takeReference at h
  rw [htail] at h
  cases hbody : takeReferenceBody ⟨o + c.utf8Size, cs⟩ with
  | none =>
    rw [hbody] at h
    cases h
  | some pair =>
    obtain ⟨reference', ⟨o', z⟩⟩ := pair
    rw [hbody] at h
    by_cases hz : z.head? = some ';'
    · obtain ⟨y, rfl⟩ := List.head?_eq_some_iff.1 hz
      cases h
      obtain ⟨t, rfl, htakes⟩ := takeReferenceBody_ok hbody
      have hlast : (c :: (t ++ [';'])).getLast? = some ';' := by
        rw [← List.cons_append, List.getLast?_concat]
      refine ⟨c :: (t ++ [';']), y, by simp, List.cons_ne_nil _ _, hlast, rfl, fun o y' => ?_⟩
      unfold takeReference
      rw [List.cons_append, List.append_assoc, List.singleton_append, htail, htakes]
      simp [Span.head?, Span.tail, Nat.add_assoc]
    · have hhead : Span.head? ⟨o', z⟩ ≠ some ';' := hz
      simp only [if_neg hhead] at h
      cases h

/-! ## Text -/

/-- The entities that a stretch of text refers to, one after the other. -/
inductive Refers : List Char → List (List Char) → Prop where
  | plain {u : List Char} (h : '&' ∉ u) : Refers u []
  | char {u t w : List Char} {names : List (List Char)} {c : Char} (hu : '&' ∉ u)
      (hhead : t.head? = some '&') (hlast : t.getLast? = some ';')
      (ht : Takes takeReference t fun _ => .char c) (hw : Refers w names) :
      Refers ((u ++ t) ++ w) names
  | entity {u t w : List Char} {name : List Char} {names : List (List Char)} (hu : '&' ∉ u)
      (hhead : t.head? = some '&') (hlast : t.getLast? = some ';')
      (ht : Takes takeReference t fun _ => .entity name) (hw : Refers w names) :
      Refers ((u ++ t) ++ w) (name :: names)

theorem Refers.append {w s : List Char} {names : List (List Char)} (h : Refers w names)
    (hs : '&' ∉ s) : Refers (w ++ s) names := by
  induction h with
  | plain h =>
    refine .plain fun hmem => ?_
    rcases List.mem_append.1 hmem with hmem | hmem
    · exact h hmem
    · exact hs hmem
  | char hu hhead hlast ht hw ih =>
    rw [List.append_assoc]
    exact .char hu hhead hlast ht ih
  | entity hu hhead hlast ht hw ih =>
    rw [List.append_assoc]
    exact .entity hu hhead hlast ht ih

/-- A piece that ends with a semicolon stands in front of what has none. -/
private theorem eq_append_of_semicolon {x v w s : List Char} (h : x ++ v = w ++ s)
    (hlast : x.getLast? = some ';') (hs : ';' ∉ s) : ∃ w', w = x ++ w' ∧ v = w' ++ s := by
  rcases List.append_eq_append_iff.1 h with ⟨w', rfl, hv⟩ | ⟨z, hx, rfl⟩
  · exact ⟨w', rfl, hv⟩
  · cases z with
    | nil =>
      rw [List.append_nil] at hx
      exact ⟨[], by simp [hx], rfl⟩
    -- the semicolon would stand in what has none
    | cons c z =>
      rw [hx, List.getLast?_append_of_ne_nil _ (List.cons_ne_nil c z)] at hlast
      exact absurd (List.mem_append_left v (List.mem_of_getLast? hlast)) hs

theorem Refers.of_append {w s : List Char} {names : List (List Char)} (h : Refers (w ++ s) names)
    (hs : ';' ∉ s) : Refers w names := by
  generalize hws : w ++ s = ws at h
  induction h generalizing w with
  | plain h =>
    subst hws
    exact .plain fun hmem => h (List.mem_append_left s hmem)
  | @char u t v names c hu hhead hlast ht hw ih =>
    have hpiece : (u ++ t).getLast? = some ';' := by
      rw [List.getLast?_append, hlast, Option.some_or]
    obtain ⟨w, rfl, rfl⟩ := eq_append_of_semicolon hws.symm hpiece hs
    exact .char hu hhead hlast ht (ih rfl)
  | @entity u t v name names hu hhead hlast ht hw ih =>
    have hpiece : (u ++ t).getLast? = some ';' := by
      rw [List.getLast?_append, hlast, Option.some_or]
    obtain ⟨w, rfl, rfl⟩ := eq_append_of_semicolon hws.symm hpiece hs
    exact .entity hu hhead hlast ht (ih rfl)

/-- What is expanded does not depend on what follows the reference, if it can be expanded. -/
def Steady (expand : Builder.ContentExpander) : Prop :=
  ∀ value rest rest' b b', expand value rest b = .ok b' → expand value rest' b = .ok b'

theorem expandContent_steady (levels : Nat) : Steady (Builder.expandContent levels) := by
  intro value rest rest' b b' h
  cases levels with
  | zero => cases h
  | succ levels => exact h

theorem countReference_ok {levels count count' : Nat} {s : Span}
    (h : countReference levels count s = .ok count') (s' : Span) :
    countReference levels count s' = .ok count' := by
  unfold countReference at h ⊢
  split at h
  next hlevels => rw [if_pos hlevels, h]
  next hlevels =>
    split at h
    next => cases h
    next hcount => rw [if_neg hlevels, if_neg hcount, h]

theorem replacement_ok {entities : List Entity} {name : List Char} {s value : Span}
    (h : replacement entities name s = .ok value) (s' : Span) :
    replacement entities name s' = .ok value := by
  unfold replacement at h ⊢
  split at h
  · exact h
  · cases h

namespace Builder

/-- Replaces one reference to an entity. The reference begins `s`, and `rest` follows it. -/
def addReferenceAt (levels : Nat) (expand : ContentExpander) (s rest : Span) (b : Builder)
    (name : List Char) : Except Fault Builder := do
  let value ← replacement b.entities name s
  let count ← countReference levels b.references rest
  let b ← expand value rest { b with references := count }
  return { b with references := countAfter levels b.references }

/-- Replaces one reference to an entity, its place aside. -/
def addReference (levels : Nat) (expand : ContentExpander) : Builder → List Char →
    Except Fault Builder :=
  addReferenceAt levels expand ⟨0, []⟩ ⟨0, []⟩

theorem addReferenceAt_eq_ok {levels : Nat} {expand : ContentExpander} {s rest : Span}
    {b b' : Builder} {name : List Char} : addReferenceAt levels expand s rest b name = .ok b' ↔
      ∃ value count inner, replacement b.entities name s = .ok value ∧
        countReference levels b.references rest = .ok count ∧
        expand value rest { b with references := count } = .ok inner ∧
        b' = { inner with references := countAfter levels inner.references } := by
  unfold addReferenceAt
  simp only [bind_eq_ok]
  constructor
  · rintro ⟨value, hvalue, count, hcount, inner, hinner, h⟩
    cases h
    exact ⟨value, count, inner, hvalue, hcount, hinner, rfl⟩
  · rintro ⟨value, count, inner, hvalue, hcount, hinner, rfl⟩
    exact ⟨value, hvalue, count, hcount, inner, hinner, rfl⟩

variable {levels : Nat} {expand : ContentExpander}

theorem addReferenceAt_ok (hexpand : Steady expand) {s rest : Span} {b b' : Builder}
    {name : List Char} (h : addReferenceAt levels expand s rest b name = .ok b') (s' rest' : Span) :
    addReferenceAt levels expand s' rest' b name = .ok b' := by
  obtain ⟨value, count, inner, hvalue, hcount, hinner, rfl⟩ := addReferenceAt_eq_ok.1 h
  exact addReferenceAt_eq_ok.2 ⟨value, count, inner, replacement_ok hvalue s',
    countReference_ok hcount rest', hexpand _ _ _ _ _ hinner, rfl⟩

/-- Text without an ampersand adds nothing. -/
theorem addText_plain (fuel : Nat) (b : Builder) (o : Nat) {u : List Char} (hu : '&' ∉ u) :
    addText levels expand fuel b ⟨o, u⟩ = .ok b := by
  cases fuel with
  | zero => rfl
  | succ fuel =>
    have hdrop : Span.dropWhile (· ≠ '&') ⟨o, u⟩ = ⟨o + byteLength u, []⟩ := by
      have hall : ∀ c ∈ u, decide (c ≠ '&') = true := by
        intro c hc
        exact decide_eq_true fun heq => hu (heq ▸ hc)
      have hsplit := splitWhile_append hall (stopsAt_nil _) o
      rw [List.append_nil] at hsplit
      unfold Span.dropWhile
      rw [hsplit]
    rw [addText, hdrop]
    rfl

/-- Text up to its first reference is passed over. -/
private theorem addText_reference {u t : List Char} {reference : Reference} (hu : '&' ∉ u)
    (hhead : t.head? = some '&') (ht : Takes takeReference t fun _ => reference) (fuel : Nat)
    (b : Builder) (o : Nat) (w : List Char) :
    addText levels expand (fuel + 1) b ⟨o, (u ++ t) ++ w⟩ =
      match reference with
      | .char _ => addText levels expand fuel b ⟨o + byteLength u + byteLength t, w⟩
      | .entity name =>
        addReferenceAt levels expand ⟨o + byteLength u, t ++ w⟩
          ⟨o + byteLength u + byteLength t, w⟩ b name >>= fun b =>
            addText levels expand fuel b ⟨o + byteLength u + byteLength t, w⟩ := by
  obtain ⟨t', rfl⟩ := List.head?_eq_some_iff.1 hhead
  have hdrop : Span.dropWhile (· ≠ '&') ⟨o, (u ++ '&' :: t') ++ w⟩
      = ⟨o + byteLength u, ('&' :: t') ++ w⟩ := by
    have hall : ∀ c ∈ u, decide (c ≠ '&') = true := by
      intro c hc
      exact decide_eq_true fun heq => hu (heq ▸ hc)
    have hstop : StopsAt (fun c => decide (c ≠ '&')) (('&' :: t') ++ w) := stopsAt_cons.2 rfl
    unfold Span.dropWhile
    rw [List.append_assoc, splitWhile_append hall hstop]
  rw [addText, hdrop]
  dsimp only
  rw [if_neg (by simp [Span.atEnd]), ht, ok_bind]
  cases reference with
  | char c => rfl
  | entity name =>
    unfold addReferenceAt
    simp only [bind_assoc]
    rfl

theorem addText_of_refers {w : List Char} {names : List (List Char)} {b b' : Builder}
    (h : Refers w names) (hok : names.foldlM (addReference levels expand) b = .ok b')
    (hexpand : Steady expand) {fuel : Nat} (hfuel : w.length < fuel) (o : Nat) :
    addText levels expand fuel b ⟨o, w⟩ = .ok b' := by
  induction h generalizing b fuel o with
  | plain hu =>
    cases hok
    exact addText_plain fuel _ o hu
  | @char u t w names c hu hhead hlast ht hw ih =>
    obtain ⟨fuel, rfl⟩ : ∃ n, fuel = n + 1 := ⟨fuel - 1, by omega⟩
    obtain ⟨t', rfl⟩ := List.head?_eq_some_iff.1 hhead
    rw [addText_reference hu rfl ht]
    exact ih hok (by simp at hfuel; omega) _
  | @entity u t w name names hu hhead hlast ht hw ih =>
    obtain ⟨fuel, rfl⟩ : ∃ n, fuel = n + 1 := ⟨fuel - 1, by omega⟩
    obtain ⟨t', rfl⟩ := List.head?_eq_some_iff.1 hhead
    rw [List.foldlM_cons, bind_eq_ok] at hok
    obtain ⟨b₁, hstep, hrest⟩ := hok
    rw [addText_reference hu rfl ht]
    dsimp only
    rw [addReferenceAt_ok hexpand hstep, ok_bind]
    exact ih hrest (by simp at hfuel; omega) _

/-- What text adds is what its references to entities add. -/
theorem addText_ok (hexpand : Steady expand) {fuel : Nat} {b b' : Builder} {o : Nat} {w : List Char}
    (h : addText levels expand fuel b ⟨o, w⟩ = .ok b') (hfuel : w.length < fuel) :
    ∃ names, Refers w names ∧ names.foldlM (addReference levels expand) b = .ok b' := by
  induction fuel generalizing b o w with
  | zero => omega
  | succ fuel ih =>
    obtain ⟨u, z, rfl, hall, hz, hsplit⟩ := exists_splitWhile (fun c => decide (c ≠ '&')) o w
    have hu : '&' ∉ u := fun hmem => absurd rfl (of_decide_eq_true (hall _ hmem))
    cases z with
    | nil =>
      rw [List.append_nil] at h ⊢
      rw [addText_plain _ _ _ hu] at h
      exact ⟨[], .plain hu, h⟩
    | cons c z =>
      obtain rfl : c = '&' := by simpa using stopsAt_cons.1 hz
      have htaken : ∃ reference r, takeReference ⟨o + byteLength u, '&' :: z⟩ = .ok (reference, r) := by
        have hdrop : Span.dropWhile (fun c => decide (c ≠ '&')) ⟨o, u ++ '&' :: z⟩
            = ⟨o + byteLength u, '&' :: z⟩ := by
          unfold Span.dropWhile
          rw [hsplit]
        rw [addText, hdrop] at h
        dsimp only at h
        rw [if_neg (by simp [Span.atEnd]), bind_eq_ok] at h
        obtain ⟨⟨reference, r⟩, htake, -⟩ := h
        exact ⟨reference, r, htake⟩
      obtain ⟨reference, r, htake⟩ := htaken
      obtain ⟨t, y, hzt, hne, hlast, -, ht⟩ := takeReference_ok htake
      obtain ⟨t', rfl⟩ : ∃ t', t = '&' :: t' := by
        cases t with
        | nil => exact absurd rfl hne
        | cons c t =>
          cases hzt
          exact ⟨t, rfl⟩
      rw [hzt, ← List.append_assoc] at h hfuel ⊢
      rw [addText_reference hu rfl ht] at h
      have hlength : y.length < fuel := by simp at hfuel; omega
      cases reference with
      | char c =>
        obtain ⟨names, hnames, hadd⟩ := ih h hlength
        exact ⟨names, .char hu rfl hlast ht hnames, hadd⟩
      | entity name =>
        obtain ⟨b₁, hstep, hrest⟩ := bind_eq_ok.1 h
        obtain ⟨names, hnames, hadd⟩ := ih hrest hlength
        refine ⟨name :: names, .entity hu rfl hlast ht hnames, ?_⟩
        rw [List.foldlM_cons, addReference, addReferenceAt_ok hexpand hstep, ok_bind]
        exact hadd

/-- A stretch of text adds what its references to entities add. -/
theorem addToken_text_eq_ok (hexpand : Steady expand) {b b' : Builder} {s : Span} :
    addToken levels expand b (.text s) = .ok b' ↔
      ∃ names, Refers s.chars names ∧ names.foldlM (addReference levels expand) b = .ok b' := by
  constructor
  · intro h
    exact addText_ok hexpand h (Nat.lt_succ_self _)
  · rintro ⟨names, hnames, hadd⟩
    exact addText_of_refers hnames hadd hexpand (Nat.lt_succ_self _) _

end Builder

/-! ## Values -/

/-- A value is read in the same way wherever it stands, if what its entities stand for is. -/
private theorem readValueOnto_ok {entities : List Entity} {levels : Nat} {expand : Expander}
    (hexpand : ∀ value rest rest' count r, expand value rest count = .ok r →
      expand value rest' count = .ok r) {fuel : Nat} {done : List Char} {count o : Nat}
    {cs : List Char} {r : List Char × Nat}
    (h : readValueOnto entities levels expand fuel done count ⟨o, cs⟩ = .ok r) (o' : Nat) :
    readValueOnto entities levels expand fuel done count ⟨o', cs⟩ = .ok r := by
  induction fuel generalizing done count o o' cs with
  | zero => exact h
  | succ fuel ih =>
    rw [readValueOnto] at h ⊢
    split at h
    next hcs =>
      dsimp only at hcs
      subst hcs
      exact h
    next cs' hcs =>
      dsimp only at hcs
      subst hcs
      obtain ⟨⟨reference, rest⟩, htake, h⟩ := bind_eq_ok.1 h
      obtain ⟨t, y, hcs, -, -, -, ht⟩ := takeReference_ok htake
      -- a reference is taken in the same way here and there
      have hhere := ht o y
      have hthere := ht o' y
      rw [← hcs] at hhere hthere
      rw [htake] at hhere
      cases hhere
      dsimp only
      rw [hthere, ok_bind]
      cases reference with
      | char c =>
        dsimp only at h ⊢
        split at h
        next hlevels =>
          rw [if_pos hlevels]
          exact ih h _
        next hlevels =>
          split at h
          next => cases h
          next hangle =>
            rw [if_neg hlevels, if_neg hangle]
            exact ih h _
      | entity name =>
        obtain ⟨value, hvalue, h⟩ := bind_eq_ok.1 h
        obtain ⟨count', hcount, h⟩ := bind_eq_ok.1 h
        obtain ⟨⟨text, count''⟩, htext, h⟩ := bind_eq_ok.1 h
        dsimp only
        rw [replacement_ok hvalue, ok_bind, countReference_ok hcount, ok_bind,
          hexpand _ _ _ _ _ htext, ok_bind]
        exact ih h _
    next cs' hcs =>
      dsimp only at hcs
      subst hcs
      exact ih h _
    next c cs' hamp hreturn hcs =>
      dsimp only at hcs
      subst hcs
      dsimp only
      split
      next hcons => cases hcons
      next hcons =>
        cases hcons
        exact (hamp rfl).elim
      next hcons =>
        cases hcons
        exact (hreturn _ rfl rfl).elim
      next hcons =>
        cases hcons
        exact ih h _

/-- A value is read in the same way wherever it stands. -/
theorem readValue_ok {entities : List Entity} {levels count o : Nat} {cs : List Char}
    {r : List Char × Nat} (h : readValue entities levels count ⟨o, cs⟩ = .ok r) (o' : Nat) :
    readValue entities levels count ⟨o', cs⟩ = .ok r := by
  cases levels with
  | zero => exact readValueOnto_ok (fun _ _ _ _ _ hfail => (by cases hfail)) h o'
  | succ levels =>
    exact @readValueOnto_ok entities (levels + 1)
      (fun value _ count => readValue entities levels count value) (fun _ _ _ _ _ hok => hok) _ _ _ _ _ _ h o'

/-- Characters that stand for themselves in attribute values. -/
def isPlain (c : Char) : Bool := c ≠ '&' && c ≠ '\t' && c ≠ '\n' && c ≠ '\r'

private theorem readValueOnto_plain (entities : List Entity) (levels : Nat) (expand : Expander)
    {v : List Char} (hv : ∀ c ∈ v, isPlain c = true) {fuel : Nat} (hfuel : v.length < fuel)
    (done : List Char) (count o : Nat) :
    readValueOnto entities levels expand fuel done count ⟨o, v⟩ = .ok (done.reverse ++ v, count) := by
  induction v generalizing fuel done o with
  | nil =>
    cases fuel with
    | zero => cases hfuel
    | succ fuel =>
      rw [List.append_nil]
      rfl
  | cons c v ih =>
    obtain ⟨fuel, rfl⟩ : ∃ n, fuel = n + 1 := ⟨fuel - 1, by omega⟩
    have hplain := hv c List.mem_cons_self
    have hchar : attributeChar c = c := by
      unfold attributeChar
      rw [if_neg]
      intro h
      simp only [isPlain, Bool.and_eq_true, decide_eq_true_eq] at hplain
      simp only [Bool.or_eq_true, decide_eq_true_eq] at h
      tauto
    have hstep : readValueOnto entities levels expand (fuel + 1) done count ⟨o, c :: v⟩
        = readValueOnto entities levels expand fuel (attributeChar c :: done) count
          ⟨o + c.utf8Size, v⟩ := by
      rw [readValueOnto]
      split
      next h => cases h
      next h =>
        cases h
        exact absurd hplain (by decide)
      next h =>
        cases h
        exact absurd hplain (by decide)
      next h =>
        cases h
        rfl
    rw [hstep, hchar, ih (fun d hd => hv d (List.mem_cons_of_mem c hd)) (by simpa using hfuel)]
    simp

/-- A value of plain characters is read as it is written. -/
theorem readValue_plain (entities : List Entity) (levels count : Nat) {s : Span}
    (h : ∀ c ∈ s.chars, isPlain c = true) :
    readValue entities levels count s = .ok (s.chars, count) := by
  cases levels with
  | zero => exact readValueOnto_plain entities 0 _ h (Nat.lt_succ_self _) [] count s.offset
  | succ levels => exact readValueOnto_plain entities _ _ h (Nat.lt_succ_self _) [] count s.offset

end StatementLens.Xml
