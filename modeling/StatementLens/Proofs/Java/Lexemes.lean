import StatementLens.Proofs.Java.Reads

/-!
# Sources with the same tokens

Some tokens of Java are cut into pieces: operators that begin with `>`, since a `>` may also close type
arguments, the mark `@interface` and the modifier `non-sealed`. The lexemes of a source tell where such
pieces belong together and leave out all else about the gaps between tokens.

A rule is even if it asks whether a token follows the one before it without a gap only where lexemes
tell. On tokens with the same lexemes, an even rule takes the same steps (`sameRun_of_isEven`). All rules
of the grammar are even, so sources with the same lexemes are read as the same trees
(`map_bare_parse`).
-/

namespace StatementLens.Java

/-! ## Bare trees -/

/-- A token without its place and its gap. -/
def Token.bare (t : Token) : Token := ⟨t.kind, t.chars, 0, 0, false, []⟩

/-- Tokens are the same but for gaps if their kinds and characters are. -/
@[simp]
theorem Token.bare_eq_bare_iff {t u : Token} :
    t.bare = u.bare ↔ t.kind = u.kind ∧ t.chars = u.chars := by
  simp [bare]

/-- A tree of bare tokens. -/
def Tree.bare {κ : Type} : Tree κ → Tree κ
  | .leaf token => .leaf token.bare
  | .node label children => .node label (children.map bare)

/-! ## Lexemes -/

/-- Whether two kinds of tokens are pieces of a longer one. -/
def TokenKind.joins : TokenKind → TokenKind → Bool
  | .symbol .greater, .symbol s => s = .greater || s = .assign || s = .equal
  | .symbol .at_, .word (some k) => k = .interface_
  | _, _ => false

/-- Whether the first of some tokens goes on with a token of a kind in front of it. -/
def goesOn (before : TokenKind) : List Token → Bool
  | t :: _ => before.joins t.kind && t.glued
  | [] => false

/-- Whether tokens begin with the modifier `non-sealed`. -/
def isNonSealed : List Token → Bool
  | t :: u :: v :: _ =>
    Terminal.accepts (.spelled ['n', 'o', 'n']) t && Terminal.accepts (.gluedSymbol .minus) u
      && Terminal.accepts (.gluedKeyword .sealed_) v
  | _ => false

/-- A token, or a piece of one. -/
structure Lexeme where
  kind : TokenKind
  chars : List Char
  /-- Whether the next piece belongs to the same token. -/
  continued : Bool
  deriving DecidableEq, Repr

/-- What tokens are without the gaps between them. -/
def lexemes : List Token → List Lexeme
  | [] => []
  | t :: rest => ⟨t.kind, t.chars, goesOn t.kind rest || isNonSealed (t :: rest)⟩ :: lexemes rest

/-- Whether two sources can be cut and differ only in what stands between their tokens. -/
def SameTokens (text text' : List Char) : Prop :=
  (tokens text).isSome = true ∧ (tokens text).map lexemes = (tokens text').map lexemes

instance (text text' : List Char) : Decidable (SameTokens text text') :=
  inferInstanceAs (Decidable (_ ∧ _))

/-- There is a lexeme for each token. -/
theorem length_lexemes (ts : List Token) : (lexemes ts).length = ts.length := by
  induction ts with
  | nil => rfl
  | cons t ts ih => rw [lexemes, List.length_cons, List.length_cons, ih]

/-! ## Alike tokens -/

private theorem goesOn_plainWord (ts : List Token) : goesOn (.word none) ts = false := by
  cases ts <;> rfl

/-- Only a plain word begins a word with a dash. -/
private theorem isNonSealed_of_kind_ne {t : Token} (h : t.kind ≠ .word none) (ts : List Token) :
    isNonSealed (t :: ts) = false := by
  rcases ts with _ | ⟨u, _ | ⟨v, rest⟩⟩
  · rfl
  · rfl
  · simp [isNonSealed, Terminal.accepts, h]

/-- Whether two lists of tokens have the same lexemes, behind a token of a kind that may be known. -/
structure Alike (before : Option TokenKind) (ts ts' : List Token) : Prop where
  lexemes : lexemes ts = lexemes ts'
  goesOn : ∀ kind ∈ before, goesOn kind ts = goesOn kind ts'

namespace Alike

variable {before : Option TokenKind} {ts ts' : List Token}

/-- What stands in front may be forgotten. -/
theorem forget (h : Alike before ts ts') : Alike none ts ts' :=
  ⟨h.lexemes, by simp⟩

/-- The first tokens are the same but for gaps, and the rest is alike. -/
private theorem cons_cases {t : Token} {rest : List Token} (h : Alike before (t :: rest) ts') :
    ∃ t' rest', ts' = t' :: rest' ∧ t.kind = t'.kind ∧ t.chars = t'.chars ∧
      Alike (some t.kind) rest rest' ∧ isNonSealed (t :: rest) = isNonSealed ts' := by
  cases ts' with
  | nil => cases h.lexemes
  | cons t' rest' =>
    have hlexemes := h.lexemes
    simp only [Java.lexemes, List.cons.injEq, Lexeme.mk.injEq] at hlexemes
    obtain ⟨⟨hkind, hchars, hcontinued⟩, hrest⟩ := hlexemes
    -- only one of the two ways to go on is open to a token
    by_cases hword : t.kind = .word none
    · rw [← hkind, hword, goesOn_plainWord, goesOn_plainWord, Bool.false_or, Bool.false_or] at hcontinued
      refine ⟨t', rest', rfl, hkind, hchars, ⟨hrest, ?_⟩, hcontinued⟩
      rintro kind ⟨⟩
      rw [hword, goesOn_plainWord, goesOn_plainWord]
    · rw [isNonSealed_of_kind_ne hword, isNonSealed_of_kind_ne (hkind ▸ hword), Bool.or_false,
        Bool.or_false, ← hkind] at hcontinued
      refine ⟨t', rest', rfl, hkind, hchars, ⟨hrest, ?_⟩, ?_⟩
      · rintro kind ⟨⟩
        exact hcontinued
      · rw [isNonSealed_of_kind_ne hword, isNonSealed_of_kind_ne (hkind ▸ hword)]

/-- Alike tokens are both none, or begin with tokens that differ in their gaps only. -/
theorem nil_or_cons (h : Alike before ts ts') :
    (ts = [] ∧ ts' = []) ∨ ∃ t rest t' rest', ts = t :: rest ∧ ts' = t' :: rest' ∧
      t.kind = t'.kind ∧ t.chars = t'.chars ∧ Alike (some t.kind) rest rest' := by
  cases ts with
  | nil =>
    cases ts' with
    | nil => exact .inl ⟨rfl, rfl⟩
    | cons t' rest' => cases h.lexemes
  | cons t rest =>
    obtain ⟨t', rest', rfl, hkind, hchars, hrest, -⟩ := h.cons_cases
    exact .inr ⟨t, rest, t', rest', rfl, rfl, hkind, hchars, hrest⟩

/-- The modifier `non-sealed` stands in front of both or of none. -/
theorem isNonSealed_eq (h : Alike before ts ts') : isNonSealed ts = isNonSealed ts' := by
  cases ts with
  | nil =>
    cases ts' with
    | nil => rfl
    | cons t' rest' => cases h.lexemes
  | cons t rest =>
    obtain ⟨_, _, -, -, -, -, hsame⟩ := h.cons_cases
    exact hsame

end Alike

/-! ## Even rules -/

/-- The kind of the tokens that pass a test, if there is only one. -/
def Terminal.kind? : Terminal → Option TokenKind
  | .keyword k | .gluedKeyword k => some (.word (some k))
  | .symbol s | .gluedSymbol s => some (.symbol s)
  | _ => none

/-- Whether lexemes tell if a token passes a test, behind a token of a kind. -/
def Terminal.isEven (before : Option TokenKind) : Terminal → Bool
  | .gluedKeyword k => before.any (·.joins (.word (some k)))
  | .gluedSymbol s => before.any (·.joins (.symbol s))
  | _ => true

/-- A terminal that names a kind accepts tokens of this kind only. -/
theorem Terminal.kind_of_accepts {terminal : Terminal} {t : Token} (h : terminal.accepts t = true) :
    ∀ kind ∈ terminal.kind?, kind = t.kind := by
  intro kind hkind
  cases terminal <;> cases hkind
  all_goals simp_all [accepts]

/-- Alike tokens pass the same tests. -/
theorem Terminal.accepts_eq {terminal : Terminal} {before : Option TokenKind} {t t' : Token}
    {rest rest' : List Token} (heven : terminal.isEven before = true)
    (h : Alike before (t :: rest) (t' :: rest')) (hkind : t.kind = t'.kind)
    (hchars : t.chars = t'.chars) : terminal.accepts t = terminal.accepts t' := by
  -- where a token goes on with the one before it, both follow without a gap or none does
  have hglued : ∀ kind, before.any (·.joins kind) = true → t.kind = kind → t.glued = t'.glued := by
    rintro kind hany rfl
    cases before with
    | none => cases hany
    | some b =>
      have hgoes := h.goesOn b rfl
      rw [Option.any_some] at hany
      rwa [goesOn, goesOn, ← hkind, hany, Bool.true_and, Bool.true_and] at hgoes
  cases terminal with
  | gluedKeyword k =>
    by_cases hk : t.kind = .word (some k)
    · simp only [accepts, ← hkind, hglued _ heven hk]
    · simp [accepts, ← hkind, hk]
  | gluedSymbol s =>
    by_cases hs : t.kind = .symbol s
    · simp only [accepts, ← hkind, hglued _ heven hs]
    · simp [accepts, ← hkind, hs]
  | _ => simp only [accepts, hkind, hchars]

section Runs

variable {ν κ : Type}

namespace Rule

/-- The kind of the last token read after a rule, as far as it is known, given what was read before. -/
def lastKind (before : Option TokenKind) : Rule ν κ → Option TokenKind
  | .empty | .ahead _ | .notAhead _ => before
  | .one terminal => terminal.kind?
  | .both a b => b.lastKind (a.lastKind before)
  | .node _ a => a.lastKind before
  | _ => none

/-- Whether a rule reads the modifier `non-sealed` and nothing else. -/
def readsNonSealed : Rule ν κ → Bool
  | .both (.one (.spelled word)) (.both (.one (.gluedSymbol .minus)) (.one (.gluedKeyword .sealed_))) =>
    word = ['n', 'o', 'n']
  | _ => false

/-- Whether a rule asks for gaps only where lexemes tell. -/
def isEven (before : Option TokenKind) : Rule ν κ → Bool
  | .one terminal => terminal.isEven before
  | .both a b =>
    (Rule.both a b).readsNonSealed || (a.isEven before && b.isEven (a.lastKind before))
  | .either a b => a.isEven before && b.isEven before
  | .many a => a.isEven none
  | .ahead a | .notAhead a | .node _ a => a.isEven before
  | .empty | .call _ => true

end Rule

/-! ## Runs on alike tokens -/

/-- Outcomes of two runs that have read the same trees, but for gaps, and leave alike tokens. -/
inductive SameOutcome (before : Option TokenKind) :
    Option (List (Tree κ) × List Token) → Option (List (Tree κ) × List Token) → Prop where
  | none : SameOutcome before none none
  | some {done done' : List (Tree κ)} {rest rest' : List Token}
      (trees : done.map Tree.bare = done'.map Tree.bare) (alike : Alike before rest rest') :
      SameOutcome before (some (done, rest)) (some (done', rest'))

theorem SameOutcome.forget {before : Option TokenKind} {r r' : Option (List (Tree κ) × List Token)}
    (h : SameOutcome before r r') : SameOutcome Option.none r r' := by
  cases h with
  | none => exact .none
  | some trees alike => exact .some trees alike.forget

/-- A rule takes the same steps on alike tokens behind a token of a kind. -/
def SameRun (rules : ν → Rule ν κ) (fuel : Nat) (before : Option TokenKind) (r : Rule ν κ) : Prop :=
  ∀ (done done' : List (Tree κ)) (ts ts' : List Token), done.map Tree.bare = done'.map Tree.bare →
    Alike before ts ts' →
    SameOutcome (r.lastKind before) (Rule.run rules fuel r done ts) (Rule.run rules fuel r done' ts')

namespace SameRun

variable {rules : ν → Rule ν κ} {fuel : Nat} {before : Option TokenKind} {a b : Rule ν κ}

theorem zero (r : Rule ν κ) : SameRun rules 0 before r :=
  fun _ _ _ _ _ _ => .none

/-- An even terminal takes the first tokens of both. -/
theorem one {terminal : Terminal} (h : terminal.isEven before = true) :
    SameRun rules (fuel + 1) before (.one terminal) := by
  intro done done' ts ts' hdone halike
  rcases halike.nil_or_cons with ⟨rfl, rfl⟩ | ⟨t, rest, t', rest', rfl, rfl, hkind, hchars, hrest⟩
  · exact .none
  · rw [Rule.run, Rule.run, ← Terminal.accepts_eq h halike hkind hchars]
    by_cases haccepts : terminal.accepts t = true
    · rw [if_pos haccepts, if_pos haccepts]
      refine .some (by simp [Tree.bare, hkind, hchars, hdone]) ⟨hrest.lexemes, ?_⟩
      intro kind hkind
      rw [Terminal.kind_of_accepts haccepts kind hkind]
      exact hrest.goesOn _ rfl
    · rw [if_neg haccepts, if_neg haccepts]
      exact .none

/-- Two rules run alike if each does behind the other. -/
theorem both (ha : SameRun rules fuel before a) (hb : SameRun rules fuel (a.lastKind before) b) :
    SameRun rules (fuel + 1) before (.both a b) := by
  intro done done' ts ts' hdone halike
  have hfirst := ha done done' ts ts' hdone halike
  rw [Rule.run, Rule.run]
  generalize Rule.run rules fuel a done ts = r at hfirst ⊢
  generalize Rule.run rules fuel a done' ts' = r' at hfirst ⊢
  cases hfirst with
  | none => exact .none
  | some trees alike => exact hb _ _ _ _ trees alike

/-- So do two alternatives. -/
theorem either (ha : SameRun rules fuel before a) (hb : SameRun rules fuel before b) :
    SameRun rules (fuel + 1) before (.either a b) := by
  intro done done' ts ts' hdone halike
  have hfirst := ha done done' ts ts' hdone halike
  rw [Rule.run, Rule.run]
  generalize Rule.run rules fuel a done ts = r at hfirst ⊢
  generalize Rule.run rules fuel a done' ts' = r' at hfirst ⊢
  cases hfirst with
  | none => exact (hb done done' ts ts' hdone halike).forget
  | some trees alike => exact .some trees alike.forget

/-- So does a repetition. -/
theorem many (ha : SameRun rules fuel none a) (hmany : SameRun rules fuel none (.many a)) :
    SameRun rules (fuel + 1) before (.many a) := by
  intro done done' ts ts' hdone halike
  have hfirst := ha done done' ts ts' hdone halike.forget
  rw [Rule.run, Rule.run]
  generalize Rule.run rules fuel a done ts = r at hfirst ⊢
  generalize Rule.run rules fuel a done' ts' = r' at hfirst ⊢
  cases hfirst with
  | none => exact .some hdone halike.forget
  | some trees alike => exact hmany _ _ _ _ trees alike.forget

theorem ahead (ha : SameRun rules fuel before a) : SameRun rules (fuel + 1) before (.ahead a) := by
  intro done done' ts ts' hdone halike
  have hahead := ha [] [] ts ts' rfl halike
  rw [Rule.run, Rule.run]
  generalize Rule.run rules fuel a [] ts = r at hahead ⊢
  generalize Rule.run rules fuel a [] ts' = r' at hahead ⊢
  cases hahead with
  | none => exact .none
  | some trees alike => exact .some hdone halike

theorem notAhead (ha : SameRun rules fuel before a) :
    SameRun rules (fuel + 1) before (.notAhead a) := by
  intro done done' ts ts' hdone halike
  have hahead := ha [] [] ts ts' rfl halike
  rw [Rule.run, Rule.run]
  generalize Rule.run rules fuel a [] ts = r at hahead ⊢
  generalize Rule.run rules fuel a [] ts' = r' at hahead ⊢
  cases hahead with
  | none => exact .some hdone halike
  | some trees alike => exact .none

/-- A name runs as its rule does. -/
theorem call {name : ν} (h : SameRun rules fuel none (rules name)) :
    SameRun rules (fuel + 1) before (.call name) := by
  intro done done' ts ts' hdone halike
  rw [Rule.run, Rule.run]
  exact (h done done' ts ts' hdone halike.forget).forget

/-- A labelled rule runs as the rule does. -/
theorem node {label : κ} (ha : SameRun rules fuel before a) :
    SameRun rules (fuel + 1) before (.node label a) := by
  intro done done' ts ts' hdone halike
  have hinner := ha [] [] ts ts' rfl halike
  rw [Rule.run, Rule.run]
  generalize Rule.run rules fuel a [] ts = r at hinner ⊢
  generalize Rule.run rules fuel a [] ts' = r' at hinner ⊢
  cases hinner with
  | none => exact .none
  | some trees alike =>
    refine .some ?_ alike
    rw [List.map_cons, List.map_cons, Tree.bare, Tree.bare, List.map_reverse, List.map_reverse, trees,
      hdone]

/-- The modifier `non-sealed` is read where it stands. -/
private theorem run_nonSealed (done : List (Tree κ)) (ts : List Token) :
    Rule.run rules (fuel + 3) (.both (.one (.spelled ['n', 'o', 'n']))
        (.both (.one (.gluedSymbol .minus)) (.one (.gluedKeyword .sealed_)))) done ts
      = if isNonSealed ts then some (((ts.take 3).map Tree.leaf).reverse ++ done, ts.drop 3) else none := by
  rcases ts with _ | ⟨t, _ | ⟨u, _ | ⟨v, rest⟩⟩⟩
  · rfl
  · cases ht : Terminal.accepts (.spelled ['n', 'o', 'n']) t <;> simp [Rule.run, isNonSealed, ht]
  · cases ht : Terminal.accepts (.spelled ['n', 'o', 'n']) t <;>
      cases hu : Terminal.accepts (.gluedSymbol .minus) u <;> simp [Rule.run, isNonSealed, ht, hu]
  · cases ht : Terminal.accepts (.spelled ['n', 'o', 'n']) t <;>
      cases hu : Terminal.accepts (.gluedSymbol .minus) u <;>
      cases hv : Terminal.accepts (.gluedKeyword .sealed_) v <;>
      simp [Rule.run, isNonSealed, ht, hu, hv]

/-- The three tests of the modifier `non-sealed` may stop at different tokens, but not have different
outcomes. -/
theorem nonSealed (h : (Rule.both a b).readsNonSealed = true) : SameRun rules fuel before (.both a b) := by
  unfold Rule.readsNonSealed at h
  split at h
  · next word heq =>
    cases heq
    obtain rfl : word = ['n', 'o', 'n'] := by simpa using h
    intro done done' ts ts' hdone halike
    match fuel with
    | 0 | 1 => exact .none
    | 2 =>
      have hnone (done : List (Tree κ)) (ts : List Token) : Rule.run rules 2 (.both
          (.one (.spelled ['n', 'o', 'n'])) (.both (.one (.gluedSymbol .minus))
            (.one (.gluedKeyword .sealed_)))) done ts = Option.none := by
        rw [Rule.run]
        split <;> rfl
      rw [hnone, hnone]
      exact .none
    | fuel + 3 =>
      rw [run_nonSealed, run_nonSealed, ← halike.isNonSealed_eq]
      split
      · next hword =>
        rcases halike.nil_or_cons with ⟨rfl, rfl⟩ | ⟨t, ts, t', ts', rfl, rfl, ht, htc, halike⟩
        · cases hword
        rcases halike.nil_or_cons with ⟨rfl, rfl⟩ | ⟨u, ts, u', ts', rfl, rfl, hu, huc, halike⟩
        · cases hword
        rcases halike.nil_or_cons with ⟨rfl, rfl⟩ | ⟨v, ts, v', ts', rfl, rfl, hv, hvc, halike⟩
        · cases hword
        simp only [isNonSealed, Terminal.accepts, Bool.and_eq_true, decide_eq_true_eq] at hword
        rw [hword.2.1] at halike
        exact .some (by simp [Tree.bare, ht, htc, hu, huc, hv, hvc, hdone]) halike
      · exact .none
  · cases h

end SameRun

/-- Even rules take the same steps on alike tokens. -/
theorem sameRun_of_isEven {rules : ν → Rule ν κ} (hrules : ∀ name, (rules name).isEven none = true)
    {fuel : Nat} {before : Option TokenKind} {r : Rule ν κ} (h : r.isEven before = true) :
    SameRun rules fuel before r := by
  induction fuel generalizing before r with
  | zero => exact .zero r
  | succ fuel ih =>
    cases r with
    | empty => exact fun _ _ _ _ hdone halike => .some hdone halike
    | one terminal => exact .one h
    | both a b =>
      rw [Rule.isEven, Bool.or_eq_true, Bool.and_eq_true] at h
      rcases h with hword | ⟨ha, hb⟩
      · exact .nonSealed hword
      · exact .both (ih ha) (ih hb)
    | either a b =>
      rw [Rule.isEven, Bool.and_eq_true] at h
      exact .either (ih h.1) (ih h.2)
    | many a => exact .many (ih h) (ih (r := .many a) h)
    | ahead a => exact .ahead (ih h)
    | notAhead a => exact .notAhead (ih h)
    | call name => exact .call (ih (hrules name))
    | node label a => exact .node (ih h)

end Runs

/-! ## Sources -/

/-- No rule of the grammar asks for a gap where lexemes do not tell. -/
theorem Syntax.isEven_rules (name : Phrase) : (rules name).isEven none = true := by
  cases name with
  | type place | plainType place | simpleType place | modifiers place | expression place
  | prefixed place | infix_ place | statement place | typeDeclaration place | member place
  | method place => cases place <;> rfl
  | _ => rfl

/-- Sources with the same tokens are read as the same trees, but for gaps. -/
theorem map_bare_parse {text text' : List Char} (h : SameTokens text text') :
    (parse text).map (List.map Tree.bare) = (parse text').map (List.map Tree.bare) := by
  obtain ⟨hsome, hmap⟩ := h
  obtain ⟨ts, hts⟩ := Option.isSome_iff_exists.1 hsome
  rw [hts, Option.map_some, eq_comm] at hmap
  obtain ⟨ts', hts', hlexemes⟩ := Option.map_eq_some_iff.1 hmap
  replace hlexemes := hlexemes.symm
  have hlength : ts.length = ts'.length := by
    rw [← length_lexemes, hlexemes, length_lexemes]
  have hsame : SameRun Syntax.rules (depthPerToken * (ts.length + 2)) none (.call .program) :=
    sameRun_of_isEven Syntax.isEven_rules rfl
  have hrun := hsame [] [] ts ts' rfl ⟨hlexemes, by simp⟩
  simp only [parse, hts, hts', Option.bind_eq_bind, Option.bind_some, Rule.parse, ← hlength]
  generalize Rule.run Syntax.rules _ _ [] ts = r at hrun ⊢
  generalize Rule.run Syntax.rules _ _ [] ts' = r' at hrun ⊢
  cases hrun with
  | none => rfl
  | some trees alike =>
    rcases alike.nil_or_cons with ⟨rfl, rfl⟩ | ⟨t, rest, t', rest', rfl, rfl, -, -, -⟩
    · simp [trees]
    · rfl

end StatementLens.Java
