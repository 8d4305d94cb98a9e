import Mathlib.Data.List.Basic
import Mathlib.Tactic.Common
import StatementLens.Java.Source

/-!
# What rules read

The runs of a rule are described by a relation that leaves out what is looked ahead for and which
alternatives are passed over. A run keeps all tokens that it reads, in their order. From the relation
it follows, for any set of rules, by which rule each labelled part has been read, which labels stay
inside of other parts, and with which tokens a part begins and ends.
-/

namespace StatementLens.Java

variable {ν κ : Type}

/-! ## Trees -/

@[simp]
theorem forestTokens_append (xs ys : List (Tree κ)) :
    forestTokens (xs ++ ys) = forestTokens xs ++ forestTokens ys := by
  induction xs with
  | nil => rfl
  | cons x xs ih => rw [List.cons_append, forestTokens, forestTokens, ih, List.append_assoc]

@[simp]
theorem forestTokens_singleton (t : Tree κ) : forestTokens [t] = t.tokens := by
  rw [forestTokens, forestTokens, List.append_nil]

/-- A part with a label is a node with the label. -/
theorem part?_eq_some_iff [DecidableEq κ] {label : κ} {t : Tree κ} {children : List (Tree κ)} :
    t.part? label = some children ↔ t = .node label children := by
  cases t with
  | leaf token => simp [Tree.part?]
  | node found inner =>
    simp only [Tree.part?, Option.ite_none_right_eq_some, Option.some.injEq, Tree.node.injEq]

/-- Whether a tree stands somewhere in other trees. -/
inductive Within (t : Tree κ) : List (Tree κ) → Prop where
  | here {trees : List (Tree κ)} (mem : t ∈ trees) : Within t trees
  | inside {label : κ} {children trees : List (Tree κ)} (mem : .node label children ∈ trees)
      (within : Within t children) : Within t trees

namespace Within

/-- What stands in two lists of trees stands in one of them. -/
theorem of_append {t : Tree κ} {xs ys : List (Tree κ)} (h : Within t (xs ++ ys)) :
    Within t xs ∨ Within t ys := by
  cases h with
  | here mem => exact (List.mem_append.1 mem).imp .here .here
  | inside mem within =>
    exact (List.mem_append.1 mem).imp (fun mem => .inside mem within) fun mem => .inside mem within

/-- What stands in a node is the node or stands in its children. -/
theorem of_node {t : Tree κ} {label : κ} {children : List (Tree κ)}
    (h : Within t [.node label children]) : t = .node label children ∨ Within t children := by
  cases h with
  | here mem => exact Or.inl (List.mem_singleton.1 mem)
  | inside mem within =>
    cases List.mem_singleton.1 mem
    exact Or.inr within

theorem mono {t : Tree κ} {xs ys : List (Tree κ)} (h : Within t xs) (hsub : xs ⊆ ys) : Within t ys := by
  cases h with
  | here mem => exact .here (hsub mem)
  | inside mem within => exact .inside (hsub mem) within

/-- What stands in a node stands wherever the node does. -/
theorem trans {t : Tree κ} {label : κ} {children trees : List (Tree κ)}
    (h : Within (.node label children) trees) (ht : Within t children) : Within t trees := by
  induction h with
  | here mem => exact .inside mem ht
  | inside mem _ ih => exact .inside mem ih

/-- The tokens of a tree follow each other among those of its forest. -/
private theorem exists_tokens_of_mem {t : Tree κ} {trees : List (Tree κ)} (h : t ∈ trees) :
    ∃ front back, forestTokens trees = front ++ (t.tokens ++ back) := by
  obtain ⟨before, after, rfl⟩ := List.append_of_mem h
  refine ⟨forestTokens before, forestTokens after, ?_⟩
  rw [forestTokens_append, forestTokens]

/-- The tokens of a tree follow each other wherever it stands. -/
theorem exists_tokens {t : Tree κ} {trees : List (Tree κ)} (h : Within t trees) :
    ∃ front back, forestTokens trees = front ++ (t.tokens ++ back) := by
  induction h with
  | here mem => exact exists_tokens_of_mem mem
  | @inside label children trees mem _ ih =>
    obtain ⟨front, back, htrees⟩ := exists_tokens_of_mem mem
    obtain ⟨front', back', hchildren⟩ := ih
    refine ⟨front ++ front', back' ++ back, ?_⟩
    rw [htrees, Tree.tokens, hchildren]
    simp only [List.append_assoc]

end Within

/-! ## Runs -/

/-- What a rule may read. -/
inductive Reads (rules : ν → Rule ν κ) : Rule ν κ → List (Tree κ) → Prop where
  | empty : Reads rules .empty []
  | one {terminal : Terminal} {t : Token} (accepts : terminal.accepts t = true) :
      Reads rules (.one terminal) [.leaf t]
  | both {a b : Rule ν κ} {xs ys : List (Tree κ)} (first : Reads rules a xs)
      (second : Reads rules b ys) : Reads rules (.both a b) (xs ++ ys)
  | first {a b : Rule ν κ} {xs : List (Tree κ)} (read : Reads rules a xs) :
      Reads rules (.either a b) xs
  | second {a b : Rule ν κ} {xs : List (Tree κ)} (read : Reads rules b xs) :
      Reads rules (.either a b) xs
  | none {a : Rule ν κ} : Reads rules (.many a) []
  | more {a : Rule ν κ} {xs ys : List (Tree κ)} (read : Reads rules a xs)
      (rest : Reads rules (.many a) ys) : Reads rules (.many a) (xs ++ ys)
  | ahead {a : Rule ν κ} : Reads rules (.ahead a) []
  | notAhead {a : Rule ν κ} : Reads rules (.notAhead a) []
  | call {name : ν} {xs : List (Tree κ)} (read : Reads rules (rules name) xs) :
      Reads rules (.call name) xs
  | node {label : κ} {a : Rule ν κ} {xs : List (Tree κ)} (read : Reads rules a xs) :
      Reads rules (.node label a) [.node label xs]

/-- A run reads trees with the tokens that it takes. -/
theorem exists_reads_of_run {rules : ν → Rule ν κ} {fuel : Nat} {r : Rule ν κ}
    {done done' : List (Tree κ)} {ts rest : List Token}
    (h : Rule.run rules fuel r done ts = some (done', rest)) :
    ∃ trees, Reads rules r trees ∧ done' = trees.reverse ++ done ∧ ts = forestTokens trees ++ rest := by
  induction fuel generalizing r done done' ts rest with
  | zero => cases h
  | succ fuel ih =>
    cases r with
    | empty =>
      cases h
      exact ⟨[], .empty, rfl, rfl⟩
    | one terminal =>
      cases ts with
      | nil => cases h
      | cons t ts =>
        rw [Rule.run] at h
        split at h
        · next haccepts =>
          cases h
          exact ⟨[.leaf t], .one haccepts, rfl, by simp [Tree.tokens]⟩
        · cases h
    | both a b =>
      rw [Rule.run] at h
      split at h
      · cases h
      · next done₁ rest₁ hfirst =>
        obtain ⟨xs, hxs, rfl, rfl⟩ := ih hfirst
        obtain ⟨ys, hys, rfl, rfl⟩ := ih h
        exact ⟨xs ++ ys, .both hxs hys, by simp, by simp⟩
    | either a b =>
      rw [Rule.run] at h
      split at h
      · obtain ⟨ys, hys, rfl, rfl⟩ := ih h
        exact ⟨ys, .second hys, rfl, rfl⟩
      · next result hfirst =>
        cases h
        obtain ⟨xs, hxs, rfl, rfl⟩ := ih hfirst
        exact ⟨xs, .first hxs, rfl, rfl⟩
    | many a =>
      rw [Rule.run] at h
      split at h
      · cases h
        exact ⟨[], .none, rfl, rfl⟩
      · next done₁ rest₁ hpart =>
        obtain ⟨xs, hxs, rfl, rfl⟩ := ih hpart
        obtain ⟨ys, hys, rfl, rfl⟩ := ih h
        exact ⟨xs ++ ys, .more hxs hys, by simp, by simp⟩
    | ahead a =>
      rw [Rule.run] at h
      split at h
      · cases h
      · cases h
        exact ⟨[], .ahead, rfl, rfl⟩
    | notAhead a =>
      rw [Rule.run] at h
      split at h
      · cases h
        exact ⟨[], .notAhead, rfl, rfl⟩
      · cases h
    | call name =>
      rw [Rule.run] at h
      obtain ⟨xs, hxs, rfl, rfl⟩ := ih h
      exact ⟨xs, .call hxs, rfl, rfl⟩
    | node label a =>
      rw [Rule.run] at h
      split at h
      · cases h
      · next children rest₁ hpart =>
        cases h
        obtain ⟨xs, hxs, rfl, rfl⟩ := ih hpart
        refine ⟨[.node label xs], .node hxs, by simp, ?_⟩
        rw [forestTokens_singleton, Tree.tokens]

/-- All tokens are read. -/
theorem reads_of_parse {rules : ν → Rule ν κ} {fuel : Nat} {name : ν} {ts : List Token}
    {trees : List (Tree κ)} (h : Rule.parse rules fuel name ts = some trees) :
    Reads rules (.call name) trees ∧ ts = forestTokens trees := by
  unfold Rule.parse at h
  split at h
  · next done hrun =>
    cases h
    obtain ⟨trees, hreads, rfl, rfl⟩ := exists_reads_of_run hrun
    simpa using hreads
  · cases h

/-- The tokens of a source that is well formed have been read by the rule of programs. -/
theorem reads_of_parse_eq {text : List Char} {trees : List (Tree Part)} (h : parse text = some trees) :
    tokens text = some (forestTokens trees) ∧ Reads Syntax.rules (.call .program) trees := by
  obtain ⟨ts, hts, hparse⟩ := Option.bind_eq_some_iff.1 h
  obtain ⟨hreads, rfl⟩ := reads_of_parse hparse
  exact ⟨hts, hreads⟩

section Inversion

variable {rules : ν → Rule ν κ} {a b : Rule ν κ} {trees : List (Tree κ)}

/-- One token is read as a leaf. -/
theorem Reads.exists_one {terminal : Terminal} (h : Reads rules (.one terminal) trees) :
    ∃ t, terminal.accepts t = true ∧ trees = [.leaf t] := by
  cases h with
  | one accepts => exact ⟨_, accepts, rfl⟩

/-- Two rules read one behind the other. -/
theorem Reads.exists_both (h : Reads rules (.both a b) trees) :
    ∃ xs ys, Reads rules a xs ∧ Reads rules b ys ∧ trees = xs ++ ys := by
  cases h with
  | both first second => exact ⟨_, _, first, second, rfl⟩

/-- One of two rules reads. -/
theorem Reads.either_cases (h : Reads rules (.either a b) trees) :
    Reads rules a trees ∨ Reads rules b trees := by
  cases h with
  | first read => exact Or.inl read
  | second read => exact Or.inr read

theorem Reads.of_call {name : ν} (h : Reads rules (.call name) trees) :
    Reads rules (rules name) trees := by
  cases h with
  | call read => exact read

/-- A labelled rule reads one node. -/
theorem Reads.exists_node {label : κ} (h : Reads rules (.node label a) trees) :
    ∃ xs, Reads rules a xs ∧ trees = [.node label xs] := by
  cases h with
  | node read => exact ⟨_, read, rfl⟩

end Inversion

/-! ## Labelled parts -/

section Labels

variable [DecidableEq κ] {rules : ν → Rule ν κ}

/-- The parts of a rule that have a label, wherever they stand in it. -/
def Rule.partsOf (label : κ) : Rule ν κ → List (Rule ν κ)
  | .both a b => a.partsOf label ++ b.partsOf label
  | .either a b => a.partsOf label ++ b.partsOf label
  | .many a => a.partsOf label
  | .node found a => if found = label then a :: a.partsOf label else a.partsOf label
  | _ => []

/-- A labelled part has been read by a part with the label of one of the rules. -/
theorem Reads.exists_part {r : Rule ν κ} {trees children : List (Tree κ)} {label : κ}
    (h : Reads rules r trees) (hwithin : Within (.node label children) trees) :
    ∃ part, (part ∈ r.partsOf label ∨ ∃ name, part ∈ (rules name).partsOf label) ∧
      Reads rules part children := by
  induction h with
  | empty | none | ahead | notAhead =>
    cases hwithin with
    | here mem => cases mem
    | inside mem _ => cases mem
  | one accepts =>
    cases hwithin with
    | here mem => cases List.mem_singleton.1 mem
    | inside mem _ => cases List.mem_singleton.1 mem
  | both first second ih₁ ih₂ =>
    rcases hwithin.of_append with hwithin | hwithin
    · obtain ⟨part, hpart, hreads⟩ := ih₁ hwithin
      exact ⟨part, hpart.imp_left (List.mem_append_left _), hreads⟩
    · obtain ⟨part, hpart, hreads⟩ := ih₂ hwithin
      exact ⟨part, hpart.imp_left (List.mem_append_right _), hreads⟩
  | first read ih =>
    obtain ⟨part, hpart, hreads⟩ := ih hwithin
    exact ⟨part, hpart.imp_left (List.mem_append_left _), hreads⟩
  | second read ih =>
    obtain ⟨part, hpart, hreads⟩ := ih hwithin
    exact ⟨part, hpart.imp_left (List.mem_append_right _), hreads⟩
  | more read rest ih₁ ih₂ =>
    rcases hwithin.of_append with hwithin | hwithin
    · exact ih₁ hwithin
    · exact ih₂ hwithin
  | @call name xs read ih =>
    obtain ⟨part, hpart, hreads⟩ := ih hwithin
    exact ⟨part, Or.inr (hpart.elim (fun hpart => ⟨name, hpart⟩) id), hreads⟩
  | @node found a xs read ih =>
    rcases hwithin.of_node with heq | hwithin
    · cases heq
      exact ⟨a, Or.inl (by simp [Rule.partsOf]), read⟩
    · obtain ⟨part, hpart, hreads⟩ := ih hwithin
      refine ⟨part, hpart.imp_left fun hpart => ?_, hreads⟩
      rw [Rule.partsOf]
      split
      · exact List.mem_cons_of_mem a hpart
      · exact hpart

/-- If the rules make parts with a label in one way only, each of them has been read that way. -/
theorem Reads.of_within {r part : Rule ν κ} {trees children : List (Tree κ)} {label : κ}
    (h : Reads rules r trees) (hr : r.partsOf label = [])
    (hrules : ∀ name, (rules name).partsOf label = [] ∨ (rules name).partsOf label = [part])
    (hwithin : Within (.node label children) trees) : Reads rules part children := by
  obtain ⟨found, hfound, hread⟩ := h.exists_part hwithin
  rcases hfound with hfound | ⟨name, hfound⟩
  · rw [hr] at hfound
    cases hfound
  · rcases hrules name with hnil | hone
    · rw [hnil] at hfound
      cases hfound
    · rw [hone, List.mem_singleton] at hfound
      exact hfound ▸ hread

/-- Whether a rule that calls only some rules makes no part with a label itself. -/
def Rule.hides (label : κ) (among : ν → Bool) : Rule ν κ → Bool
  | .both a b => a.hides label among && b.hides label among
  | .either a b => a.hides label among && b.hides label among
  | .many a => a.hides label among
  | .call name => among name
  | .node found _ => found ≠ label
  | _ => true

/-- Rules that call only each other and make no part with a label read none. -/
theorem Reads.part?_eq_none {r : Rule ν κ} {trees : List (Tree κ)} {label : κ} {among : ν → Bool}
    (hamong : ∀ name, among name = true → (rules name).hides label among = true)
    (h : Reads rules r trees) (hr : r.hides label among = true) :
    ∀ t ∈ trees, t.part? label = Option.none := by
  induction h with
  | empty | none | ahead | notAhead => simp
  | one accepts => simp [Tree.part?]
  | both first second ih₁ ih₂ =>
    simp only [Rule.hides, Bool.and_eq_true] at hr
    intro t ht
    exact (List.mem_append.1 ht).elim (ih₁ hr.1 t) (ih₂ hr.2 t)
  | first read ih =>
    simp only [Rule.hides, Bool.and_eq_true] at hr
    exact ih hr.1
  | second read ih =>
    simp only [Rule.hides, Bool.and_eq_true] at hr
    exact ih hr.2
  | more read rest ih₁ ih₂ =>
    intro t ht
    exact (List.mem_append.1 ht).elim (ih₁ hr t) (ih₂ hr t)
  | @call name xs read ih => exact ih (hamong name hr)
  | @node found a xs read ih =>
    simp only [Rule.hides, decide_eq_true_eq] at hr
    simp [Tree.part?, hr]

end Labels

/-! ## First and last tokens -/

section Ends

variable {rules : ν → Rule ν κ} {p : Token → Prop}

/-- A rule reads a token with a property last. -/
def EndsIn (rules : ν → Rule ν κ) (p : Token → Prop) (r : Rule ν κ) : Prop :=
  ∀ trees, Reads rules r trees → ∃ front t, forestTokens trees = front ++ [t] ∧ p t

/-- A rule reads a token with a property last, unless it reads nothing. -/
def MayEndIn (rules : ν → Rule ν κ) (p : Token → Prop) (r : Rule ν κ) : Prop :=
  ∀ trees, Reads rules r trees →
    forestTokens trees = [] ∨ ∃ front t, forestTokens trees = front ++ [t] ∧ p t

theorem EndsIn.mayEndIn {r : Rule ν κ} (h : EndsIn rules p r) : MayEndIn rules p r :=
  fun trees hreads => Or.inr (h trees hreads)

theorem EndsIn.one {terminal : Terminal} (h : ∀ t, terminal.accepts t = true → p t) :
    EndsIn rules p (.one terminal) := by
  intro trees hreads
  obtain ⟨t, accepts, rfl⟩ := hreads.exists_one
  exact ⟨[], t, by simp [Tree.tokens], h t accepts⟩

/-- A name ends as its rule does. -/
theorem EndsIn.call {name : ν} (h : EndsIn rules p (rules name)) : EndsIn rules p (.call name) :=
  fun trees hreads => h trees hreads.of_call

/-- Two alternatives that end alike end so. -/
theorem EndsIn.either {a b : Rule ν κ} (ha : EndsIn rules p a) (hb : EndsIn rules p b) :
    EndsIn rules p (.either a b) :=
  fun trees hreads => hreads.either_cases.elim (ha trees) (hb trees)

/-- A sequence ends as its second rule does. -/
theorem EndsIn.second {a b : Rule ν κ} (hb : EndsIn rules p b) : EndsIn rules p (.both a b) := by
  intro trees hreads
  obtain ⟨xs, ys, -, second, rfl⟩ := hreads.exists_both
  obtain ⟨front, t, hys, ht⟩ := hb ys second
  exact ⟨forestTokens xs ++ front, t, by rw [forestTokens_append, hys, List.append_assoc], ht⟩

/-- If both may be empty, so may the sequence. -/
theorem MayEndIn.both {a b : Rule ν κ} (ha : MayEndIn rules p a) (hb : MayEndIn rules p b) :
    MayEndIn rules p (.both a b) := by
  intro trees hreads
  obtain ⟨xs, ys, first, second, rfl⟩ := hreads.exists_both
  rw [forestTokens_append]
  rcases hb ys second with hnil | ⟨front, t, hys, ht⟩
  · rw [hnil, List.append_nil]
    exact ha xs first
  · exact Or.inr ⟨forestTokens xs ++ front, t, by rw [hys, List.append_assoc], ht⟩

/-- If the second rule may be empty, the first one may end the sequence. -/
theorem EndsIn.first {a b : Rule ν κ} (ha : EndsIn rules p a) (hb : MayEndIn rules p b) :
    EndsIn rules p (.both a b) := by
  intro trees hreads
  -- what the first part reads is not empty
  rcases (MayEndIn.both ha.mayEndIn hb) trees hreads with hnil | hends
  · obtain ⟨xs, ys, first, -, rfl⟩ := hreads.exists_both
    obtain ⟨front, t, hxs, -⟩ := ha xs first
    simp [hxs] at hnil
  · exact hends

theorem MayEndIn.optional {a : Rule ν κ} (ha : EndsIn rules p a) :
    MayEndIn rules p (.optional a) := by
  intro trees hreads
  rcases Reads.either_cases hreads with read | read
  · exact Or.inr (ha trees read)
  · cases read
    exact Or.inl rfl

/-- A repetition ends as its rule does, unless it is empty. -/
theorem MayEndIn.many {a : Rule ν κ} (ha : EndsIn rules p a) : MayEndIn rules p (.many a) := by
  intro trees hreads
  generalize hr : Rule.many a = r at hreads
  induction hreads with
  | none => exact Or.inl rfl
  | @more b xs ys read rest _ ih =>
    cases hr
    rw [forestTokens_append]
    rcases ih rfl with hnil | ⟨front, t, hys, ht⟩
    · rw [hnil, List.append_nil]
      exact Or.inr (ha xs read)
    · exact Or.inr ⟨forestTokens xs ++ front, t, by rw [hys, List.append_assoc], ht⟩
  | _ => cases hr

end Ends

end StatementLens.Java
