import StatementLens.Proofs.Java.Layout
import StatementLens.Proofs.Java.Methods

/-!
# Interfaces

The interface that is looked at in a source is the first one outside of all other types: no
declaration in front of it declares an interface (`firstInterface_iff`). Its methods stand in the
source in the order in which they are listed (`pairwise_methods`): tokens follow each other without
overlap, and a run of a rule keeps their order.
-/

namespace StatementLens.Java

open Text Rule

/-! ## The order of tokens -/

/-- Each token begins behind the place where the tokens are laid from. -/
theorem Laid.le_start {offset : Nat} {cs : List Char} {ts : List Token} (h : Laid offset cs ts) :
    ∀ t ∈ ts, offset ≤ t.start := by
  induction h with
  | nil isGap => simp
  | cons _ _ _ start _ _ spelled rest ih =>
    intro u hu
    rcases List.mem_cons.1 hu with rfl | hu
    · omega
    · have hle := ih u hu
      omega

/-- A token ends where a later one begins, or before. -/
theorem Laid.pairwise {offset : Nat} {cs : List Char} {ts : List Token} (h : Laid offset cs ts) :
    ts.Pairwise fun a b => a.start + byteLength a.chars ≤ b.start := by
  induction h with
  | nil isGap => exact .nil
  | cons _ _ _ start _ _ spelled rest ih => exact .cons rest.le_start ih

theorem Laid.isWord_of_mem {offset : Nat} {cs : List Char} {ts : List Token} (h : Laid offset cs ts)
    {t : Token} (ht : t ∈ ts) (hkind : ∃ k, t.kind = .word k) : IsWord t.chars := by
  obtain ⟨after, hspelled⟩ := h.exists_isSpelled ht
  obtain ⟨k, hk⟩ := hkind
  rw [hk] at hspelled
  exact hspelled.1

/-- What is found in trees, each in a token of its own tree, is in the order of the tokens. -/
theorem pairwise_filterMap_of_tokens {κ α : Type} {f : Tree κ → Option α} {P : Token → α → Prop}
    {R : Token → Token → Prop} {S : α → α → Prop} {trees : List (Tree κ)}
    (hf : ∀ t ∈ trees, ∀ a, f t = some a → ∃ token ∈ t.tokens, P token a)
    (hS : ∀ x y a b, P x a → P y b → R x y → S a b) (h : (forestTokens trees).Pairwise R) :
    (trees.filterMap f).Pairwise S := by
  induction trees with
  | nil => exact .nil
  | cons t rest ih =>
    rw [forestTokens, List.pairwise_append] at h
    obtain ⟨-, hrest, hbetween⟩ := h
    have ih := ih (fun u hu => hf u (List.mem_cons_of_mem t hu)) hrest
    cases hft : f t with
    | none =>
      rw [List.filterMap_cons_none hft]
      exact ih
    | some a =>
      rw [List.filterMap_cons_some hft]
      refine .cons ?_ ih
      intro b hb
      obtain ⟨u, hu, hfu⟩ := List.mem_filterMap.1 hb
      -- the token of the first tree stands before all tokens of the rest
      obtain ⟨x, hx, hxa⟩ := hf t List.mem_cons_self a hft
      obtain ⟨y, hy, hyb⟩ := hf u (List.mem_cons_of_mem t hu) b hfu
      obtain ⟨before, after, hsplit⟩ := (Within.here hu).exists_tokens
      have hy' : y ∈ forestTokens rest := by
        rw [hsplit]
        simp [hy]
      exact hS x y a b hxa hyb (hbetween x hx y hy')

/-! ## Interfaces in the grammar -/

namespace Syntax

/-- An interface without its label. -/
def interfacePart : Syntax :=
  seq [keyword .interface_, .node .interfaceName anyWord, optional (.call .typeParameters),
    optional superTypes, optional permitsPart, .node .members (bodyOf .interfaceBody)]

/-- Nothing but the rule for interfaces makes an interface. -/
theorem partsOf_interface (name : Phrase) :
    (rules name).partsOf .interface_ = [] ∨ (rules name).partsOf .interface_ = [interfacePart] := by
  cases name with
  | typeDeclaration place => cases place <;> exact Or.inr rfl
  | type place | plainType place | simpleType place | modifiers place | expression place
  | prefixed place | infix_ place | statement place | method place | member place =>
    cases place <;> exact Or.inl rfl
  | _ => exact Or.inl rfl

/-- An interface that is read has a name. -/
theorem exists_name_of_reads_interface {children : List (Tree Part)}
    (h : Reads rules interfacePart children) :
    ∃ name, children.findSome? (Tree.part? .interfaceName) = some name := by
  obtain ⟨_, more, hkeyword, hmore, rfl⟩ := Reads.exists_both h
  obtain ⟨word, -, rfl⟩ := hkeyword.exists_one
  obtain ⟨_, rest, hname, -, rfl⟩ := Reads.exists_both hmore
  obtain ⟨name, -, rfl⟩ := hname.exists_node
  exact ⟨name, rfl⟩

end Syntax

namespace Source

/-! ## The first interface -/

/-- Whether a tree is a declaration of an interface. -/
def DeclaresInterface (t : Tree Part) : Prop :=
  ∃ parts inner, t = .node .declaration parts ∧ .node .interface_ inner ∈ parts

/-- Whether an interface is the first one of a source outside of all other types. -/
def IsFirstInterface (text : List Char) (i : Interface) : Prop :=
  ∃ before parts after, parse text = some (before ++ .node .declaration parts :: after) ∧
    (∀ t ∈ before, ¬ DeclaresInterface t) ∧ DeclaresInterface (.node .declaration parts) ∧
    declaredInterface? text parts = some i

/-- A declaration of an interface that has been read declares one. -/
theorem isSome_declaredInterface? {text : List Char} {trees parts : List (Tree Part)}
    (hparse : parse text = some trees) (hparts : .node .declaration parts ∈ trees)
    (h : DeclaresInterface (.node .declaration parts)) :
    (declaredInterface? text parts).isSome = true := by
  obtain ⟨_, inner, heq, hinner⟩ := h
  cases heq
  obtain ⟨-, hreads⟩ := reads_of_parse_eq hparse
  -- the first part that is an interface need not be the given one
  have hsome : (parts.findSome? (Tree.part? .interface_)).isSome = true := by
    rw [List.findSome?_isSome_iff]
    exact ⟨_, hinner, by simp [Tree.part?]⟩
  obtain ⟨declared, hdeclared⟩ := Option.isSome_iff_exists.1 hsome
  have hwithin : Within (.node .interface_ declared) trees :=
    .inside hparts (.here (mem_of_findSome? hdeclared))
  have hchildren := hreads.of_within rfl Syntax.partsOf_interface hwithin
  obtain ⟨name, hname⟩ := Syntax.exists_name_of_reads_interface hchildren
  simp [declaredInterface?, hdeclared, hname]

theorem declaresInterface_of_declaredInterface? {text : List Char} {parts : List (Tree Part)}
    {i : Interface} (h : declaredInterface? text parts = some i) :
    DeclaresInterface (.node .declaration parts) := by
  unfold declaredInterface? at h
  obtain ⟨declared, hdeclared, -⟩ := Option.bind_eq_some_iff.1 h
  exact ⟨parts, declared, rfl, mem_of_findSome? hdeclared⟩

/-- What is looked for in the declarations among trees is looked for in the trees. -/
private theorem findSome?_declarations (text : List Char) (trees : List (Tree Part)) :
    (trees.filterMap (Tree.part? .declaration)).findSome? (declaredInterface? text)
      = trees.findSome? fun t => (t.part? .declaration).bind (declaredInterface? text) := by
  rw [← List.head?_filterMap, List.filterMap_filterMap, List.head?_filterMap]

/-- The interface that is looked at is the first one. -/
theorem firstInterface_iff {text : List Char} {i : Interface} :
    (read? text).bind Source.interface? = some i ↔ IsFirstInterface text i := by
  constructor
  · intro h
    obtain ⟨source, hread, hi⟩ := Option.bind_eq_some_iff.1 h
    obtain ⟨trees, hparse, rfl⟩ := Option.map_eq_some_iff.1 hread
    simp only [ofTrees, findSome?_declarations] at hi
    obtain ⟨before, t, after, rfl, ht, hbefore⟩ := List.findSome?_eq_some_iff.1 hi
    obtain ⟨parts, hparts, hdeclared⟩ := Option.bind_eq_some_iff.1 ht
    rw [part?_eq_some_iff] at hparts
    subst hparts
    refine ⟨before, parts, after, hparse, ?_, declaresInterface_of_declaredInterface? hdeclared, hdeclared⟩
    rintro u hu ⟨others, inner, rfl, hinner⟩
    -- an earlier declaration of an interface would have been found
    have hsome := isSome_declaredInterface? hparse (List.mem_append_left _ hu)
      ⟨others, inner, rfl, hinner⟩
    have hnone := hbefore _ hu
    simp only [Tree.part?, if_true, Option.bind_some] at hnone
    rw [hnone] at hsome
    cases hsome
  · rintro ⟨before, parts, after, hparse, hbefore, -, hdeclared⟩
    have hread : read? text = some (ofTrees text (before ++ .node .declaration parts :: after)) := by
      rw [read?, hparse, Option.map_some]
    rw [hread, Option.bind_some]
    simp only [ofTrees, findSome?_declarations]
    rw [List.findSome?_eq_some_iff]
    refine ⟨before, _, after, rfl, by simp [Tree.part?, hdeclared], ?_⟩
    intro u hu
    rw [Option.bind_eq_none_iff]
    intro others hothers
    rw [part?_eq_some_iff] at hothers
    subst hothers
    rw [Option.eq_none_iff_forall_ne_some]
    intro j hj
    exact hbefore _ hu (declaresInterface_of_declaredInterface? hj)

/-! ## The order of methods -/

/-- The name of a method is one of the tokens of its declaration. -/
theorem exists_token_of_method? {text : List Char} {r : Syntax} {trees parts : List (Tree Part)}
    {m : Method} (hreads : Reads Syntax.rules r trees) (hr : r.partsOf .method = [])
    (hwithin : ∀ children, .node .method children ∈ parts → Within (.node .method children) trees)
    (h : method? text parts = some m) :
    ∃ token ∈ forestTokens parts,
      (∃ k, token.kind = .word k) ∧ token.chars = m.name ∧ token.start = m.start := by
  obtain ⟨children, word, hmethod, hword, hof⟩ := exists_of_method? h
  have hchildren := hreads.of_within hr Syntax.partsOf_method (hwithin children hmethod)
  obtain ⟨front, before, name, behind, back, htokens, -, hname, -, hfound⟩ :=
    Syntax.exists_name_of_reads hchildren
  rw [hfound] at hword
  cases hword
  simp only [wordOf, Prod.mk.injEq] at hof
  obtain ⟨front', back', hall⟩ := (Within.here hmethod).exists_tokens
  refine ⟨name, ?_, hname, hof⟩
  rw [hall, Tree.tokens, htokens]
  simp

/-- The methods of an interface are found in its members, one after the other. -/
theorem exists_members_of_declaredInterface? {text : List Char} {parts : List (Tree Part)}
    {i : Interface} (h : declaredInterface? text parts = some i) :
    i.methods = [] ∨ ∃ declared members, .node .interface_ declared ∈ parts ∧
      .node .members members ∈ declared ∧
      i.methods = members.filterMap fun t => (t.part? .declaration).bind (method? text) := by
  unfold declaredInterface? at h
  obtain ⟨declared, hdeclared, h⟩ := Option.bind_eq_some_iff.1 h
  obtain ⟨name, -, h⟩ := Option.bind_eq_some_iff.1 h
  cases h
  cases hmembers : declared.findSome? (Tree.part? .members) with
  | none => exact .inl rfl
  | some members =>
    refine .inr ⟨declared, members, mem_of_findSome? hdeclared, mem_of_findSome? hmembers, ?_⟩
    rw [Option.getD_some, List.filterMap_filterMap]

/-- The methods of the first interface are listed in the order of the source. -/
theorem IsFirstInterface.pairwise_methods {text : List Char} {i : Interface}
    (h : IsFirstInterface text i) : i.methods.Pairwise fun a b => a.start < b.start := by
  obtain ⟨front, parts, back, hparse, -, -, hdeclared⟩ := h
  rcases exists_members_of_declaredInterface? hdeclared with
    hnil | ⟨declared, members, hinterface, hmembers, hmethods⟩
  · rw [hnil]
    exact .nil
  obtain ⟨hts, hreads⟩ := reads_of_parse_eq hparse
  obtain ⟨mark, rest, -, hlaid⟩ := exists_laid_of_tokens hts
  have hdeclaration : .node .declaration parts ∈ front ++ .node .declaration parts :: back := by simp
  -- the tokens of the members are some of those of the source
  have hinside : ∀ {t}, Within t members → Within t (front ++ .node .declaration parts :: back) :=
    fun hwithin => .inside hdeclaration (.inside hinterface (.inside hmembers hwithin))
  obtain ⟨before, after, htokens⟩ :=
    (Within.inside hdeclaration (.inside hinterface (.here hmembers))).exists_tokens
  rw [Tree.tokens] at htokens
  have hsublist : (forestTokens members).Sublist (forestTokens (front ++ .node .declaration parts :: back)) := by
    rw [htokens]
    exact (List.sublist_append_left _ _).trans (List.sublist_append_right _ _)
  rw [hmethods]
  apply pairwise_filterMap_of_tokens
    (P := fun token m => token.start = m.start ∧ token.chars ≠ [])
    (R := fun a b => a.start + byteLength a.chars ≤ b.start)
  · intro t ht m hm
    obtain ⟨member, hmember, hmethod⟩ := Option.bind_eq_some_iff.1 hm
    rw [part?_eq_some_iff] at hmember
    subst hmember
    obtain ⟨token, htoken, hkind, -, hstart⟩ := exists_token_of_method? hreads rfl
      (fun children hchildren => hinside (.inside ht (.here hchildren))) hmethod
    refine ⟨token, by rwa [Tree.tokens], hstart, ?_⟩
    obtain ⟨before, after, hall⟩ := (hinside (.here ht)).exists_tokens
    have hword := hlaid.isWord_of_mem (by rw [hall, Tree.tokens]; simp [htoken]) hkind
    obtain ⟨c, more, hchars, -⟩ := hword
    simp [hchars]
  · rintro x y a b ⟨hx, hne⟩ ⟨hy, -⟩ hle
    obtain ⟨c, more, hchars⟩ := List.exists_cons_of_ne_nil hne
    have hpos : 0 < byteLength x.chars := by
      rw [hchars, byteLength_cons]
      exact Nat.add_pos_left c.utf8Size_pos _
    omega
  · exact hlaid.pairwise.sublist hsublist

end Source

end StatementLens.Java
