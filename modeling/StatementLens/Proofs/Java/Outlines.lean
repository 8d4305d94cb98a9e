import StatementLens.Mapper.Java
import StatementLens.Proofs.Java.Lexemes
import StatementLens.Proofs.Java.Methods
import StatementLens.Proofs.Java.Spelling

/-!
# What is looked at in sources with the same tokens

Of trees that are the same but for gaps, the same parts are looked at. The names of an interface and of
its methods are words, which have no gaps inside. Annotations and extended types are looked at as texts.
Their simple names are the same where the texts tell no more than the tokens do.
-/

namespace StatementLens.Java

/-! ## Nodes -/

section Nodes

variable {κ : Type} [DecidableEq κ]

mutual

/-- All nodes with a label in a tree: their children. -/
def Tree.nodes (label : κ) : Tree κ → List (List (Tree κ))
  | .leaf _ => []
  | .node found children =>
    (if found = label then [children] else []) ++ forestNodes label children

/-- All nodes with a label in trees: their children. -/
def forestNodes (label : κ) : List (Tree κ) → List (List (Tree κ))
  | [] => []
  | t :: rest => t.nodes label ++ forestNodes label rest

end

/-- The nodes of a tree are among those of its forest. -/
private theorem nodes_subset {label : κ} {t : Tree κ} {trees : List (Tree κ)} (h : t ∈ trees) :
    t.nodes label ⊆ forestNodes label trees := by
  induction trees with
  | nil => cases h
  | cons u rest ih =>
    rw [forestNodes]
    rcases List.mem_cons.1 h with rfl | h
    · exact List.subset_append_left _ _
    · exact List.subset_append_of_subset_right _ (ih h)

mutual

/-- All nodes that are listed stand in the tree. -/
private theorem Tree.within_of_mem_nodes {label : κ} {t : Tree κ} {children : List (Tree κ)}
    (h : children ∈ t.nodes label) : Within (.node label children) [t] := by
  cases t with
  | leaf token => cases h
  | node found inner =>
    rw [Tree.nodes, List.mem_append] at h
    rcases h with h | h
    · split at h
      · next hlabel =>
        obtain rfl := List.mem_singleton.1 h
        exact .here (by simp [hlabel])
      · cases h
    · exact .inside List.mem_cons_self (within_of_mem_forestNodes h)

private theorem within_of_mem_forestNodes {label : κ} {trees children : List (Tree κ)}
    (h : children ∈ forestNodes label trees) : Within (.node label children) trees := by
  cases trees with
  | nil => cases h
  | cons t rest =>
    rw [forestNodes, List.mem_append] at h
    rcases h with h | h
    · exact (Tree.within_of_mem_nodes h).mono (by simp)
    · exact (within_of_mem_forestNodes h).mono (by simp)

end

/-- The nodes that are listed are those that stand somewhere in the trees. -/
theorem mem_forestNodes_iff {label : κ} {trees children : List (Tree κ)} :
    children ∈ forestNodes label trees ↔ Within (.node label children) trees := by
  refine ⟨within_of_mem_forestNodes, fun h => ?_⟩
  induction h with
  | here mem => exact nodes_subset mem (by simp [Tree.nodes])
  | inside mem _ ih => exact nodes_subset mem (by simp [Tree.nodes, ih])

mutual

/-- The first node with a label is the first of all. -/
private theorem Tree.find?_eq_head? (label : κ) (t : Tree κ) : t.find? label = (t.nodes label).head? := by
  cases t with
  | leaf token => rfl
  | node found children =>
    rw [Tree.find?, Tree.nodes, forestFind?_eq_head? label children]
    split <;> rfl

/-- The first node with a label is the first of all. -/
theorem forestFind?_eq_head? (label : κ) (trees : List (Tree κ)) :
    forestFind? label trees = (forestNodes label trees).head? := by
  cases trees with
  | nil => rfl
  | cons t rest =>
    rw [forestFind?, forestNodes, List.head?_append, Tree.find?_eq_head? label t,
      forestFind?_eq_head? label rest]

end

/-- The first node with a label stands somewhere in the trees. -/
theorem within_of_forestFind? {label : κ} {trees children : List (Tree κ)}
    (h : forestFind? label trees = some children) : Within (.node label children) trees := by
  rw [forestFind?_eq_head?] at h
  exact mem_forestNodes_iff.1 (List.mem_of_mem_head? h)

/-- Whether all nodes with a label in trees have children with a property. -/
def Everywhere (label : κ) (p : List (Tree κ) → Prop) (trees : List (Tree κ)) : Prop :=
  ∀ children ∈ forestNodes label trees, p children

namespace Everywhere

variable {label : κ} {p : List (Tree κ) → Prop} {trees : List (Tree κ)}

instance [DecidablePred p] : Decidable (Everywhere label p trees) :=
  inferInstanceAs (Decidable (∀ children ∈ forestNodes label trees, p children))

/-- What holds of all nodes holds of each that stands in the trees. -/
theorem of_within {children : List (Tree κ)} (h : Everywhere label p trees)
    (hwithin : Within (.node label children) trees) : p children :=
  h children (mem_forestNodes_iff.2 hwithin)

theorem inside {found : κ} {children : List (Tree κ)} (h : Everywhere label p trees)
    (hmem : .node found children ∈ trees) : Everywhere label p children :=
  fun inner hinner => h inner (nodes_subset hmem (by simp [Tree.nodes, hinner]))

/-- It holds in the part with a label as well. -/
theorem part (h : Everywhere label p trees) (found : κ) :
    Everywhere label p ((trees.findSome? (Tree.part? found)).getD []) := by
  cases hpart : trees.findSome? (Tree.part? found) with
  | none => exact fun _ hmem => nomatch hmem
  | some children =>
    obtain ⟨t, ht, htpart⟩ := List.exists_of_findSome?_eq_some hpart
    rw [part?_eq_some_iff] at htpart
    exact h.inside (htpart ▸ ht)

end Everywhere

end Nodes

/-! ## Trees that are the same but for gaps -/

section Trees

variable {κ : Type} [DecidableEq κ]

omit [DecidableEq κ] in
mutual

/-- A tree without gaps has the tokens without gaps. -/
theorem Tree.tokens_bare (t : Tree κ) : t.bare.tokens = t.tokens.map Token.bare := by
  cases t with
  | leaf token => simp [Tree.bare, Tree.tokens]
  | node label children =>
    rw [Tree.bare, Tree.tokens, Tree.tokens, forestTokens_map_bare children]

/-- So have trees. -/
theorem forestTokens_map_bare (trees : List (Tree κ)) :
    forestTokens (trees.map Tree.bare) = (forestTokens trees).map Token.bare := by
  cases trees with
  | nil => rfl
  | cons t rest =>
    rw [List.map_cons, forestTokens, forestTokens, List.map_append, Tree.tokens_bare t,
      forestTokens_map_bare rest]

end

/-- Parts are found alike without gaps. -/
theorem Tree.part?_bare (label : κ) (t : Tree κ) :
    t.bare.part? label = (t.part? label).map (List.map Tree.bare) := by
  cases t with
  | leaf token =>
    rw [Tree.bare]
    rfl
  | node found children =>
    rw [Tree.bare, Tree.part?, Tree.part?]
    split <;> rfl

mutual

/-- So are nodes. -/
theorem Tree.find?_bare (label : κ) (t : Tree κ) :
    t.bare.find? label = (t.find? label).map (List.map Tree.bare) := by
  cases t with
  | leaf token =>
    rw [Tree.bare]
    rfl
  | node found children =>
    rw [Tree.bare, Tree.find?, Tree.find?, forestFind?_map_bare label children]
    split <;> rfl

/-- So are nodes in several trees. -/
theorem forestFind?_map_bare (label : κ) (trees : List (Tree κ)) :
    forestFind? label (trees.map Tree.bare) = (forestFind? label trees).map (List.map Tree.bare) := by
  cases trees with
  | nil => rfl
  | cons t rest =>
    rw [List.map_cons, forestFind?, forestFind?, Tree.find?_bare label t, forestFind?_map_bare label rest]
    cases t.find? label <;> rfl

end

/-- Whether trees are the same but for gaps. -/
def SameTrees (xs ys : List (Tree κ)) : Prop := xs.map Tree.bare = ys.map Tree.bare

omit [DecidableEq κ] in
private theorem map_cases {α β : Type} {f : α → β} {o o' : Option α} (h : o.map f = o'.map f) :
    (o = none ∧ o' = none) ∨ ∃ a a', o = some a ∧ o' = some a' ∧ f a = f a' := by
  cases o with
  | none =>
    cases o' with
    | none => exact .inl ⟨rfl, rfl⟩
    | some a' => cases h
  | some a =>
    cases o' with
    | none => cases h
    | some a' => exact .inr ⟨a, a', rfl, rfl, Option.some.inj h⟩

namespace SameTrees

variable {xs ys : List (Tree κ)}

/-- The first parts with a label are the same. -/
theorem findSome? (h : SameTrees xs ys) (label : κ) :
    (xs.findSome? (Tree.part? label) = none ∧ ys.findSome? (Tree.part? label) = none) ∨
      ∃ xs' ys', xs.findSome? (Tree.part? label) = some xs' ∧
        ys.findSome? (Tree.part? label) = some ys' ∧ SameTrees xs' ys' := by
  have hbare (trees : List (Tree κ)) : (trees.map Tree.bare).findSome? (Tree.part? label)
      = (trees.findSome? (Tree.part? label)).map (List.map Tree.bare) := by
    rw [List.findSome?_map, List.map_findSome?]
    congr 1
    exact funext (Tree.part?_bare label)
  exact map_cases (by rw [← hbare, ← hbare, h])

theorem part (h : SameTrees xs ys) (label : κ) :
    SameTrees ((xs.findSome? (Tree.part? label)).getD []) ((ys.findSome? (Tree.part? label)).getD []) := by
  rcases h.findSome? label with ⟨hx, hy⟩ | ⟨xs', ys', hx, hy, hsame⟩
  · rw [hx, hy]
    rfl
  · rwa [hx, hy]

/-- The first nodes with a label are the same. -/
theorem forestFind? (h : SameTrees xs ys) (label : κ) :
    (Java.forestFind? label xs = none ∧ Java.forestFind? label ys = none) ∨
      ∃ xs' ys', Java.forestFind? label xs = some xs' ∧ Java.forestFind? label ys = some ys' ∧
        SameTrees xs' ys' :=
  map_cases (by rw [← forestFind?_map_bare, ← forestFind?_map_bare, h])

omit [DecidableEq κ] in
/-- Trees that are the same but for gaps are spelled alike. -/
theorem spelling_eq (h : SameTrees xs ys) :
    spelling (forestTokens xs) = spelling (forestTokens ys) := by
  have hbare (ts : List Token) : spelling (ts.map Token.bare) = spelling ts := by
    rw [spelling, List.flatMap_map]
    rfl
  rw [← hbare, ← hbare (forestTokens ys), ← forestTokens_map_bare, ← forestTokens_map_bare, h]

/-- The parts with a label are the same, one by one. -/
theorem filterMap_part (h : SameTrees xs ys) (label : κ) :
    List.Forall₂ (fun xs' ys' => .node label xs' ∈ xs ∧ .node label ys' ∈ ys ∧ SameTrees xs' ys')
      (xs.filterMap (Tree.part? label)) (ys.filterMap (Tree.part? label)) := by
  induction xs generalizing ys with
  | nil =>
    obtain rfl : ys = [] := List.map_eq_nil_iff.1 h.symm
    exact .nil
  | cons x xs ih =>
    obtain ⟨y, ys, rfl, hyx, hrest⟩ := List.map_eq_cons_iff.1 h.symm
    have hparts : List.Forall₂
        (fun xs' ys' => .node label xs' ∈ x :: xs ∧ .node label ys' ∈ y :: ys ∧ SameTrees xs' ys')
        (xs.filterMap (Tree.part? label)) (ys.filterMap (Tree.part? label)) :=
      (ih hrest.symm).imp fun _ _ hboth => ⟨.tail x hboth.1, .tail y hboth.2.1, hboth.2.2⟩
    have hpart : (x.part? label).map (List.map Tree.bare) = (y.part? label).map (List.map Tree.bare) := by
      rw [← Tree.part?_bare, ← Tree.part?_bare, hyx]
    rcases map_cases hpart with ⟨hx, hy⟩ | ⟨xs', ys', hx, hy, hsame⟩
    · rwa [List.filterMap_cons_none hx, List.filterMap_cons_none hy]
    · rw [List.filterMap_cons_some hx, List.filterMap_cons_some hy]
      rw [part?_eq_some_iff] at hx hy
      exact .cons ⟨hx ▸ List.mem_cons_self, hy ▸ List.mem_cons_self, hsame⟩ hparts

/-- What is found in the parts with a label is the same if it is found in the same way in each. -/
theorem filterMap_eq {β : Type} {label : κ} {f g : List (Tree κ) → Option β} (h : SameTrees xs ys)
    (hfg : ∀ xs' ys', .node label xs' ∈ xs → .node label ys' ∈ ys → SameTrees xs' ys' → f xs' = g ys') :
    (xs.filterMap (Tree.part? label)).filterMap f = (ys.filterMap (Tree.part? label)).filterMap g := by
  have hparts := h.filterMap_part label
  generalize xs.filterMap (Tree.part? label) = parts at hparts ⊢
  generalize ys.filterMap (Tree.part? label) = parts' at hparts ⊢
  induction hparts with
  | nil => rfl
  | cons hhead _ ih =>
    rw [List.filterMap_cons, List.filterMap_cons, hfg _ _ hhead.1 hhead.2.1 hhead.2.2, ih]

end SameTrees

end Trees

/-- A source with the same tokens as one that is well formed is well formed, with the same trees. -/
theorem SameTokens.exists_sameTrees {text text' : List Char} {trees : List (Tree Part)}
    (h : SameTokens text text') (hparse : parse text = some trees) :
    ∃ trees', parse text' = some trees' ∧ SameTrees trees trees' := by
  have hbare := map_bare_parse h
  rw [hparse, Option.map_some, eq_comm] at hbare
  obtain ⟨trees', hparse', hsame⟩ := Option.map_eq_some_iff.1 hbare
  exact ⟨trees', hparse', hsame.symm⟩

/-! ## Texts that tell no more than tokens -/

namespace Source

/-- Whether the simple names of annotations in trees are those of their tokens without gaps. -/
def PlainAnnotations (text : List Char) (trees : List (Tree Part)) : Prop :=
  Everywhere .annotationName
    (fun name => simpleName (textOf text name) = simpleName (spelling (forestTokens name))) trees

/-- Whether the simple names of extended types in trees are those of their tokens without gaps. -/
def PlainSuperTypes (text : List Char) (trees : List (Tree Part)) : Prop :=
  Everywhere .superTypes
    (fun list => (extendedEntries text list).map simpleName
      = (list.filterMap (Tree.part? .superType)).map fun type => simpleName (spelling (forestTokens type)))
    trees

variable {text text' : List Char} {parts parts' : List (Tree Part)}

/-- The words of parts are the same. -/
theorem wordOf_eq (h : SameTrees parts parts') : (wordOf parts).1 = (wordOf parts').1 := by
  have hbare (trees : List (Tree Part)) : (wordOf (trees.map Tree.bare)).1 = (wordOf trees).1 := by
    rcases trees with _ | ⟨_ | _, _ | _⟩ <;> simp [wordOf, Tree.bare, Token.bare]
  rw [← hbare, h, hbare]

/-- The simple names of annotations are the same. -/
theorem annotationNames_eq (h : SameTrees parts parts') (hplain : PlainAnnotations text parts)
    (hplain' : PlainAnnotations text' parts') :
    (annotationNames text parts).map simpleName = (annotationNames text' parts').map simpleName := by
  unfold annotationNames
  rw [List.map_filterMap, List.map_filterMap]
  apply (h.part .modifiers).filterMap_eq
  intro used used' hused hused' hsame
  rcases hsame.findSome? .annotationName with ⟨hnone, hnone'⟩ | ⟨name, name', hname, hname', hsame⟩
  · rw [hnone, hnone']
    rfl
  · have hinside := ((hplain.part .modifiers).inside hused).of_within (.here (mem_of_findSome? hname))
    have hinside' :=
      ((hplain'.part .modifiers).inside hused').of_within (.here (mem_of_findSome? hname'))
    rw [hname, hname', Option.map_some, Option.map_some, Option.map_some, Option.map_some, hinside,
      hinside', hsame.spelling_eq]

/-- The simple names of extended types are the same. -/
theorem extendedEntries_eq (h : SameTrees parts parts') (hplain : PlainSuperTypes text parts)
    (hplain' : PlainSuperTypes text' parts') :
    (extendedEntries text ((parts.findSome? (Tree.part? .superTypes)).getD [])).map simpleName
      = (extendedEntries text' ((parts'.findSome? (Tree.part? .superTypes)).getD [])).map simpleName := by
  rcases h.findSome? .superTypes with ⟨hnone, hnone'⟩ | ⟨list, list', hlist, hlist', hsame⟩
  · rw [hnone, hnone']
    rfl
  · rw [hlist, hlist', Option.getD_some, Option.getD_some,
      hplain.of_within (.here (mem_of_findSome? hlist)),
      hplain'.of_within (.here (mem_of_findSome? hlist')), ← List.filterMap_eq_map]
    apply hsame.filterMap_eq
    intro type type' _ _ hsame
    rw [Function.comp_apply, Function.comp_apply, hsame.spelling_eq]

private theorem any_simpleName {names names' : List (List Char)}
    (h : names.map simpleName = names'.map simpleName) (p : List Char → Bool) :
    names.any (fun name => p (simpleName name)) = names'.any fun name => p (simpleName name) := by
  have hmap (l : List (List Char)) : l.any (fun name => p (simpleName name)) = (l.map simpleName).any p :=
    List.any_map.symm
  rw [hmap, hmap, h]

/-- Whether a method is mapped depends on the simple names of its annotations. -/
theorem isMapped_congr {m m' : Method} (hbody : m.hasBody = m'.hasBody)
    (h : m.annotations.map simpleName = m'.annotations.map simpleName) : m.isMapped = m'.isMapped := by
  rw [Method.isMapped, Method.isMapped, hbody,
    any_simpleName h fun name => statementAnnotations.contains (String.ofList name)]

/-- Whether an interface meets the bases depends on simple names only. -/
theorem meets_congr {i i' : Interface}
    (hannotations : i.annotations.map simpleName = i'.annotations.map simpleName)
    (hextended : i.extended.map simpleName = i'.extended.map simpleName) (bases : List (List Char)) :
    i.meets bases = i'.meets bases := by
  rw [Interface.meets, Interface.meets,
    any_simpleName hannotations fun name => name = mapperAnnotation.toList,
    any_simpleName hextended bases.contains]

/-- The method that is declared by its parts. -/
theorem method?_eq {method name : List (Tree Part)}
    (hmethod : parts.findSome? (Tree.part? .method) = some method)
    (hname : method.findSome? (Tree.part? .methodName) = some name) (text : List Char) :
    method? text parts = some ⟨(wordOf name).1, (wordOf name).2, annotationNames text parts,
      (method.findSome? (Tree.part? .methodBody)).isSome⟩ := by
  rw [method?, hmethod, Option.bind_eq_bind, Option.bind_some, hname]
  rfl

/-- The same method is declared, but for its place and the texts of its annotations. -/
theorem method?_cases (h : SameTrees parts parts') (text text' : List Char) :
    (method? text parts = none ∧ method? text' parts' = none) ∨
      ∃ m m', method? text parts = some m ∧ method? text' parts' = some m' ∧ m.name = m'.name ∧
        m.hasBody = m'.hasBody ∧ m.annotations = annotationNames text parts ∧
        m'.annotations = annotationNames text' parts' := by
  rcases h.findSome? .method with ⟨hnone, hnone'⟩ | ⟨method, method', hmethod, hmethod', hsame⟩
  · exact .inl ⟨by simp [method?, hnone], by simp [method?, hnone']⟩
  rcases hsame.findSome? .methodName with ⟨hnone, hnone'⟩ | ⟨name, name', hname, hname', hword⟩
  · exact .inl ⟨by simp [method?, hmethod, hnone], by simp [method?, hmethod', hnone']⟩
  have hbody : (method.findSome? (Tree.part? .methodBody)).isSome
      = (method'.findSome? (Tree.part? .methodBody)).isSome := by
    rcases hsame.findSome? .methodBody with ⟨hnone, hnone'⟩ | ⟨_, _, hbody, hbody', -⟩
    · rw [hnone, hnone']
    · rw [hbody, hbody']
      rfl
  exact .inr ⟨_, _, method?_eq hmethod hname text, method?_eq hmethod' hname' text', wordOf_eq hword,
    hbody, rfl, rfl⟩

/-- The interface that is declared by its parts. -/
theorem declaredInterface?_eq {declared name : List (Tree Part)}
    (hdeclared : parts.findSome? (Tree.part? .interface_) = some declared)
    (hname : declared.findSome? (Tree.part? .interfaceName) = some name) (text : List Char) :
    declaredInterface? text parts = some ⟨(wordOf name).1, annotationNames text parts,
      extendedEntries text ((declared.findSome? (Tree.part? .superTypes)).getD []),
      (((declared.findSome? (Tree.part? .members)).getD []).filterMap (Tree.part? .declaration)).filterMap
        (method? text)⟩ := by
  rw [declaredInterface?, hdeclared, Option.bind_eq_bind, Option.bind_some, hname]
  rfl

/-- What layout makes no difference to in an interface, the last two as far as simple names are plain. -/
structure Resembles (text text' : List Char) (trees trees' : List (Tree Part)) (i i' : Interface) :
    Prop where
  name : i.name = i'.name
  methods : i.methods.map (fun m => (m.name, m.hasBody)) = i'.methods.map fun m => (m.name, m.hasBody)
  mapped : PlainAnnotations text trees → PlainAnnotations text' trees' →
    (i.methods.filter Method.isMapped).map Method.name
      = (i'.methods.filter Method.isMapped).map Method.name
  meets : PlainAnnotations text trees → PlainAnnotations text' trees' →
    PlainSuperTypes text trees → PlainSuperTypes text' trees' → ∀ bases, i.meets bases = i'.meets bases

/-- The same interface is declared. -/
theorem declaredInterface?_cases (h : SameTrees parts parts') (text text' : List Char) :
    (declaredInterface? text parts = none ∧ declaredInterface? text' parts' = none) ∨
      ∃ i i', declaredInterface? text parts = some i ∧ declaredInterface? text' parts' = some i' ∧
        Resembles text text' parts parts' i i' := by
  rcases h.findSome? .interface_ with ⟨hnone, hnone'⟩ | ⟨declared, declared', hsome, hsome', hsame⟩
  · exact .inl ⟨by simp [declaredInterface?, hnone], by simp [declaredInterface?, hnone']⟩
  rcases hsame.findSome? .interfaceName with ⟨hnone, hnone'⟩ | ⟨name, name', hname, hname', hword⟩
  · exact .inl ⟨by simp [declaredInterface?, hsome, hnone], by simp [declaredInterface?, hsome', hnone']⟩
  have hmem := mem_of_findSome? hsome
  have hmem' := mem_of_findSome? hsome'
  refine .inr ⟨_, _, declaredInterface?_eq hsome hname text, declaredInterface?_eq hsome' hname' text',
    wordOf_eq hword, ?_, fun hplain hplain' => ?_, fun hplain hplain' hsuper hsuper' => ?_⟩
  · rw [List.map_filterMap, List.map_filterMap]
    apply (hsame.part .members).filterMap_eq
    intro member member' _ _ hmember
    rcases method?_cases hmember text text' with ⟨hm, hm'⟩ | ⟨m, m', hm, hm', hname, hbody, -⟩
    · rw [hm, hm']
    · rw [hm, hm', Option.map_some, Option.map_some, hname, hbody]
  · rw [List.filter_filterMap, List.filter_filterMap, List.map_filterMap, List.map_filterMap]
    apply (hsame.part .members).filterMap_eq
    intro member member' hin hin' hmember
    rcases method?_cases hmember text text' with ⟨hm, hm'⟩ | ⟨m, m', hm, hm', hname, hbody, hused, hused'⟩
    · rw [hm, hm']
    · have hmapped : m.isMapped = m'.isMapped := by
        apply isMapped_congr hbody
        rw [hused, hused']
        exact annotationNames_eq hmember (((hplain.inside hmem).part .members).inside hin)
          (((hplain'.inside hmem').part .members).inside hin')
      rw [hm, hm', Option.filter_some, Option.filter_some, hmapped]
      split
      · rw [Option.map_some, Option.map_some, hname]
      · rfl
  · exact meets_congr (annotationNames_eq h hplain hplain')
      (extendedEntries_eq hsame (hsuper.inside hmem) (hsuper'.inside hmem'))

/-- The same interface is looked at. -/
theorem interface?_cases {trees trees' : List (Tree Part)} (h : SameTrees trees trees')
    (text text' : List Char) :
    ((ofTrees text trees).interface? = none ∧ (ofTrees text' trees').interface? = none) ∨
      ∃ i i', (ofTrees text trees).interface? = some i ∧ (ofTrees text' trees').interface? = some i' ∧
        Resembles text text' trees trees' i i' := by
  have hparts := h.filterMap_part .declaration
  unfold ofTrees
  generalize trees.filterMap (Tree.part? .declaration) = parts at hparts ⊢
  generalize trees'.filterMap (Tree.part? .declaration) = parts' at hparts ⊢
  induction hparts with
  | nil => exact .inl ⟨rfl, rfl⟩
  | cons hhead _ ih =>
    obtain ⟨hmem, hmem', hsame⟩ := hhead
    simp only [List.findSome?_cons]
    rcases declaredInterface?_cases hsame text text' with ⟨hnone, hnone'⟩ | ⟨i, i', hi, hi', hboth⟩
    · rw [hnone, hnone']
      exact ih
    · rw [hi, hi']
      refine .inr ⟨i, i', rfl, rfl, hboth.name, hboth.methods, fun hplain hplain' => ?_,
        fun hplain hplain' hsuper hsuper' => ?_⟩
      · exact hboth.mapped (hplain.inside hmem) (hplain'.inside hmem')
      · exact hboth.meets (hplain.inside hmem) (hplain'.inside hmem') (hsuper.inside hmem)
          (hsuper'.inside hmem')

/-! ## Packages -/

/-- The name of the package in trees. -/
def packageName? (trees : List (Tree Part)) : Option (List (Tree Part)) :=
  (forestFind? .package trees).bind (List.findSome? (Tree.part? .packageName))

/-- The same package is declared, or none. -/
theorem packageName?_cases {trees trees' : List (Tree Part)} (h : SameTrees trees trees') :
    (packageName? trees = none ∧ packageName? trees' = none) ∨
      ∃ name name', packageName? trees = some name ∧ packageName? trees' = some name' ∧
        SameTrees name name' := by
  unfold packageName?
  rcases h.forestFind? .package with ⟨hnone, hnone'⟩ | ⟨found, found', hfound, hfound', hsame⟩
  · exact .inl ⟨by rw [hnone]; rfl, by rw [hnone']; rfl⟩
  · rw [hfound, hfound']
    exact hsame.findSome? .packageName

end Source

end StatementLens.Java
