import StatementLens.Proofs.Java.Outlines

/-!
# Tidy sources

White space makes no difference to simple names, but comments do. The simple names in a source are those
of its tokens if no comment stands in the name of an annotation (`HasPlainAnnotations.plainAnnotations`)
or in a list of extended types, which must be names with dots (`HasPlainSuperTypes.plainSuperTypes`). The
package is not a simple name and is kept with its gaps (`package_eq`).
-/

namespace StatementLens.Java

open Rule

/-! ## Names and lists in the grammar -/

namespace Syntax

/-- Nothing but a path is the name of an annotation. -/
theorem partsOf_annotationName (name : Phrase) :
    (rules name).partsOf .annotationName = [] ∨ (rules name).partsOf .annotationName = [.call .path] := by
  cases name with
  | annotationUse => exact Or.inr rfl
  | type place | plainType place | simpleType place | modifiers place | expression place
  | prefixed place | infix_ place | statement place | typeDeclaration place | member place
  | method place => cases place <;> exact Or.inl rfl
  | _ => exact Or.inl rfl

/-- A list of extended types without its label. -/
def superTypesPart : Syntax :=
  seq [keyword .extends_, separated .comma (.node .superType (.call (.type .only)))]

/-- Nothing but the rule for lists of extended types makes one. -/
theorem partsOf_superTypes (name : Phrase) :
    (rules name).partsOf .superTypes = [] ∨ (rules name).partsOf .superTypes = [superTypesPart] := by
  cases name with
  | typeDeclaration place => cases place <;> exact Or.inr rfl
  | type place | plainType place | simpleType place | modifiers place | expression place
  | prefixed place | infix_ place | statement place | method place | member place =>
    cases place <;> exact Or.inl rfl
  | _ => exact Or.inl rfl

private theorem isDotted_cons {trees : List (Tree Part)}
    (h : Reads rules (.many (seq [symbol .dot, anyWord])) trees) (word : Token) :
    IsDotted (word :: forestTokens trees) := by
  generalize hr : Rule.many (seq [symbol .dot, anyWord]) = r at h
  induction h generalizing word with
  | none => trivial
  | @more a xs ys read rest _ ih =>
    cases hr
    obtain ⟨_, _, hdot, hword, rfl⟩ := Reads.exists_both read
    obtain ⟨dot, haccepts, rfl⟩ := hdot.exists_one
    obtain ⟨next, -, rfl⟩ := Reads.exists_one hword
    have hkind := kind_of_symbol haccepts
    simp only [List.cons_append, List.nil_append, forestTokens, Tree.tokens]
    exact .inr ⟨.inr (.inl hkind), .inr ⟨.inl hkind, ih next rfl⟩⟩
  | _ => cases hr

/-- Dots stand between the words of a path. -/
theorem isDotted_of_path {trees : List (Tree Part)} (h : Reads rules (.call .path) trees) :
    IsDotted (forestTokens trees) := by
  obtain ⟨_, more, hword, hmore, rfl⟩ := Reads.exists_both h.of_call
  obtain ⟨word, -, rfl⟩ := hword.exists_one
  exact isDotted_cons hmore word

end Syntax

/-! ## Tidy sources -/

namespace Source

/-- Whether no comment stands in the name of an annotation. -/
def HasPlainAnnotations (trees : List (Tree Part)) : Prop :=
  Everywhere .annotationName (fun name => Uncommented (forestTokens name)) trees

/-- Whether no comment stands in a list of extended types, and the types in such lists are names with
dots, which may have type arguments. -/
def HasPlainSuperTypes (trees : List (Tree Part)) : Prop :=
  Everywhere .superTypes (fun list => Uncommented (forestTokens list)) trees ∧
    Everywhere .superType (fun type => IsDotted (forestTokens type)) trees

instance (trees : List (Tree Part)) : Decidable (HasPlainAnnotations trees) :=
  inferInstanceAs (Decidable (Everywhere _ _ _))

instance (trees : List (Tree Part)) : Decidable (HasPlainSuperTypes trees) :=
  inferInstanceAs (Decidable (_ ∧ _))

/-- The simple name of a part without comments that has dots between its words is that of its tokens. -/
theorem simpleName_textOf {text : List Char} {trees part : List (Tree Part)} {label : Part}
    (h : tokens text = some (forestTokens trees)) (hpart : Within (.node label part) trees)
    (hcomments : Uncommented (forestTokens part)) (hdots : IsDotted (forestTokens part)) :
    simpleName (textOf text part) = simpleName (spelling (forestTokens part)) := by
  apply (written_textOf h hpart).simpleName_eq hcomments hdots
  intro t ht s hs
  obtain ⟨front, back, htokens⟩ := hpart.exists_tokens
  have hmem : t ∈ forestTokens trees := by
    rw [htokens, Tree.tokens]
    simp [ht]
  obtain ⟨mark, rest, -, hlaid⟩ := exists_laid_of_tokens h
  obtain ⟨after, hspelled⟩ := hlaid.exists_isSpelled hmem
  rwa [hs] at hspelled

/-- Without comments, the entries behind the first type are the types. -/
theorem laterEntries_eq {text : List Char} {trees : List (Tree Part)}
    (h : ∀ t ∈ forestTokens trees, t.comments = []) :
    laterEntries text trees = (trees.filterMap (Tree.part? .superType)).map (textOf text) := by
  induction trees with
  | nil => rfl
  | cons t rest ih =>
    rw [forestTokens] at h
    have hbefore : ((t.tokens.head?).map Token.comments).getD [] = [] := by
      cases hhead : t.tokens.head? with
      | none => rfl
      | some first => exact h first (List.mem_append_left _ (List.mem_of_mem_head? hhead))
    have ih := ih fun u hu => h u (List.mem_append_right _ hu)
    unfold laterEntries at ih ⊢
    rw [List.flatMap_cons, ih, hbefore]
    cases hpart : t.part? .superType with
    | none => simp [hpart]
    | some type => simp [hpart]

/-- Without comments, the entries of a list of extended types are the types. -/
theorem extendedEntries_eq_map {text : List Char} {trees : List (Tree Part)}
    (h : ∀ t ∈ forestTokens trees, t.comments = []) :
    extendedEntries text trees = (trees.filterMap (Tree.part? .superType)).map (textOf text) := by
  induction trees with
  | nil => rfl
  | cons t rest ih =>
    rw [forestTokens] at h
    have hrest : ∀ u ∈ forestTokens rest, u.comments = [] := fun u hu => h u (List.mem_append_right _ hu)
    unfold extendedEntries
    cases hpart : t.part? .superType with
    | none =>
      rw [List.dropWhile_cons_of_pos (by simp [hpart]), List.filterMap_cons_none hpart, ← ih hrest]
      rfl
    | some type =>
      rw [List.dropWhile_cons_of_neg (by simp [hpart]), List.filterMap_cons_some hpart, List.map_cons,
        ← laterEntries_eq hrest]
      rw [part?_eq_some_iff] at hpart
      simp [hpart, textOf, Tree.tokens]

/-- The simple names of annotations without comments are those of their tokens. -/
theorem HasPlainAnnotations.plainAnnotations {text : List Char} {trees : List (Tree Part)}
    (h : HasPlainAnnotations trees) (hparse : parse text = some trees) : PlainAnnotations text trees := by
  obtain ⟨htokens, hreads⟩ := reads_of_parse_eq hparse
  intro name hname
  have hwithin := mem_forestNodes_iff.1 hname
  have hread := hreads.of_within rfl Syntax.partsOf_annotationName hwithin
  exact simpleName_textOf htokens hwithin (h name hname) (Syntax.isDotted_of_path hread)

/-- The simple names of extended types without comments are those of their tokens. -/
theorem HasPlainSuperTypes.plainSuperTypes {text : List Char} {trees : List (Tree Part)}
    (h : HasPlainSuperTypes trees) (hparse : parse text = some trees) : PlainSuperTypes text trees := by
  obtain ⟨htokens, hreads⟩ := reads_of_parse_eq hparse
  intro list hlist
  have hwithin := mem_forestNodes_iff.1 hlist
  have hread := hreads.of_within rfl Syntax.partsOf_superTypes hwithin
  -- the first token is the word in front of the list
  obtain ⟨_, more, hword, -, rfl⟩ := Reads.exists_both hread
  obtain ⟨word, -, rfl⟩ := hword.exists_one
  have hcomments : ∀ t ∈ forestTokens more, t.comments = [] := h.1 _ hlist
  change (extendedEntries text more).map simpleName
    = (more.filterMap (Tree.part? .superType)).map fun type => simpleName (spelling (forestTokens type))
  rw [extendedEntries_eq_map hcomments, List.map_map]
  apply List.map_congr_left
  intro type htype
  have hmem := mem_of_mem_filterMap htype
  have hinner := hwithin.trans (.here (List.mem_append_right _ hmem))
  refine simpleName_textOf htokens hinner (fun t ht => hcomments t ?_) (h.2.of_within hinner)
  obtain ⟨front, back, hmore⟩ := (Within.here hmem).exists_tokens
  rw [hmore, Tree.tokens]
  simp [List.mem_of_mem_tail ht]

/-! ## Packages -/

/-- Whether nothing stands between the tokens of the name of the package. -/
def HasSeamlessPackage (trees : List (Tree Part)) : Prop :=
  ∀ name ∈ packageName? trees, Seamless (forestTokens name)

/-- Whether no comment stands in the name of the package. -/
def HasPlainPackage (trees : List (Tree Part)) : Prop :=
  ∀ name ∈ packageName? trees, Uncommented (forestTokens name)

instance (trees : List (Tree Part)) : Decidable (HasSeamlessPackage trees) :=
  inferInstanceAs (Decidable (∀ name ∈ packageName? trees, Seamless (forestTokens name)))

/-- The package is written with the tokens of its name. -/
theorem written_packageName? {text : List Char} {trees name : List (Tree Part)}
    (hparse : parse text = some trees) (hname : packageName? trees = some name) :
    Written (forestTokens name) (textOf text name) := by
  obtain ⟨htokens, -⟩ := reads_of_parse_eq hparse
  obtain ⟨package, hpackage, hname⟩ := Option.bind_eq_some_iff.1 hname
  exact written_textOf htokens ((within_of_forestFind? hpackage).trans (.here (mem_of_findSome? hname)))

variable {text text' : List Char} {trees trees' : List (Tree Part)}

theorem isSome_package_eq (hsame : SameTrees trees trees') :
    (ofTrees text trees).package.isSome = (ofTrees text' trees').package.isSome := by
  change ((packageName? trees).map (textOf text)).isSome = ((packageName? trees').map (textOf text')).isSome
  rcases packageName?_cases hsame with ⟨hnone, hnone'⟩ | ⟨name, name', hname, hname', -⟩
  · rw [hnone, hnone']
    rfl
  · rw [hname, hname']
    rfl

/-- Packages with the same tokens differ in white space only, if there are no comments in their names. -/
theorem filter_package_eq (hsame : SameTrees trees trees') (hparse : parse text = some trees)
    (hparse' : parse text' = some trees') (hplain : HasPlainPackage trees)
    (hplain' : HasPlainPackage trees') :
    (ofTrees text trees).package.map (List.filter fun c => !isBlankChar c)
      = (ofTrees text' trees').package.map (List.filter fun c => !isBlankChar c) := by
  change ((packageName? trees).map (textOf text)).map _ = ((packageName? trees').map (textOf text')).map _
  rcases packageName?_cases hsame with ⟨hnone, hnone'⟩ | ⟨name, name', hname, hname', hsame⟩
  · rw [hnone, hnone']
    rfl
  · rw [hname, hname', Option.map_some, Option.map_some, Option.map_some, Option.map_some,
      (written_packageName? hparse hname).filter_eq (hplain name hname),
      (written_packageName? hparse' hname').filter_eq (hplain' name' hname'), hsame.spelling_eq]

/-- Packages with the same tokens and no gaps are the same. -/
theorem package_eq (hsame : SameTrees trees trees') (hparse : parse text = some trees)
    (hparse' : parse text' = some trees') (hseamless : HasSeamlessPackage trees)
    (hseamless' : HasSeamlessPackage trees') :
    (ofTrees text trees).package = (ofTrees text' trees').package := by
  change (packageName? trees).map (textOf text) = (packageName? trees').map (textOf text')
  rcases packageName?_cases hsame with ⟨hnone, hnone'⟩ | ⟨name, name', hname, hname', hsame⟩
  · rw [hnone, hnone']
    rfl
  · rw [hname, hname', Option.map_some, Option.map_some,
      (written_packageName? hparse hname).eq_spelling (hseamless name hname),
      (written_packageName? hparse' hname').eq_spelling (hseamless' name' hname'), hsame.spelling_eq]

end Source

end StatementLens.Java
