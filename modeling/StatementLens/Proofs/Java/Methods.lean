import StatementLens.Proofs.Java.Reads

/-!
# Names of methods

The name of a method stands between the end of a type and a parenthesis. So it does in every source
that is read, for every method of the interface that is looked at.
-/

namespace StatementLens.Java

open Rule

namespace Syntax

/-! ## Types -/

/-- The tokens that a type may end with. -/
def EndsType (t : Token) : Prop :=
  (∃ k, t.kind = .word k) ∨ t.kind = .symbol .greater ∨ t.kind = .symbol .rightBracket

theorem exists_word_of_wordExcept {ks : List Keyword} {t : Token}
    (h : (Terminal.wordExcept ks).accepts t = true) : ∃ k, t.kind = .word k := by
  simp only [Terminal.accepts] at h
  split at h
  · next hkind => exact ⟨_, hkind⟩
  · next hkind => exact ⟨_, hkind⟩
  · cases h

theorem exists_word_of_wordAmong {ks : List Keyword} {t : Token}
    (h : (Terminal.wordAmong ks).accepts t = true) : ∃ k, t.kind = .word k := by
  simp only [Terminal.accepts] at h
  split at h
  · next hkind => exact ⟨_, hkind⟩
  · cases h

theorem kind_of_symbol {s : Symbol} {t : Token} (h : (Terminal.symbol s).accepts t = true) :
    t.kind = .symbol s := by
  simpa [Terminal.accepts] using h

private theorem endsType_name (ks : List Keyword) : EndsIn rules EndsType (nameExcept ks) :=
  .one fun _ h => Or.inl (exists_word_of_wordExcept h)

private theorem endsType_typeArguments : EndsIn rules EndsType (.call .typeArguments) :=
  .call (.second (.second (.one fun _ h => Or.inr (Or.inl (kind_of_symbol h)))))

private theorem endsType_dimensions : EndsIn rules EndsType (.call .dimensions) := by
  have hpart : EndsIn rules EndsType
      (seq [.many (.call .annotationUse), symbol .leftBracket, symbol .rightBracket]) :=
    .second (.second (.one fun _ h => Or.inr (Or.inr (kind_of_symbol h))))
  exact .call (.first hpart (.many hpart))

private theorem endsType_simpleType (place : TypePlace) :
    EndsIn rules EndsType (.call (.simpleType place)) := by
  have harguments : MayEndIn rules EndsType (optional (.call .typeArguments)) :=
    .optional endsType_typeArguments
  have hnested : EndsIn rules EndsType (seq [symbol .dot, .many (.call .annotationUse),
      nameExcept (notNested place), optional (.call .typeArguments)]) :=
    .second (.second (.first (endsType_name _) harguments))
  refine .call (.either ?_ ?_)
  · exact .one fun _ h => Or.inl (exists_word_of_wordAmong h)
  · exact .first (endsType_name _) (.both harguments (.many hnested))

/-- Types end with words and closing brackets. -/
theorem endsType_plainType (place : TypePlace) :
    EndsIn rules EndsType (.call (.plainType place)) :=
  .call (.first (endsType_simpleType place) (.optional endsType_dimensions))

/-- The phrases that types are made of. -/
def isTypePhrase : Phrase → Bool
  | .type _ => true
  | .plainType _ => true
  | .simpleType _ => true
  | .typeArguments => true
  | .dimensions => true
  | .typeParameters => true
  | .annotationUse => true
  | _ => false

theorem hides_methodName (name : Phrase) (h : isTypePhrase name = true) :
    (rules name).hides .methodName isTypePhrase = true := by
  cases name with
  | type | plainType | simpleType | typeArguments | dimensions | typeParameters | annotationUse => rfl
  | _ => cases h

/-! ## Methods -/

/-- A method without its label. -/
def methodPart : Syntax :=
  choice [
    seq [.call .typeParameters, .many (.call .annotationUse), .call (.plainType .only), methodTail []],
    seq [.call (.plainType .only), methodTail [.underscore]]]

/-- Nothing but the rule for methods makes a method. -/
theorem partsOf_method (name : Phrase) :
    (rules name).partsOf .method = [] ∨ (rules name).partsOf .method = [methodPart] := by
  cases name with
  | method place =>
    cases place with
    | classBody => exact Or.inr rfl
    | interfaceBody => exact Or.inr rfl
    | annotationBody => exact Or.inl rfl
  | type place | plainType place | simpleType place | modifiers place | expression place
  | prefixed place | infix_ place | statement place | typeDeclaration place | member place =>
    cases place <;> exact Or.inl rfl
  | _ => exact Or.inl rfl

private theorem exists_of_reads_methodTail {ks : List Keyword} {trees : List (Tree Part)}
    (h : Reads rules (methodTail ks) trees) :
    ∃ name rest behind back, trees = .node .methodName [.leaf name] :: rest ∧
      forestTokens rest = behind :: back ∧ (∃ k, name.kind = .word k) ∧
      behind.kind = .symbol .leftParen := by
  obtain ⟨_, more, hlabel, hmore, rfl⟩ := Reads.exists_both h
  obtain ⟨_, hone, rfl⟩ := hlabel.exists_node
  obtain ⟨name, hname, rfl⟩ := hone.exists_one
  obtain ⟨parameters, tail, hparameters, -, rfl⟩ := Reads.exists_both hmore
  obtain ⟨_, inner, hopening, -, rfl⟩ := Reads.exists_both hparameters.of_call
  obtain ⟨behind, hbehind, rfl⟩ := hopening.exists_one
  refine ⟨name, _, behind, forestTokens (inner ++ tail), rfl, ?_, exists_word_of_wordExcept hname,
    kind_of_symbol hbehind⟩
  simp [forestTokens, Tree.tokens]

/-- The name of a method stands between the end of a type and a parenthesis. -/
theorem exists_name_of_reads {children : List (Tree Part)} (h : Reads rules methodPart children) :
    ∃ front before name behind back, forestTokens children = front ++ before :: name :: behind :: back ∧
      EndsType before ∧ (∃ k, name.kind = .word k) ∧ behind.kind = .symbol .leftParen ∧
      children.findSome? (Tree.part? .methodName) = some [.leaf name] := by
  -- in front of the name are a type and, in a generic method, type parameters and annotations
  obtain ⟨r, ks, head, tail, rfl, hhead, hhides, hends, htail⟩ :
      ∃ r ks head tail, children = head ++ tail ∧ Reads rules r head ∧
        r.hides .methodName isTypePhrase = true ∧ EndsIn rules EndsType r ∧
        Reads rules (methodTail ks) tail := by
    rcases Reads.either_cases h with hgeneric | hordinary
    · obtain ⟨parameters, _, hparameters, hmore, rfl⟩ := Reads.exists_both hgeneric
      obtain ⟨annotations, _, hannotations, hmost, rfl⟩ := Reads.exists_both hmore
      obtain ⟨type, tail, htype, htail, rfl⟩ := Reads.exists_both hmost
      exact ⟨_, _, parameters ++ (annotations ++ type), tail, by simp,
        .both hparameters (.both hannotations htype), rfl,
        .second (.second (endsType_plainType .only)), htail⟩
    · obtain ⟨type, tail, htype, htail, rfl⟩ := Reads.exists_both hordinary
      exact ⟨_, _, type, tail, rfl, htype, rfl, endsType_plainType .only, htail⟩
  obtain ⟨front, before, hfront, hbefore⟩ := hends head hhead
  have hhidden := hhead.part?_eq_none hides_methodName hhides
  obtain ⟨name, rest, behind, back, rfl, hrest, hname, hbehind⟩ := exists_of_reads_methodTail htail
  refine ⟨front, before, name, behind, back, ?_, hbefore, hname, hbehind, ?_⟩
  · rw [forestTokens_append, hfront, forestTokens, hrest]
    simp [Tree.tokens]
  · rw [List.findSome?_append, List.findSome?_eq_none_iff.2 hhidden]
    simp [Tree.part?]

end Syntax

/-! ## Sources -/

namespace Source

theorem mem_of_findSome? {label : Part} {trees children : List (Tree Part)}
    (h : trees.findSome? (Tree.part? label) = some children) : .node label children ∈ trees := by
  obtain ⟨t, ht, hpart⟩ := List.exists_of_findSome?_eq_some h
  rw [part?_eq_some_iff] at hpart
  exact hpart ▸ ht

theorem mem_of_mem_filterMap {label : Part} {trees children : List (Tree Part)}
    (h : children ∈ trees.filterMap (Tree.part? label)) : .node label children ∈ trees := by
  obtain ⟨t, ht, hpart⟩ := List.mem_filterMap.1 h
  rw [part?_eq_some_iff] at hpart
  exact hpart ▸ ht

theorem exists_of_method? {text : List Char} {parts : List (Tree Part)} {m : Method}
    (h : method? text parts = some m) :
    ∃ children name, .node .method children ∈ parts ∧
      children.findSome? (Tree.part? .methodName) = some name ∧ wordOf name = (m.name, m.start) := by
  unfold method? at h
  obtain ⟨children, hchildren, h⟩ := Option.bind_eq_some_iff.1 h
  obtain ⟨name, hname, h⟩ := Option.bind_eq_some_iff.1 h
  cases h
  exact ⟨children, name, mem_of_findSome? hchildren, hname, rfl⟩

/-- The methods of an interface are parts of the source. -/
private theorem exists_of_mem_methods {text : List Char} {trees : List (Tree Part)} {i : Interface}
    {m : Method} (hi : (ofTrees text trees).interface? = some i) (hm : m ∈ i.methods) :
    ∃ children name, Within (.node .method children) trees ∧
      children.findSome? (Tree.part? .methodName) = some name ∧ wordOf name = (m.name, m.start) := by
  obtain ⟨parts, hparts, hdeclared⟩ := List.exists_of_findSome?_eq_some hi
  unfold declaredInterface? at hdeclared
  obtain ⟨declared, hinterface, h⟩ := Option.bind_eq_some_iff.1 hdeclared
  obtain ⟨name, -, h⟩ := Option.bind_eq_some_iff.1 h
  cases h
  obtain ⟨member, hmember, hmethod⟩ := List.mem_filterMap.1 hm
  obtain ⟨children, name, hchildren, hname⟩ := exists_of_method? hmethod
  have hmember := mem_of_mem_filterMap hmember
  cases hmembers : declared.findSome? (Tree.part? .members) with
  | none =>
    rw [hmembers] at hmember
    cases hmember
  | some members =>
    rw [hmembers] at hmember
    refine ⟨children, name, ?_, hname⟩
    exact .inside (mem_of_mem_filterMap hparts) (.inside (mem_of_findSome? hinterface)
      (.inside (mem_of_findSome? hmembers) (.inside hmember (.here hchildren))))

/-- In the tokens of a source, the name of a method stands between the end of a type and a
parenthesis. -/
theorem exists_name_of_read {text : List Char} {source : Source} {i : Interface} {m : Method}
    (h : read? text = some source) (hi : source.interface? = some i) (hm : m ∈ i.methods) :
    ∃ front before name behind back, tokens text = some (front ++ before :: name :: behind :: back) ∧
      Syntax.EndsType before ∧ (∃ k, name.kind = .word k) ∧ behind.kind = .symbol .leftParen ∧
      name.chars = m.name ∧ name.start = m.start := by
  obtain ⟨trees, hparse, rfl⟩ := Option.map_eq_some_iff.1 h
  obtain ⟨hts, hreads⟩ := reads_of_parse_eq hparse
  obtain ⟨children, word, hwithin, hword, hof⟩ := exists_of_mem_methods hi hm
  have hchildren := hreads.of_within rfl Syntax.partsOf_method hwithin
  obtain ⟨front, before, name, behind, back, htokens, hbefore, hname, hbehind, hfound⟩ :=
    Syntax.exists_name_of_reads hchildren
  rw [hfound] at hword
  cases hword
  simp only [wordOf, Prod.mk.injEq] at hof
  obtain ⟨front', back', hall⟩ := hwithin.exists_tokens
  rw [Tree.tokens, htokens] at hall
  refine ⟨front' ++ front, before, name, behind, back ++ back', ?_, hbefore, hname, hbehind, hof⟩
  rw [hts, hall]
  simp

end Source

end StatementLens.Java
