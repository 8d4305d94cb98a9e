import Mathlib.Data.List.Forall2
import StatementLens.Proofs.Java.SimpleNames
import StatementLens.Proofs.Mapper.Methods
import StatementLens.Proofs.Mapper.Skeleton

/-!
# Spellings of base interfaces

Of each base interface that is configured only the simple name counts, so qualifiers in front of it and
type arguments behind it make no difference to which documents declare mappers
(`declared_up_to_spelling`).
-/

namespace StatementLens

namespace Java

theorem Interface.meets_iff {bases : List (List Char)} {i : Interface} :
    i.meets bases = true ↔ bases = [] ∨
      (∃ name ∈ i.annotations, simpleName name = mapperAnnotation.toList) ∨
      ∃ type ∈ i.extended, simpleName type ∈ bases := by
  rw [meets, Bool.or_eq_true, Bool.or_eq_true, List.isEmpty_iff, List.any_eq_true, List.any_eq_true,
    or_assoc]
  simp only [decide_eq_true_eq, List.contains_iff_mem]

/-- Names that are each written in one of their spellings. -/
def SpellsAll (names spellings : List String) : Prop :=
  List.Forall₂ (fun name written => Spells name.toList written.toList) names spellings

theorem baseNames_congr {config config' : Config}
    (h : SpellsAll config.baseInterfaces config'.baseInterfaces) : baseNames config' = baseNames config := by
  have hnames : config'.baseInterfaces.map (fun name => simpleName name.toList)
      = config.baseInterfaces.map fun name => simpleName name.toList := by
    rw [← List.forall₂_eq_eq_eq, List.forall₂_map_left_iff, List.forall₂_map_right_iff]
    exact h.flip.imp fun _ _ hspells => hspells.simpleName_eq
  rw [baseNames, baseNames, hnames]

theorem simpleName_of_isIdentifier {name : String} (h : IsIdentifier name) :
    simpleName name.toList = name.toList :=
  simpleName_eq_self_iff.2 (IsWord.isSimple h)

/-- Base interfaces that are identifiers count as they are. -/
theorem baseNames_of_isIdentifier {config : Config}
    (h : ∀ name ∈ config.baseInterfaces, IsIdentifier name) :
    baseNames config = config.baseInterfaces.map String.toList := by
  rw [baseNames, List.map_congr_left fun name hname => simpleName_of_isIdentifier (h name hname),
    List.filter_eq_self]
  intro chars hchars
  obtain ⟨name, hname, rfl⟩ := List.mem_map.1 hchars
  obtain ⟨c, rest, hcons, -⟩ := h name hname
  rw [hcons]
  rfl

end Java

theorem JavaMapper.isDeclaredIn_congr {config config' : Config}
    (h : Java.baseNames config' = Java.baseNames config) (d : Document) :
    isDeclaredIn config' d = isDeclaredIn config d := by
  rw [isDeclaredIn, isDeclaredIn, h]

/-- The simple name of a simple name is itself, and all spellings of an identifier have the identifier as
their simple name. Documents are judged alike whichever way the base interfaces are spelled. If these are
spellings of identifiers, a document declares a mapper if there are none, or its first interface is
annotated as a mapper or extends a type whose simple name is one of the identifiers. -/
theorem declared_up_to_spelling :
    (∀ name, Java.simpleName (Java.simpleName name) = Java.simpleName name) ∧
    (∀ name written : String, IsIdentifier name → Java.Spells name.toList written.toList →
      Java.simpleName written.toList = name.toList) ∧
    ∀ config config' : Config, Java.SpellsAll config.baseInterfaces config'.baseInterfaces →
      (∀ d, JavaMapper.isDeclaredIn config' d = JavaMapper.isDeclaredIn config d) ∧
      ((∀ name ∈ config.baseInterfaces, IsIdentifier name) →
        ∀ d, JavaMapper.isDeclaredIn config' d = true ↔ d.isJava = true ∧
          ∃ i, Java.Source.IsFirstInterface d.text i ∧ (config.baseInterfaces = [] ∨
            (∃ name ∈ i.annotations, Java.simpleName name = Java.mapperAnnotation.toList) ∨
            ∃ type ∈ i.extended, ∃ base ∈ config.baseInterfaces, base.toList = Java.simpleName type)) := by
  refine ⟨Java.simpleName_simpleName, ?_, ?_⟩
  · intro name written hname hspells
    rw [hspells.simpleName_eq, Java.simpleName_of_isIdentifier hname]
  · intro config config' hspells
    have hbases := Java.baseNames_congr hspells
    refine ⟨JavaMapper.isDeclaredIn_congr hbases, ?_⟩
    intro hnames d
    simp only [JavaMapper.isDeclaredIn_iff, Java.Interface.meets_iff, hbases,
      Java.baseNames_of_isIdentifier hnames, List.map_eq_nil_iff, List.mem_map]

/-- A mapper that extends a base interface with type arguments. -/
def extendingMapper : Document :=
  ⟨"M", .ofText (["interface M extends", " x.Base<T> ", "\x7bint f();\x7d"].flatMap String.toList)⟩

/-- An interface that extends another type. -/
def comparableMapper : Document :=
  ⟨"M", .ofText (["interface M extends", " Comparable<Base> ", "\x7bint f();\x7d"].flatMap String.toList)⟩

/-- A base interface by its simple name. -/
def plainBase : Config := ⟨[], ["Base"], [], 0⟩

/-- The same base interface with qualifiers and type arguments. -/
def qualifiedBase : Config := ⟨[], ["a . b.Base <c.D<e.F>, G>"], [], 0⟩

/-- The dots and brackets among the type arguments make no difference. -/
theorem declared_up_to_spelling_base :
    (∀ name ∈ plainBase.baseInterfaces, IsIdentifier name) ∧
    Java.SpellsAll plainBase.baseInterfaces qualifiedBase.baseInterfaces ∧
    Java.simpleName "a . b.Base <c.D<e.F>, G>".toList = "Base".toList ∧
    JavaMapper.isDeclaredIn qualifiedBase extendingMapper = true ∧
    JavaMapper.isDeclaredIn plainBase extendingMapper = true ∧
    (∃ i, Java.Source.IsFirstInterface extendingMapper.text i) ∧
    JavaMapper.isDeclaredIn qualifiedBase comparableMapper = false := by
  obtain ⟨-, hsimple, hconfigs⟩ := declared_up_to_spelling
  have hname : IsIdentifier "Base" := by decide
  have hnames : ∀ name ∈ plainBase.baseInterfaces, IsIdentifier name := List.forall_mem_singleton.2 hname
  have hblank : ∀ c ∈ [' '], Text.isBlank c = true := by simp [Text.isBlank]
  have htyped : Java.Spells "Base".toList ("Base".toList ++ ([' '] ++ '<' :: "c.D<e.F>, G>".toList)) :=
    .typed hblank _
  have hspells : Java.Spells "Base".toList "a . b.Base <c.D<e.F>, G>".toList :=
    @Java.Spells.qualified _ "a".toList [' '] [' '] _ (by simp) hblank hblank
      (@Java.Spells.qualified _ "b".toList [] [] _ (by simp) (by simp) (by simp) htyped)
  have hall : Java.SpellsAll plainBase.baseInterfaces qualifiedBase.baseInterfaces := .cons hspells .nil
  obtain ⟨hsame, hcontract⟩ := hconfigs plainBase qualifiedBase hall
  have hplain : JavaMapper.isDeclaredIn plainBase extendingMapper = true ∧
      JavaMapper.isDeclaredIn plainBase comparableMapper = false := by decide +kernel
  have hextending := (hsame extendingMapper).trans hplain.1
  obtain ⟨-, i, hi, -⟩ := (hcontract hnames extendingMapper).1 hextending
  exact ⟨hnames, hall, hsimple _ _ hname hspells, hextending, hplain.1, ⟨i, hi⟩,
    (hsame comparableMapper).trans hplain.2⟩

end StatementLens
