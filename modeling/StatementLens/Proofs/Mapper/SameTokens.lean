import StatementLens.Lookup
import StatementLens.Proofs.Java.Tidy

/-!
# Mappers of sources with the same tokens

Layout makes no difference to the name of a mapper, to the methods that it declares and, if no base
interfaces are configured, to whether it is one. The package is kept as it is written, so white space and
comments in its name show. Comments in the names of annotations may make a difference to which methods
are looked for in XML, and those among extended types to whether there is a mapper at all
(`mapper_up_to_layout`).
-/

namespace StatementLens

open Java.Source

namespace JavaMapper

theorem isDeclaredIn_eq {d : Document} {trees : List (Java.Tree Java.Part)}
    (h : Java.parse d.text = some trees) (config : Config) :
    isDeclaredIn config d = (d.isJava &&
      ((ofTrees d.text trees).interface?.map (Java.Interface.meets (Java.baseNames config))).getD false) := by
  rw [isDeclaredIn, Java.Source.read?, h, Option.map_some, Option.bind_some]
  cases (ofTrees d.text trees).interface? <;> rfl

theorem read?_eq {d : Document} {trees : List (Java.Tree Java.Part)}
    (h : Java.parse d.text = some trees) :
    read? d = if d.isJava then (ofTrees d.text trees).interface?.map fun i => {
      uri := d.uri
      package := (ofTrees d.text trees).package.map String.ofList
      name := String.ofList i.name
      methods := (i.methods.filter Java.Method.isMapped).map fun m =>
        ⟨String.ofList m.name, d.source.positionAt m.start⟩ } else none := by
  rw [read?, Java.Source.read?, h, Option.map_some, Option.bind_eq_bind, Option.bind_some,
    Option.bind_eq_bind]
  cases (ofTrees d.text trees).interface? <;> rfl

theorem qualifiedName_congr {m m' : JavaMapper} (hpackage : m.package = m'.package)
    (hname : m.name = m'.name) : m.qualifiedName = m'.qualifiedName := by
  rw [qualifiedName, qualifiedName, hpackage, hname]

end JavaMapper

/-- The XML mapper of a Java mapper depends on the place, the package and the name of the Java mapper. -/
theorem Lookup.find_congr {m m' : JavaMapper} (huri : m.uri = m'.uri) (hpackage : m.package = m'.package)
    (hname : m.name = m'.name) (disk : Disk) (config : Config) (workspace : Workspace)
    (source : TextSource) : find disk config workspace source m = find disk config workspace source m' := by
  rw [find, find, huri, JavaMapper.qualifiedName_congr hpackage hname]

/-- If two documents at one place have the same tokens and one of them is well formed, so is the other, and
they have the same interface with the same methods. They are judged alike if no base interfaces are
configured, or if the simple names in both are plain, and then their mappers have the same methods. The
packages of the mappers are the same up to white space if no comments stand in them, and the same if
nothing does, and then the same XML mapper is found for both. -/
theorem mapper_up_to_layout (d d' : Document) (trees : List (Java.Tree Java.Part)) (huri : d.uri = d'.uri)
    (hsame : Java.SameTokens d.text d'.text) (h : Java.parse d.text = some trees) :
    ∃ trees', Java.parse d'.text = some trees' ∧
      (ofTrees d.text trees).interface?.map
          (fun i => (i.name, i.methods.map fun m => (m.name, m.hasBody)))
        = (ofTrees d'.text trees').interface?.map
            (fun i => (i.name, i.methods.map fun m => (m.name, m.hasBody))) ∧
      (∀ config, Java.baseNames config = [] ∨
          (HasPlainAnnotations trees ∧ HasPlainAnnotations trees' ∧
            HasPlainSuperTypes trees ∧ HasPlainSuperTypes trees') →
        JavaMapper.isDeclaredIn config d = JavaMapper.isDeclaredIn config d') ∧
      ((JavaMapper.read? d = none ∧ JavaMapper.read? d' = none) ∨
        ∃ m m', JavaMapper.read? d = some m ∧ JavaMapper.read? d' = some m' ∧ m.name = m'.name ∧
          (HasPlainAnnotations trees → HasPlainAnnotations trees' →
            m.methods.map JavaMethod.name = m'.methods.map JavaMethod.name) ∧
          m.package.isSome = m'.package.isSome ∧
          (HasPlainPackage trees → HasPlainPackage trees' →
            m.package.map (fun name => name.toList.filter fun c => !Java.isBlankChar c)
              = m'.package.map fun name => name.toList.filter fun c => !Java.isBlankChar c) ∧
          (HasSeamlessPackage trees → HasSeamlessPackage trees' →
            m.package = m'.package ∧ m.qualifiedName = m'.qualifiedName ∧
              ∀ disk config workspace source, Lookup.find disk config workspace source m
                = Lookup.find disk config workspace source m')) := by
  obtain ⟨trees', h', htrees⟩ := hsame.exists_sameTrees h
  have hjava : d.isJava = d'.isJava := by
    rw [Document.isJava, Document.isJava, Document.path?, Document.path?, huri]
  refine ⟨trees', h', ?_⟩
  rcases interface?_cases htrees d.text d'.text with ⟨hi, hi'⟩ | ⟨i, i', hi, hi', hboth⟩
  · -- neither has an interface
    refine ⟨by rw [hi, hi'], fun config _ => ?_, .inl ⟨?_, ?_⟩⟩
    · rw [JavaMapper.isDeclaredIn_eq h, JavaMapper.isDeclaredIn_eq h', hi, hi', hjava]
    · rw [JavaMapper.read?_eq h, hi]
      exact ite_self _
    · rw [JavaMapper.read?_eq h', hi']
      exact ite_self _
  refine ⟨by rw [hi, hi', Option.map_some, Option.map_some, hboth.name, hboth.methods],
    fun config hconfig => ?_, ?_⟩
  · have hmeets : i.meets (Java.baseNames config) = i'.meets (Java.baseNames config) := by
      rcases hconfig with hnone | ⟨hannotations, hannotations', hsuper, hsuper'⟩
      · rw [hnone]
        rfl
      · exact hboth.meets (hannotations.plainAnnotations h) (hannotations'.plainAnnotations h')
          (hsuper.plainSuperTypes h) (hsuper'.plainSuperTypes h') _
    rw [JavaMapper.isDeclaredIn_eq h, JavaMapper.isDeclaredIn_eq h', hi, hi', Option.map_some,
      Option.map_some, hmeets, hjava]
  rw [JavaMapper.read?_eq h, JavaMapper.read?_eq h', hi, hi', ← hjava]
  cases hd : d.isJava with
  | false => exact .inl ⟨rfl, rfl⟩
  | true =>
    have hname : String.ofList i.name = String.ofList i'.name := congrArg String.ofList hboth.name
    refine .inr ⟨_, _, rfl, rfl, hname, ?_, ?_, ?_, ?_⟩
    · intro hannotations hannotations'
      have hmapped := congrArg (List.map String.ofList)
        (hboth.mapped (hannotations.plainAnnotations h) (hannotations'.plainAnnotations h'))
      rw [List.map_map, List.map_map] at hmapped ⊢
      exact hmapped
    · rw [Option.isSome_map, Option.isSome_map, isSome_package_eq htrees]
    · intro hplain hplain'
      have hfilter := filter_package_eq htrees h h' hplain hplain'
      rw [Option.map_map, Option.map_map]
      simpa only [Function.comp_def, String.toList_ofList] using hfilter
    · intro hseamless hseamless'
      have hpackage := congrArg (Option.map String.ofList) (package_eq htrees h h' hseamless hseamless')
      exact ⟨hpackage, JavaMapper.qualifiedName_congr hpackage hname,
        Lookup.find_congr huri hpackage hname⟩

/-- A mapper with white space around the dots of its names. -/
def spacedMapper : Document :=
  ⟨"M", .ofText (["package a . b;", "@x . Mapper interface M", " extends c\n. Base <T> ",
    "\x7bint f();\x7d"].flatMap String.toList)⟩

/-- The same tokens without white space, but with a comment behind the annotation. -/
def denseMapper : Document :=
  ⟨"M", .ofText (["package a.b;", "@x.Mapper/*y*/interface M", " extends c.Base<T>",
    "\x7bint f();\x7d"].flatMap String.toList)⟩

/-- A mapper that extends a type whose name has a comment behind it. -/
def commentedMapper : Document :=
  ⟨"M", .ofText (["package a.b;", "interface M extends c.", "Base/**/<T>\x7bint f();\x7d"].flatMap
    String.toList)⟩

/-- The same tokens without the comment. -/
def uncommentedMapper : Document :=
  ⟨"M", .ofText (["package a.b;", "interface M extends c.", "Base<T>\x7bint f();\x7d"].flatMap
    String.toList)⟩

/-- The package keeps the white space inside of it, and all else about the first two is the same. The
comment makes a difference to whether the last two are mappers, but not to which mappers they are. -/
theorem mapper_up_to_layout_commented :
    Java.SameTokens spacedMapper.text denseMapper.text ∧
    (∀ config, JavaMapper.isDeclaredIn config spacedMapper = JavaMapper.isDeclaredIn config denseMapper) ∧
    (∃ m m', JavaMapper.read? spacedMapper = some m ∧ JavaMapper.read? denseMapper = some m' ∧
      m.package = some "a . b" ∧ m'.package = some "a.b" ∧ m.name = m'.name ∧
      m.methods.map JavaMethod.name = m'.methods.map JavaMethod.name) ∧
    Java.SameTokens commentedMapper.text uncommentedMapper.text ∧
    (∃ config, JavaMapper.isDeclaredIn config commentedMapper = false ∧
      JavaMapper.isDeclaredIn config uncommentedMapper = true) ∧
    ∃ m m', JavaMapper.read? commentedMapper = some m ∧ JavaMapper.read? uncommentedMapper = some m' ∧
      m.qualifiedName = m'.qualifiedName := by
  have hspaced : Java.SameTokens spacedMapper.text denseMapper.text ∧
      (Java.parse spacedMapper.text).any (fun trees =>
        decide (HasPlainAnnotations trees ∧ HasPlainSuperTypes trees)) = true ∧
      (Java.parse denseMapper.text).any (fun trees =>
        decide (HasPlainAnnotations trees ∧ HasPlainSuperTypes trees)) = true ∧
      (JavaMapper.read? spacedMapper).map JavaMapper.package = some (some "a . b") ∧
      (JavaMapper.read? denseMapper).map JavaMapper.package = some (some "a.b") := by decide +kernel
  have hcommented : Java.SameTokens commentedMapper.text uncommentedMapper.text ∧
      (Java.parse commentedMapper.text).any (fun trees => decide (HasSeamlessPackage trees)) = true ∧
      (Java.parse uncommentedMapper.text).any (fun trees => decide (HasSeamlessPackage trees)) = true ∧
      (JavaMapper.read? commentedMapper).isSome = true ∧
      JavaMapper.isDeclaredIn ⟨[], ["Base"], [], 0⟩ commentedMapper = false ∧
      JavaMapper.isDeclaredIn ⟨[], ["Base"], [], 0⟩ uncommentedMapper = true := by decide +kernel
  obtain ⟨hsame, hplain, hplain', hpackage, hpackage'⟩ := hspaced
  obtain ⟨trees, hparse, hplain⟩ := (Option.any_eq_true _ _).1 hplain
  obtain ⟨trees', hparse', hplain'⟩ := (Option.any_eq_true _ _).1 hplain'
  obtain ⟨hannotations, hsuper⟩ := of_decide_eq_true hplain
  obtain ⟨hannotations', hsuper'⟩ := of_decide_eq_true hplain'
  obtain ⟨_, hfound, -, hdeclared, hmappers⟩ :=
    mapper_up_to_layout spacedMapper denseMapper trees rfl hsame hparse
  obtain rfl := Option.some.inj (hfound.symm.trans hparse')
  refine ⟨hsame, fun config => hdeclared config (.inr ⟨hannotations, hannotations', hsuper, hsuper'⟩), ?_,
    hcommented.1, ⟨_, hcommented.2.2.2.2⟩, ?_⟩
  · rcases hmappers with ⟨hnone, -⟩ | ⟨m, m', hm, hm', hname, hmethods, -⟩
    · rw [hnone] at hpackage
      cases hpackage
    · rw [hm, Option.map_some, Option.some.injEq] at hpackage
      rw [hm', Option.map_some, Option.some.injEq] at hpackage'
      exact ⟨m, m', hm, hm', hpackage, hpackage', hname, hmethods hannotations hannotations'⟩
  · obtain ⟨hsame, hseamless, hseamless', hsome, -⟩ := hcommented
    obtain ⟨trees, hparse, hseamless⟩ := (Option.any_eq_true _ _).1 hseamless
    obtain ⟨trees', hparse', hseamless'⟩ := (Option.any_eq_true _ _).1 hseamless'
    obtain ⟨_, hfound, -, -, hmappers⟩ :=
      mapper_up_to_layout commentedMapper uncommentedMapper trees rfl hsame hparse
    obtain rfl := Option.some.inj (hfound.symm.trans hparse')
    rcases hmappers with ⟨hnone, -⟩ | ⟨m, m', hm, hm', -, -, -, -, hpackages⟩
    · rw [hnone] at hsome
      cases hsome
    · exact ⟨m, m', hm, hm', (hpackages (of_decide_eq_true hseamless) (of_decide_eq_true hseamless')).2.1⟩

end StatementLens
