import StatementLens.Proofs.Java.Interfaces
import StatementLens.Proofs.Mapper.Anchors

/-!
# The methods of a declared mapper

Whether a document declares a mapper and which mapper it declares are looked up in the same interface,
the first one of the source. The methods of the mapper are in the order of the source, each at a place
of its own, where its name stands (`declared_methods_in_order`).
-/

namespace StatementLens

open Text

theorem Position.lt_irrefl (p : Position) : ¬ p < p := by
  rintro (h | ⟨-, h⟩) <;> omega

namespace JavaMapper

/-- A document declares a mapper if it can be Java and its first interface meets the base interfaces. -/
theorem isDeclaredIn_iff {config : Config} {d : Document} :
    isDeclaredIn config d = true ↔ d.isJava = true ∧
      ∃ i, Java.Source.IsFirstInterface d.text i ∧ i.meets (Java.baseNames config) = true := by
  simp only [← Java.Source.firstInterface_iff, isDeclaredIn, Bool.and_eq_true]
  refine and_congr_right fun _ => ?_
  cases (Java.Source.read? d.text).bind Java.Source.interface? with
  | none => simp
  | some i => simp

/-- The mapper that a document declares, given its first interface. -/
theorem exists_read?_of_firstInterface {d : Document} {i : Java.Interface} (hjava : d.isJava = true)
    (hi : Java.Source.IsFirstInterface d.text i) :
    ∃ mapper, read? d = some mapper ∧ mapper.name = String.ofList i.name ∧
      mapper.methods = (i.methods.filter Java.Method.isMapped).map fun m =>
        ⟨String.ofList m.name, d.source.positionAt m.start⟩ := by
  obtain ⟨source, hread, hinterface⟩ :=
    Option.bind_eq_some_iff.1 (Java.Source.firstInterface_iff.2 hi)
  simp [read?, hjava, hread, hinterface]

/-- Methods of the first interface that follow each other have positions that do. -/
theorem pairwise_position {d : Document} {i : Java.Interface}
    (hi : Java.Source.IsFirstInterface d.text i) :
    i.methods.Pairwise fun a b => d.source.positionAt a.start < d.source.positionAt b.start := by
  obtain ⟨source, hread, hinterface⟩ :=
    Option.bind_eq_some_iff.1 (Java.Source.firstInterface_iff.2 hi)
  refine hi.pairwise_methods.imp_of_mem ?_
  intro a b ha hb hlt
  obtain ⟨pre, post, htext, hpre, -⟩ := Java.Source.exists_around_method hread hinterface ha
  obtain ⟨pre', post', htext', hpre', -⟩ := Java.Source.exists_around_method hread hinterface hb
  rw [hpre, hpre'] at hlt ⊢
  rw [d.source_eq]
  exact positionAt_lt_of_lt htext htext' hlt

/-- The text at the position of a method starts with its name. -/
theorem exists_name_at_position {d : Document} {mapper : JavaMapper} {m : JavaMethod}
    (h : read? d = some mapper) (hm : m ∈ mapper.methods) :
    ∃ front rest, d.text = front ++ (m.name.toList ++ rest) ∧
      d.source.offsetAt m.position = byteLength front := by
  obtain ⟨front, rest, htext, hposition, hword, -⟩ := exists_around_method h hm
  refine ⟨front, rest, htext, ?_⟩
  rw [hposition, d.source_eq, htext]
  exact offsetAt_positionAt (hword.not_behindReturn front rest)

end JavaMapper

/-- If a document declares a mapper, the mapper is read from the interface that has been judged, which is
the first one of the source. The positions of its methods are strictly increasing, so no two methods
share one, and at the position of each method stands its name, which is not empty. -/
theorem declared_methods_in_order (config : Config) (d : Document)
    (h : JavaMapper.isDeclaredIn config d = true) :
    ∃ i mapper, Java.Source.IsFirstInterface d.text i ∧
      (∀ j, Java.Source.IsFirstInterface d.text j → j = i) ∧
      i.meets (Java.baseNames config) = true ∧
      JavaMapper.read? d = some mapper ∧ mapper.name.toList = i.name ∧
      mapper.methods.map (fun m => m.name.toList)
        = (i.methods.filter Java.Method.isMapped).map Java.Method.name ∧
      mapper.methods.Pairwise (fun a b => a.position < b.position) ∧
      (∀ m ∈ mapper.methods, m.name ≠ "" ∧ ∃ front rest, d.text = front ++ (m.name.toList ++ rest) ∧
        d.source.offsetAt m.position = byteLength front) ∧
      (mapper.methods.map JavaMethod.position).Nodup := by
  obtain ⟨hjava, i, hi, hmeets⟩ := JavaMapper.isDeclaredIn_iff.1 h
  obtain ⟨mapper, hread, hname, hmethods⟩ := JavaMapper.exists_read?_of_firstInterface hjava hi
  have hordered : mapper.methods.Pairwise fun a b => a.position < b.position := by
    rw [hmethods, List.pairwise_map]
    exact (JavaMapper.pairwise_position hi).filter _
  refine ⟨i, mapper, hi, ?_, hmeets, hread, ?_, ?_, hordered, ?_, ?_⟩
  · intro j hj
    have hfirst := Java.Source.firstInterface_iff.2 hi
    rw [Java.Source.firstInterface_iff.2 hj] at hfirst
    exact Option.some.inj hfirst
  · rw [hname, String.toList_ofList]
  · rw [hmethods, List.map_map]
    exact List.map_congr_left fun m _ => String.toList_ofList
  · intro m hm
    exact ⟨JavaMapper.name_ne_empty hread hm, JavaMapper.exists_name_at_position hread hm⟩
  · rw [List.Nodup, List.pairwise_map]
    refine hordered.imp ?_
    intro a b hlt heq
    rw [heq] at hlt
    exact Position.lt_irrefl _ hlt

/-- A mapper behind a class with an interface of its own. Of its four methods one has a body and one is a
method of another interface. -/
def nestedMethods : Document :=
  ⟨"M", .ofText (["class A\x7binterface B\x7b\x7d\x7d", "interface M\x7b", "int a();\r\n",
    "default int b()\x7breturn 0;\x7d", "interface N\x7bint c();\x7d", "/*𝒳*/", "<T>int d();\x7d"].flatMap
    String.toList)⟩

theorem declared_methods_in_order_nestedMethods :
    JavaMapper.isDeclaredIn .standard nestedMethods = true ∧
    ∃ mapper, JavaMapper.read? nestedMethods = some mapper ∧
      mapper.methods = [⟨"a", ⟨0, 38⟩⟩, ⟨"d", ⟨1, 60⟩⟩] ∧
      (mapper.methods.map JavaMethod.position).Nodup ∧
      ∃ front rest, nestedMethods.text = front ++ (['d'] ++ rest) ∧
        nestedMethods.source.offsetAt ⟨1, 60⟩ = byteLength front := by
  have hfacts : JavaMapper.isDeclaredIn .standard nestedMethods = true ∧
      JavaMapper.read? nestedMethods
        = some ⟨"M", none, "M", [⟨"a", ⟨0, 38⟩⟩, ⟨"d", ⟨1, 60⟩⟩]⟩ := by decide +kernel
  obtain ⟨hdeclared, hread⟩ := hfacts
  obtain ⟨i, mapper, -, -, -, hmapper, -, -, -, hnames, hnodup⟩ :=
    declared_methods_in_order .standard nestedMethods hdeclared
  obtain rfl := Option.some.inj (hread.symm.trans hmapper)
  exact ⟨hdeclared, _, hread, rfl, hnodup, (hnames ⟨"d", ⟨1, 60⟩⟩ (by simp)).2⟩

end StatementLens
