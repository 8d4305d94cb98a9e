import StatementLens.Command.Lens
import StatementLens.Proofs.Correlate
import StatementLens.Proofs.Java.Layout
import StatementLens.Proofs.Java.Methods
import StatementLens.Proofs.Words

/-!
# Anchors of lenses

A lens stands on the word that is found at the place of its method. The words of Java and the words of
documents have different characters: what a lens stands on is the longest beginning of the name that
has only characters of the latter. So a name of letters, digits, underscores and dollar signs is its
own anchor, any other name is cut short, and a name that begins with another character gets no lens.
-/

namespace StatementLens

open Text

/-! ## Names in the text -/

namespace Java

theorem isWordChar_of_isEdge {c : Char} (h : isEdge c = true) : isWordChar c = false := by
  simp only [isEdge, isBlankChar, Bool.or_eq_true, decide_eq_true_eq] at h
  rcases h with ((((((rfl | rfl) | rfl) | rfl) | hc) | hc) | rfl)
  · decide
  · decide
  · decide
  · decide
  · rw [← Char.ofNat_toNat c, hc]
    decide
  · rw [← Char.ofNat_toNat c, hc]
    decide
  · decide

private theorem all_spellings :
    (Symbol.spellings.all fun p => !p.1.isEmpty && p.1.all fun c => !isWordChar c) = true := by
  decide

/-- Symbols have no characters of words. -/
theorem isWordChar_of_mem_spellings {chars : List Char} {s : Symbol}
    (h : (chars, s) ∈ Symbol.spellings) : chars ≠ [] ∧ ∀ c ∈ chars, isWordChar c = false := by
  simpa using List.all_eq_true.1 all_spellings (chars, s) h

/-- No word reaches up to a word that follows a type: two words have a gap between them. -/
theorem stopsAt_of_endsType {before : Token} {gap word after : List Char}
    (hbefore : Syntax.EndsType before)
    (hspelled : IsSpelled before.kind before.chars (gap ++ (word ++ after))) (hword : IsWord word)
    (hlast : ∀ c, gap.getLast? = some c → isEdge c = true) (front : List Char) :
    StopsAt isWordChar (front ++ (before.chars ++ gap)).reverse := by
  rcases List.eq_nil_or_concat gap with rfl | ⟨gap, c, rfl⟩
  · have hsymbol : ∀ {s}, (before.chars, s) ∈ Symbol.spellings →
        StopsAt isWordChar (front ++ (before.chars ++ [])).reverse := by
      intro s hs
      obtain ⟨hne, hchars⟩ := isWordChar_of_mem_spellings hs
      rw [List.append_nil, List.reverse_append]
      exact stopsAt_append_of_all (by simpa using hne) (by simpa using hchars) _
    obtain ⟨c, rest, rfl, hstart, -⟩ := hword
    rcases hbefore with ⟨k, hkind⟩ | hkind | hkind
    -- a word would have taken what begins another one
    · rw [hkind] at hspelled
      have hstops := stopsAt_cons.1 hspelled.2
      rw [isWordPart_of_isWordStart hstart] at hstops
      cases hstops
    · rw [hkind] at hspelled
      exact hsymbol hspelled
    · rw [hkind] at hspelled
      exact hsymbol hspelled
  · have hc := isWordChar_of_isEdge (hlast c (by simp))
    simpa using hc

/-- The name of a method stands in the text, and no characters of words stand next to it. -/
theorem exists_around_name {text : List Char} {front back : List Token} {before name behind : Token}
    (h : tokens text = some (front ++ before :: name :: behind :: back))
    (hbefore : Syntax.EndsType before) (hname : ∃ k, name.kind = .word k)
    (hbehind : behind.kind = .symbol .leftParen) :
    ∃ pre post, text = pre ++ (name.chars ++ post) ∧ name.start = byteLength pre ∧
      IsWord name.chars ∧ StopsAt isWordChar pre.reverse ∧ StopsAt isWordChar post := by
  obtain ⟨mark, rest, rfl, hall⟩ := exists_laid_of_tokens h
  obtain ⟨prior, rest, rfl, hlaid⟩ := hall.of_append
  obtain ⟨gap₁, after₁, rfl, -, -, hstart₁, hspelled₁, hrest₁⟩ := hlaid.exists_of_cons
  obtain ⟨gap₂, after₂, rfl, -, hlast₂, hstart₂, hspelled₂, hrest₂⟩ := hrest₁.exists_of_cons
  obtain ⟨gap₃, after₃, rfl, hhead₃, -, -, hspelled₃, -⟩ := hrest₂.exists_of_cons
  obtain ⟨k, hkind⟩ := hname
  rw [hkind] at hspelled₂
  refine ⟨mark ++ (prior ++ gap₁) ++ (before.chars ++ gap₂), gap₃ ++ (behind.chars ++ after₃), by simp, ?_,
    hspelled₂.1, stopsAt_of_endsType hbefore hspelled₁ hspelled₂.1 hlast₂ _, ?_⟩
  · rw [hstart₂, hstart₁]
    simp only [byteLength_append]
    omega
  · cases gap₃ with
    | nil =>
      rw [hbehind] at hspelled₃
      obtain ⟨hne, hchars⟩ := isWordChar_of_mem_spellings hspelled₃
      exact stopsAt_append_of_all hne hchars after₃
    | cons c gap₃ => exact stopsAt_cons.2 (isWordChar_of_isEdge (hhead₃ c rfl))

/-- The methods of an interface stand at their names, which have no characters of words next to them. -/
theorem Source.exists_around_method {text : List Char} {source : Source} {i : Interface} {m : Method}
    (h : read? text = some source) (hi : source.interface? = some i) (hm : m ∈ i.methods) :
    ∃ pre post, text = pre ++ (m.name ++ post) ∧ m.start = byteLength pre ∧ IsWord m.name ∧
      StopsAt isWordChar pre.reverse ∧ StopsAt isWordChar post := by
  obtain ⟨front, before, name, behind, back, htokens, hbefore, hname, hbehind, hchars, hstart⟩ :=
    exists_name_of_read h hi hm
  rw [← hchars, ← hstart]
  exact exists_around_name htokens hbefore hname hbehind

/-- A word is not what follows a carriage return that its line leaves out. -/
theorem IsWord.not_behindReturn {word : List Char} (h : IsWord word) (pre post : List Char) :
    ¬ BehindReturn pre (word ++ post) := by
  obtain ⟨c, rest, rfl, hc, -⟩ := h
  rintro ⟨-, hnil | ⟨p, hline⟩⟩
  · cases hnil
  · cases hline
    revert hc
    decide

end Java

/-! ## Anchors -/

theorem Document.source_eq (d : Document) : d.source = .ofText d.text :=
  d.source.eq_ofText

/-- The methods of a mapper stand at their names, which have no characters of words next to them. -/
theorem JavaMapper.exists_around_method {d : Document} {mapper : JavaMapper} {m : JavaMethod}
    (h : read? d = some mapper) (hm : m ∈ mapper.methods) :
    ∃ pre post, d.text = pre ++ (m.name.toList ++ post) ∧
      m.position = d.source.positionAt (byteLength pre) ∧ Java.IsWord m.name.toList ∧
      StopsAt isWordChar pre.reverse ∧ StopsAt isWordChar post := by
  unfold read? at h
  split at h
  · obtain ⟨source, hsource, h⟩ := Option.bind_eq_some_iff.1 h
    obtain ⟨i, hi, h⟩ := Option.bind_eq_some_iff.1 h
    cases h
    obtain ⟨method, hmethod, rfl⟩ := List.mem_map.1 hm
    obtain ⟨pre, post, htext, hpre, hword, hstops⟩ :=
      Java.Source.exists_around_method hsource hi (List.mem_filter.1 hmethod).1
    refine ⟨pre, post, ?_, ?_, ?_, hstops⟩
    · rw [String.toList_ofList, htext]
    · rw [← hpre]
    · rw [String.toList_ofList]
      exact hword
  · cases h

private theorem textIn_rangeOf {d : Document} {pre word rest : List Char}
    (htext : d.text = pre ++ (word ++ rest)) (hstart : ¬ BehindReturn pre (word ++ rest))
    (hstop : ¬ BehindReturn (pre ++ word) rest) :
    Command.textIn d (d.source.rangeOf (byteLength pre) (byteLength pre + byteLength word))
      = String.ofList word := by
  have hoffset₁ := offsetAt_positionAt hstart
  have hoffset₂ := offsetAt_positionAt hstop
  rw [List.append_assoc, byteLength_append] at hoffset₂
  unfold Command.textIn IndexedText.rangeOf
  rw [d.source_eq, htext]
  simp only [hoffset₁, hoffset₂, slice_append]

/-- What a lens of a method stands on: the longest beginning of its name that has only characters of
words. -/
def JavaMethod.anchor (m : JavaMethod) : String := String.ofList (m.name.toList.takeWhile isWordChar)

theorem JavaMethod.anchor_eq_name_iff (m : JavaMethod) :
    m.anchor = m.name ↔ m.name.toList.all isWordChar = true := by
  unfold anchor
  rw [← String.toList_inj, String.toList_ofList, List.takeWhile_eq_self_iff, List.all_eq_true]

theorem JavaMethod.anchor_eq_empty_iff (m : JavaMethod) :
    m.anchor = "" ↔ m.name.toList.takeWhile isWordChar = [] := by
  unfold anchor
  rw [← String.toList_inj, String.toList_ofList]
  rfl

/-- The word at a method is its anchor. -/
theorem JavaMapper.wordAt_method {d : Document} {mapper : JavaMapper} {m : JavaMethod}
    (h : read? d = some mapper) (hm : m ∈ mapper.methods) :
    (m.anchor = "" → d.source.wordAt m.position = none) ∧
      (m.anchor ≠ "" → ∃ range, d.source.wordAt m.position = some range ∧
        range.start = m.position ∧ Command.textIn d range = m.anchor) := by
  obtain ⟨pre, post, htext, hposition, hword, hpre, hpost⟩ := exists_around_method h hm
  have hstart : ¬ BehindReturn pre (m.name.toList ++ post) := hword.not_behindReturn pre post
  have hwordAt := wordAt_positionAt hpre hstart
  rw [← htext, ← d.source_eq, ← hposition, takeWhile_append_of_stopsAt hpost] at hwordAt
  rw [hwordAt]
  constructor
  · intro hempty
    rw [if_pos (m.anchor_eq_empty_iff.1 hempty)]
  · intro hne
    rw [ne_eq, m.anchor_eq_empty_iff] at hne
    refine ⟨_, if_neg hne, hposition.symm, ?_⟩
    have hsplit : m.name.toList ++ post
        = m.name.toList.takeWhile isWordChar ++ (m.name.toList.dropWhile isWordChar ++ post) := by
      rw [← List.append_assoc, List.takeWhile_append_dropWhile]
    rw [hsplit] at htext hstart
    refine textIn_rangeOf htext hstart ?_
    -- a carriage return is no character of words
    rintro ⟨hlast, -⟩
    rw [List.getLast?_append_of_ne_nil _ hne] at hlast
    have hchar := List.mem_takeWhile_imp (List.mem_of_mem_getLast? hlast)
    revert hchar
    decide

theorem JavaMapper.name_ne_empty {d : Document} {mapper : JavaMapper} {m : JavaMethod}
    (h : read? d = some mapper) (hm : m ∈ mapper.methods) : m.name ≠ "" := by
  obtain ⟨-, -, -, -, ⟨c, rest, hword, -⟩, -⟩ := exists_around_method h hm
  intro hempty
  rw [hempty] at hword
  cases hword

/-! ## Lenses -/

/-- The texts that the lenses of methods stand on are their anchors. -/
theorem JavaMapper.textIn_lenses {d : Document} {mapper : JavaMapper} (h : read? d = some mapper)
    (xml : XmlMapper) {methods : List JavaMethod} (hmethods : ∀ m ∈ methods, m ∈ mapper.methods) :
    (methods.filterMap (Correlate.lens? d xml)).map (fun lens => Command.textIn d lens.range)
      = (methods.map JavaMethod.anchor).filter (· ≠ "") := by
  induction methods with
  | nil => rfl
  | cons m methods ih =>
    have ih := ih fun m' hm' => hmethods m' (List.mem_cons_of_mem m hm')
    obtain ⟨hnone, hsome⟩ := wordAt_method h (hmethods m (by simp))
    by_cases hempty : m.anchor = ""
    · have hlens : Correlate.lens? d xml m = none := by
        unfold Correlate.lens?
        rw [hnone hempty]
        rfl
      rw [List.filterMap_cons_none hlens, ih, List.map_cons, List.filter_cons_of_neg (by simp [hempty])]
    · obtain ⟨range, hrange, -, htext⟩ := hsome hempty
      have hlens : Correlate.lens? d xml m = some ⟨range, xml.actionFor m⟩ := by
        unfold Correlate.lens?
        rw [hrange]
        rfl
      rw [List.filterMap_cons_some hlens, List.map_cons, ih, htext, List.map_cons,
        List.filter_cons_of_pos (by simp [hempty])]

/-- Every method of a mapper is anchored on the longest beginning of its name that has only letters,
digits, underscores and dollar signs: the word at its position starts there and is this beginning, and
there is none if it is empty. The lenses of the methods are those with such a word, in their order, and
show it. So if all names have only these characters, no method is left out and each lens shows the name
of its method. -/
theorem methods_anchored_on_words {d : Document} {mapper : JavaMapper}
    (h : JavaMapper.read? d = some mapper) :
    (∀ m ∈ mapper.methods,
      (m.anchor = "" → d.source.wordAt m.position = none) ∧
      (m.anchor ≠ "" → ∃ range, d.source.wordAt m.position = some range ∧
        range.start = m.position ∧ Command.textIn d range = m.anchor) ∧
      (m.anchor = m.name ↔ m.name.toList.all isWordChar = true)) ∧
    ∀ (disk : Disk) (config : Config) (workspace : Workspace) (source : TextSource) (xml : XmlMapper)
      (events : List Event),
      ∃ lenses, ((Correlate.lensesOf (Correlate.services disk config workspace source) d xml
          mapper.methods).run.run events).1 = .ok lenses ∧
        lenses.map (fun lens => Command.textIn d lens.range)
            = (mapper.methods.map JavaMethod.anchor).filter (· ≠ "") ∧
        ((∀ m ∈ mapper.methods, m.name.toList.all isWordChar = true) →
          lenses.map (fun lens => Command.textIn d lens.range)
            = mapper.methods.map JavaMethod.name) := by
  refine ⟨?_, ?_⟩
  · intro m hm
    obtain ⟨hnone, hsome⟩ := JavaMapper.wordAt_method h hm
    exact ⟨hnone, hsome, m.anchor_eq_name_iff⟩
  · intro disk config workspace source xml events
    have hvalue := (Correlate.fit_answers disk config workspace source).lensesOf d xml mapper.methods events
    have htexts := JavaMapper.textIn_lenses h xml fun m hm => hm
    refine ⟨_, hvalue, htexts, ?_⟩
    intro hplain
    rw [htexts]
    have hnames : mapper.methods.map JavaMethod.anchor = mapper.methods.map JavaMethod.name :=
      List.map_congr_left fun m hm => m.anchor_eq_name_iff.2 (hplain m hm)
    rw [hnames, List.filter_eq_self]
    intro name hname
    obtain ⟨m, hm, rfl⟩ := List.mem_map.1 hname
    simpa using JavaMapper.name_ne_empty h hm

/-- A mapper whose methods follow brackets, comments and wide characters. -/
def mixedNames : Document :=
  .ofText "M" "interface M\x7b/*𝒳*/<T> List<T>f$1();\r\nint[]über();int a·b();int ℘x();\x7d"

/-- What is read of it. -/
def mixedNamesMapper : JavaMapper :=
  ⟨"M", none, "M", [⟨"f$1", ⟨0, 29⟩⟩, ⟨"über", ⟨1, 5⟩⟩, ⟨"a·b", ⟨1, 16⟩⟩, ⟨"℘x", ⟨1, 26⟩⟩]⟩

theorem methods_anchored_on_words_mixedNames :
    JavaMapper.read? mixedNames = some mixedNamesMapper ∧
    (∃ range, mixedNames.source.wordAt ⟨0, 29⟩ = some range ∧ range.start = ⟨0, 29⟩ ∧
      Command.textIn mixedNames range = "f$1") ∧
    (∃ range, mixedNames.source.wordAt ⟨1, 16⟩ = some range ∧ range.start = ⟨1, 16⟩ ∧
      Command.textIn mixedNames range = "a") ∧
    mixedNames.source.wordAt ⟨1, 26⟩ = none := by
  have hread : JavaMapper.read? mixedNames = some mixedNamesMapper := by decide +kernel
  have hall := (methods_anchored_on_words hread).1
  refine ⟨hread, ?_, ?_, ?_⟩
  · exact (hall ⟨"f$1", ⟨0, 29⟩⟩ (by decide)).2.1 (by decide)
  -- beyond ASCII the kernel looks characters up
  · have hanchor : JavaMethod.anchor ⟨"a·b", ⟨1, 16⟩⟩ = "a" := by decide +kernel
    obtain ⟨range, hword, hstart, htext⟩ :=
      (hall ⟨"a·b", ⟨1, 16⟩⟩ (by decide)).2.1 (by rw [hanchor]; decide)
    exact ⟨range, hword, hstart, htext.trans hanchor⟩
  · exact (hall ⟨"℘x", ⟨1, 26⟩⟩ (by decide)).1 (by decide +kernel)

/-- A mapper with a name that is cut short and one that is left out. -/
def foreignNames : Document :=
  .ofText "M" "package p; interface M \x7b int a·b(); int ok(); int ℘x(); \x7d"

/-- The words at methods need not be their names, and there may be none. -/
theorem names_cut_short :
    JavaMapper.isDeclaredIn .standard foreignNames = true ∧
    ∃ mapper, JavaMapper.read? foreignNames = some mapper ∧
      mapper.methods.map JavaMethod.name = ["a·b", "ok", "℘x"] ∧
      mapper.methods.map (fun m =>
          (foreignNames.source.wordAt m.position).map (Command.textIn foreignNames))
        = [some "a", some "ok", none] := by
  have hread : JavaMapper.read? foreignNames = some ⟨"M", some "p", "M",
      [⟨"a·b", ⟨0, 29⟩⟩, ⟨"ok", ⟨0, 40⟩⟩, ⟨"℘x", ⟨0, 50⟩⟩]⟩ := by decide +kernel
  exact ⟨by decide +kernel, _, hread, rfl, by decide +kernel⟩

end StatementLens
