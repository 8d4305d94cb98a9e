import Mathlib.Data.List.Basic
import StatementLens.Java.Source
import StatementLens.Proofs.Java.Layout
import StatementLens.Proofs.Url.Percent

/-!
# Simple names

The simple name of a text is what stands behind the last dot in front of the first angle bracket, without
blank space around it. White space beside a dot or in front of an angle bracket makes no difference to it
(`simpleName_gap`). Names without dots, angle brackets and blank space at their ends are their own simple
names, and no others are (`simpleName_eq_self_iff`). All spellings of a name that put qualifiers in front
of it or type arguments behind it have the same simple name (`Spells.simpleName_eq`).
-/

namespace StatementLens.Java

open Text

variable {a b gap x y : List Char}

/-! ## Blank space at the ends -/

/-- Blank space in front is left out. -/
theorem trim_blank_append (h : ∀ c ∈ gap, isBlank c = true) (b : List Char) :
    trim (gap ++ b) = trim b := by
  rw [trim, trim, List.dropWhile_append_of_pos h]

/-- So is blank space at the end. -/
theorem trim_append_blank (h : ∀ c ∈ gap, isBlank c = true) (a : List Char) :
    trim (a ++ gap) = trim a := by
  have hreverse : ∀ c ∈ gap.reverse, isBlank c = true := by simpa using h
  rw [trim, trim, List.dropWhile_append]
  split
  · next hempty =>
    rw [List.isEmpty_iff.1 hempty, List.dropWhile_eq_nil_iff.2 h]
  · rw [trimEnd, trimEnd, List.reverse_append, List.dropWhile_append_of_pos hreverse]

/-- A text is what is left of it and the blank space at its end. -/
theorem eq_trimEnd_append (cs : List Char) :
    cs = trimEnd cs ++ (cs.reverse.takeWhile isBlank).reverse := by
  rw [trimEnd, ← List.reverse_append, List.takeWhile_append_dropWhile, List.reverse_reverse]

/-- A text is its trimmed form in blank space. -/
theorem exists_blank_trim (cs : List Char) :
    ∃ before after, cs = before ++ (trim cs ++ after) ∧ (∀ c ∈ before, isBlank c = true) ∧
      ∀ c ∈ after, isBlank c = true := by
  refine ⟨cs.takeWhile isBlank, ((cs.dropWhile isBlank).reverse.takeWhile isBlank).reverse, ?_, ?_, ?_⟩
  · rw [trim, ← eq_trimEnd_append, List.takeWhile_append_dropWhile]
  · intro c hc
    exact List.mem_takeWhile_imp hc
  · intro c hc
    exact List.mem_takeWhile_imp (List.mem_reverse.1 hc)

theorem trim_subset (cs : List Char) : trim cs ⊆ cs := by
  obtain ⟨before, after, hsplit, -, -⟩ := exists_blank_trim cs
  intro c hc
  rw [hsplit]
  exact List.mem_append_right before (List.mem_append_left after hc)

/-- What is left begins and ends with no blank. -/
theorem stopsAt_trim (cs : List Char) :
    StopsAt isBlank (trim cs) ∧ StopsAt isBlank (trim cs).reverse := by
  have hstart := stopsAt_dropWhile isBlank cs
  rw [eq_trimEnd_append (cs.dropWhile isBlank)] at hstart
  refine ⟨hstart.of_left, ?_⟩
  rw [trim, trimEnd, List.reverse_reverse]
  exact stopsAt_dropWhile isBlank _

/-- A text that begins and ends with no blank stays as it is. -/
theorem trim_eq_self (hstart : StopsAt isBlank a) (hend : StopsAt isBlank a.reverse) : trim a = a := by
  rw [trim, trimEnd, hstart.dropWhile_eq_self, hend.dropWhile_eq_self, List.reverse_reverse]

/-! ## Dots and angle brackets -/

/-- The last part of a name with dots, without blank space around it. -/
def lastName (cs : List Char) : List Char := trim ((splitOn (· = '.') cs).getLastD [])

/-- Without a dot, the whole text is the last name. -/
theorem lastName_of_notMem (h : '.' ∉ a) : lastName a = trim a := by
  rw [lastName, splitOn_eq_splitOn, List.splitOn_eq_singleton h]
  rfl

/-- What is in front of a dot does not matter for the last name. -/
theorem lastName_append_dot (a b : List Char) : lastName (a ++ '.' :: b) = lastName b := by
  have hne := List.splitOn_ne_nil '.' b
  rw [lastName, lastName, splitOn_eq_splitOn, splitOn_eq_splitOn, List.splitOn_append_cons_self,
    List.getLastD_eq_getLast?, List.getLastD_eq_getLast?, List.getLast?_append_of_ne_nil _ hne]

private theorem dot_notMem (h : ∀ c ∈ gap, isBlank c = true) : '.' ∉ gap := by
  intro hdot
  cases h _ hdot

/-- Nor does blank space in front of a name. -/
theorem lastName_blank_append (h : ∀ c ∈ gap, isBlank c = true) (b : List Char) :
    lastName (gap ++ b) = lastName b := by
  by_cases hdot : '.' ∈ b
  · obtain ⟨front, back, rfl⟩ := List.append_of_mem hdot
    rw [← List.append_assoc, lastName_append_dot, lastName_append_dot]
  · rw [lastName_of_notMem hdot, lastName_of_notMem (by simp [dot_notMem h, hdot]), trim_blank_append h]

/-- What stands behind the last dot of a text, or all of it if there is none. -/
theorem exists_behindDots (cs : List Char) :
    ∃ last, '.' ∉ last ∧ (cs = last ∨ ∃ front, cs = front ++ '.' :: last) := by
  by_cases hdot : '.' ∈ cs
  · obtain ⟨back, front, hsplit, hback⟩ := List.eq_append_cons_of_mem (List.mem_reverse.2 hdot)
    refine ⟨back.reverse, by simpa using hback, .inr ⟨front.reverse, ?_⟩⟩
    rw [← List.reverse_reverse cs, hsplit]
    simp
  · exact ⟨cs, hdot, .inl rfl⟩

/-- Nor does blank space behind it. -/
theorem lastName_append_blank (h : ∀ c ∈ gap, isBlank c = true) (a : List Char) :
    lastName (a ++ gap) = lastName a := by
  obtain ⟨last, hlast, rfl | ⟨front, rfl⟩⟩ := exists_behindDots a
  · rw [lastName_of_notMem hlast, lastName_of_notMem (by simp [dot_notMem h, hlast]),
      trim_append_blank h]
  · rw [List.append_assoc, List.cons_append, lastName_append_dot, lastName_append_dot,
      lastName_of_notMem (by simp [dot_notMem h, hlast]), lastName_of_notMem hlast, trim_append_blank h]

/-- The last name stands behind the last dot. -/
theorem exists_lastName (cs : List Char) :
    ∃ last, last <:+ cs ∧ '.' ∉ last ∧ lastName cs = trim last := by
  obtain ⟨last, hlast, rfl | ⟨front, rfl⟩⟩ := exists_behindDots cs
  · exact ⟨cs, List.suffix_rfl, hlast, lastName_of_notMem hlast⟩
  · refine ⟨last, (List.suffix_cons '.' last).trans (List.suffix_append front _), hlast, ?_⟩
    rw [lastName_append_dot, lastName_of_notMem hlast]

/-- A simple name is the last name in front of the arguments of a type. -/
theorem simpleName_eq_lastName (name : List Char) :
    simpleName name = lastName (name.takeWhile (· ≠ '<')) := by
  obtain ⟨before, after, hsplit, hbefore, hafter⟩ := exists_blank_trim (name.takeWhile (· ≠ '<'))
  calc simpleName name = lastName (trim (name.takeWhile (· ≠ '<'))) := rfl
    _ = lastName (before ++ (trim (name.takeWhile (· ≠ '<')) ++ after)) := by
      rw [lastName_blank_append hbefore, lastName_append_blank hafter]
    _ = lastName (name.takeWhile (· ≠ '<')) := by rw [← hsplit]

private theorem forall_ne_of_notMem (h : '<' ∉ x) : ∀ c ∈ x, decide (c ≠ '<') = true := by
  intro c hc
  rw [decide_eq_true_eq]
  rintro rfl
  exact h hc

/-- Arguments do not matter for the simple name. -/
theorem simpleName_append_bracket (a b : List Char) : simpleName (a ++ '<' :: b) = simpleName a := by
  rw [simpleName_eq_lastName, simpleName_eq_lastName, takeWhile_append_of_stopsAt (by simp)]

/-- What stands behind an angle bracket is no part of the simple name. -/
theorem simpleName_append_of_mem (h : '<' ∈ x) (y : List Char) : simpleName (x ++ y) = simpleName x := by
  obtain ⟨front, back, rfl⟩ := List.append_of_mem h
  rw [List.append_assoc, List.cons_append, simpleName_append_bracket, simpleName_append_bracket]

/-- Nor does a qualifier without arguments. -/
theorem simpleName_append_dot (h : '<' ∉ a) (b : List Char) :
    simpleName (a ++ '.' :: b) = simpleName b := by
  rw [simpleName_eq_lastName, simpleName_eq_lastName, List.takeWhile_append_of_pos (forall_ne_of_notMem h),
    List.takeWhile_cons_of_pos (by decide), lastName_append_dot]

/-- White space beside a dot or in front of an angle bracket is no part of the simple name. -/
theorem simpleName_gap (hgap : ∀ c ∈ gap, isBlank c = true)
    (h : x.getLast? = some '.' ∨ y.head? = some '.' ∨ y.head? = some '<') :
    simpleName (x ++ (gap ++ y)) = simpleName (x ++ y) := by
  by_cases hbracket : '<' ∈ x
  · rw [simpleName_append_of_mem hbracket, simpleName_append_of_mem hbracket]
  have hgapBracket : '<' ∉ gap := by
    intro hmem
    cases hgap _ hmem
  rw [simpleName_eq_lastName, simpleName_eq_lastName,
    List.takeWhile_append_of_pos (forall_ne_of_notMem hbracket),
    List.takeWhile_append_of_pos (forall_ne_of_notMem hgapBracket),
    List.takeWhile_append_of_pos (forall_ne_of_notMem hbracket)]
  rcases h with hlast | hhead | hhead
  · obtain ⟨front, rfl⟩ := List.getLast?_eq_some_iff.1 hlast
    rw [List.append_assoc, List.append_assoc, List.singleton_append, List.singleton_append,
      lastName_append_dot, lastName_append_dot, lastName_blank_append hgap]
  · obtain ⟨rest, rfl⟩ := List.head?_eq_some_iff.1 hhead
    rw [List.takeWhile_cons_of_pos (by decide), ← List.append_assoc, lastName_append_dot,
      lastName_append_dot]
  · obtain ⟨rest, rfl⟩ := List.head?_eq_some_iff.1 hhead
    rw [List.takeWhile_cons_of_neg (by decide), List.append_nil, List.append_nil,
      lastName_append_blank hgap]

/-! ## Names that are simple -/

/-- Whether a name has no dots, no angle brackets and no blank space at its ends. -/
structure IsSimple (name : List Char) : Prop where
  dot_notMem : '.' ∉ name
  bracket_notMem : '<' ∉ name
  stopsAt_start : StopsAt isBlank name
  stopsAt_end : StopsAt isBlank name.reverse

/-- A simple name is simple. -/
theorem isSimple_simpleName (name : List Char) : IsSimple (simpleName name) := by
  obtain ⟨last, hsuffix, hdot, hlast⟩ := exists_lastName (name.takeWhile (· ≠ '<'))
  rw [simpleName_eq_lastName, hlast]
  refine ⟨fun hmem => hdot (trim_subset last hmem), ?_, (stopsAt_trim last).1, (stopsAt_trim last).2⟩
  intro hmem
  have hne := List.mem_takeWhile_imp (hsuffix.subset (trim_subset last hmem))
  simp at hne

/-- Only a simple name is its own simple name. -/
theorem simpleName_eq_self_iff : simpleName a = a ↔ IsSimple a := by
  constructor
  · intro h
    rw [← h]
    exact isSimple_simpleName a
  · intro h
    rw [simpleName_eq_lastName, List.takeWhile_eq_self_iff.2 (forall_ne_of_notMem h.bracket_notMem),
      lastName_of_notMem h.dot_notMem, trim_eq_self h.stopsAt_start h.stopsAt_end]

theorem simpleName_simpleName (name : List Char) : simpleName (simpleName name) = simpleName name :=
  simpleName_eq_self_iff.2 (isSimple_simpleName name)

/-! ## Words -/

/-- The code points of blank space. -/
private def blankCodes : List Nat :=
  List.range' 0x9 5 ++ [0x20, 0x85, 0xA0, 0x1680] ++ List.range' 0x2000 11
    ++ [0x2028, 0x2029, 0x202F, 0x205F, 0x3000]

private theorem toNat_mem_blankCodes {c : Char} (h : isBlank c = true) : c.toNat ∈ blankCodes := by
  simp only [isBlank, Bool.or_eq_true, Bool.and_eq_true, decide_eq_true_eq] at h
  simp only [blankCodes, List.mem_append, List.mem_range'_1, List.mem_cons, List.not_mem_nil, or_false]
  omega

/-- There is no blank space in words. -/
theorem isBlank_eq_false_of_isWordPart {c : Char} (h : isWordPart c = true) : isBlank c = false := by
  -- the kernel looks each code point of blank space up in the table of identifiers
  have hnone : ∀ n ∈ blankCodes, isWordPart (Char.ofNat n) = false := by decide +kernel
  rw [Bool.eq_false_iff]
  intro hblank
  have hword := hnone c.toNat (toNat_mem_blankCodes hblank)
  rw [Char.ofNat_toNat, h] at hword
  cases hword

theorem IsWord.forall_isWordPart (h : IsWord a) : ∀ c ∈ a, isWordPart c = true := by
  obtain ⟨c, rest, rfl, hstart, hrest⟩ := h
  intro d hd
  rcases List.mem_cons.1 hd with rfl | hd
  · exact isWordPart_of_isWordStart hstart
  · exact hrest d hd

/-- A word is a simple name. -/
theorem IsWord.isSimple (h : IsWord a) : IsSimple a := by
  have hparts := h.forall_isWordPart
  have hdot : isWordPart '.' = false := by decide
  have hbracket : isWordPart '<' = false := by decide
  refine ⟨?_, ?_, ?_, ?_⟩
  · intro hmem
    rw [hparts _ hmem] at hdot
    cases hdot
  · intro hmem
    rw [hparts _ hmem] at hbracket
    cases hbracket
  · intro c hc
    exact isBlank_eq_false_of_isWordPart (hparts c (List.mem_of_mem_head? hc))
  · intro c hc
    exact isBlank_eq_false_of_isWordPart (hparts c (List.mem_reverse.1 (List.mem_of_mem_head? hc)))

/-! ## Spellings -/

/-- The ways to write a name: alone, with type arguments behind it, which may be any text, and with
qualifiers and dots in front, where an identifier or anything else without an angle bracket may be a
qualifier. White space may stand around the dots and in front of the type arguments. -/
inductive Spells (name : List Char) : List Char → Prop where
  | plain : Spells name name
  | typed {gap : List Char} (blank : ∀ c ∈ gap, isBlank c = true) (arguments : List Char) :
      Spells name (name ++ (gap ++ '<' :: arguments))
  | qualified {qualifier before after written : List Char} (bare : '<' ∉ qualifier)
      (blank_before : ∀ c ∈ before, isBlank c = true) (blank_after : ∀ c ∈ after, isBlank c = true)
      (rest : Spells name written) : Spells name (qualifier ++ (before ++ '.' :: (after ++ written)))

/-- All spellings of a name have its simple name. -/
theorem Spells.simpleName_eq {name written : List Char} (h : Spells name written) :
    simpleName written = simpleName name := by
  induction h with
  | plain => rfl
  | typed blank arguments =>
    rw [simpleName_gap blank (.inr (.inr rfl)), simpleName_append_bracket]
  | @qualified qualifier before after written bare blank_before blank_after rest ih =>
    calc simpleName (qualifier ++ (before ++ '.' :: (after ++ written)))
        = simpleName (qualifier ++ '.' :: (after ++ written)) := simpleName_gap blank_before (.inr (.inl rfl))
      _ = simpleName ((qualifier ++ ['.']) ++ (after ++ written)) := by simp
      _ = simpleName ((qualifier ++ ['.']) ++ written) := simpleName_gap blank_after (.inl (by simp))
      _ = simpleName written := by
        rw [List.append_assoc, List.singleton_append, simpleName_append_dot bare]
      _ = simpleName name := ih

end StatementLens.Java
