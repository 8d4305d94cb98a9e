import StatementLens.Proofs.Offsets
import StatementLens.Text.Edit

/-!
# Splices

A change names the part of a text that it replaces by positions, which an editor may choose freely. The
offsets of two positions are boundaries, and the later one is taken as the end, so they are always the
ends of a slice. Hence a change that is made only where it replaces a slice is always made, for one
change and, by induction, for a list of changes, each of which names places of the text that the ones
before it have left.
-/

namespace StatementLens

open Text

/-- The text with the part between two offsets replaced, if they are the ends of a slice. -/
def splice? (start stop : Nat) (new text : List Char) : Option (List Char) :=
  if Sliceable text start stop then some (takeBytes start text ++ new ++ dropBytes stop text) else none

/-- The text after one change, if what the change replaces is a slice of the text. -/
def TextChange.make? (change : TextChange) (text : List Char) : Option (List Char) :=
  match change.range with
  | none => some change.text
  | some range =>
    let indexed := IndexedText.ofText text
    let start := indexed.offsetAt range.start
    splice? start (max start (indexed.offsetAt range.stop)) change.text text

/-- The text after a list of changes, if each of them replaces a slice of the text that the ones before
it lead to. -/
def makeChanges? (text : List Char) (changes : List TextChange) : Option (List Char) :=
  changes.foldlM (fun t change => change.make? t) text

/-! ## One change -/

/-- What a range replaces is a slice, wherever its positions are. -/
theorem IndexedText.sliceable_range (t : IndexedText) (r : Range) :
    Sliceable t.text (t.offsetAt r.start) (max (t.offsetAt r.start) (t.offsetAt r.stop)) := by
  have hstart := t.isBoundary_offsetAt r.start
  have hstop := t.isBoundary_offsetAt r.stop
  refine ⟨hstart, ?_, Nat.le_max_left _ _⟩
  rcases Nat.le_total (t.offsetAt r.start) (t.offsetAt r.stop) with hle | hle
  · rw [Nat.max_eq_right hle]
    exact hstop
  · rw [Nat.max_eq_left hle]
    exact hstart

theorem TextChange.make?_eq (change : TextChange) (text : List Char) :
    change.make? text = some (change.apply text) := by
  obtain ⟨range, new⟩ := change
  cases range with
  | none => rfl
  | some range =>
    have hslice := (IndexedText.ofText text).sliceable_range range
    unfold make? splice? apply
    exact if_pos hslice

/-- A text comes from another one by replacing the part between two offsets: what stands in front of the
part and what stands behind it are kept. -/
def IsSplice (current : List Char) (start stop : Nat) (new result : List Char) : Prop :=
  ∃ before removed after, current = before ++ (removed ++ after) ∧ start = byteLength before ∧
    stop = byteLength (before ++ removed) ∧ result = before ++ (new ++ after)

theorem Text.Sliceable.isSplice {current : List Char} {start stop : Nat}
    (h : Sliceable current start stop) (new : List Char) :
    IsSplice current start stop new
      (takeBytes start current ++ new ++ dropBytes stop current) := by
  obtain ⟨before, removed, after, rfl, rfl, rfl⟩ := h.exists_parts
  have hdrop := dropBytes_append (before ++ removed) after
  rw [List.append_assoc] at hdrop
  refine ⟨before, removed, after, rfl, rfl, rfl, ?_⟩
  rw [takeBytes_append, hdrop, List.append_assoc]

/-- A change of a range replaces the slice from the offset of its start to the one of its end, or nothing
if this comes before the start. -/
theorem TextChange.isSplice_apply (range : Range) (new current : List Char) :
    IsSplice current ((IndexedText.ofText current).offsetAt range.start)
      (max ((IndexedText.ofText current).offsetAt range.start)
        ((IndexedText.ofText current).offsetAt range.stop)) new
      ((TextChange.mk (some range) new).apply current) :=
  ((IndexedText.ofText current).sliceable_range range).isSplice new

/-! ## Lists of changes -/

/-- Changes that are made only where they replace slices are all made. -/
theorem makeChanges?_eq (text : List Char) (changes : List TextChange) :
    makeChanges? text changes = some (applyChanges text changes) := by
  unfold makeChanges? applyChanges
  induction changes generalizing text with
  | nil => rfl
  | cons change changes ih =>
    rw [List.foldlM_cons, List.foldl_cons, change.make?_eq]
    exact ih (change.apply text)

theorem applyChanges_concat (text : List Char) (changes : List TextChange) (change : TextChange) :
    applyChanges text (changes ++ [change]) = change.apply (applyChanges text changes) := by
  unfold applyChanges
  rw [List.foldl_append]
  rfl

/-- Whatever positions they name, changes only ever replace slices. A change of a range, after any other
changes, keeps the text in front of the offset of its start and the text from the greater offset of its
two ends on, so one whose end comes before its start is an insertion at its start. -/
theorem changes_replace_slices (text : List Char) (changes : List TextChange) :
    makeChanges? text changes = some (applyChanges text changes) ∧
    ∀ range new,
      let current := applyChanges text changes
      let result := applyChanges text (changes ++ [⟨some range, new⟩])
      let start := (IndexedText.ofText current).offsetAt range.start
      let stop := (IndexedText.ofText current).offsetAt range.stop
      (IsBoundary current start ∧ IsBoundary current (max start stop) ∧
        start ≤ max start stop ∧ max start stop ≤ byteLength current) ∧
      IsSplice current start (max start stop) new result ∧
      (range.stop ≤ range.start → stop ≤ start) ∧
      (stop ≤ start → IsSplice current start start new result) := by
  refine ⟨makeChanges?_eq text changes, ?_⟩
  intro range new current result start stop
  have hslice : Sliceable current start (max start stop) :=
    (IndexedText.ofText current).sliceable_range range
  have hsplice : IsSplice current start (max start stop) new result := by
    have hresult : result = (TextChange.mk (some range) new).apply current :=
      applyChanges_concat text changes ⟨some range, new⟩
    rw [hresult]
    exact TextChange.isSplice_apply range new current
  refine ⟨⟨hslice.isBoundary_start, hslice.isBoundary_stop, hslice.le,
    hslice.isBoundary_stop.le_byteLength⟩, hsplice, ?_, ?_⟩
  · intro hinverted
    exact (IndexedText.ofText current).offsetAt_mono hinverted
  · intro hle
    rw [Nat.max_eq_left hle] at hsplice
    exact hsplice

/-- A change inside of a surrogate pair whose end is in front of it, and one from between a carriage
return and its line feed to a line that the text does not have. -/
def strayChanges : List TextChange :=
  [⟨some ⟨⟨1, 1⟩, ⟨0, 9⟩⟩, "x".toList⟩, ⟨some ⟨⟨0, 2⟩, ⟨9, 0⟩⟩, "é".toList⟩]

theorem changes_replace_slices_strayChanges :
    (⟨0, 9⟩ : Position) ≤ ⟨1, 1⟩ ∧
    IsSplice "a\r\n😀b".toList 7 7 "x".toList "a\r\n😀xb".toList ∧
    IsSplice "a\r\n😀xb".toList 1 9 "é".toList "aé".toList ∧
    makeChanges? "a\r\n😀b".toList strayChanges = some "aé".toList := by
  have hordered : (⟨0, 9⟩ : Position) ≤ ⟨1, 1⟩ := by decide
  obtain ⟨-, hfirst⟩ := changes_replace_slices "a\r\n😀b".toList []
  obtain ⟨-, hsecond⟩ := changes_replace_slices "a\r\n😀b".toList (strayChanges.take 1)
  obtain ⟨hmade, -⟩ := changes_replace_slices "a\r\n😀b".toList strayChanges
  obtain ⟨-, -, hinverted, hinsertion⟩ := hfirst ⟨⟨1, 1⟩, ⟨0, 9⟩⟩ "x".toList
  obtain ⟨-, hsplice, -, -⟩ := hsecond ⟨⟨0, 2⟩, ⟨9, 0⟩⟩ "é".toList
  exact ⟨hordered, hinsertion (hinverted hordered), hsplice, hmade⟩

end StatementLens
