/-!
# Similar words

How alike two words are: the share of their characters that agree, at about the same place and in
about the same order. Similar words are suggested in place of unknown ones.
-/

namespace StatementLens.Text

/-- A share between nothing and all. -/
structure Share where
  part : Nat
  whole : Nat
  deriving Repr

namespace Share

/-- Whether a share is at most another. -/
def atMost (s t : Share) : Bool := s.part * t.whole ≤ t.part * s.whole

/-- The least share at which words do not yet count as similar. -/
def dissimilar : Share := ⟨7, 10⟩

end Share

/-- The places in `b` of the characters that agree with those of a word, from its place `i` on. A
character agrees with the first equal one at most `reach` places away that is not `taken` yet. -/
def partners (b : List Char) (reach : Nat) : Nat → List Nat → List Char → List Nat
  | _, taken, [] => taken
  | i, taken, c :: rest =>
    let free (j : Nat) : Bool :=
      i ≤ j + reach && j ≤ i + reach && b[j]? = some c && !taken.contains j
    match (List.range b.length).find? free with
    | some j => partners b reach (i + 1) (taken ++ [j]) rest
    | none => partners b reach (i + 1) taken rest

/-- How alike two words are: the mean of the share of agreeing characters in each of them, and the
share of those that are in the same order in both. -/
def likeness (a b : List Char) : Share :=
  if a.isEmpty && b.isEmpty then ⟨1, 1⟩
  else
    let found := partners b (max a.length b.length / 2 - 1) 0 [] a
    let count := found.length
    if count = 0 then ⟨0, 1⟩
    else
      let sorted := found.mergeSort fun i j => i ≤ j
      let swapped := ((found.zip sorted).filter fun (i, j) => b[i]? ≠ b[j]?).length / 2
      ⟨count * count * b.length + count * count * a.length
        + (count - swapped) * a.length * b.length, 3 * a.length * b.length * count⟩

/-- The words that are similar to a word, the most similar last. -/
def similar (word : String) (words : List String) : List String :=
  let rated := words.map fun w => (likeness word.toList w.toList, w)
  let alike := rated.filter fun (share, _) => !share.atMost .dissimilar
  (alike.mergeSort fun a b => a.1.atMost b.1).map Prod.snd

end StatementLens.Text
