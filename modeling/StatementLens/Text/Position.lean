/-!
# Positions and ranges

A position is a line and a column, both counted from zero; a column counts UTF-16 units. Positions
are ordered by line, then by column.
-/

namespace StatementLens

/-- A place in a text: a line and a column in UTF-16 units. -/
structure Position where
  line : Nat
  character : Nat
  deriving DecidableEq, Repr, Inhabited

namespace Position

instance : LE Position where
  le p q := p.line < q.line ∨ (p.line = q.line ∧ p.character ≤ q.character)

instance : LT Position where
  lt p q := p.line < q.line ∨ (p.line = q.line ∧ p.character < q.character)

instance (p q : Position) : Decidable (p ≤ q) :=
  inferInstanceAs (Decidable (p.line < q.line ∨ (p.line = q.line ∧ p.character ≤ q.character)))

instance (p q : Position) : Decidable (p < q) :=
  inferInstanceAs (Decidable (p.line < q.line ∨ (p.line = q.line ∧ p.character < q.character)))

/-- Compares lines first and columns second. -/
def order (p q : Position) : Ordering :=
  if p < q then .lt else if p = q then .eq else .gt

end Position

/-- The part of a text from `start` up to, but not including, `stop`. -/
structure Range where
  start : Position
  stop : Position
  deriving DecidableEq, Repr, Inhabited

namespace Range

/-- The empty range at a position. -/
def emptyAt (p : Position) : Range := ⟨p, p⟩

/-- Whether nothing lies between the two ends. -/
def isEmpty (r : Range) : Bool := r.start = r.stop

/-- Whether a position lies in the range; the start does and the end does not. -/
def contains (r : Range) (p : Position) : Bool :=
  r.start ≤ p ∧ p < r.stop

end Range

end StatementLens
