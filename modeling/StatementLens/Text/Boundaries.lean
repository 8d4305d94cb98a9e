/-!
# Sorted boundaries

A sorted array of numbers cuts the numbers into stretches. `countAtMost` finds the stretch of a
number by halving. A set of numbers is given by the boundaries at which membership changes: a number
is in the set if the boundaries up to it are odd in count.
-/

namespace StatementLens.Text

/-- Carries `countAtMost`: the entries before `lo` are known to be at most `n`, and those from `hi`
on to be greater. -/
def countAtMostIn (xs : Array Nat) (n lo hi : Nat) (h : hi ≤ xs.size) : Nat :=
  if hlt : lo < hi then
    have hmid : (lo + hi) / 2 < xs.size := by omega
    if xs[(lo + hi) / 2] ≤ n then countAtMostIn xs n ((lo + hi) / 2 + 1) hi h
    else countAtMostIn xs n lo ((lo + hi) / 2) (by omega)
  else lo
  termination_by hi - lo

/-- How many entries of a sorted array are at most `n`. -/
def countAtMost (xs : Array Nat) (n : Nat) : Nat :=
  countAtMostIn xs n 0 xs.size (Nat.le_refl _)

/-- Whether the set with these boundaries holds `n`. -/
def inBoundaries (bounds : Array Nat) (n : Nat) : Bool :=
  countAtMost bounds n % 2 = 1

end StatementLens.Text
