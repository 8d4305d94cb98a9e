/-!
# Widths of integers

Some integers have to fit into a number of bits.
-/

namespace StatementLens.Json

/-- The number of integers that fit into some bits. -/
def widthCount (bits : Nat) : Nat := Nat.pow 2 bits

/-- Whether an integer fits into some bits, none of which is for its sign. -/
def fitsUnsigned (bits : Nat) (n : Int) : Bool := 0 ≤ n && n < widthCount bits

/-- Whether an integer fits into some bits, one of which is for its sign. -/
def fitsSigned (bits : Nat) (n : Int) : Bool :=
  let half : Int := widthCount (bits - 1)
  0 ≤ n + half && n < half

end StatementLens.Json
