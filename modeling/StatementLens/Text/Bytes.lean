/-!
# Texts and their measures

A text is a list of characters. It is measured in two ways: in bytes of its UTF-8 form, which is how
offsets count, and in UTF-16 units, which is how columns count. An offset names a place between two
characters; one that falls inside a character is read as the start of that character.
-/

namespace StatementLens.Text

/-- Bytes of the UTF-8 form of a text. -/
def byteLength (cs : List Char) : Nat :=
  cs.foldl (fun n c => n + c.utf8Size) 0

/-- UTF-16 units of a character: a surrogate pair above the basic plane, one unit otherwise. -/
def unitSize (c : Char) : Nat :=
  if c.toNat < 0x10000 then 1 else 2

/-- UTF-16 units of a text. -/
def unitLength (cs : List Char) : Nat :=
  cs.foldl (fun n c => n + unitSize c) 0

/-- The part of a text from byte offset `n` on. -/
def dropBytes : Nat → List Char → List Char
  | _, [] => []
  | n, c :: cs => if n ≠ 0 ∧ c.utf8Size ≤ n then dropBytes (n - c.utf8Size) cs else c :: cs

/-- Carries `takeBytes`, with the characters taken so far in reverse. -/
def takeBytesOnto (taken : List Char) : Nat → List Char → List Char
  | _, [] => taken.reverse
  | n, c :: cs =>
    if n ≠ 0 ∧ c.utf8Size ≤ n then takeBytesOnto (c :: taken) (n - c.utf8Size) cs
    else taken.reverse

/-- The part of a text before byte offset `n`. -/
def takeBytes (n : Nat) (cs : List Char) : List Char :=
  takeBytesOnto [] n cs

/-- The part of a text from byte offset `start` up to byte offset `stop`. -/
def slice (start stop : Nat) (cs : List Char) : List Char :=
  takeBytes (stop - start) (dropBytes start cs)

/-- Carries `floorBoundary`, with the bytes passed so far. -/
def floorBoundaryFrom (passed : Nat) : Nat → List Char → Nat
  | _, [] => passed
  | n, c :: cs =>
    if c.utf8Size ≤ n then floorBoundaryFrom (passed + c.utf8Size) (n - c.utf8Size) cs else passed

/-- The greatest offset of a place between characters that is not beyond `n`. -/
def floorBoundary (n : Nat) (cs : List Char) : Nat :=
  floorBoundaryFrom 0 n cs

/-- Carries `unitsBefore`, with the units passed so far. -/
def unitsBeforeFrom (passed : Nat) : Nat → List Char → Nat
  | _, [] => passed
  | n, c :: cs =>
    if c.utf8Size ≤ n then unitsBeforeFrom (passed + unitSize c) (n - c.utf8Size) cs else passed

/-- UTF-16 units of the part of a text before byte offset `n`. -/
def unitsBefore (n : Nat) (cs : List Char) : Nat :=
  unitsBeforeFrom 0 n cs

/-- Carries `bytesBefore`, with the bytes passed so far. -/
def bytesBeforeFrom (passed : Nat) : Nat → List Char → Nat
  | _, [] => passed
  | units, c :: cs =>
    if units = 0 then passed else bytesBeforeFrom (passed + c.utf8Size) (units - unitSize c) cs

/-- Bytes of the shortest beginning of a text that has at least `units` UTF-16 units, or of the
whole text if it has fewer. -/
def bytesBefore (units : Nat) (cs : List Char) : Nat :=
  bytesBeforeFrom 0 units cs

/-- Whether the text `piece` stands somewhere in the text. -/
def contains (piece : List Char) : List Char → Bool
  | [] => piece.isEmpty
  | c :: cs => piece.isPrefixOf (c :: cs) || contains piece cs

/-- The pieces of a text between the separators that `isSeparator` accepts; there is one more piece
than separators. -/
def splitOn (isSeparator : Char → Bool) (cs : List Char) : List (List Char) :=
  let (last, pieces) := cs.foldl
    (fun (piece, done) c =>
      if isSeparator c then ([], piece.reverse :: done) else (c :: piece, done))
    (([] : List Char), ([] : List (List Char)))
  (last.reverse :: pieces).reverse

end StatementLens.Text
