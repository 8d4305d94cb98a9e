import StatementLens.Path

/-!
# Patterns of paths

A pattern is matched against all the bytes of a path. A question mark stands for any byte but a
slash, a star for any number of them, brackets for one of some bytes, and braces for one of some
patterns. Two stars that fill the space between slashes stand for any number of folders.
-/

namespace StatementLens

/-- A piece of a pattern. -/
inductive GlobToken where
  | byte (b : UInt8)
  /-- Any byte but a slash. -/
  | any
  /-- Any number of bytes other than slashes. -/
  | star
  /-- A byte in one of the ranges, or in none of them. -/
  | among (negated : Bool) (ranges : List (UInt8 × UInt8))
  /-- Any folders in front of the rest. -/
  | anyFoldersFirst
  /-- Any folders in the middle, with the slashes around them. -/
  | anyFoldersBetween
  /-- A slash and anything behind it. -/
  | anythingBelow
  /-- One of some patterns. -/
  | either (patterns : List (List GlobToken))
  deriving Repr, Inhabited

/-- A pattern of paths. -/
abbrev Glob := List GlobToken

namespace Glob

/-! ## Matching -/

/-- Whether some rest of the bytes fits, with only other bytes than slashes in front of it. -/
def skipWithin (fits : List UInt8 → Bool) : List UInt8 → Bool
  | [] => fits []
  | b :: rest => fits (b :: rest) || (b != Path.slash && skipWithin fits rest)

/-- Whether some rest of the bytes fits. -/
def skipAny (fits : List UInt8 → Bool) : List UInt8 → Bool
  | [] => fits []
  | b :: rest => fits (b :: rest) || skipAny fits rest

/-- Whether some rest of the bytes behind a slash fits. -/
def skipFolders (fits : List UInt8 → Bool) : List UInt8 → Bool
  | [] => false
  | b :: rest => (b == Path.slash && fits rest) || skipFolders fits rest

/-- Whether the bytes start with one that passes a test, and the rest fits. -/
def step (test : UInt8 → Bool) (fits : List UInt8 → Bool) : List UInt8 → Bool
  | [] => false
  | b :: rest => test b && fits rest

/-- Whether a byte is in one of some ranges. -/
def inRanges (ranges : List (UInt8 × UInt8)) (b : UInt8) : Bool :=
  ranges.any fun (low, high) => low ≤ b && b ≤ high

mutual

/-- Whether the bytes start with what a piece stands for, and the rest fits. -/
def matchToken : GlobToken → (List UInt8 → Bool) → List UInt8 → Bool
  | .byte b, fits => step (· == b) fits
  | .any, fits => step (· != Path.slash) fits
  | .star, fits => skipWithin fits
  | .among negated ranges, fits => step (fun b => inRanges ranges b != negated) fits
  | .anyFoldersFirst, fits =>
    fun bytes => fits bytes || step (· == Path.slash) fits bytes || skipFolders fits bytes
  | .anyFoldersBetween, fits =>
    step (· == Path.slash) fun rest => fits rest || skipFolders fits rest
  | .anythingBelow, fits => step (· == Path.slash) (skipAny fits)
  | .either patterns, fits => matchEither patterns fits

/-- Whether the bytes start with what some pieces stand for, and the rest fits. -/
def matchTokens : List GlobToken → (List UInt8 → Bool) → List UInt8 → Bool
  | [], fits => fits
  | t :: ts, fits => matchToken t (matchTokens ts fits)

/-- Whether the bytes start with what one of some patterns stands for, and the rest fits. -/
def matchEither : List (List GlobToken) → (List UInt8 → Bool) → List UInt8 → Bool
  | [], _ => fun _ => false
  | p :: ps, fits => fun bytes => matchTokens p fits bytes || matchEither ps fits bytes

end

/-- Whether a pattern matches the bytes of a path. Two stars alone match everything. -/
def matchesPath (g : Glob) (bytes : List UInt8) : Bool :=
  match g with
  | [.anyFoldersFirst] => true
  | _ => matchTokens g List.isEmpty bytes

/-! ## Reading -/

/-- The pieces that stand for a character. -/
def literal (c : Char) : List GlobToken := (Text.encodeUtf8 (String.singleton c)).map .byte

/-- The byte ranges of characters between two. -/
def charRanges (low high : Char) : List (UInt8 × UInt8) :=
  let bytes (c : Char) : List UInt8 := Text.encodeUtf8 (String.singleton c)
  let single (bs : List UInt8) : List (UInt8 × UInt8) := bs.map fun b => (b, b)
  if low = high then single (bytes low)
  else
    match (bytes low).getLast?, (bytes high).head? with
    | some a, some b => single (bytes low).dropLast ++ (a, b) :: single (bytes high).tail
    | _, _ => []

/-- How reading characters in brackets ends: with ranges, in an error, or without a closing bracket.
-/
inductive Bracket where
  | closed (ranges : List (Char × Char)) (rest : List Char)
  | badRange
  | unclosed

/-- Reads characters in brackets; `ranges` holds those read, the last one first. A closing bracket
in first place stands for itself, and so does a hyphen that is not between two characters. -/
def readBracket (ranges : List (Char × Char)) (first inRange : Bool) : List Char → Bracket
  | [] => .unclosed
  | c :: rest =>
    if c = ']' && !first then
      .closed (if inRange then ('-', '-') :: ranges else ranges).reverse rest
    else if c = '-' && !first && !inRange then readBracket ranges false true rest
    else if inRange then
      match ranges with
      | (low, _) :: done =>
        if c < low then .badRange else readBracket ((low, c) :: done) false false rest
      | [] => .unclosed
    else readBracket ((c, c) :: ranges) false false rest

/-- What is being read: the alternatives of each open brace, the innermost first. An alternative
holds its pieces, the last one first. -/
structure Reader where
  /-- The pieces of the present alternative, the last one first. -/
  pieces : List GlobToken
  /-- The open braces: finished alternatives, and the pieces in front of the brace. -/
  around : List (List (List GlobToken) × List GlobToken)

/-- What two stars stand for, given the character before them and what follows them. -/
inductive Stars where
  /-- Two stars inside of a name. -/
  | plain
  | foldersFirst (rest : List Char)
  /-- Replaces the slash in front of it. -/
  | foldersBetween (rest : List Char)
  /-- Replaces the slash in front of it. -/
  | below (rest : List Char)

/-- Sorts two stars out. -/
def sortStars (r : Reader) (before : Option Char) (rest : List Char) : Stars :=
  let inBraces := !r.around.isEmpty
  if r.pieces.isEmpty then
    match rest with
    | [] => .foldersFirst []
    | c :: after => if c = '/' then .foldersFirst after else .plain
  else if before ≠ some '/' && !(inBraces && (before = some ',' || before = some '\x7b')) then
    .plain
  else
    match rest with
    | [] => .below []
    | c :: after =>
      if c = '/' then .foldersBetween after
      else if inBraces && (c = ',' || c = '\x7d') then .below rest
      else .plain

/-- Puts two stars in place of the piece in front of them, unless that stands for folders itself. -/
def replaceLast (t : GlobToken) : List GlobToken → List GlobToken
  | .anyFoldersFirst :: done => .anyFoldersFirst :: done
  | .anythingBelow :: done => .anythingBelow :: done
  | _ :: done => t :: done
  | [] => [t]

/-- The alternatives that are not empty. -/
def alternatives (ps : List (List GlobToken)) : List GlobToken :=
  let ps := ps.filter fun p => !p.isEmpty
  if ps.isEmpty then [] else [.either ps]

/-- Reads a pattern; `before` is the character read last, and `brackets` tells whether brackets
still have a meaning. A bracket that is never closed stands for itself, and so do those that follow
it. -/
def readFrom : Nat → Reader → Option Char → Bool → List Char → Option Glob
  | 0, _, _, _, _ => none
  | _ + 1, r, _, _, [] => if r.around.isEmpty then some r.pieces.reverse else none
  | fuel + 1, r, before, brackets, c :: rest =>
    let push (ts : List GlobToken) : Reader := ⟨ts.reverse ++ r.pieces, r.around⟩
    match c with
    | '?' => readFrom fuel (push [.any]) (some c) brackets rest
    | '*' =>
      match rest with
      | '*' :: rest =>
        match sortStars r before rest with
        | .plain => readFrom fuel (push [.star, .star]) (some '*') brackets rest
        | .foldersFirst rest => readFrom fuel (push [.anyFoldersFirst]) (some '/') brackets rest
        | .foldersBetween rest =>
          readFrom fuel ⟨replaceLast .anyFoldersBetween r.pieces, r.around⟩ (some '/') brackets rest
        | .below rest =>
          readFrom fuel ⟨replaceLast .anythingBelow r.pieces, r.around⟩ (some '*') brackets rest
      | _ => readFrom fuel (push [.star]) (some c) brackets rest
    | '[' =>
      if !brackets then readFrom fuel (push (literal c)) (some c) brackets rest
      else
        let negated := rest.head? = some '!' || rest.head? = some '^'
        match readBracket [] true false (if negated then rest.tail else rest) with
        | .closed ranges rest =>
          let ranges := ranges.flatMap fun (low, high) => charRanges low high
          readFrom fuel (push [.among negated ranges]) (some ']') brackets rest
        | .badRange => none
        | .unclosed => readFrom fuel (push (literal c)) (some c) false rest
    | '\x7b' => readFrom fuel ⟨[], ([], r.pieces) :: r.around⟩ (some c) brackets rest
    | '\x7d' =>
      match r.around with
      | [] => none
      | (done, front) :: around =>
        let all := alternatives (r.pieces.reverse :: done).reverse
        readFrom fuel ⟨all ++ front, around⟩ (some c) brackets rest
    | ',' =>
      match r.around with
      | [] => readFrom fuel (push (literal c)) (some c) brackets rest
      | (done, front) :: around =>
        readFrom fuel ⟨[], (r.pieces.reverse :: done, front) :: around⟩ (some c) brackets rest
    | '\\' =>
      match rest with
      | [] => none
      | e :: rest => readFrom fuel (push (literal e)) (some e) brackets rest
    | _ => readFrom fuel (push (literal c)) (some c) brackets rest

/-- Reads a pattern, if it is well formed. -/
def ofChars? (cs : List Char) : Option Glob := readFrom (cs.length + 1) ⟨[], []⟩ none true cs

end Glob

end StatementLens
