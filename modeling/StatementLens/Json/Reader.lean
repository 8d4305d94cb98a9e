import StatementLens.Json.Value
import StatementLens.Text.Span

/-!
# Reading JSON text

A JSON text is read from left to right. The first fault ends the reading; it is known by its cause
and by the number of bytes read up to it.
-/

namespace StatementLens.Json

open Text

/-- What is wrong with a JSON text. -/
inductive SyntaxError where
  | endInList
  | endInObject
  | endInString
  | endInValue
  | expectedColon
  | expectedListCommaOrEnd
  | expectedObjectCommaOrEnd
  | expectedIdent
  | expectedValue
  | invalidEscape
  | invalidNumber
  | numberOutOfRange
  | controlCharacter
  | keyMustBeString
  | loneSurrogate
  | trailingComma
  | trailingCharacters
  | endOfHexEscape
  | tooDeep
  deriving DecidableEq, Repr

/-- The text of a syntax error. -/
def SyntaxError.message : SyntaxError → String
  | .endInList => "EOF while parsing a list"
  | .endInObject => "EOF while parsing an object"
  | .endInString => "EOF while parsing a string"
  | .endInValue => "EOF while parsing a value"
  | .expectedColon => "expected `:`"
  | .expectedListCommaOrEnd => "expected `,` or `]`"
  | .expectedObjectCommaOrEnd => "expected `,` or `\x7d`"
  | .expectedIdent => "expected ident"
  | .expectedValue => "expected value"
  | .invalidEscape => "invalid escape"
  | .invalidNumber => "invalid number"
  | .numberOutOfRange => "number out of range"
  | .controlCharacter => "control character (\\u0000-\\u001F) found while parsing a string"
  | .keyMustBeString => "key must be a string"
  | .loneSurrogate => "lone leading surrogate in hex escape"
  | .trailingComma => "trailing comma"
  | .trailingCharacters => "trailing characters"
  | .endOfHexEscape => "unexpected end of hex escape"
  | .tooDeep => "recursion limit exceeded"

/-- A fault of type `ε` and the offset at which it is reported. -/
structure Fault (ε : Type) where
  cause : ε
  offset : Nat
  deriving Repr

/-- A line and a column in bytes, both as error messages give them: lines count from one, and a
column is the number of bytes read in its line. -/
def lineAndColumn (text : List Char) (offset : Nat) : Nat × Nat :=
  let front := takeBytes offset text
  let line := front.foldl (fun n c => if c = '\n' then n + 1 else n) 1
  let last := front.foldl (fun n c => if c = '\n' then 0 else n + c.utf8Size) 0
  (line, last + (offset - byteLength front))

/-- What a fault in a text says, and where. -/
def Fault.message {ε : Type} (f : Fault ε) (wording : ε → String) (text : List Char) : String :=
  let (line, column) := lineAndColumn text f.offset
  wording f.cause ++ " at line " ++ toString line ++ " column " ++ toString column

/-- Reads a value off the front of a span. -/
abbrev Reader (α : Type) := Span → Except (Fault SyntaxError) (α × Span)

/-- A fault just before the rest `s`. -/
def fault {α : Type} (cause : SyntaxError) (s : Span) : Except (Fault SyntaxError) α :=
  .error ⟨cause, s.offset⟩

/-- A fault just after the next byte of `s`. -/
def faultAhead {α : Type} (cause : SyntaxError) (s : Span) : Except (Fault SyntaxError) α :=
  .error ⟨cause, if s.atEnd then s.offset else s.offset + 1⟩

/-- Whether a character is blank in JSON. -/
def isSpace (c : Char) : Bool := c = ' ' || c = '\n' || c = '\t' || c = '\r'

/-- The span without blanks at its front. -/
def skipSpace (s : Span) : Span := s.dropWhile isSpace

/-- Reads the rest of a fixed word. -/
def readWord : List Char → Span → Except (Fault SyntaxError) Span
  | [], s => .ok s
  | c :: cs, s =>
    match s.head? with
    | none => fault .endInValue s
    | some d => if d = c then readWord cs s.tail else .error ⟨.expectedIdent, s.offset + 1⟩

/-- The value of a hexadecimal digit. -/
def hexValue (c : Char) : Option Nat :=
  if '0' ≤ c ∧ c ≤ '9' then some (c.toNat - 48)
  else if 'a' ≤ c ∧ c ≤ 'f' then some (c.toNat - 87)
  else if 'A' ≤ c ∧ c ≤ 'F' then some (c.toNat - 55)
  else none

/-- The number that four hexadecimal digits write. -/
def hexNumber (digits : List Char) : Option Nat :=
  digits.foldl (fun acc c => do return 16 * (← acc) + (← hexValue c)) (some 0)

/-- Reads four hexadecimal digits. -/
def readHex : Reader Nat := fun s =>
  if byteLength (s.chars.take 4) < 4 then .error ⟨.endInString, s.stop⟩
  else match hexNumber (s.chars.take 4) with
    | some n => .ok (n, s.drop 4)
    | none => .error ⟨.invalidEscape, s.offset + 4⟩

/-- Whether a number is the first half of a surrogate pair. -/
def isLeading (n : Nat) : Bool := 0xD800 ≤ n && n ≤ 0xDBFF

/-- Whether a number is the second half of a surrogate pair. -/
def isTrailing (n : Nat) : Bool := 0xDC00 ≤ n && n ≤ 0xDFFF

/-- Reads one given character inside a surrogate pair. -/
def readPairMark (c : Char) (s : Span) : Except (Fault SyntaxError) Span :=
  match s.head? with
  | none => fault .endInString s
  | some d => if d = c then .ok s.tail else .error ⟨.endOfHexEscape, s.offset + 1⟩

/-- Reads the digits of an escaped code point, which may be a surrogate pair. -/
def readCodePoint : Reader Char := fun s => do
  let (n, rest) ← readHex s
  if isTrailing n then fault .loneSurrogate rest
  else if isLeading n then
    let rest ← readPairMark '\\' rest
    let rest ← readPairMark 'u' rest
    let (m, rest) ← readHex rest
    if isTrailing m then return (Char.ofNat (0x10000 + (n - 0xD800) * 0x400 + (m - 0xDC00)), rest)
    else fault .loneSurrogate rest
  else return (Char.ofNat n, rest)

/-- Reads an escape, the backslash being read already. -/
def readEscape : Reader Char := fun s =>
  match s.head? with
  | none => fault .endInString s
  | some c =>
    let rest := s.tail
    match c with
    | '"' => .ok ('"', rest)
    | '\\' => .ok ('\\', rest)
    | '/' => .ok ('/', rest)
    | 'b' => .ok (Char.ofNat 8, rest)
    | 'f' => .ok (Char.ofNat 12, rest)
    | 'n' => .ok ('\n', rest)
    | 'r' => .ok ('\r', rest)
    | 't' => .ok ('\t', rest)
    | 'u' => readCodePoint rest
    | _ => .error ⟨.invalidEscape, s.offset + 1⟩

/-- Whether a character stands for itself in a string. -/
def isPlain (c : Char) : Bool := c ≠ '"' && c ≠ '\\' && 0x20 ≤ c.toNat

/-- Reads the rest of a string, the opening quote being read already. `pieces` holds what has been
read, the last piece first. -/
def readStringOnto : Nat → List (List Char) → Reader String
  | 0, _, s => fault .endInString s
  | fuel + 1, pieces, s => do
    let (plain, rest) := s.splitWhile isPlain
    match rest.head? with
    | none => fault .endInString rest
    | some '"' => return (String.ofList (plain :: pieces).reverse.flatten, rest.tail)
    | some '\\' =>
      let (c, rest) ← readEscape rest.tail
      readStringOnto fuel ([c] :: plain :: pieces) rest
    | some _ => .error ⟨.controlCharacter, rest.offset + 1⟩

/-- Reads the rest of a string, the opening quote being read already. -/
def readString : Reader String := fun s => readStringOnto (s.chars.length + 1) [] s

/-- The number that decimal digits write. -/
def decimalValue (digits : List Char) : Nat :=
  digits.foldl (fun n c => 10 * n + (c.toNat - 48)) 0

/-- Reads a fraction, if there is one: its digits. -/
def readFraction : Reader (List Char) := fun s =>
  if s.head? = some '.' then
    let (digits, rest) := s.tail.splitWhile Char.isDigit
    if digits.isEmpty then faultAhead (if rest.atEnd then .endInValue else .invalidNumber) rest
    else .ok (digits, rest)
  else .ok ([], s)

/-- Reads an exponent, if there is one. -/
def readExponent : Reader (Option Int) := fun s =>
  if s.head? = some 'e' || s.head? = some 'E' then
    let rest := s.tail
    let negative := rest.head? = some '-'
    let rest := if negative || rest.head? = some '+' then rest.tail else rest
    match rest.head? with
    | none => fault .endInValue rest
    | some c =>
      if c.isDigit then
        let (digits, rest) := rest.splitWhile Char.isDigit
        let n : Int := decimalValue digits
        .ok (some (if negative then -n else n), rest)
      else .error ⟨.invalidNumber, rest.offset + 1⟩
  else .ok (none, s)

/-- Reads a number without its sign. Whole numbers that fit into 64 bits are integers. -/
def readNumber (negative : Bool) : Reader Json := fun s => do
  match s.head? with
  | none => fault .endInValue s
  | some c =>
    if !c.isDigit then .error ⟨.invalidNumber, s.offset + 1⟩
    else
      let (whole, rest) := if c = '0' then (['0'], s.tail) else s.splitWhile Char.isDigit
      if c = '0' && (rest.head?.map Char.isDigit).getD false then faultAhead .invalidNumber rest
      else
        let (fraction, rest) ← readFraction rest
        let (exponent, rest) ← readExponent rest
        let n := decimalValue (whole ++ fraction)
        let d : Decimal := ⟨negative, n, exponent.getD 0 - fraction.length⟩
        let isWhole := fraction.isEmpty && exponent.isNone
        if isWhole && !negative && n < Nat.pow 2 64 then return (.int n, rest)
        else if isWhole && negative && 0 < n && n ≤ Nat.pow 2 63 then return (.int (-n), rest)
        else if d.nearest.isNone then fault .numberOutOfRange rest
        else return (.float d, rest)

/-- Reads a value that is neither a list nor an object, given its first character. -/
def readScalar (first : Char) : Reader Json := fun s => do
  match first with
  | 'n' => return (.null, ← readWord ['u', 'l', 'l'] s.tail)
  | 't' => return (.bool true, ← readWord ['r', 'u', 'e'] s.tail)
  | 'f' => return (.bool false, ← readWord ['a', 'l', 's', 'e'] s.tail)
  | '-' => readNumber true s.tail
  | '"' =>
    let (text, rest) ← readString s.tail
    return (.str text, rest)
  | c => if c.isDigit then readNumber false s else faultAhead .expectedValue s

/-- Reads the colon after a key. -/
def readColon (s : Span) : Except (Fault SyntaxError) Span :=
  let s := skipSpace s
  match s.head? with
  | some ':' => .ok s.tail
  | some _ => faultAhead .expectedColon s
  | none => faultAhead .endInObject s

/-- Whether a list goes on, and where its next item starts; `first` says that none has been read. -/
def readListStep (first : Bool) : Reader Bool := fun s =>
  let s := skipSpace s
  match s.head? with
  | none => faultAhead .endInList s
  | some ']' => .ok (false, s)
  | some ',' =>
    if first then .ok (true, s)
    else
      let rest := skipSpace s.tail
      match rest.head? with
      | some ']' => faultAhead .trailingComma rest
      | some _ => .ok (true, rest)
      | none => faultAhead .endInValue rest
  | some _ => if first then .ok (true, s) else faultAhead .expectedListCommaOrEnd s

/-- Reads the next key of an object with its colon, if there is one; `first` says that none has been
read. -/
def readKey (first : Bool) : Reader (Option String) := fun s => do
  let s := skipSpace s
  let start ← match s.head? with
    | none => faultAhead .endInObject s
    | some '}' => pure none
    | some ',' =>
      if first then faultAhead .keyMustBeString s
      else
        let rest := skipSpace s.tail
        match rest.head? with
        | some '"' => pure (some rest)
        | some '}' => faultAhead .trailingComma rest
        | some _ => faultAhead .keyMustBeString rest
        | none => faultAhead .endInValue rest
    | some c =>
      if !first then faultAhead .expectedObjectCommaOrEnd s
      else if c = '"' then pure (some s)
      else faultAhead .keyMustBeString s
  match start with
  | none => return (none, s)
  | some start =>
    let (key, rest) ← readString start.tail
    return (some key, rest)

mutual
/-- Reads a value. `depth` bounds how deep lists and objects may nest. -/
def readValue : Nat → Nat → Reader Json
  | 0, _, s => fault .endInValue s
  | fuel + 1, depth, s =>
    let s := skipSpace s
    match s.head? with
    | none => faultAhead .endInValue s
    | some '[' =>
      match depth with
      | 0 | 1 => faultAhead .tooDeep s
      | depth + 1 => readItems fuel depth [] s.tail
    | some '{' =>
      match depth with
      | 0 | 1 => faultAhead .tooDeep s
      | depth + 1 => readFields fuel depth [] true s.tail
    | some c => readScalar c s

/-- Reads the rest of a list, the last item read coming first in `done`. -/
def readItems : Nat → Nat → List Json → Reader Json
  | 0, _, _, s => fault .endInList s
  | fuel + 1, depth, done, s => do
    let (more, rest) ← readListStep done.isEmpty s
    if more then
      let (item, rest) ← readValue fuel depth rest
      readItems fuel depth (item :: done) rest
    else return (.arr done.reverse, rest.tail)

/-- Reads the rest of an object, the last field read coming first in `done`. -/
def readFields : Nat → Nat → List (String × Json) → Bool → Reader Json
  | 0, _, _, _, s => fault .endInObject s
  | fuel + 1, depth, done, first, s => do
    match ← readKey first s with
    | (none, rest) => return (Json.ofFields done.reverse, rest.tail)
    | (some key, rest) =>
      let rest ← readColon rest
      let (value, rest) ← readValue fuel depth rest
      readFields fuel depth ((key, value) :: done) false rest
end

/-- Lists and objects nest at most this deep. -/
def maxDepth : Nat := 128

/-- Checks that only blanks are left. -/
def readEnd (s : Span) : Except (Fault SyntaxError) Unit :=
  let s := skipSpace s
  if s.atEnd then .ok () else faultAhead .trailingCharacters s

/-- Reads a JSON text. -/
def parse (text : List Char) : Except (Fault SyntaxError) Json := do
  let (value, rest) ← readValue (2 * text.length + 2) maxDepth (Span.ofText text)
  readEnd rest
  return value

end StatementLens.Json
