import StatementLens.Json.Reader

/-!
# Skipping JSON values

A value that nobody asks for is read only as far as it takes to find its end. Numbers may be of any
size, lists and objects may nest at any depth, and code points are not looked at.
-/

namespace StatementLens.Json

open Text

/-- A list or object that has been opened. -/
inductive Frame where
  | list
  | object
  deriving DecidableEq, Repr

/-- The character that closes a list or object. -/
def Frame.close : Frame → Char
  | .list => ']'
  | .object => '\x7d'

/-- The error for a text that ends inside a list or object. -/
def Frame.endError : Frame → SyntaxError
  | .list => .endInList
  | .object => .endInObject

/-- The error for a character that cannot follow a value inside a list or object. -/
def Frame.commaError : Frame → SyntaxError
  | .list => .expectedListCommaOrEnd
  | .object => .expectedObjectCommaOrEnd

/-- Skips an escape, the backslash being read already. -/
def skipEscape (s : Span) : Except (Fault SyntaxError) Span := do
  match s.head? with
  | none => fault .endInString s
  | some c =>
    if c = 'u' then
      let (_, rest) ← readHex s.tail
      return rest
    else if ['"', '\\', '/', 'b', 'f', 'n', 'r', 't'].contains c then return s.tail
    else .error ⟨.invalidEscape, s.offset + 1⟩

/-- Skips the rest of a string, the opening quote being read already. -/
def skipString : Nat → Span → Except (Fault SyntaxError) Span
  | 0, s => fault .endInString s
  | fuel + 1, s => do
    let rest := s.dropWhile isPlain
    match rest.head? with
    | none => fault .endInString rest
    | some '"' => return rest.tail
    | some '\\' => skipString fuel (← skipEscape rest.tail)
    | some _ => .error ⟨.controlCharacter, rest.offset + 1⟩

/-- Skips a number without its sign. -/
def skipNumber (s : Span) : Except (Fault SyntaxError) Span := do
  match s.head? with
  | none => fault .endInValue s
  | some c =>
    if !c.isDigit then .error ⟨.invalidNumber, s.offset + 1⟩
    else
      let rest := if c = '0' then s.tail else s.dropWhile Char.isDigit
      if c = '0' && (rest.head?.map Char.isDigit).getD false then faultAhead .invalidNumber rest
      else
        let (_, rest) ← readFraction rest
        let (_, rest) ← readExponent rest
        return rest

/-- Skips a value that is neither a list nor an object, given its first character. -/
def skipScalar (first : Char) (s : Span) : Except (Fault SyntaxError) Span :=
  match first with
  | 'n' => readWord ['u', 'l', 'l'] s.tail
  | 't' => readWord ['r', 'u', 'e'] s.tail
  | 'f' => readWord ['a', 'l', 's', 'e'] s.tail
  | '-' => skipNumber s.tail
  | '"' => skipString (s.chars.length + 1) s.tail
  | c => if c.isDigit then skipNumber s else faultAhead .expectedValue s

/-- Skips the key in front of an item of an object, and nothing in front of an item of a list. -/
def skipKey (frame : Frame) (s : Span) : Except (Fault SyntaxError) Span := do
  match frame with
  | .list => return s
  | .object =>
    let s := skipSpace s
    match s.head? with
    | some '"' => readColon (← skipString (s.chars.length + 1) s.tail)
    | some _ => faultAhead .keyMustBeString s
    | none => faultAhead .endInObject s

mutual
/-- Skips a value and what follows it in the lists and objects around it, the innermost first. -/
def skipOpen : Nat → List Frame → Span → Except (Fault SyntaxError) Span
  | 0, _, s => fault .endInValue s
  | fuel + 1, frames, s => do
    let s := skipSpace s
    match s.head? with
    | none => faultAhead .endInValue s
    | some '[' => skipFirst fuel .list frames s.tail
    | some '{' => skipFirst fuel .object frames s.tail
    | some c => skipAfter fuel frames (← skipScalar c s)

/-- Skips a list or object that has just been opened. -/
def skipFirst : Nat → Frame → List Frame → Span → Except (Fault SyntaxError) Span
  | 0, _, _, s => fault .endInValue s
  | fuel + 1, frame, frames, s => do
    let s := skipSpace s
    match s.head? with
    | none => faultAhead frame.endError s
    | some c =>
      if c = frame.close then skipAfter fuel frames s.tail
      else skipOpen fuel (frame :: frames) (← skipKey frame s)

/-- Skips what follows a value in the lists and objects around it. -/
def skipAfter : Nat → List Frame → Span → Except (Fault SyntaxError) Span
  | 0, _, s => fault .endInValue s
  | _ + 1, [], s => .ok s
  | fuel + 1, frame :: frames, s => do
    let s := skipSpace s
    match s.head? with
    | none => faultAhead frame.endError s
    | some c =>
      if c = ',' then skipOpen fuel (frame :: frames) (← skipKey frame s.tail)
      else if c = frame.close then skipAfter fuel frames s.tail
      else faultAhead frame.commaError s
end

/-- Skips a value. -/
def skipValue (s : Span) : Except (Fault SyntaxError) Span :=
  skipOpen (2 * s.chars.length + 2) [] s

end StatementLens.Json
