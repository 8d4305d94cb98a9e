/-!
# UTF-8

Reading texts from bytes. `decodeUtf8` refuses bytes that are no UTF-8; `decodeUtf8Lossy` puts a
replacement character in place of each stretch of bytes that begins a character and does not end it,
and of each byte that cannot begin one.
-/

namespace StatementLens.Text

/-- The pieces of a byte sequence between separators. -/
def splitBytes (separator : UInt8) (bytes : List UInt8) : List (List UInt8) :=
  let (last, done) := bytes.foldl
    (fun (piece, done) b =>
      if b = separator then ([], piece.reverse :: done) else (b :: piece, done))
    (([] : List UInt8), ([] : List (List UInt8)))
  (last.reverse :: done).reverse

/-- The bytes of a text. -/
def encodeUtf8 (s : String) : List UInt8 := s.toUTF8.toList

/-- Whether a byte goes on with a character. -/
def isContinuation (b : UInt8) : Bool := 0x80 ≤ b && b ≤ 0xBF

/-- How many bytes follow the first byte of a character, if the byte can be one. -/
def followers (b : UInt8) : Option Nat :=
  if b < 0x80 then some 0
  else if 0xC2 ≤ b && b ≤ 0xDF then some 1
  else if 0xE0 ≤ b && b ≤ 0xEF then some 2
  else if 0xF0 ≤ b && b ≤ 0xF4 then some 3
  else none

/-- Whether a byte may come second in a character that begins with `first`. -/
def maySecond (first b : UInt8) : Bool :=
  if first = 0xE0 then 0xA0 ≤ b && b ≤ 0xBF
  else if first = 0xED then 0x80 ≤ b && b ≤ 0x9F
  else if first = 0xF0 then 0x90 ≤ b && b ≤ 0xBF
  else if first = 0xF4 then 0x80 ≤ b && b ≤ 0x8F
  else isContinuation b

/-- The bits that the first byte of a character of `n + 1` bytes contributes. -/
def leadBits (b : UInt8) (n : Nat) : Nat :=
  match n with
  | 0 => b.toNat
  | 1 => b.toNat % 32
  | 2 => b.toNat % 16
  | _ => b.toNat % 8

/-- The bytes that go on with a character that begins with `first` and has `n` bytes to follow, as
far as they are right. -/
def takeFollowers (first : UInt8) (n : Nat) (bytes : List UInt8) : List UInt8 :=
  match n, bytes with
  | 0, _ => []
  | _, [] => []
  | n + 1, b :: rest =>
    if maySecond first b then b :: (rest.take n).takeWhile isContinuation else []

/-- The character at the front of the bytes, or none if there is none, and the number of bytes after
the first that go with it. -/
def decodeFirst (first : UInt8) (rest : List UInt8) : Option Char × Nat :=
  match followers first with
  | none => (none, 0)
  | some n =>
    let taken := takeFollowers first n rest
    if taken.length = n then
      let code := taken.foldl (fun acc b => acc * 64 + b.toNat % 64) (leadBits first n)
      (some (Char.ofNat code), n)
    else (none, taken.length)

/-- Carries the decoding; `done` holds the characters read, the last one first. -/
def decodeChars (done : List (Option Char)) : List UInt8 → List (Option Char)
  | [] => done.reverse
  | first :: rest =>
    let (c, extra) := decodeFirst first rest
    decodeChars (c :: done) (rest.drop extra)
  termination_by bytes => bytes.length
  decreasing_by simp only [List.length_drop, List.length_cons]; omega

/-- The text of the bytes, with a replacement character for what is no UTF-8. -/
def decodeUtf8Lossy (bytes : List UInt8) : String :=
  String.ofList ((decodeChars [] bytes).map fun c => c.getD (Char.ofNat 0xFFFD))

/-- The text of the bytes, if they are UTF-8. -/
def decodeUtf8 (bytes : List UInt8) : Option String :=
  ((decodeChars [] bytes).mapM id).map String.ofList

end StatementLens.Text
