import StatementLens.Text.Utf8

/-!
# Percent encoding

Bytes that a part of a URL cannot hold are written as a percent sign and two hexadecimal digits.
Each part has its own set of characters to encode; control characters and all beyond ASCII are in
every set.
-/

namespace StatementLens.Url

/-- Whether a byte is encoded in every part: control characters and those beyond ASCII. -/
def isControl (b : UInt8) : Bool := b < 0x20 || 0x7F ≤ b

/-- Whether a byte is one of these characters. -/
def isOneOf (chars : List Char) (b : UInt8) : Bool := chars.any fun c => c.toNat = b.toNat

/-- What is encoded in a fragment. -/
def fragmentSet (b : UInt8) : Bool := isControl b || isOneOf [' ', '"', '<', '>', '\x60'] b

/-- What is encoded in a path. -/
def pathSet (b : UInt8) : Bool := fragmentSet b || isOneOf ['#', '?', '\x7b', '\x7d'] b

/-- What is encoded in a segment of a path that stands for a file name. -/
def segmentSet (b : UInt8) : Bool := pathSet b || isOneOf ['/', '%', '\\'] b

/-- What is encoded in a user name or password. -/
def userinfoSet (b : UInt8) : Bool :=
  pathSet b || isOneOf ['/', ':', ';', '=', '@', '[', '\\', ']', '^', '|'] b

/-- What is encoded in a query. -/
def querySet (b : UInt8) : Bool := isControl b || isOneOf [' ', '"', '#', '<', '>'] b

/-- What is encoded in the query of a URL with a special scheme. -/
def specialQuerySet (b : UInt8) : Bool := querySet b || b = 0x27

/-- A hexadecimal digit in upper case. -/
def upperHex (n : Nat) : Char := (Nat.digitChar n).toUpper

/-- Encodes the bytes of a set. -/
def percentEncodeBytes (set : UInt8 → Bool) (bytes : List UInt8) : List Char :=
  bytes.flatMap fun b =>
    if set b then ['%', upperHex (b.toNat / 16), upperHex (b.toNat % 16)] else [Char.ofNat b.toNat]

/-- Encodes the characters of a set. -/
def percentEncode (set : UInt8 → Bool) (cs : List Char) : List Char :=
  percentEncodeBytes set (Text.encodeUtf8 (String.ofList cs))

/-- The value of a hexadecimal digit. -/
def hexOf (b : UInt8) : Option UInt8 :=
  if 0x30 ≤ b && b ≤ 0x39 then some (b - 0x30)
  else if 0x41 ≤ b && b ≤ 0x46 then some (b - 0x37)
  else if 0x61 ≤ b && b ≤ 0x66 then some (b - 0x57)
  else none

/-- The bytes that a percent-encoded text writes; a percent sign without two digits stands for
itself. -/
def percentDecodeBytes : List UInt8 → List UInt8
  | 0x25 :: a :: b :: rest =>
    match hexOf a, hexOf b with
    | some x, some y => (x * 16 + y) :: percentDecodeBytes rest
    | _, _ => 0x25 :: percentDecodeBytes (a :: b :: rest)
  | b :: rest => b :: percentDecodeBytes rest
  | [] => []

/-- The bytes that a percent-encoded text writes. -/
def percentDecode (cs : List Char) : List UInt8 :=
  percentDecodeBytes (Text.encodeUtf8 (String.ofList cs))

end StatementLens.Url
