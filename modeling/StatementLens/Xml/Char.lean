/-!
# Characters of XML

The classes of characters that the grammar of XML names.
-/

namespace StatementLens.Xml

/-- Whether a character is white space. -/
def isSpace (c : Char) : Bool := c = ' ' || c = '\t' || c = '\n' || c = '\r'

/-- Whether a character may stand in a document. -/
def isXmlChar (c : Char) : Bool :=
  if c.toNat < 0x20 then isSpace c else c.toNat ≠ 0xFFFE && c.toNat ≠ 0xFFFF

/-- Whether a number lies in one of some closed intervals. -/
def inIntervals (intervals : List (Nat × Nat)) (n : Nat) : Bool :=
  intervals.any fun (lo, hi) => lo ≤ n && n ≤ hi

/-- The characters beyond ASCII that names may begin with. -/
def nameStartIntervals : List (Nat × Nat) :=
  [(0xC0, 0xD6), (0xD8, 0xF6), (0xF8, 0x2FF), (0x370, 0x37D), (0x37F, 0x1FFF), (0x200C, 0x200D),
    (0x2070, 0x218F), (0x2C00, 0x2FEF), (0x3001, 0xD7FF), (0xF900, 0xFDCF), (0xFDF0, 0xFFFD),
    (0x10000, 0xEFFFF)]

/-- The further characters beyond ASCII that names may hold. -/
def nameIntervals : List (Nat × Nat) := [(0xB7, 0xB7), (0x300, 0x36F), (0x203F, 0x2040)]

/-- Whether a name may begin with a character. -/
def isNameStart (c : Char) : Bool :=
  if c.toNat ≤ 0x80 then c.isAlpha || c = ':' || c = '_' else inIntervals nameStartIntervals c.toNat

/-- Whether a name may hold a character. -/
def isNameChar (c : Char) : Bool :=
  isNameStart c || (if c.toNat ≤ 0x80 then c.isDigit || c = '-' || c = '.'
    else inIntervals nameIntervals c.toNat)

end StatementLens.Xml
