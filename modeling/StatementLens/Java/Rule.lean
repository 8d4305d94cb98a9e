import StatementLens.Java.Token

/-!
# Rules

A grammar is a set of rules, written as data. A rule reads tokens from the front of a list: it takes
the first of its alternatives that fits, repeats a part as often as it fits, and may look ahead
without reading. What has been read is kept as a list of trees, in which only the parts with a label
have a node of their own.
-/

namespace StatementLens.Java

/-- A test on a single token. -/
inductive Terminal where
  /-- A word in its meaning. -/
  | keyword (keyword : Keyword)
  /-- Any word but these. -/
  | wordExcept (keywords : List Keyword)
  /-- One of these words. -/
  | wordAmong (keywords : List Keyword)
  | symbol (symbol : Symbol)
  /-- A symbol that follows the token before it without a gap. -/
  | gluedSymbol (symbol : Symbol)
  /-- A word that follows the token before it without a gap. -/
  | gluedKeyword (keyword : Keyword)
  /-- A word with a spelling that has no meaning. -/
  | spelled (chars : List Char)
  | number
  | character
  | text
  | textOpen
  | textMiddle
  | textClose

/-- Whether a token passes a test. -/
def Terminal.accepts (terminal : Terminal) (t : Token) : Bool :=
  match terminal with
  | .keyword k => t.kind = .word (some k)
  | .wordExcept ks =>
    match t.kind with
    | .word none => true
    | .word (some k) => !ks.contains k
    | _ => false
  | .wordAmong ks =>
    match t.kind with
    | .word (some k) => ks.contains k
    | _ => false
  | .symbol s => t.kind = .symbol s
  | .gluedSymbol s => t.kind = .symbol s && t.glued
  | .gluedKeyword k => t.kind = .word (some k) && t.glued
  | .spelled cs => t.kind = .word none && t.chars = cs
  | .number => t.kind = .number
  | .character => t.kind = .character
  | .text => t.kind = .text
  | .textOpen => t.kind = .textOpen
  | .textMiddle => t.kind = .textMiddle
  | .textClose => t.kind = .textClose

/-- A rule over rules with names in `ν` and labels in `κ`. -/
inductive Rule (ν κ : Type) where
  /-- Reads nothing. -/
  | empty
  /-- Reads a token. -/
  | one (terminal : Terminal)
  /-- Reads one part and then another. -/
  | both (first second : Rule ν κ)
  /-- Reads the first part, or the second if the first does not fit. -/
  | either (first second : Rule ν κ)
  /-- Reads a part as often as it fits. -/
  | many (part : Rule ν κ)
  /-- Reads nothing, but only where the part fits. -/
  | ahead (part : Rule ν κ)
  /-- Reads nothing, but only where the part does not fit. -/
  | notAhead (part : Rule ν κ)
  /-- Reads what the rule with a name reads. -/
  | call (name : ν)
  /-- Reads a part and makes it a node. -/
  | node (label : κ) (part : Rule ν κ)

/-- What a rule has read. -/
inductive Tree (κ : Type) where
  | leaf (token : Token)
  | node (label : κ) (children : List (Tree κ))
  deriving Repr

namespace Rule

variable {ν κ : Type}

/-- Reads parts one after the other. -/
def seq : List (Rule ν κ) → Rule ν κ
  | [] => .empty
  | [r] => r
  | r :: rest => .both r (seq rest)

/-- Reads the first part that fits. -/
def choice : List (Rule ν κ) → Rule ν κ
  | [] => .notAhead .empty
  | [r] => r
  | r :: rest => .either r (choice rest)

/-- Reads a part if it fits. -/
def optional (r : Rule ν κ) : Rule ν κ := .either r .empty

/-- Reads a part at least once. -/
def many1 (r : Rule ν κ) : Rule ν κ := .both r (.many r)

/-- Reads a symbol. -/
def symbol (s : Symbol) : Rule ν κ := .one (.symbol s)

/-- Reads a word in its meaning. -/
def keyword (k : Keyword) : Rule ν κ := .one (.keyword k)

/-- Reads a word as a name, unless it is one of those with a meaning here. -/
def nameExcept (ks : List Keyword) : Rule ν κ := .one (.wordExcept ks)

/-- Reads parts with a symbol between them. -/
def separated (s : Symbol) (r : Rule ν κ) : Rule ν κ := .both r (.many (.both (symbol s) r))

/-- Reads parts with commas between them, if there are any. -/
def commas (r : Rule ν κ) : Rule ν κ := optional (separated .comma r)

/-- Reads a part in parentheses. -/
def parens (r : Rule ν κ) : Rule ν κ := seq [symbol .leftParen, r, symbol .rightParen]

/-- Reads a part in braces. -/
def braces (r : Rule ν κ) : Rule ν κ := seq [symbol .leftBrace, r, symbol .rightBrace]

/-- Reads tokens by a rule: the trees read, the last one first, put onto `done`, and the tokens
left. `fuel` bounds how deep rules nest and how often parts are repeated. -/
def run (rules : ν → Rule ν κ) : Nat → Rule ν κ → List (Tree κ) → List Token →
    Option (List (Tree κ) × List Token)
  | 0, _, _, _ => none
  | _ + 1, .empty, done, ts => some (done, ts)
  | _ + 1, .one terminal, done, ts =>
    match ts with
    | [] => none
    | t :: rest => if terminal.accepts t then some (.leaf t :: done, rest) else none
  | fuel + 1, .both first second, done, ts =>
    match run rules fuel first done ts with
    | none => none
    | some (done, rest) => run rules fuel second done rest
  | fuel + 1, .either first second, done, ts =>
    match run rules fuel first done ts with
    | none => run rules fuel second done ts
    | some result => some result
  | fuel + 1, .many part, done, ts =>
    match run rules fuel part done ts with
    | none => some (done, ts)
    | some (done, rest) => run rules fuel (.many part) done rest
  | fuel + 1, .ahead part, done, ts =>
    match run rules fuel part [] ts with
    | none => none
    | some _ => some (done, ts)
  | fuel + 1, .notAhead part, done, ts =>
    match run rules fuel part [] ts with
    | none => some (done, ts)
    | some _ => none
  | fuel + 1, .call name, done, ts => run rules fuel (rules name) done ts
  | fuel + 1, .node label part, done, ts =>
    match run rules fuel part [] ts with
    | none => none
    | some (children, rest) => some (.node label children.reverse :: done, rest)

/-- Reads all tokens by the rule with a name. -/
def parse (rules : ν → Rule ν κ) (fuel : Nat) (name : ν) (ts : List Token) :
    Option (List (Tree κ)) :=
  match run rules fuel (.call name) [] ts with
  | some (done, []) => some done.reverse
  | _ => none

end Rule

end StatementLens.Java
