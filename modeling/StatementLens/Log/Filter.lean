import StatementLens.Event
import StatementLens.Text.Alphanumeric
import StatementLens.Text.Blank
import StatementLens.Text.Bytes

/-!
# Log filters

A filter is a list of directives, each of which says up to which level events are shown, in general
or for the parts of the program whose names begin in some way. The directive with the longest name
decides about an event, and among equal ones the last.
-/

namespace StatementLens.Log

/-- Shows events up to a rank; no event has the rank zero. -/
structure Directive where
  /-- How the names of the parts of the program begin that are meant, or all of them. -/
  source : Option (List Char)
  limit : Nat
  deriving DecidableEq, Repr

namespace Directive

/-- The names of ranks. -/
def limitNames : List (String × Nat) :=
  [("off", 0), ("error", 1), ("warn", 2), ("info", 3), ("debug", 4), ("trace", 5)]

/-- The rank of all events. -/
def everything : Nat := Level.trace.rank

/-- Reads a rank that is written as a number. -/
def readNumber? (text : List Char) : Option Nat :=
  let digits := if text.head? = some '+' then text.tail else text
  if !digits.isEmpty && digits.all Char.isDigit then
    let value := digits.foldl (fun n c => 10 * n + (c.toNat - '0'.toNat)) 0
    if value ≤ everything then some value else none
  else none

/-- Reads a rank: a number, or a name in any case. -/
def readLimit? (text : List Char) : Option Nat :=
  match readNumber? text with
  | some n => some n
  | none => limitNames.lookup (String.ofList (text.map Char.toLower))

/-- Reads what may follow an equals sign: a rank, or nothing for all events. -/
def readAfterSign? (text : List Char) : Option Nat :=
  if text.isEmpty then some everything else readLimit? text

/-- Whether a directive may start with a character. -/
def mayStart (c : Char) : Bool := c = '-' || c = ':' || c = '_' || Text.isAlphanumeric c

/-- What a directive is about. -/
inductive Parsed where
  /-- Single events. -/
  | events (d : Directive)
  /-- Events within some larger action, of which there are none. -/
  | action

/-- Reads what follows the bracket that opens the name of an action. -/
def readAction? (text : List Char) : Option Parsed :=
  match text.dropWhile (· ≠ ']') with
  | [_] => some .action
  | _ :: '=' :: limit => (readAfterSign? limit).map fun _ => .action
  | _ => none

/-- Reads a directive. Blanks around it count as part of it. -/
def read? (text : List Char) : Option Parsed :=
  match Text.trim text with
  | [] => none
  | '[' :: rest => readAction? rest
  | c :: _ =>
    if !mayStart c then none
    else
      let name := text.takeWhile fun c => c ≠ '=' && c ≠ '['
      match text.dropWhile fun c => c ≠ '=' && c ≠ '[' with
      | [] =>
        match readLimit? text with
        | some limit => some (.events ⟨none, limit⟩)
        | none => some (.events ⟨some text, everything⟩)
      | '=' :: limit =>
        if Text.isBlank (text.headD c) then none
        else (readAfterSign? limit).map fun limit => .events ⟨some name, limit⟩
      | _ :: rest => readAction? rest

/-- Whether a directive is about a part of the program. -/
def isAbout (d : Directive) (source : List Char) : Bool :=
  match d.source with
  | some name => name.isPrefixOf source
  | none => true

/-- How specific a directive is. -/
def weight (d : Directive) : Nat :=
  match d.source with
  | some name => name.length + 1
  | none => 0

end Directive

/-- Which events are shown. -/
structure Filter where
  directives : List Directive
  deriving DecidableEq, Repr

namespace Filter

/-- Shows events up to a level. -/
def upTo (level : Level) : Filter := ⟨[⟨none, level.rank⟩]⟩

/-- Reads a filter: directives between commas. An empty filter shows errors only. -/
def read? (text : String) : Option Filter :=
  let pieces := (Text.splitOn (· = ',') text.toList).filter fun piece => !piece.isEmpty
  if pieces.isEmpty then some (upTo .error)
  else
    (pieces.mapM Directive.read?).map fun parsed =>
      ⟨parsed.filterMap fun
        | .events d => some d
        | .action => none⟩

/-- The directive that decides about a part of the program. -/
def deciding? (filter : Filter) (source : List Char) : Option Directive :=
  (filter.directives.filter fun d => d.isAbout source).foldl
    (fun best d =>
      match best with
      | none => some d
      | some b => if b.weight ≤ d.weight then some d else some b)
    none

/-- Whether an event is shown. -/
def shows (filter : Filter) (event : Event) : Bool :=
  match filter.deciding? event.source.toList with
  | some d => event.level.rank ≤ d.limit
  | none => false

/-- The first of some texts that can be read as a filter, or else the filter that shows events up to
the level of information. -/
def choose (texts : List (Option String)) : Filter :=
  (texts.findSome? fun text => text.bind read?).getD (upTo .info)

end Filter

end StatementLens.Log
