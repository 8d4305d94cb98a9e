/-!
# Events

What is told about a run while it goes on. Each event has a level and comes from a part of the
program.
-/

namespace StatementLens

/-- How much an event matters. -/
inductive Level where
  | error
  | warn
  | info
  | debug
  | trace
  deriving DecidableEq, Repr, Inhabited

namespace Level

/-- The name of a level in logs. -/
def name : Level → String
  | .error => "ERROR"
  | .warn => "WARN"
  | .info => "INFO"
  | .debug => "DEBUG"
  | .trace => "TRACE"

/-- The rank of a level; what matters most has the lowest. -/
def rank : Level → Nat
  | .error => 1
  | .warn => 2
  | .info => 3
  | .debug => 4
  | .trace => 5

end Level

/-- An event: its level, the part of the program that it comes from, and what it says. -/
structure Event where
  level : Level
  source : String
  text : String
  deriving DecidableEq, Repr, Inhabited

/-- A computation that tells of events, in their order. -/
abbrev Logged := StateM (List Event)

/-- Tells of an event. -/
def note (event : Event) : Logged Unit := modify (· ++ [event])

/-- Tells of events. -/
def noteAll (events : List Event) : Logged Unit := modify (· ++ events)

end StatementLens
