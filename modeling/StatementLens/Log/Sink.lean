import StatementLens.Event
import StatementLens.Log.Clock
import StatementLens.Path

/-!
# Where logs go

The events of a run go to a file for the kind of run, and those of a command also to its error
output.
-/

namespace StatementLens.Log

/-- The kinds of runs. -/
inductive Sink where
  /-- Of a server, whose outputs belong to the editor. -/
  | server
  /-- Of a command. -/
  | command
  deriving DecidableEq, Repr

namespace Sink

/-- The name of the log file, before the date. -/
def name : Sink → String
  | .server => "lsp"
  | .command => "cli"

/-- Whether events are also written to the error output. -/
def echoes : Sink → Bool
  | .server => false
  | .command => true

end Sink

/-- The folder of the log files, given the home folder of the user. -/
def folder (home : Option Path) : Path :=
  ((home.getD (.ofString ".")).join (.ofString ".mapperlens")).join (.ofString "logs")

/-- The line of an event in a log file, without the time. -/
def fileLine (event : Event) : String :=
  event.level.name ++ " " ++ event.source ++ ": " ++ event.text

/-- The line of an event on the error output, without the time. -/
def echoLine (event : Event) : String := event.level.name ++ " " ++ event.text

/-- A line with the time in front of it, the levels of events being aligned. -/
def timed (moment : Moment) (event : Event) (line : String) : String :=
  let gap := String.ofList (List.replicate (5 - event.level.name.length) ' ')
  moment.text ++ " " ++ gap ++ line

/-- The name of the log file of a day. -/
def Sink.fileName (sink : Sink) (date : Date) : String := sink.name ++ "." ++ date.text

end StatementLens.Log
