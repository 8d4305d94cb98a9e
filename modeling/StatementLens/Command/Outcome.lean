import StatementLens.Command.Arguments
import StatementLens.Command.Lens
import StatementLens.Log.Filter
import StatementLens.Log.Sink

/-!
# Running commands

What a run of the program leads to: what it prints, what it tells the log, and the code with which
it ends.
-/

namespace StatementLens.Command

/-- What a run leads to. -/
structure Outcome where
  code : Nat
  /-- The text on the standard output. -/
  output : String
  /-- The text on the error output, besides the log. -/
  complaint : String
  /-- Where the log goes, if there is one. -/
  sink : Option Log.Sink
  /-- The events in the log. -/
  events : List Event

namespace Outcome

/-- The outcome of a call that does not lead to a run. Help and version go to the standard output.
-/
def ofRefusal (r : Refusal) : Outcome :=
  if r.code = 0 then ⟨0, r.message, "", none, []⟩ else ⟨r.code, "", r.message, none, []⟩

/-- The outcome of a session with an editor, which has its outputs for itself. -/
def ofSession (filter : Log.Filter) (events : List Event) : Outcome :=
  ⟨0, "", "", some .server, events.filter filter.shows⟩

/-- The outcome of listing the lenses of a file. -/
def ofListing (filter : Log.Filter) (listing : Except LensFault String × List Event) : Outcome :=
  let events := listing.2.filter filter.shows
  match listing.1 with
  | .ok text => ⟨0, text, "", some .command, events⟩
  | .error fault => ⟨1, "", "Error: " ++ fault.describe ++ "\n", some .command, events⟩

/-- The events that are shown on the error output. -/
def echoed (o : Outcome) : List Event := if o.sink.any Log.Sink.echoes then o.events else []

end Outcome

/-- Runs a call. A server is not sent anything by its editor. -/
def run (disk : Disk) (filter : Log.Filter) (arguments : List String) : Outcome :=
  match Request.read arguments with
  | .error refusal => .ofRefusal refusal
  | .ok .serve => .ofSession filter []
  | .ok (.lens file folder json) =>
    .ofListing filter
      ((listLenses disk (.ofString file) (folder.map .ofString) json).run [])

end StatementLens.Command
