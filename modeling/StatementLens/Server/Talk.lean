import StatementLens.Event
import StatementLens.Server.Rpc

/-!
# Talking to an editor

While a server handles a call, it may send notifications to the editor, and requests whose replies
it waits for. Such a talk is a value, so that it can be held with any editor.
-/

namespace StatementLens.Server

/-- A talk with an editor that leads to a value of type `α`. -/
inductive Talk (α : Type) where
  | done (a : α)
  /-- Tells of an event. -/
  | tell (event : Event) (next : Talk α)
  /-- Sends a notification. -/
  | notify (method : String) (params : Json) (next : Talk α)
  /-- Sends a request and goes on with its reply. -/
  | request (method : String) (params : Option Json) (next : Reply → Talk α)

namespace Talk

/-- Goes on after a talk. -/
def bind {α β : Type} : Talk α → (α → Talk β) → Talk β
  | .done a, f => f a
  | .tell event next, f => .tell event (next.bind f)
  | .notify method params next, f => .notify method params (next.bind f)
  | .request method params next, f => .request method params fun reply => (next reply).bind f

instance : Monad Talk where
  pure := .done
  bind := Talk.bind

/-- Tells of events and goes on. -/
def tellAll {α : Type} (events : List Event) (next : Talk α) : Talk α :=
  events.foldr Talk.tell next

/-- A computation that tells of events, as a talk. -/
def ofLogged {α : Type} (c : Logged α) : Talk α :=
  let (a, events) := c.run []
  tellAll events (.done a)

/-- What is sent to an editor. -/
structure Sent where
  method : String
  params : Option Json

/-- What comes of a talk. -/
structure Outcome (α : Type) where
  value : α
  sent : List Sent
  events : List Event

/-- Holds a talk with an editor whose replies depend on the method only. -/
def run {α : Type} (replies : String → Reply) : Talk α → Outcome α
  | .done a => ⟨a, [], []⟩
  | .tell event next =>
    let o := next.run replies
    { o with events := event :: o.events }
  | .notify method params next =>
    let o := next.run replies
    { o with sent := ⟨method, some params⟩ :: o.sent }
  | .request method params next =>
    let o := (next (replies method)).run replies
    { o with sent := ⟨method, params⟩ :: o.sent }

end Talk

end StatementLens.Server
