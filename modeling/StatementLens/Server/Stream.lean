import StatementLens.Files.Look
import StatementLens.Json.Reader
import StatementLens.Server.Session

/-!
# Streams of messages

An editor sends the messages of a session one after another, each as a text. A text that is no
message ends the session.
-/

namespace StatementLens.Server

/-- A message of an editor. -/
inductive Incoming where
  | call (c : Call)
  /-- A reply to a request of the server. -/
  | reply (id : CallId) (reply : Reply)
  /-- An empty message, which means nothing. -/
  | nothing

/-- Why what comes from an editor is no message. -/
inductive MessageFault where
  /-- Its length is not given. -/
  | noLength
  /-- It is no text. -/
  | notText
  /-- It is no JSON. -/
  | notJson (text : String)
  /-- It is JSON of another shape. -/
  | otherShape

namespace MessageFault

/-- The text of a fault. -/
def message : MessageFault → String
  | .noLength => "missing required \x60Content-Length\x60 header"
  | .notText => "request contains invalid UTF8"
  | .notJson text => "unable to parse JSON body: " ++ text
  | .otherShape =>
    "unable to parse JSON body: data did not match any variant of untagged enum Message"

/-- What the editor is told. -/
def callError : MessageFault → CallError
  | .otherShape => .invalidRequest
  | _ => .unreadable "Parse error"

/-- What the log is told. -/
def event (fault : MessageFault) : Event :=
  ⟨.error, "tower_lsp::transport", "failed to decode message: " ++ fault.message⟩

end MessageFault

/-- Reads an error that an editor replies with. -/
def CallError.decode : Json.Decoder CallError :=
  let record := (((Json.Record.required "code" (fun
      | .int n => .ok n
      | j => .error (.invalidType j "i64"))).map CallError.mk).andAlso
    (Json.Record.required "message" Json.decodeString)).andAlso
    (Json.Record.withDefault "data" (fun j => .ok (some j)) none)
  record.decode "struct Error" .setAside

namespace Incoming

/-- Reads a reply to a request of the server. -/
def readReply? : Json → Option Incoming
  | .obj fields => do
    let version ← fields.lookup "jsonrpc"
    let _ ← (Call.decodeVersion version).toOption
    let id ← (CallId.decode (← fields.lookup "id")).toOption
    match fields.lookup "result" with
    | some result => return .reply id (.ok result)
    | none => return .reply id (.error (← (CallError.decode (← fields.lookup "error")).toOption))
  | _ => none

/-- Reads a message. -/
def ofJson (j : Json) : Except MessageFault Incoming :=
  match readReply? j with
  | some incoming => .ok incoming
  | none =>
    match Call.decode j with
    | .ok c => .ok (.call c)
    | .error _ => .error .otherShape

/-- Reads the text of a message. -/
def ofText (text : String) : Except MessageFault Incoming :=
  if text.isEmpty then .ok .nothing
  else
    match Json.parse text.toList with
    | .ok j => ofJson j
    | .error f => .error (.notJson (f.message Json.SyntaxError.message text.toList))

end Incoming

/-- A message of the server, with the version of the protocol. -/
def framed (fields : List (String × Json)) : Json := .obj (("jsonrpc", .str Call.version) :: fields)

/-- A response as a message. -/
def Response.toMessage (r : Response) : Json :=
  match r.toJson with
  | .obj fields => framed fields
  | j => j

/-- A notification as a message. -/
def notificationMessage (method : String) (params : Json) : Json :=
  framed [("method", .str method), ("params", params)]

/-- A request as a message. -/
def requestMessage (id : Nat) (method : String) (params : Option Json) : Json :=
  let params := match params with
    | some params => [("params", params)]
    | none => []
  framed ([("method", .str method)] ++ params ++ [("id", .nat id)])

/-- The state of a stream: the session, until the stream ends. -/
abbrev Stream := Option Session

/-- What is told of a message after the end of a session. -/
def goneEvent : Event := ⟨.error, "tower_lsp::transport", "language server has exited"⟩

/-- What is told of a reply that no request waits for. -/
def strayReply (id : CallId) : Event :=
  let source := "tower_lsp::service::client::pending"
  match id with
  | .null => ⟨.warn, source, "received response with request ID of \x60null\x60, ignoring"⟩
  | id => ⟨.warn, source, "received response with unknown request ID: " ++ id.toJson.write⟩

/-- What has to be looked at for a message. -/
def looks (s : Session) : Incoming → List Look
  | .call c =>
    match c.method with
    | "initialize" =>
      match readParams decodeStart c with
      | .ok p => p.paths.map Look.config
      | .error _ => []
    | "textDocument/codeLens" =>
      match readParams decodeLensParams c with
      | .ok url =>
        let root := url.toPath?.bind (s.config.searchRoot? s.workspace)
        (root.map Look.below).toList
      | .error _ => []
    | _ => []
  | _ => []

/-- Handles a message, or what is no message. The result says what the editor is answered. -/
def receive (disk : Disk) (s : Session) :
    Except MessageFault Incoming → Talk (Stream × Option Response)
  | .error fault => .tell fault.event (.done (none, some ⟨.null, .error fault.callError⟩))
  | .ok .nothing => .done (some s, none)
  | .ok (.reply id _) => .tell (strayReply id) (.done (some s, none))
  | .ok (.call c) => do
    match ← serve disk s c with
    | (s, .silence) => return (some s, none)
    | (s, .response r) => return (some s, some r)
    | (_, .gone) => .tell goneEvent (.done (none, none))

end StatementLens.Server
