import StatementLens.Correlate
import StatementLens.Config.Load
import StatementLens.Json.Writer
import StatementLens.Server.Params
import StatementLens.Server.Talk
import StatementLens.Server.Unsupported

/-!
# Sessions

A session is what a server remembers between two calls: how far the session has come, the documents
that are open in the editor, and the folders of the workspace. Handling a call is a talk with the
editor that leads to the next session.
-/

namespace StatementLens.Server

/-- How far a session has come. -/
inductive Phase where
  /-- Not initialized yet. -/
  | fresh
  | running
  /-- Shut down, but not ended. -/
  | stopped
  | ended
  deriving DecidableEq, Repr

/-- A document in an editor and its version. -/
structure OpenDocument where
  document : Document
  version : Int

/-- The state of a session. -/
structure Session where
  phase : Phase
  /-- The open documents by their URLs. -/
  documents : List (String × OpenDocument)
  workspace : Workspace
  config : Config
  /-- Whether the editor supports refreshing lenses. -/
  refreshes : Bool

namespace Session

/-- A session that has not begun. -/
def initial : Session := ⟨.fresh, [], ⟨[]⟩, .standard, false⟩

/-- The open document with a URL. -/
def document? (s : Session) (url : Url) : Option OpenDocument := s.documents.lookup url.toString

/-- Closes the document with a URL. -/
def close (s : Session) (url : Url) : Session :=
  { s with documents := s.documents.filter fun entry => entry.1 ≠ url.toString }

/-- Opens a document, in place of the one with the same URL. -/
def openText (s : Session) (url : Url) (version : Int) (text : List Char) : Session :=
  let entry := (url.toString, ⟨⟨url.toString, .ofText text⟩, version⟩)
  { s with documents := (s.close url).documents ++ [entry] }

/-- The texts that the session sees: those of open documents, and of the files on a disk. -/
def source (s : Session) (disk : Disk) : TextSource :=
  .ofOpen (fun url => (s.document? url).map fun d => String.ofList d.document.text) disk

/-- The lenses of a document in the session. -/
def lenses (s : Session) (disk : Disk) (d : Document) : Attempt (List Lens) :=
  Correlate.lenses disk s.config s.workspace (s.source disk) d

end Session

/-! ## Events and texts -/

/-- Makes an event of the server. -/
def event (level : Level) (text : String) : Event := ⟨level, "mapperlens_lsp", text⟩

/-- Makes an event of the handling of calls. -/
def callEvent (level : Level) (text : String) : Event := ⟨level, "tower_lsp::service::layers", text⟩

/-- What is told of a call that is not provided. -/
def notProvided (level : Level) (kind method : String) : Event :=
  ⟨level, "tower_lsp", "Got a " ++ method ++ " " ++ kind ++ ", but it is not implemented"⟩

/-- What the server can do. -/
def capabilities : Json :=
  .obj [
    ("textDocumentSync", .nat 2),
    ("codeLensProvider", .obj [("resolveProvider", .bool false)]),
    ("executeCommandProvider", .obj [("commands", .arr [.str Action.addSectionCommand])]),
    ("workspace", .obj [("workspaceFolders",
      .obj [("supported", .bool true), ("changeNotifications", .bool true)])])]

/-- The name and the version of the server. -/
def serverInfo : Json := .obj [("name", .str "mapperlens"), ("version", .str "0.1.0")]

/-- How important a message is that an editor shows. -/
inductive MessageType where
  | error
  | warning
  | info

/-- The number of a type of messages. -/
def MessageType.number : MessageType → Nat
  | .error => 1
  | .warning => 2
  | .info => 3

/-- Lets the editor show a message. -/
def showMessage (type : MessageType) (text : String) : Talk Unit :=
  .notify "window/logMessage" (.obj [("type", .nat type.number), ("message", .str text)]) (.done ())

/-- A lens as the editor gets it. -/
def lensJson (lens : Lens) : Json :=
  .obj [("range", lens.range.toJson),
    ("command", .obj [("title", .str lens.action.title), ("command", .str lens.action.command),
      ("arguments", .arr lens.action.arguments)])]

/-- Whether a URL is that of an XML file. -/
def isXmlUrl (url : Url) : Bool := ".xml".toList.isSuffixOf url.path

/-! ## Handling -/

/-- The configuration of a session: the options of the editor, or else the file in the first folder.
A configuration that does not fit is replaced by the standard one. -/
def startConfig (disk : Disk) (options : Option Json) (folders : List Path) : Logged Config := do
  let loaded := match options, folders with
    | some options, _ => Config.ofOptions options
    | none, folder :: _ => Config.load disk folder
    | none, [] => .ok .standard
  match loaded with
  | .ok config => return config
  | .error failure =>
    note (event .warn ("Invalid configuration, using defaults: " ++ failure.message))
    return .standard

/-- Starts a session. -/
def start (disk : Disk) (s : Session) (p : StartParams) : Talk (Session × Reply) := do
  let config ← Talk.ofLogged (startConfig disk p.options p.paths)
  Talk.tell (Correlate.ready config) (.done ())
  let session : Session := {
    phase := .running
    documents := s.documents
    workspace := p.paths.foldl Workspace.add s.workspace
    config := config
    refreshes := p.refreshes }
  return (session, .ok (.obj [("capabilities", capabilities), ("serverInfo", serverInfo)]))

/-- Asks the editor for its lenses to be computed again, after a change of an XML file. -/
def refreshAfter (s : Session) (url : Url) : Talk Unit :=
  if isXmlUrl url && s.refreshes then
    .request "workspace/codeLens/refresh" none fun
      | .ok .null => .done ()
      | .ok other =>
        let e := CallError.unreadable (Json.DecodeError.invalidType other "unit").message
        .tell (event .debug ("codeLens/refresh failed: " ++ e.describe)) (.done ())
      | .error e => .tell (event .debug ("codeLens/refresh failed: " ++ e.describe)) (.done ())
  else .done ()

/-- Changes an open document. Changes of other documents are not looked at. -/
def change (s : Session) (p : ChangeParams) : Talk Session :=
  match s.document? p.url with
  | none => return s
  | some d => do
    let s := s.openText p.url p.version (applyChanges d.document.text p.changes)
    refreshAfter s p.url
    return s

/-- Changes the folders of the workspace. -/
def changeFolders (s : Session) (p : FolderParams) : Session :=
  let removed := (p.removed.filterMap Url.toPath?).foldl Workspace.remove s.workspace
  { s with workspace := (p.added.filterMap Url.toPath?).foldl Workspace.add removed }

/-- Tells that the lenses of a document cannot be computed. -/
def refuseLenses (url : Url) (failure : Failure) : Talk Reply := do
  Talk.tell ⟨.error, "mapperlens_lsp::lens",
    "Code lens failed for " ++ url.toString ++ ": " ++ failure.message⟩ (.done ())
  let error := CallError.internal failure.message
  showMessage .error ("LSP Error: " ++ error.describe)
  return .error error

/-- Computes the lenses of an open document. -/
def answerLenses (disk : Disk) (s : Session) (url : Url) : Talk Reply := do
  Talk.tell (event .debug ("LSP Request: textDocument/codeLens uri=" ++ url.toString)) (.done ())
  match s.document? url with
  | none =>
    Talk.tell (event .debug ("LSP Response: document not open " ++ url.toString)) (.done ())
    return .ok .null
  | some d =>
    match ← Talk.ofLogged (s.lenses disk d.document).run with
    | .error failure => refuseLenses url failure
    | .ok lenses =>
      Talk.tell (event .debug ("LSP Response: " ++ toString lenses.length ++ " code lenses for "
        ++ url.toString)) (.done ())
      return .ok (.arr (lenses.map lensJson))

/-- The edit that adds a statement. -/
def sectionEdit (p : Section) : Json :=
  let edit := .obj [("range", (Range.emptyAt p.position).toJson), ("newText", .str p.text)]
  .obj [("edit", .obj [("changes", .obj [(p.url.toString, .arr [edit])])])]

/-- How the editor is asked to show an added statement. -/
def sectionView (p : Section) : Json :=
  let cursor := Range.emptyAt (cursorAfterInsert p.position p.text)
  .obj [("uri", .str p.url.toString), ("external", .bool false), ("takeFocus", .bool true),
    ("selection", cursor.toJson)]

/-- Tells that the editor does not add a statement. -/
def refuseSection (p : Section) (reason : String) : Talk Reply := do
  Talk.tell ⟨.warn, "mapperlens_lsp::command",
    "Client rejected edit to " ++ p.url.toString ++ ": " ++ reason⟩ (.done ())
  showMessage .warning ("Could not add section to " ++ p.url.toString ++ ": " ++ reason)
  return .ok .null

/-- Lets the editor show an added statement. -/
def showSection (p : Section) : Talk Reply :=
  .request "window/showDocument" (some (sectionView p)) fun reply =>
    let shown := match reply with
      | .ok j => (decodeShown j).toOption.getD false
      | .error _ => false
    .done (.ok (.bool shown))

/-- Adds a statement to an XML mapper and shows it. -/
def addSection (p : Section) : Talk Reply :=
  .request "workspace/applyEdit" (some (sectionEdit p)) fun
    | .error e => .done (.error e)
    | .ok j =>
      match decodeEditReply j with
      | .error e => .done (.error (.unreadable e.message))
      | .ok reply => if reply.applied then showSection p else refuseSection p (reply.reason.getD "")

/-- Runs a command. -/
def runCommand (p : CommandParams) : Talk Reply := do
  Talk.tell (event .debug ("LSP Request: workspace/executeCommand " ++ p.command)) (.done ())
  if p.command = Action.addSectionCommand then
    match decodeSection p.arguments with
    | .error text => return .error (.invalidParams text)
    | .ok s => addSection s
  else return .error (.invalidParams ("Unknown command: " ++ p.command))

/-! ## Calls -/

/-- What a call leads to. -/
inductive Answer where
  /-- Nothing is sent back. -/
  | silence
  | response (r : Response)
  /-- The session has ended. -/
  | gone

/-- Answers a call with an error, if an answer is due. -/
def refuse (c : Call) (e : CallError) : Answer :=
  match c.id with
  | some id => .response ⟨id, .error e⟩
  | none => .silence

/-- Reads the parameters of a call. -/
def readParams {α : Type} (d : Json.Decoder α) (c : Call) : Except CallError α :=
  match c.params with
  | none => .error (.invalidParams "Missing params field")
  | some j => (d j).mapError fun e => .invalidParams e.message

/-- Checks that a call has no parameters. -/
def noParams (c : Call) : Except CallError Unit :=
  match c.params with
  | none => .ok ()
  | some j => .error (.invalidParams ("Unexpected params: " ++ j.write))

/-- Handles a call that has to be a request. Without an id nothing is done. -/
def asRequest {α : Type} (s : Session) (c : Call) (params : Except CallError α)
    (handler : α → Talk (Session × Reply)) : Talk (Session × Answer) :=
  match c.id with
  | none => return (s, .silence)
  | some id =>
    match params with
    | .error e => return (s, .response ⟨id, .error e⟩)
    | .ok p => do
      let (s, reply) ← handler p
      return (s, .response ⟨id, reply⟩)

/-- Handles a call that has to be a notification. With an id it is refused. -/
def asNotification {α : Type} (s : Session) (c : Call) (params : Except CallError α)
    (handler : α → Talk Session) : Talk (Session × Answer) :=
  match c.id with
  | some id => return (s, .response ⟨id, .error .invalidRequest⟩)
  | none =>
    match params with
    | .error _ => return (s, .silence)
    | .ok p => return (← handler p, .silence)

/-- Refuses a call that comes before or after the session is running. -/
def refuseByPhase (s : Session) (c : Call) : Talk (Session × Answer) :=
  return (s, refuse c (if s.phase = .fresh then .notInitialized else .invalidRequest))

/-- The methods that the server provides while a session is running. -/
inductive Method where
  | initialized
  | didOpen
  | didChange
  | didClose
  | didSave
  | didChangeFolders
  | codeLens
  | executeCommand
  /-- A request that is refused once its parameters have been read. -/
  | unsupported (params : Json.Decoder Unit)
  /-- A notification that is not looked at. -/
  | ignored
  /-- A request to give up on another one, all of which are finished. -/
  | cancel

/-- The method with a name. -/
def Method.ofName? (name : String) : Option Method :=
  match name with
  | "initialized" => some .initialized
  | "textDocument/didOpen" => some .didOpen
  | "textDocument/didChange" => some .didChange
  | "textDocument/didClose" => some .didClose
  | "textDocument/didSave" => some .didSave
  | "workspace/didChangeWorkspaceFolders" => some .didChangeFolders
  | "textDocument/codeLens" => some .codeLens
  | "workspace/executeCommand" => some .executeCommand
  | "$/cancelRequest" => some .cancel
  | _ =>
    if ignoredNotifications.contains name then some .ignored
    else (unsupportedRequests.lookup name).map .unsupported

/-- Handles a call of a method in a running session. -/
def handle (disk : Disk) (s : Session) (c : Call) : Method → Talk (Session × Answer)
  | .initialized =>
    asNotification s c (readParams (decodeShape "struct InitializedParams") c) fun _ => do
      showMessage .info ("mapperlens ready for " ++ toString s.workspace.folders.length
        ++ " workspace folder(s)")
      return s
  | .didOpen =>
    asNotification s c (readParams decodeOpen c) fun p =>
      return s.openText p.url p.version p.text.toList
  | .didChange => asNotification s c (readParams decodeChangeParams c) (change s)
  | .didClose =>
    asNotification s c (readParams decodeClose c) fun url => do
      Talk.tell (event .debug ("LSP Event: did_close uri=" ++ url.toString)) (.done ())
      return s.close url
  | .didSave =>
    asNotification s c (readParams decodeSave c) fun url => do
      refreshAfter s url
      return s
  | .didChangeFolders =>
    asNotification s c (readParams decodeFolders c) fun p => return changeFolders s p
  | .codeLens =>
    asRequest s c (readParams decodeLensParams c) fun url =>
      return (s, ← answerLenses disk s url)
  | .executeCommand =>
    asRequest s c (readParams decodeCommand c) fun p => return (s, ← runCommand p)
  | .unsupported params =>
    asRequest s c (readParams params c) fun _ => do
      Talk.tell (notProvided .error "request" c.method) (.done ())
      return (s, .error .unsupported)
  | .ignored =>
    asNotification s c (readParams Json.decodeAny c) fun _ => do
      Talk.tell (notProvided .warn "notification" c.method) (.done ())
      return s
  | .cancel => asNotification s c (readParams Json.decodeAny c) fun _ => return s

/-- Handles a call to initialize the session. -/
def handleStart (disk : Disk) (s : Session) (c : Call) : Talk (Session × Answer) :=
  if s.phase = .fresh then asRequest s c (readParams decodeStart c) (start disk s)
  else .tell (callEvent .warn "received duplicate \x60initialize\x60 request, ignoring")
    (.done (s, refuse c .invalidRequest))

/-- Handles a call to shut the session down. -/
def handleStop (s : Session) (c : Call) : Talk (Session × Answer) :=
  if s.phase = .running then
    let s := { s with phase := .stopped }
    .tell (callEvent .info "shutdown request received, shutting down")
      (asRequest s c (noParams c) fun _ => return ({ s with documents := [] }, .ok .null))
  else refuseByPhase s c

/-- Refuses a call of a method that does not exist. Methods whose names start with a dollar sign may
be missing without a word. -/
def handleUnknown (s : Session) (c : Call) : Talk (Session × Answer) :=
  if "$/".toList.isPrefixOf c.method.toList then return (s, .silence)
  else return (s, refuse c (.unknownMethod c.method))

/-- Handles a call. -/
def serve (disk : Disk) (s : Session) (c : Call) : Talk (Session × Answer) :=
  if s.phase = .ended then return (s, .gone)
  else
    match c.method with
    | "initialize" => handleStart disk s c
    | "shutdown" => handleStop s c
    | "exit" =>
      .tell (callEvent .info "exit notification received, stopping")
        (.done ({ s with phase := .ended }, .silence))
    | name =>
      match Method.ofName? name with
      | none => handleUnknown s c
      | some method => if s.phase = .running then handle disk s c method else refuseByPhase s c

end StatementLens.Server
