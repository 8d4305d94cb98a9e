import StatementLens.Server.Codec

/-!
# Parameters of calls

How the parameters of the calls of an editor are read.
-/

namespace StatementLens.Server

open Json (Decoder Origin Record)

/-! ## Pieces -/

/-- Reads the URL by which a document is meant. -/
def decodeDocument (origin : Origin) : Decoder Url :=
  (Record.required "uri" Url.decode).decode "struct TextDocumentIdentifier" origin

/-- Reads a token of progress. -/
def decodeToken : Decoder Unit
  | .int n => if Json.fitsSigned 32 n then .ok () else mismatch
  | .str _ => .ok ()
  | _ => mismatch
where
  mismatch : Except Json.DecodeError Unit :=
    .error (.rejected "data did not match any variant of untagged enum NumberOrString")

/-- Reads a record together with tokens of progress, which are looked at last. It cannot be read
from an array. -/
def decodeWithTokens {α : Type} (title : String) (record : Record α) (tokens : List String) :
    Decoder α
  | .obj fields => do
    let a ← record.ofFields fields
    tokens.forM fun name =>
      match fields.lookup name with
      | some j => (Json.decodeOption decodeToken j).map fun _ => ()
      | none => .ok ()
    return a
  | j => .error (.invalidType j title)

/-- The name of the token for progress of work. -/
def workToken : String := "workDoneToken"

/-- The name of the token for partial results. -/
def partialToken : String := "partialResultToken"

/-- Reads a workspace folder: its URL. -/
def decodeFolder : Decoder Url :=
  (((Record.required "uri" Url.decode).map fun url (_ : String) => url).andAlso
    (Record.required "name" Json.decodeString)).decode "struct WorkspaceFolder" .direct

/-- Accepts a record of which nothing is looked at. -/
def decodeShape (title : String) : Decoder Unit
  | .obj _ => .ok ()
  | .arr _ => .ok ()
  | j => .error (.invalidType j title)

/-! ## The start of a session -/

/-- What an editor says about itself at the start. -/
structure StartParams where
  rootUri : Option Url
  options : Option Json
  folders : Option (List Url)
  /-- Whether it lets a server ask for lenses to be computed again. -/
  refreshes : Bool

/-- The paths of the workspace folders, or else of the root. -/
def StartParams.paths (p : StartParams) : List Path :=
  let named := (p.folders.getD []).filterMap Url.toPath?
  if named.isEmpty then (p.rootUri.bind Url.toPath?).toList else named

/-- Whether an editor supports refreshing lenses, given what it says about lenses. -/
def decodeLensSupport : Decoder (Option Bool) :=
  (Record.optional "refreshSupport" Json.decodeBool).decode
    "struct CodeLensWorkspaceClientCapabilities" .direct

/-- The optional fields of which nothing is looked at. -/
def shapes (fields : List (String × String)) : Record Unit :=
  fields.foldl
    (fun record (name, title) =>
      (record.map fun _ (_ : Option Unit) => ()).andAlso
        (Record.optional name (decodeShape ("struct " ++ title))))
    ⟨[], fun _ => .ok ()⟩

/-- What an editor says it can do in a workspace. -/
def decodeWorkspaceSupport : Decoder (Option Bool) :=
  let flags := ((Record.optional "applyEdit" Json.decodeBool).map fun _ (_ : Option Bool)
    (_ : Option Bool) => ()).andAlso (Record.optional "workspaceFolders" Json.decodeBool) |>.andAlso
    (Record.optional "configuration" Json.decodeBool)
  let others := shapes [
    ("workspaceEdit", "WorkspaceEditClientCapabilities"),
    ("didChangeConfiguration", "DynamicRegistrationClientCapabilities"),
    ("didChangeWatchedFiles", "DidChangeWatchedFilesClientCapabilities"),
    ("symbol", "WorkspaceSymbolClientCapabilities"),
    ("executeCommand", "DynamicRegistrationClientCapabilities"),
    ("semanticTokens", "SemanticTokensWorkspaceClientCapabilities"),
    ("fileOperations", "WorkspaceFileOperationsClientCapabilities"),
    ("inlineValue", "InlineValueWorkspaceClientCapabilities"),
    ("inlayHint", "InlayHintWorkspaceClientCapabilities"),
    ("diagnostic", "DiagnosticWorkspaceClientCapabilities")]
  (((flags.map fun _ (_ : Unit) (lens : Option (Option Bool)) => lens.join).andAlso others).andAlso
    (Record.optional "codeLens" decodeLensSupport)).decode
    "struct WorkspaceClientCapabilities" .direct

/-- What an editor says it can do: whether it supports refreshing lenses. -/
def decodeSupport : Decoder Bool :=
  let others := shapes [
    ("textDocument", "TextDocumentClientCapabilities"),
    ("notebookDocument", "NotebookDocumentClientCapabilities"),
    ("window", "WindowClientCapabilities"),
    ("general", "GeneralClientCapabilities")]
  (((Record.optional "workspace" decodeWorkspaceSupport).map
      fun support (_ : Unit) => support.join.getD false).andAlso others).decode
    "struct ClientCapabilities" .direct

/-- Reads how much an editor wants to be told. -/
def decodeTrace : Decoder Unit
  | .str s =>
    let allowed := ["off", "messages", "verbose"]
    if allowed.contains s then .ok () else .error (.unknownVariant s allowed)
  | j => .error (.invalidType j "string or map")

/-- Reads the name and version of an editor. -/
def decodeClient : Decoder Unit :=
  (((Record.required "name" Json.decodeString).map fun _ (_ : Option String) => ()).andAlso
    (Record.optional "version" Json.decodeString)).decode "struct ClientInfo" .direct

/-- Reads what an editor says at the start. -/
def decodeStart : Decoder StartParams :=
  ((((((((((Record.optional "processId" (Json.decodeUnsigned 32)).map
      fun _ (_ : Option String) root options support (_ : Option Unit) folders (_ : Option Unit)
        (_ : Option String) => StartParams.mk root options folders support).andAlso
    (Record.optional "rootPath" Json.decodeString)).andAlso
    (Record.optional "rootUri" Url.decode)).andAlso
    (Record.optional "initializationOptions" Json.decodeAny)).andAlso
    (Record.required "capabilities" decodeSupport)).andAlso
    (Record.optional "trace" decodeTrace)).andAlso
    (Record.optional "workspaceFolders" (Json.decodeList decodeFolder))).andAlso
    (Record.optional "clientInfo" decodeClient)).andAlso
    (Record.optional "locale" Json.decodeString)).decode "struct InitializeParams" .direct

/-! ## Documents and folders -/

/-- A document that an editor opens. -/
structure OpenParams where
  url : Url
  version : Int
  text : String

/-- Reads an opened document. -/
def decodeOpen : Decoder OpenParams :=
  let item := ((((Record.required "uri" Url.decode).map
      fun url (_ : String) version text => OpenParams.mk url version text).andAlso
    (Record.required "languageId" Json.decodeString)).andAlso
    (Record.required "version" Json.decodeInt32)).andAlso
    (Record.required "text" Json.decodeString)
  (Record.required "textDocument" (item.decode "struct TextDocumentItem" .direct)).decode
    "struct DidOpenTextDocumentParams" .direct

/-- Changes of an open document. -/
structure ChangeParams where
  url : Url
  version : Int
  changes : List TextChange

/-- Reads changes of a document. -/
def decodeChangeParams : Decoder ChangeParams :=
  let document := (((Record.required "uri" Url.decode).map Prod.mk).andAlso
    (Record.required "version" Json.decodeInt32)).decode
    "struct VersionedTextDocumentIdentifier" .direct
  (((Record.required "textDocument" document).map
      fun (url, version) changes => ChangeParams.mk url version changes).andAlso
    (Record.required "contentChanges" decodeChanges)).decode
    "struct DidChangeTextDocumentParams" .direct

/-- Reads which document is closed. -/
def decodeClose : Decoder Url :=
  (Record.required "textDocument" (decodeDocument .direct)).decode
    "struct DidCloseTextDocumentParams" .direct

/-- Reads which document is saved. -/
def decodeSave : Decoder Url :=
  (((Record.required "textDocument" (decodeDocument .direct)).map
      fun url (_ : Option String) => url).andAlso
    (Record.optional "text" Json.decodeString)).decode "struct DidSaveTextDocumentParams" .direct

/-- The folders that are added to a workspace and removed from it. -/
structure FolderParams where
  added : List Url
  removed : List Url

/-- Reads a change of the folders. -/
def decodeFolders : Decoder FolderParams :=
  let event := (((Record.required "added" (Json.decodeList decodeFolder)).map
      FolderParams.mk).andAlso
    (Record.required "removed" (Json.decodeList decodeFolder))).decode
    "struct WorkspaceFoldersChangeEvent" .direct
  (Record.required "event" event).decode "struct DidChangeWorkspaceFoldersParams" .direct

/-! ## Lenses and commands -/

/-- Reads for which document lenses are asked. -/
def decodeLensParams : Decoder Url :=
  decodeWithTokens "struct CodeLensParams"
    (Record.required "textDocument" (decodeDocument .direct)) [workToken, partialToken]

/-- A command that is to be run. -/
structure CommandParams where
  command : String
  arguments : List Json

/-- Reads a command. -/
def decodeCommand : Decoder CommandParams :=
  decodeWithTokens "struct ExecuteCommandParams"
    (((Record.required "command" Json.decodeString).map CommandParams.mk).andAlso
      (Record.withDefault "arguments" (Json.decodeList Json.decodeAny) [])) [workToken]

/-- A statement that is to be added to an XML mapper. -/
structure Section where
  url : Url
  position : Position
  text : String

/-- Reads the arguments of the command that adds a statement. -/
def decodeSection (arguments : List Json) : Except String Section :=
  match arguments with
  | [uri, position, text] => do
    let read {α : Type} (d : Decoder α) (j : Json) : Except String α :=
      (d j).mapError Json.DecodeError.message
    return ⟨← read Url.decode uri, ← read decodePosition position, ← read Json.decodeString text⟩
  | _ => .error "expected [uri, position, text]"

/-! ## Replies of an editor -/

/-- Whether an edit has been made, and why not. -/
structure EditReply where
  applied : Bool
  reason : Option String

/-- Reads the reply to an edit. -/
def decodeEditReply : Decoder EditReply :=
  ((((Record.required "applied" Json.decodeBool).map
      fun applied reason (_ : Option Nat) => EditReply.mk applied reason).andAlso
    (Record.optional "failureReason" Json.decodeString)).andAlso
    (Record.optional "failedChange" (Json.decodeUnsigned 32))).decode
    "struct ApplyWorkspaceEditResponse" .direct

/-- Reads whether a document has been shown. -/
def decodeShown : Decoder Bool :=
  (Record.required "success" Json.decodeBool).decode "struct ShowDocumentResult" .direct

end StatementLens.Server
