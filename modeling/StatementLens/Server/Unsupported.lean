import StatementLens.Server.Params

/-!
# Methods that are not provided

Editors know many methods that this server does not provide. Calls of them are refused, but only
after their parameters have been read.
-/

namespace StatementLens.Server

open Json (Decoder Record)

/-- Reads a document as the only field that is looked at. -/
def documentParams (title : String) : Decoder Unit :=
  decodeWithTokens ("struct " ++ title)
    ((Record.required "textDocument" (decodeDocument .direct)).map fun _ => ())
    [workToken, partialToken]

/-- Reads a position in a document, after other fields. -/
def positionParams (title : String) (others : Record Unit) : Decoder Unit
  | .obj fields => do
    others.ofFields fields
    let place := ((Record.required "textDocument" (decodeDocument .setAside)).map
      fun _ (_ : Position) => ()).andAlso
      (Record.required "position" (Position.record.decode "struct Position" .setAside))
    place.ofFields fields
    decodeWithTokens title ⟨[], fun _ => .ok ()⟩ [workToken, partialToken] (.obj fields)
  | j => .error (.invalidType j ("struct " ++ title))

/-- No other fields. -/
def noOthers : Record Unit := ⟨[], fun _ => .ok ()⟩

/-- Accepts any object. -/
def objectParams (title : String) : Decoder Unit
  | .obj _ => .ok ()
  | j => .error (.invalidType j ("struct " ++ title))

/-- The requests that are not provided, with how their parameters are read. -/
def unsupportedRequests : List (String × Decoder Unit) := [
  ("textDocument/willSaveWaitUntil", objectParams "WillSaveTextDocumentParams"),
  ("textDocument/declaration", positionParams "GotoDefinitionParams" noOthers),
  ("textDocument/definition", positionParams "GotoDefinitionParams" noOthers),
  ("textDocument/typeDefinition", positionParams "GotoDefinitionParams" noOthers),
  ("textDocument/implementation", positionParams "GotoDefinitionParams" noOthers),
  ("textDocument/references", positionParams "ReferenceParams"
    ((Record.required "context" ((Record.required "includeDeclaration" Json.decodeBool).decode
      "struct ReferenceContext" .direct)).map fun _ => ())),
  ("textDocument/prepareCallHierarchy", positionParams "CallHierarchyPrepareParams" noOthers),
  ("callHierarchy/incomingCalls", objectParams "CallHierarchyIncomingCallsParams"),
  ("callHierarchy/outgoingCalls", objectParams "CallHierarchyOutgoingCallsParams"),
  ("textDocument/prepareTypeHierarchy", positionParams "TypeHierarchyPrepareParams" noOthers),
  ("typeHierarchy/supertypes", objectParams "TypeHierarchySupertypesParams"),
  ("typeHierarchy/subtypes", objectParams "TypeHierarchySubtypesParams"),
  ("textDocument/documentHighlight", positionParams "DocumentHighlightParams" noOthers),
  ("textDocument/documentLink", documentParams "DocumentLinkParams"),
  ("documentLink/resolve", objectParams "DocumentLink"),
  ("textDocument/hover", positionParams "HoverParams" noOthers),
  ("codeLens/resolve",
    (((Record.required "range" decodeRange).map fun _ (_ : Option Json) => ()).andAlso
      (Record.optional "data" Json.decodeAny)).decode "struct CodeLens" .direct),
  ("textDocument/foldingRange", documentParams "FoldingRangeParams"),
  ("textDocument/selectionRange", objectParams "SelectionRangeParams"),
  ("textDocument/documentSymbol", documentParams "DocumentSymbolParams"),
  ("textDocument/semanticTokens/full", documentParams "SemanticTokensParams"),
  ("textDocument/semanticTokens/full/delta", objectParams "SemanticTokensDeltaParams"),
  ("textDocument/semanticTokens/range", objectParams "SemanticTokensRangeParams"),
  ("textDocument/inlineValue", objectParams "InlineValueParams"),
  ("textDocument/inlayHint", objectParams "InlayHintParams"),
  ("inlayHint/resolve", objectParams "InlayHint"),
  ("textDocument/moniker", positionParams "MonikerParams" noOthers),
  ("textDocument/completion", positionParams "CompletionParams" noOthers),
  ("completionItem/resolve", objectParams "CompletionItem"),
  ("textDocument/diagnostic", documentParams "DocumentDiagnosticParams"),
  ("workspace/diagnostic", objectParams "WorkspaceDiagnosticParams"),
  ("textDocument/signatureHelp", positionParams "SignatureHelpParams" noOthers),
  ("textDocument/codeAction", objectParams "CodeActionParams"),
  ("codeAction/resolve", objectParams "CodeAction"),
  ("textDocument/documentColor", documentParams "DocumentColorParams"),
  ("textDocument/colorPresentation", objectParams "ColorPresentationParams"),
  ("textDocument/formatting", objectParams "DocumentFormattingParams"),
  ("textDocument/rangeFormatting", objectParams "DocumentRangeFormattingParams"),
  ("textDocument/onTypeFormatting", objectParams "DocumentOnTypeFormattingParams"),
  ("textDocument/rename", positionParams "RenameParams"
    ((Record.required "newName" Json.decodeString).map fun _ => ())),
  ("textDocument/prepareRename", positionParams "TextDocumentPositionParams" noOthers),
  ("textDocument/linkedEditingRange", positionParams "LinkedEditingRangeParams" noOthers),
  ("workspace/symbol", decodeWithTokens "struct WorkspaceSymbolParams"
    ((Record.required "query" Json.decodeString).map fun _ => ()) [partialToken, workToken]),
  ("workspaceSymbol/resolve", objectParams "WorkspaceSymbol"),
  ("workspace/willCreateFiles", objectParams "CreateFilesParams"),
  ("workspace/willRenameFiles", objectParams "RenameFilesParams"),
  ("workspace/willDeleteFiles", objectParams "DeleteFilesParams")]

/-- The notifications that are not looked at. -/
def ignoredNotifications : List String := [
  "textDocument/willSave",
  "workspace/didChangeConfiguration",
  "workspace/didCreateFiles",
  "workspace/didRenameFiles",
  "workspace/didDeleteFiles",
  "workspace/didChangeWatchedFiles"]

end StatementLens.Server
