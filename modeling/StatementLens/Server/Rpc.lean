import StatementLens.Json.Decode

/-!
# Calls

An editor and a server call each other by messages in JSON. A request asks for a method by its name;
if it carries an id, a response with the same id is due.
-/

namespace StatementLens.Server

open Json (Decoder Record)

/-- What a response is matched with its request by. -/
inductive CallId where
  | null
  | number (n : Int)
  | text (s : String)
  deriving DecidableEq, Repr

namespace CallId

/-- Reads an id. Numbers have 64 bits. -/
def decode : Decoder CallId
  | .null => .ok .null
  | .int n => if Json.fitsSigned 64 n then .ok (.number n) else mismatch
  | .str s => .ok (.text s)
  | _ => mismatch
where
  mismatch : Except Json.DecodeError CallId :=
    .error (.rejected "data did not match any variant of untagged enum Id")

/-- Writes an id. -/
def toJson : CallId → Json
  | .null => .null
  | .number n => .int n
  | .text s => .str s

end CallId

/-- A request or, if it has no id, a notification. -/
structure Call where
  method : String
  params : Option Json
  id : Option CallId
  deriving Repr

namespace Call

/-- The version of the protocol. -/
def version : String := "2.0"

/-- Reads the version of the protocol. -/
def decodeVersion : Decoder Unit := fun j => do
  if (← Json.decodeString j) = version then return ()
  else throw (.rejected ("expected JSON-RPC version \"" ++ version ++ "\""))

/-- The fields of a call. -/
def record : Record Call :=
  ((((Record.required "jsonrpc" decodeVersion).map fun _ => Call.mk).andAlso
    (Record.withDefault "method" Json.decodeString "")).andAlso
    ((Record.withDefault "params" (fun j => .ok (some j)) none))).andAlso
    (Record.withDefault "id" (fun j => (CallId.decode j).map some) none)

/-- Reads a call. Only the version has to be there. -/
def decode : Decoder Call
  | .arr items => record.ofItems "struct Request" (!items.isEmpty) .direct items
  | j => record.decode "struct Request" .direct j

end Call

/-- Why a call fails. -/
structure CallError where
  code : Int
  message : String
  data : Option Json
  deriving Repr

namespace CallError

/-- The message cannot be read. -/
def unreadable (text : String) : CallError := ⟨-32700, text, none⟩

/-- The call makes no sense at this point. -/
def invalidRequest : CallError := ⟨-32600, "Invalid request", none⟩

/-- The method is not provided. -/
def unsupported : CallError := ⟨-32601, "Method not found", none⟩

/-- There is no such method. -/
def unknownMethod (name : String) : CallError := ⟨-32601, "Method not found", some (.str name)⟩

/-- The parameters do not fit. -/
def invalidParams (text : String) : CallError := ⟨-32602, text, none⟩

/-- The server cannot do what it is asked for. -/
def internal (text : String) : CallError := ⟨-32603, text, none⟩

/-- The server has not been initialized. -/
def notInitialized : CallError := ⟨-32002, "Server not initialized", none⟩

/-- Writes an error. -/
def toJson (e : CallError) : Json :=
  let data := match e.data with
    | some data => [("data", data)]
    | none => []
  .obj ([("code", .int e.code), ("message", .str e.message)] ++ data)

/-- What the code of an error stands for. -/
def kind (e : CallError) : String :=
  if e.code = -32700 then "Parse error"
  else if e.code = -32600 then "Invalid request"
  else if e.code = -32601 then "Method not found"
  else if e.code = -32602 then "Invalid params"
  else if e.code = -32603 then "Internal error"
  else if e.code = -32800 then "Canceled"
  else if e.code = -32801 then "Content modified"
  else "Server error"

/-- The text of an error. -/
def describe (e : CallError) : String := e.kind ++ ": " ++ e.message

end CallError

/-- What a call leads to. -/
abbrev Reply := Except CallError Json

/-- A reply to the request with an id. -/
structure Response where
  id : CallId
  reply : Reply

/-- Writes a response. -/
def Response.toJson (r : Response) : Json :=
  match r.reply with
  | .ok result => .obj [("id", r.id.toJson), ("result", result)]
  | .error e => .obj [("id", r.id.toJson), ("error", e.toJson)]

end StatementLens.Server
