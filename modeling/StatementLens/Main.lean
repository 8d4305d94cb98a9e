import StatementLens.Command.Outcome
import StatementLens.Server.Frame
import StatementLens.Server.Stream
import Std.Time.DateTime.Timestamp

/-!
# The program

The outer layer of the program: it copies the parts of the file system that are looked at to a disk
in memory, moves messages between an editor and a session, and writes logs.
-/

namespace StatementLens

/-! ## The file system -/

/-- The entry that names lead to from the root of the file system. -/
def entryAt (names : List FileName) : IO.FS.DirEntry :=
  { root := "/", fileName := (Path.mk ([Path.slash].intercalate names)).toStringLossy }

/-- The kind of the thing that names lead to, if there is one. -/
def kindAt (names : List FileName) : IO (Option IO.FS.FileType) := do
  try
    return some (← (entryAt names).path.symlinkMetadata).type
  catch _ => return none

/-- The bytes of the file that names lead to; none if it cannot be read. -/
def bytesAt (names : List FileName) : IO (List UInt8) := do
  try
    return (← IO.FS.readBinFile (entryAt names).path).toList
  catch _ => return []

/-- The names that lead to the target of a link, if there is one. -/
def targetAt (names : List FileName) : IO (Option (List FileName)) := do
  try
    let target ← IO.FS.realPath (entryAt names).path
    return some (Path.ofString target.toString).names
  catch _ => return none

/-- Puts a tree at the end of names, unless something is there. -/
def putNew (root : FileTree) (names : List FileName) (t : FileTree) : FileTree :=
  if (root.at? names).isSome then root else root.put names t

/-- Copies what the pieces of a path lead to, and gives the names that lead there. -/
partial def copyPlace (root : FileTree) (back : List FileName) :
    List FileName → IO (FileTree × List FileName)
  | [] => return (root, back.reverse)
  | piece :: rest => do
    if piece = [] || piece = [Path.dot] then copyPlace root back rest
    else if piece = [Path.dot, Path.dot] then copyPlace root back.tail rest
    else
      let names := (piece :: back).reverse
      match ← kindAt names with
      | some .dir => copyPlace (putNew root names (.folder [])) (piece :: back) rest
      | some .symlink =>
        match ← targetAt names with
        | none => return (root, names)
        | some target =>
          let root := putNew root names (.link (Disk.pathOf target))
          let (root, target) ← copyPlace root [] target
          copyPlace root target.reverse rest
      | some .file => return (root.put names (.file (← bytesAt names)), names)
      | _ => return (root, names)

/-- The tree at the end of names, as far as it is looked at. -/
partial def treeAt (names : List FileName) : IO FileTree := do
  let entries ← try (entryAt names).path.readDir catch _ => pure #[]
  let mut copied : List (FileName × FileTree) := []
  for entry in entries do
    let name := Text.encodeUtf8 entry.fileName
    let inner := names ++ [name]
    match ← kindAt inner with
    | some .dir =>
      let t ← if name = Look.repositoryName then pure (.folder []) else treeAt inner
      copied := (name, t) :: copied
    | some .file =>
      copied := (name, .file (← if Look.matters name then bytesAt inner else pure [])) :: copied
    | some .symlink =>
      if Look.ruleNames.contains name then copied := (name, .file (← bytesAt inner)) :: copied
      else if let some target ← targetAt inner then
        copied := (name, .link (Disk.pathOf target)) :: copied
    | _ => pure ()
  return .folder copied

/-- Copies a part of the file system to a disk. -/
def copyLook (disk : Disk) (look : Look) : IO Disk := do
  let start (p : Path) : List FileName := if p.isAbsolute then [] else disk.current.reverse
  match look with
  | .place p =>
    let (root, _) ← copyPlace disk.root (start p) (Path.pieces p.bytes)
    return { disk with root := root }
  | .below p =>
    let (root, names) ← copyPlace disk.root (start p) (Path.pieces p.bytes)
    let mut root := root
    if let some .dir ← kindAt names then root := root.put names (← treeAt names)
    for folder in names :: Walk.around names do
      for file in Look.ruleFiles folder do
        let (copied, _) ← copyPlace root [] (Path.pieces file.bytes)
        root := copied
    return { disk with root := root }

/-- The bytes of the file in which the user says what is ignored in repositories: the one that their
configuration names, or else the one at its usual place. -/
def userRules (current : List FileName) : IO (List UInt8) := do
  let read (p : Path) : IO (List UInt8) :=
    bytesAt (if p.isAbsolute then p.names else current ++ p.names)
  let home := (← IO.getEnv "HOME").getD ""
  let settings := ((← IO.getEnv "XDG_CONFIG_HOME").filter fun folder => !folder.isEmpty).getD
    (home ++ "/.config")
  let named (config : String) : IO (Option Path) := do
    return Ignore.namedRules? home.toList (← read (.ofString config))
  let file := (← named (home ++ "/.gitconfig")).or (← named (settings ++ "/git/config"))
  read (file.getD (.ofString (settings ++ "/git/ignore")))

/-- A disk that only has the current folder. -/
def currentDisk : IO Disk := do
  let current := (Path.ofString (← IO.currentDir).toString).names
  let (root, _) ← copyPlace (.folder []) [] current
  return ⟨root, current, ← userRules current⟩

/-! ## Logs -/

/-- The present moment. -/
def now : IO Log.Moment := do
  let time := (← Std.Time.Timestamp.now).toNanosecondsSinceUnixEpoch.val.toNat
  return ⟨time / 1000000000, time / 1000 % 1000000⟩

/-- Writes an event to the log file and, for commands, to the error output. -/
def writeEvent (sink : Log.Sink) (folder : Path) (event : Event) : IO Unit := do
  let moment ← now
  if sink.echoes then
    (← IO.getStderr).putStrLn (Log.timed moment event (Log.echoLine event))
  let path := folder.join (.ofString (sink.fileName moment.date))
  try
    let file ← IO.FS.Handle.mk path.toStringLossy .append
    file.putStrLn (Log.timed moment event (Log.fileLine event))
  catch _ => pure ()

/-- Opens the log: the folder of its files. -/
def openLog (sink : Log.Sink) : IO Path := do
  let home := (← IO.getEnv "HOME").filter fun home => !home.isEmpty
  let folder := Log.folder (home.map .ofString)
  try
    IO.FS.createDirAll folder.toStringLossy
    let path := folder.join (.ofString (sink.fileName (← now).date))
    let _ ← IO.FS.Handle.mk path.toStringLossy .append
  catch e =>
    let text := "mapperlens: cannot create " ++ folder.toStringLossy ++ ": " ++ toString e
    (← IO.getStderr).putStrLn text
  return folder

/-- The filter that the environment asks for. -/
def environmentFilter : IO Log.Filter := do
  return Log.Filter.choose [← IO.getEnv "MAPPERLENS_LOG", ← IO.getEnv "RUST_LOG"]

/-! ## Commands -/

/-- Prints what a run has led to. -/
def finish (o : Command.Outcome) : IO UInt32 := do
  if let some sink := o.sink then
    let folder ← openLog sink
    o.events.forM (writeEvent sink folder)
  (← IO.getStdout).putStr o.output
  (← IO.getStderr).putStr o.complaint
  return o.code.toUInt32

/-- Copies what the listing of lenses looks at. The file itself is copied last, because files of its
kind are left out of the folder around it. -/
def lensDisk (file : Path) (folder : Option Path) : IO Disk := do
  let looks := Command.LensTask.looks file folder
  let disk ← looks.foldlM copyLook (← currentDisk)
  match Command.LensTask.find disk file folder with
  | .ok task => (task.look?.toList ++ looks).foldlM copyLook disk
  | .error _ => return disk

/-! ## Sessions -/

/-- A message, or what is none. -/
abbrev Message := Except Server.MessageFault Server.Incoming

/-- What a session over pipes is held with. -/
structure Pipes where
  folder : Path
  filter : Log.Filter
  /-- The number of requests that have been sent. -/
  sent : IO.Ref Nat
  /-- Messages that have come while a reply was awaited. -/
  waiting : IO.Ref (List Message)

/-- Sends a message. -/
def Pipes.send (message : Json) : IO Unit := do
  let out ← IO.getStdout
  out.putStr (Server.Frame.wrap message.write)
  out.flush

/-- Reads bytes, fewer only at the end of the input. -/
partial def readExactly (input : IO.FS.Stream) (done : ByteArray) (count : Nat) : IO ByteArray := do
  if count = 0 then return done
  let bytes ← input.read count.toUSize
  if bytes.isEmpty then return done
  else readExactly input (done ++ bytes) (count - bytes.size)

/-- Reads the lines of the head of a frame; none at the end of the input. -/
partial def readHead (input : IO.FS.Stream) (lines : List String) : IO (Option (List String)) := do
  let line ← input.getLine
  if line.isEmpty then return none
  else if Server.Frame.endsHead line then return some lines
  else readHead input (lines ++ [line])

/-- Reads the next message from the input; none at its end. -/
def readMessage : IO (Option Message) := do
  let input ← IO.getStdin
  match ← readHead input [] with
  | none => return none
  | some head =>
    match Server.Frame.length? head with
    | none => return some (.error .noLength)
    | some length =>
      let bytes ← readExactly input ByteArray.empty length
      match Text.decodeUtf8 bytes.toList with
      | some text => return some (Server.Incoming.ofText text)
      | none => return some (.error .notText)

/-- The next message: one that has been waiting, or one from the input. -/
def Pipes.next (pipes : Pipes) : IO (Option Message) := do
  match ← pipes.waiting.get with
  | message :: rest =>
    pipes.waiting.set rest
    return some message
  | [] => readMessage

/-- Waits for the reply to a request; other messages have to wait. -/
partial def Pipes.await (pipes : Pipes) (id : Nat) : IO Server.Reply := do
  match ← readMessage with
  | none => return .error .invalidRequest
  | some (.ok (.reply (.number n) reply)) =>
    if n = id then return reply else pipes.await id
  | some message =>
    pipes.waiting.modify (· ++ [message])
    pipes.await id

/-- Holds a talk with the editor. -/
def Pipes.hold {α : Type} (pipes : Pipes) : Server.Talk α → IO α
  | .done a => return a
  | .tell event next => do
    if pipes.filter.shows event then writeEvent .server pipes.folder event
    pipes.hold next
  | .notify method params next => do
    Pipes.send (Server.notificationMessage method params)
    pipes.hold next
  | .request method params next => do
    let id ← pipes.sent.modifyGet fun n => (n, n + 1)
    Pipes.send (Server.requestMessage id method params)
    pipes.hold (next (← pipes.await id))

/-- Handles messages until the session ends. -/
partial def Pipes.serve (pipes : Pipes) (s : Server.Session) : IO Unit := do
  match ← pipes.next with
  | none => return ()
  | some message =>
    let looks := (message.toOption.map (Server.looks s)).getD []
    let disk ← looks.foldlM copyLook (← currentDisk)
    let (stream, response) ← pipes.hold (Server.receive disk s message)
    if let some response := response then Pipes.send response.toMessage
    if let some s := stream then pipes.serve s

/-- Holds a session with an editor. -/
def holdSession : IO UInt32 := do
  let folder ← openLog .server
  let pipes : Pipes := ⟨folder, ← environmentFilter, ← IO.mkRef 0, ← IO.mkRef []⟩
  pipes.serve .initial
  return 0

end StatementLens

open StatementLens in
/-- Runs the program. -/
def main (arguments : List String) : IO UInt32 := do
  match Command.Request.read arguments with
  | .ok .serve => holdSession
  | .ok (.lens file folder _) =>
    let disk ← lensDisk (.ofString file) (folder.map .ofString)
    finish (Command.run disk (← environmentFilter) arguments)
  | .error refusal => finish (.ofRefusal refusal)
