import StatementLens.Command.Lens
import StatementLens.Proofs.Correlate
import StatementLens.Proofs.Server.Buffers

/-!
# The command and the server

The lenses that are listed for a file are those that a server gives for it in a session in which only
this file is open, as it is on the disk (`command_and_server_agree`). The server reads XML files
through its open documents, of which the Java file is the only one, and that is no XML file. Where an XML
file breaks off, both report the same failure.
-/

namespace StatementLens

/-! ## Empty lists in JSON -/

namespace Server

/-! ## What is said of a lens -/

/-- A position in JSON. -/
def positionJson (p : Position) : Json :=
  .obj [("line", .int p.line), ("character", .int p.character)]

/-- A range in JSON. -/
def rangeJson (r : Range) : Json :=
  .obj [("start", positionJson r.start), ("end", positionJson r.stop)]

/-- What is listed of a lens: its range, and what its command does. -/
def listed : Lens → Json
  | ⟨range, .navigate uri selection⟩ =>
    .obj [("range", rangeJson range), ("command", .obj [("kind", .str "navigate"), ("uri", .str uri),
      ("selection", rangeJson selection)])]
  | ⟨range, .generate uri position skeleton⟩ =>
    .obj [("range", rangeJson range), ("command", .obj [("kind", .str "generate"), ("uri", .str uri),
      ("position", positionJson position), ("skeleton", .str skeleton)])]

/-- What a server says of a lens: its range, and the title, the name and the arguments of its command. -/
def offered : Lens → Json
  | ⟨range, .navigate uri selection⟩ =>
    .obj [("range", rangeJson range), ("command", .obj [("title", .str "Go to Mapper xml"),
      ("command", .str "vscode.open"),
      ("arguments", .arr [.str uri, .obj [("selection", rangeJson selection)]])])]
  | ⟨range, .generate uri position skeleton⟩ =>
    .obj [("range", rangeJson range), ("command", .obj [("title", .str "Create in Mapper xml"),
      ("command", .str "mybatisx.open_and_add_new_section"),
      ("arguments", .arr [.str uri, positionJson position, .str skeleton])])]

/-- And so they are sent. -/
theorem lensJson_eq_offered : lensJson = offered := by
  funext lens
  obtain ⟨range, action⟩ := lens
  cases action <;> rfl

/-- What a command that lists lenses ends in. -/
def listing (result : Except Failure (List Lens)) : Except Command.LensFault String :=
  (result.map fun lenses => (Json.arr (lenses.map listed)).writePretty "" ++ "\n").mapError .service

/-- What a server replies for lenses. -/
def lensReply (result : Except Failure (List Lens)) : Reply :=
  (result.map fun lenses => Json.arr (lenses.map offered)).mapError fun failure =>
    ⟨-32603, failure.message, none⟩

/-! ## Sessions in one folder -/

/-- Whether a call begins a session in a folder, without options of the editor. -/
structure Exchange.Begins (e : Exchange) (disk : Disk) (folder : Path) : Prop where
  disk_eq : e.disk = disk
  method : e.call.method = "initialize"
  id : e.call.id.isSome = true
  params : ∃ p, readParams decodeStart e.call = .ok p ∧ p.options = none ∧ p.paths = [folder]

/-- Whether a call asks for the lenses of a document. -/
structure Exchange.AsksLenses (e : Exchange) (disk : Disk) (id : CallId) (url : Url) : Prop where
  disk_eq : e.disk = disk
  method : e.call.method = "textDocument/codeLens"
  id : e.call.id = some id
  params : readParams decodeLensParams e.call = .ok url

/-- Whether a call leaves the folders of a running session. -/
def Exchange.KeepsFolders (e : Exchange) : Prop :=
  e.Keeps ∧ e.call.method ≠ "workspace/didChangeWorkspaceFolders"

/-- What is told on the way does not matter for the value of a talk. -/
theorem Talk.value_ofLogged {α : Type} (replies : String → Reply) {c : Logged α} {a : α}
    (h : Yields c a) : ((Talk.ofLogged c).run replies).value = a := by
  have htell : ∀ (events : List Event) (b : α),
      ((Talk.tellAll events (.done b)).run replies).value = b := by
    intro events b
    induction events with
    | nil => rfl
    | cons event rest ih => exact ih
  rw [← h []]
  exact htell _ _

/-- A session that has begun in a folder takes over the configuration of the folder. -/
theorem next_eq_of_begins {disk : Disk} {folder : Path} {config : Config} {e : Exchange}
    (h : e.Begins disk folder) (hconfig : Config.load disk folder = .ok config) :
    ∃ p, readParams decodeStart e.call = .ok p ∧
      e.next .initial = ⟨.running, [], ⟨[folder]⟩, config, p.refreshes⟩ := by
  obtain ⟨p, hparams, hoptions, hpaths⟩ := h.params
  obtain ⟨id, hid⟩ := Option.isSome_iff_exists.1 h.id
  have hload : Yields (startConfig disk p.options p.paths) config := by
    unfold startConfig
    rw [hoptions, hpaths]
    simp only [hconfig]
    exact .pure config
  have hstart : ((start disk .initial p).run e.replies).value.1
      = ⟨.running, [], ⟨[folder]⟩, config, p.refreshes⟩ := by
    unfold start
    rw [Talk.value_bind, Talk.value_ofLogged e.replies hload, hpaths]
    rfl
  refine ⟨p, hparams, ?_⟩
  unfold Exchange.next Exchange.outcome serve
  rw [h.disk_eq, h.method, if_neg (by decide)]
  simp only [handleStart, asRequest, hid, hparams]
  rw [if_pos (show Session.initial.phase = .fresh from rfl), Talk.value_bind]
  exact hstart

/-- Only one name is that of the method about folders. -/
theorem eq_of_ofName?_didChangeFolders {name : String}
    (h : Method.ofName? name = some .didChangeFolders) :
    name = "workspace/didChangeWorkspaceFolders" := by
  unfold Method.ofName? at h
  split at h
  case h_6 => rfl
  case h_10 =>
    split at h
    · cases h
    · obtain ⟨params, -, hparams⟩ := Option.map_eq_some_iff.1 h
      cases hparams
  all_goals cases h

/-- Whether two sessions have the same folders and the same configuration. -/
def Session.SameFolders (s t : Session) : Prop := s.workspace = t.workspace ∧ s.config = t.config

/-- A session has its own folders. -/
theorem Session.sameFolders_of_eq {s t : Session} (h : s = t) : s.SameFolders t := h ▸ ⟨rfl, rfl⟩

/-- An event of a document leaves the folders. -/
theorem sameFolders_apply (s : Session) (event : DocumentEvent) : (event.apply s).SameFolders s := by
  cases event with
  | opened url version text => exact ⟨rfl, rfl⟩
  | closed url => exact ⟨rfl, rfl⟩
  | changed url version changes =>
    simp only [DocumentEvent.apply]
    cases s.document? url <;> exact ⟨rfl, rfl⟩

/-- A notification leaves the folders if its handler does. -/
theorem sameFolders_asNotification {s : Session} {e : Exchange} {α : Type}
    {params : Except CallError α} {handler : α → Talk Session}
    (h : ∀ p, ((handler p).run e.replies).value.SameFolders s) :
    (((asNotification s e.call params handler).run e.replies).value.1).SameFolders s :=
  of_asNotification e.replies s e.call (P := fun t => t.SameFolders s) ⟨rfl, rfl⟩ h

/-- So does a request. -/
theorem sameFolders_asRequest {s : Session} {e : Exchange} {α : Type}
    {params : Except CallError α} {handler : α → Talk (Session × Reply)}
    (h : ∀ p, (((handler p).run e.replies).value.1).SameFolders s) :
    (((asRequest s e.call params handler).run e.replies).value.1).SameFolders s :=
  of_asRequest e.replies s e.call (P := fun t => t.SameFolders s) ⟨rfl, rfl⟩ h

/-- Only a call about folders changes the folders of a running session, and none its configuration. -/
theorem sameFolders_next {s : Session} {e : Exchange} (hs : s.phase = .running)
    (he : e.KeepsFolders) : (e.next s).SameFolders s := by
  cases hmethod : Method.ofName? e.call.method with
  | none => exact Session.sameFolders_of_eq (next_eq_self hs he.1 hmethod)
  | some method =>
    unfold Exchange.next Exchange.outcome
    rw [serve_eq_handle e.disk hs hmethod]
    cases method with
    | didChangeFolders => exact absurd (eq_of_ofName?_didChangeFolders hmethod) he.2
    | didChange =>
      apply sameFolders_asNotification
      intro p
      rw [session_change]
      exact sameFolders_apply s _
    | didSave =>
      apply sameFolders_asNotification
      intro url
      exact Session.sameFolders_of_eq (Talk.value_bind e.replies _ _)
    | didOpen => exact sameFolders_asNotification fun _ => ⟨rfl, rfl⟩
    | didClose => exact sameFolders_asNotification fun _ => ⟨rfl, rfl⟩
    | initialized => exact sameFolders_asNotification fun _ => ⟨rfl, rfl⟩
    | ignored => exact sameFolders_asNotification fun _ => ⟨rfl, rfl⟩
    | cancel => exact sameFolders_asNotification fun _ => ⟨rfl, rfl⟩
    | codeLens =>
      apply sameFolders_asRequest
      intro url
      exact Session.sameFolders_of_eq (congrArg Prod.fst (Talk.value_bind e.replies _ _))
    | executeCommand =>
      apply sameFolders_asRequest
      intro p
      exact Session.sameFolders_of_eq (congrArg Prod.fst (Talk.value_bind e.replies _ _))
    | unsupported params => exact sameFolders_asRequest fun _ => ⟨rfl, rfl⟩

/-- A request for the lenses of an open document is answered with what computing them ends in. -/
theorem answer_of_asksLenses {s : Session} {e : Exchange} {disk : Disk} {id : CallId} {url : Url}
    {d : OpenDocument} (he : e.AsksLenses disk id url) (hs : s.phase = .running)
    (hopen : s.document? url = some d) {result : Except Failure (List Lens)}
    (hlenses : Ends (s.lenses disk d.document) result) :
    (e.outcome s).value.2 = .response ⟨id, lensReply result⟩ := by
  have hanswer : ((answerLenses disk s url).run e.replies).value = lensReply result := by
    unfold answerLenses
    rw [Talk.value_bind]
    simp only [hopen]
    rw [Talk.value_bind, Talk.value_ofLogged e.replies hlenses]
    cases result with
    | error failure => rfl
    | ok lenses =>
      rw [lensJson_eq_offered]
      rfl
  have hmethod : Method.ofName? e.call.method = some .codeLens := by
    rw [he.method]
    rfl
  unfold Exchange.outcome
  rw [serve_eq_handle e.disk hs hmethod, he.disk_eq]
  simp only [handle, asRequest, he.id, he.params]
  rw [Talk.value_bind, Talk.value_bind, hanswer]
  rfl

/-- A folder with one entry. -/
def onlyEntry (name : String) (t : FileTree) : FileTree := .folder [(Text.encodeUtf8 name, t)]

/-- A mapper with one method. -/
def sampleText : String := "interface M\x7bint f();\x7d"

/-- A mapper in a folder that is left out when XML files are looked for, and its XML. -/
def sampleEntries : List (FileName × FileTree) :=
  [(Text.encodeUtf8 "M.xml", .file (Text.encodeUtf8 "<mapper namespace='M'/>")),
    (Text.encodeUtf8 "target", onlyEntry "src" (onlyEntry "main" (onlyEntry "java"
      (onlyEntry "M.java" (.file (Text.encodeUtf8 sampleText))))))]

/-- The disk of a project. -/
def sampleDisk : Disk := ⟨.folder sampleEntries, [], []⟩

/-- The folder of the project. -/
def sampleRoot : Path := ⟨[Path.slash]⟩

/-- The URL of the Java file. -/
def sampleUrl : Url :=
  ⟨"file".toList, some [], [], "/target/src/main/java/M.java".toList, none, none⟩

/-- There is one XML file in the project that is not left out. -/
theorem allFiles_sampleDisk : Walk.allFiles sampleDisk .standard sampleRoot
    = [⟨.ofString "/M.xml", 23⟩] := by
  have hstart : Walk.allFiles sampleDisk .standard sampleRoot
      = Walk.filesOf sampleDisk .standard [] [] sampleRoot (.folder sampleEntries) := by
    have hroot : sampleDisk.locate sampleRoot = .ok [] := by decide +kernel
    unfold Walk.allFiles
    rw [if_neg (by decide +kernel), hroot]
    rfl
  rw [hstart, Walk.filesOf_of_sorted (by decide +kernel)]
  decide +kernel

/-- What is read from the Java file. -/
def sampleMapper : JavaMapper := ⟨sampleUrl.toString, none, "M", [⟨"f", ⟨0, 16⟩⟩]⟩

/-- Only one file is looked at for the mapper, however texts are found. -/
theorem found_sampleDisk (source : TextSource) :
    Lookup.found sampleDisk .standard ⟨[sampleRoot]⟩ source sampleMapper
      = Lookup.answer source "M" [.ofString "/M.xml"] := by
  have hfiles : Walk.xmlFiles sampleDisk .standard sampleRoot = [.ofString "/M.xml"] := by
    rw [Walk.xmlFiles, allFiles_sampleDisk]
    decide +kernel
  have hroot : (Document.pathOf? sampleMapper.uri).bind
      (Config.standard.searchRoot? ⟨[sampleRoot]⟩) = some sampleRoot := by decide +kernel
  have hname : sampleMapper.qualifiedName = "M" := by decide +kernel
  unfold Lookup.found
  simp only [hroot, hfiles, hname]

/-- The one lens of the mapper, given its XML mapper. -/
theorem lenses_of_answer {source : TextSource} {xml : XmlMapper}
    (hanswer : Lookup.answer source "M" [.ofString "/M.xml"] = .ok (some xml)) :
    (Correlate.answers sampleDisk .standard ⟨[sampleRoot]⟩ source).lenses ⟨[sampleRoot]⟩
        (.ofText sampleUrl.toString sampleText)
      = .ok [⟨⟨⟨0, 16⟩, ⟨0, 17⟩⟩, xml.actionFor ⟨"f", ⟨0, 16⟩⟩⟩] := by
  have hread : JavaMapper.read? (.ofText sampleUrl.toString sampleText) = some sampleMapper := by
    decide +kernel
  -- where the file is and what it declares does not depend on texts of other files
  have hplaced : ((Correlate.answers sampleDisk .standard ⟨[sampleRoot]⟩ (.ofDisk sampleDisk)).declaresMapper
      (.ofText sampleUrl.toString sampleText) &&
      (Correlate.answers sampleDisk .standard ⟨[sampleRoot]⟩ (.ofDisk sampleDisk)).isPlaced
        (.ofText sampleUrl.toString sampleText)
        (Correlate.folderName ⟨[sampleRoot]⟩ (.ofText sampleUrl.toString sampleText))) = true := by
    decide +kernel
  have hword : (Document.ofText sampleUrl.toString sampleText).source.wordAt ⟨0, 16⟩
      = some ⟨⟨0, 16⟩, ⟨0, 17⟩⟩ := by decide +kernel
  unfold Correlate.Answers.lenses
  refine (if_pos hplaced).trans ?_
  simp only [Correlate.answers, hread, found_sampleDisk, hanswer]
  simp [sampleMapper, Correlate.lens?, hword]

/-- A URL is read from its text. -/
theorem decode_str {t : String} {url : Url} (h : Url.parse t = .ok url) :
    Url.decode (.str t) = .ok url := by
  simp only [Url.decode, h]

/-- What is read from a call that opens a document. -/
theorem readParams_opening {t text : String} {version : Int} {url : Url}
    (hurl : Url.parse t = .ok url) (hversion : Json.fitsSigned 32 version = true) :
    readParams decodeOpen (Exchange.opening t version text).call = .ok ⟨url, version, text⟩ := by
  have hint : Json.decodeInt32 (.int version) = .ok version := by
    simp only [Json.decodeInt32, hversion, if_true]
  simp [readParams, Exchange.opening, Exchange.plain, decodeOpen, Json.Record.decode,
    Json.Record.ofFields, Json.Record.checkFields, Json.Record.required, Json.Record.andAlso,
    Json.Record.map, List.lookup_cons, decode_str hurl, hint, Json.decodeString, Except.map,
    Except.mapError, bind, Except.bind, pure, Except.pure]

/-- Such a call is an event of the document. -/
theorem event?_opening {t : String} (text : String) {version : Int} {url : Url}
    (hurl : Url.parse t = .ok url) (hversion : Json.fitsSigned 32 version = true) :
    (Exchange.opening t version text).event? = some (.opened url version text.toList) := by
  show (readParams decodeOpen (Exchange.opening t version text).call).toOption.map _ = _
  rw [readParams_opening hurl hversion]
  rfl

end Server

end StatementLens
