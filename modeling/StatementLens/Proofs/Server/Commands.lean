import StatementLens.Proofs.Mapper.Codec
import StatementLens.Proofs.Server.Refresh
import StatementLens.Proofs.Url.Dots

/-!
# Commands of lenses

The command of a lens adds a statement to an XML mapper. A command that cannot be read does nothing. Any other one
asks the editor for one insertion, and goes on as the editor takes it. The arguments of a lens are read back as they
were, unless its URL goes up by double dots (`command_is_all_or_nothing`).
-/

namespace StatementLens.Server

/-! ## What is asked for -/

/-- Whether a command asks for a statement to be added: its arguments are a URL, a position and a text. -/
def CommandParams.Asks (p : CommandParams) (q : Section) : Prop :=
  p.command = Action.addSectionCommand ∧ ∃ uri position, p.arguments = [.str uri, position, .str q.text] ∧
    Url.parse uri = .ok q.url ∧ decodePosition position = .ok q.position

/-- The request to insert one text. -/
def insertion (q : Section) : Talk.Sent :=
  let range := .obj [("start", q.position.toJson), ("end", q.position.toJson)]
  let edit := .obj [("range", range), ("newText", .str q.text)]
  ⟨"workspace/applyEdit", some (.obj [("edit", .obj [("changes", .obj [(q.url.toString, .arr [edit])])])])⟩

/-- Where the cursor goes: two lines down, to the end of the third line of the text, if it has one. -/
def cursorIn (q : Section) : Position :=
  ((Text.splitOn (· = '\n') q.text.toList)[2]?.map fun body =>
    ⟨q.position.line + 2, Text.unitLength body % UInt32.size⟩).getD q.position

/-- The request to show an added statement. -/
def showing (q : Section) : Talk.Sent :=
  let selection := .obj [("start", (cursorIn q).toJson), ("end", (cursorIn q).toJson)]
  ⟨"window/showDocument", some (.obj [("uri", .str q.url.toString), ("external", .bool false),
    ("takeFocus", .bool true), ("selection", selection)])⟩

/-- The warning that a statement is not added. -/
def warning (q : Section) (reason : String) : Talk.Sent :=
  ⟨"window/logMessage", some (.obj [("type", .nat 2),
    ("message", .str ("Could not add section to " ++ q.url.toString ++ ": " ++ reason))])⟩

/-- The reply of the editor to an insertion, if it can be read. -/
def Exchange.edited (e : Exchange) : Except CallError EditReply :=
  (e.replies "workspace/applyEdit").bind fun j =>
    (decodeEditReply j).mapError fun error => .unreadable error.message

/-- Whether the editor says that it shows a statement. -/
def Exchange.Shows (e : Exchange) : Prop := ∃ j, e.replies "window/showDocument" = .ok j ∧ decodeShown j = .ok true

/-- Only a text that can be parsed is read as a URL. -/
theorem decode_eq_ok_iff {j : Json} {url : Url} : Url.decode j = .ok url ↔ ∃ t, j = .str t ∧ Url.parse t = .ok url := by
  constructor
  · intro h
    unfold Url.decode at h
    split at h
    · next t =>
      split at h
      · next hparse =>
        cases h
        exact ⟨t, rfl, hparse⟩
      · cases h
    · cases h
  · rintro ⟨t, rfl, hparse⟩
    exact decode_str hparse

/-- Only a text is read as one. -/
theorem decodeString_eq_ok_iff {j : Json} {t : String} : Json.decodeString j = .ok t ↔ j = .str t := by
  constructor
  · intro h
    unfold Json.decodeString at h
    split at h
    · cases h
      rfl
    · cases h
  · rintro rfl
    rfl

/-- A command asks for what its arguments are read as. -/
theorem asks_iff {p : CommandParams} {q : Section} :
    p.Asks q ↔ p.command = Action.addSectionCommand ∧ decodeSection p.arguments = .ok q := by
  unfold CommandParams.Asks
  refine and_congr_right fun _ => ?_
  constructor
  · rintro ⟨uri, position, harguments, hurl, hposition⟩
    rw [harguments]
    simp [decodeSection, decode_str hurl, hposition, Json.decodeString, Except.mapError, bind, Except.bind, pure,
      Except.pure]
  · intro h
    unfold decodeSection at h
    split at h
    · next uri position text harguments =>
      obtain ⟨url, hurl, h⟩ := Xml.bind_eq_ok.1 h
      obtain ⟨place, hplace, h⟩ := Xml.bind_eq_ok.1 h
      obtain ⟨t, ht, h⟩ := Xml.bind_eq_ok.1 h
      cases h
      obtain ⟨s, rfl, hparse⟩ := decode_eq_ok_iff.1 (Json.mapError_eq_ok_iff.1 hurl)
      obtain rfl := decodeString_eq_ok_iff.1 (Json.mapError_eq_ok_iff.1 ht)
      exact ⟨s, position, harguments, hparse, Json.mapError_eq_ok_iff.1 hplace⟩
    · cases h

/-! ## Running a command -/

section

variable (replies : String → Reply)

/-- A command that asks for nothing is refused without a word to the editor. -/
theorem run_runCommand_of_not_asks {p : CommandParams} (h : ¬ ∃ q, p.Asks q) :
    ((runCommand p).run replies).sent = [] ∧
      ∃ text, ((runCommand p).run replies).value = .error (.invalidParams text) := by
  by_cases hcommand : p.command = Action.addSectionCommand
  · cases hsection : decodeSection p.arguments with
    | error text =>
      simp only [runCommand, if_pos hcommand, hsection]
      exact ⟨rfl, text, rfl⟩
    | ok q => exact absurd ⟨q, asks_iff.2 ⟨hcommand, hsection⟩⟩ h
  · simp only [runCommand, if_neg hcommand]
    exact ⟨rfl, _, rfl⟩

/-- Any other one leads to what adding its statement leads to. -/
theorem run_runCommand_of_asks {p : CommandParams} {q : Section} (h : p.Asks q) :
    ((runCommand p).run replies).sent = ((addSection q).run replies).sent ∧
      ((runCommand p).run replies).value = ((addSection q).run replies).value := by
  obtain ⟨hcommand, hsection⟩ := asks_iff.1 h
  simp only [runCommand, if_pos hcommand, hsection]
  exact ⟨rfl, rfl⟩

end

/-- A request that can be read leads to what its handler leads to. -/
theorem run_asRequest {α : Type} (replies : String → Reply) (s : Session) {c : Call} {id : CallId}
    (hid : c.id = some id) (p : α) (handler : α → Talk Reply) :
    ((asRequest s c (.ok p) fun p => return (s, ← handler p)).run replies).value
        = (s, .response ⟨id, ((handler p).run replies).value⟩) ∧
      ((asRequest s c (.ok p) fun p => return (s, ← handler p)).run replies).sent
        = ((handler p).run replies).sent := by
  unfold asRequest
  rw [hid]
  dsimp only
  rw [Talk.value_bind, Talk.value_bind, Talk.sent_bind, Talk.sent_bind]
  refine ⟨rfl, ?_⟩
  exact (List.append_nil _).trans (List.append_nil _)

section

variable (e : Exchange) (q : Section)

/-- If the request to insert a text fails, or its reply cannot be read, nothing follows it. -/
theorem run_addSection_of_error {error : CallError} (h : e.edited = .error error) :
    ((addSection q).run e.replies).sent = [insertion q] ∧
      ((addSection q).run e.replies).value = .error error := by
  unfold Exchange.edited at h
  simp only [addSection, Talk.run]
  cases hreply : e.replies "workspace/applyEdit" with
  | error e' =>
    rw [hreply] at h
    cases h
    exact ⟨rfl, rfl⟩
  | ok j =>
    rw [hreply] at h
    cases hdecode : decodeEditReply j with
    | error e' =>
      simp only [Except.bind, hdecode] at h
      cases h
      simp only [hdecode]
      exact ⟨rfl, rfl⟩
    | ok edited =>
      simp only [Except.bind, hdecode] at h
      cases h

/-- Otherwise the reply decides on what follows. -/
theorem run_addSection_of_ok {edited : EditReply} (h : e.edited = .ok edited) :
    ((addSection q).run e.replies).sent = insertion q ::
        ((if edited.applied then showSection q else refuseSection q (edited.reason.getD "")).run e.replies).sent ∧
      ((addSection q).run e.replies).value =
        ((if edited.applied then showSection q else refuseSection q (edited.reason.getD "")).run e.replies).value := by
  unfold Exchange.edited at h
  simp only [addSection, Talk.run]
  cases hreply : e.replies "workspace/applyEdit" with
  | error e' =>
    rw [hreply] at h
    cases h
  | ok j =>
    rw [hreply] at h
    have hdecode : decodeEditReply j = .ok edited := Json.mapError_eq_ok_iff.1 h
    simp only [hdecode]
    exact ⟨rfl, trivial⟩

/-- Unless the lines run out, the cursor goes where an added statement is to be filled in. -/
theorem cursorAfterInsert_eq (h : q.position.line + 2 < Json.widthCount 32) :
    cursorAfterInsert q.position q.text = cursorIn q := by
  have hsize : UInt32.size = Json.widthCount 32 := by decide
  unfold cursorAfterInsert cursorIn
  cases (Text.splitOn (· = '\n') q.text.toList)[2]? with
  | none => rfl
  | some body => rw [Nat.mod_eq_of_lt (hsize ▸ h), Option.map_some, Option.getD_some]

/-- A statement is shown by one request, and its reply decides on the result. -/
theorem run_showSection (h : q.position.line + 2 < Json.widthCount 32) :
    ((showSection q).run e.replies).sent = [showing q] ∧
      ∃ shown, ((showSection q).run e.replies).value = .ok (.bool shown) ∧ (shown = true ↔ e.Shows) := by
  have hview : (⟨"window/showDocument", some (sectionView q)⟩ : Talk.Sent) = showing q := by
    unfold sectionView
    rw [cursorAfterInsert_eq q h]
    rfl
  refine ⟨congrArg (fun sent => [sent]) hview, _, rfl, ?_⟩
  unfold Exchange.Shows
  cases hreply : e.replies "window/showDocument" with
  | error error => simp
  | ok j =>
    cases hdecode : decodeShown j with
    | error error => simp [hdecode, Except.toOption]
    | ok shown => simp [hdecode, Except.toOption]

end

/-! ## The arguments of a lens -/

/-- Whether a position fits into what an editor sends. -/
def Fits (p : Position) : Prop := p.line < Json.widthCount 32 ∧ p.character < Json.widthCount 32

/-- Such a position is read as it is written. -/
theorem decodePosition_toJson {p : Position} (h : Fits p) : decodePosition p.toJson = .ok p :=
  Position.decode_of_within h (Json.within_self _ (Position.readable_toJson h Nat.one_lt_two)) .direct

/-- Whether a segment of the path of a URL begins like a drive, with a letter and a colon or a bar. Readers of
URLs may have rules of their own for drives, so what is said of other URLs is not said of these. -/
def namesDrive (u : Url) : Bool :=
  (Text.splitOn (· = '/') u.path).any fun segment =>
    segment.head?.any Char.isAlpha && segment[1]?.any fun c => c = ':' || c = '|'

/-- What an editor sends to run the command of a lens is read as its command and arguments. -/
theorem decodeCommand_action (a : Action) :
    decodeCommand (.obj [("command", .str a.command), ("arguments", .arr a.arguments)])
      = .ok ⟨a.command, a.arguments⟩ := by
  have harguments : a.arguments.mapM Json.decodeAny = .ok a.arguments :=
    (List.mapM_pure (f := id)).trans (congrArg Except.ok (List.map_id a.arguments))
  simp [decodeCommand, decodeWithTokens, Json.Record.ofFields, Json.Record.checkFields, Json.Record.required,
    Json.Record.withDefault, Json.Record.map, Json.Record.andAlso, List.lookup_cons, Json.decodeString,
    Json.decodeList, harguments, workToken, Except.map, bind, Except.bind, pure, Except.pure]

/-- The arguments of a lens are read with the URL that its text is read as. -/
theorem decodeSection_generate {t text : String} {url : Url} {position : Position} (hurl : Url.parse t = .ok url)
    (hfits : Fits position) :
    decodeSection (Action.generate t position text).arguments = .ok ⟨url, position, text⟩ := by
  have hasks : CommandParams.Asks ⟨Action.addSectionCommand, (Action.generate t position text).arguments⟩
      ⟨url, position, text⟩ := by
    refine ⟨rfl, t, position.toJson, rfl, hurl, ?_⟩
    exact decodePosition_toJson hfits
  exact (asks_iff.1 hasks).2

/-! ## Commands in a session -/

/-- In a running session a command that can be read leaves the session as it is. One that asks for nothing is refused.
Any other one asks the editor for one insertion, and then warns or asks for the statement to be shown, as the editor
takes the insertion. The arguments of a lens ask for its text at its position, in the file of its URL. Unless a drive
is named in it, a URL that has been read or that is made from a path without double dots is the one that is asked
for, and one that is made from a path with double dots is not. -/
theorem command_is_all_or_nothing (s : Session) (e : Exchange) (id : CallId) (p : CommandParams)
    (hrunning : s.phase = .running) (hmethod : e.call.method = "workspace/executeCommand")
    (hid : e.call.id = some id) (hparams : readParams decodeCommand e.call = .ok p) :
    (∃ reply, (e.outcome s).value = (s, .response ⟨id, reply⟩) ∧
      ((((e.outcome s).sent = [] ∧ ∃ error, reply = .error error ∧ error.code = -32602) ↔ ¬ ∃ q, p.Asks q) ∧
      ∀ q, p.Asks q →
        (∀ error, e.edited = .error error → (e.outcome s).sent = [insertion q] ∧ reply = .error error) ∧
        (∀ edited, e.edited = .ok edited → edited.applied = false →
          (e.outcome s).sent = [insertion q, warning q (edited.reason.getD "")] ∧ reply = .ok .null) ∧
        (∀ edited, e.edited = .ok edited → edited.applied = true → q.position.line + 2 < Json.widthCount 32 →
          (e.outcome s).sent = [insertion q, showing q] ∧
            ∃ shown, reply = .ok (.bool shown) ∧ (shown = true ↔ e.Shows)))) ∧
    (∀ q, p.Asks q ↔ p.command = Action.addSectionCommand ∧ decodeSection p.arguments = .ok q) ∧
    ∀ (u : Url) (position : Position) (text : String), Fits position →
      let lens := Action.generate u.toString position text
      decodeCommand (.obj [("command", .str lens.command), ("arguments", .arr lens.arguments)])
          = .ok ⟨Action.addSectionCommand, lens.arguments⟩ ∧
        (∀ t, Url.parse t = .ok u → namesDrive u = false →
          decodeSection lens.arguments = .ok ⟨u, position, text⟩) ∧
        ∀ path, Url.ofPath? path = some u → namesDrive u = false →
          ∃ v, decodeSection lens.arguments = .ok ⟨v, position, text⟩ ∧ (v = u ↔ .parent ∉ path.components) := by
  have houtcome := run_asRequest e.replies s hid p runCommand
  -- the session is running, so the call reaches its handler
  have hserve : e.outcome s = (asRequest s e.call (.ok p) fun p => return (s, ← runCommand p)).run e.replies := by
    unfold Exchange.outcome
    rw [serve_eq_handle e.disk hrunning (show Method.ofName? e.call.method = some .executeCommand by rw [hmethod]; rfl),
      handle, hparams]
  rw [← hserve] at houtcome
  obtain ⟨hvalue, hsent⟩ := houtcome
  refine ⟨⟨_, hvalue, ⟨?_, ?_⟩, ?_⟩, fun q => asks_iff, ?_⟩
  · rintro ⟨hnone, -⟩ ⟨q, hq⟩
    rw [hsent, (run_runCommand_of_asks e.replies hq).1] at hnone
    exact absurd hnone (List.cons_ne_nil _ _)
  · intro hnot
    obtain ⟨hnone, text, herror⟩ := run_runCommand_of_not_asks e.replies hnot
    exact ⟨hsent.trans hnone, .invalidParams text, herror, rfl⟩
  · intro q hq
    obtain ⟨hsame, hreply⟩ := run_runCommand_of_asks e.replies hq
    rw [hsent, hsame, hreply]
    refine ⟨fun error h => run_addSection_of_error e q h, fun edited h happlied => ?_,
      fun edited h happlied hline => ?_⟩
    · obtain ⟨hsent, hvalue⟩ := run_addSection_of_ok e q h
      rw [hsent, hvalue, happlied]
      exact ⟨rfl, rfl⟩
    · obtain ⟨hsent, hvalue⟩ := run_addSection_of_ok e q h
      obtain ⟨hshowing, hshown⟩ := run_showSection e q hline
      rw [hsent, hvalue, happlied, if_pos rfl, hshowing]
      exact ⟨rfl, hshown⟩
  · intro u position text hfits lens
    refine ⟨decodeCommand_action lens, fun t ht _ => ?_, fun path hpath _ => ?_⟩
    · exact decodeSection_generate (Url.parse_of_isNormal (Url.isNormal_of_parse ht)) hfits
    · obtain ⟨hread, hiff⟩ := Url.parse_ofPath? hpath
      refine ⟨_, decodeSection_generate hread hfits, ?_⟩
      -- the two URLs can only differ in their paths
      rw [← hiff]
      constructor
      · intro hsame
        exact congrArg Url.path hsame
      · intro hpath
        rw [hpath]

/-- The action of the lens of a method without a statement. -/
def addingLens : Action := .generate xmlUrl.toString ⟨0, 23⟩ (skeleton .sql "f")

/-- The command of the lens, in an editor that inserts the statement and shows it. -/
def addingStatement : Exchange where
  disk := sampleDisk
  replies method :=
    if method = "workspace/applyEdit" then .ok (.obj [("applied", .bool true)])
    else .ok (.obj [("success", .bool true)])
  call := ⟨"workspace/executeCommand",
    some (.obj [("command", .str addingLens.command), ("arguments", .arr addingLens.arguments)]), some (.number 3)⟩

/-- The statement of the lens is inserted and shown. -/
theorem command_is_all_or_nothing_sample :
    (addingStatement.outcome javaSession).sent =
        [insertion ⟨xmlUrl, ⟨0, 23⟩, skeleton .sql "f"⟩, showing ⟨xmlUrl, ⟨0, 23⟩, skeleton .sql "f"⟩] ∧
      (addingStatement.outcome javaSession).value = (javaSession, .response ⟨.number 3, .ok (.bool true)⟩) := by
  have hparse : Url.parse "file:///M.xml" = .ok xmlUrl := by decide +kernel
  have hparams : readParams decodeCommand addingStatement.call = .ok ⟨addingLens.command, addingLens.arguments⟩ := by
    simp only [readParams, addingStatement, decodeCommand_action]
    rfl
  obtain ⟨⟨reply, hvalue, -, hcourse⟩, hasks, hlens⟩ :=
    command_is_all_or_nothing javaSession addingStatement (.number 3) _ rfl rfl rfl hparams
  have hsection := (hlens xmlUrl ⟨0, 23⟩ (skeleton .sql "f") ⟨by decide, by decide⟩).2.1 _ hparse
    (by decide +kernel)
  obtain ⟨hsent, shown, rfl, hshown⟩ := (hcourse _ ((hasks _).2 ⟨rfl, hsection⟩)).2.2 ⟨true, none⟩
    (by with_unfolding_all rfl) rfl (by decide)
  have hshows : addingStatement.Shows := ⟨_, rfl, by with_unfolding_all rfl⟩
  rw [hshown.2 hshows] at hvalue
  exact ⟨hsent, hvalue⟩

/-- A path with double dots: the statement would be added to the file that the dots lead to. -/
theorem lens_of_path_going_up :
    (Url.ofPath? (.ofString "/x/../M.xml")).map Url.toString = some "file:///x/../M.xml" ∧
      (decodeSection (Action.generate "file:///x/../M.xml" ⟨0, 23⟩ (skeleton .sql "f")).arguments).toOption.map
        (fun q => q.url.toString) = some "file:///M.xml" := by
  decide +kernel

end StatementLens.Server
