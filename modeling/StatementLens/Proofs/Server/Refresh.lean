import StatementLens.Proofs.Server.Agreement

/-!
# Refreshing lenses

The lenses of a document depend on the texts of XML files, as the session sees them. A session that asks the
editor for a refresh whenever an open XML document has been changed does not do so when such a document is
opened or closed, although a text may give way to another one then. So lenses go stale without a word, but
only in this way (`lenses_go_stale_by_opening_and_closing`).
-/

namespace StatementLens.Server

/-! ## What is sent -/

/-- The request for lenses to be computed again. -/
def refreshRequest : Talk.Sent := ⟨"workspace/codeLens/refresh", none⟩

/-- A refresh is asked for exactly after a change of an XML document. -/
theorem sent_refreshAfter (replies : String → Reply) (s : Session) (url : Url) :
    ((refreshAfter s url).run replies).sent
      = if isXmlUrl url && s.refreshes then [refreshRequest] else [] := by
  unfold refreshAfter
  split
  · show refreshRequest :: _ = _
    congr 1
    dsimp only
    split <;> rfl
  · rfl

/-- What is sent to the editor when a session is told of a document. -/
def DocumentEvent.messages (s : Session) : DocumentEvent → List Talk.Sent
  | .changed url _ _ =>
    if (s.document? url).isSome && isXmlUrl url && s.refreshes then [refreshRequest] else []
  | _ => []

/-- Whether the text of a document is changed, and the document neither opened nor closed. -/
def DocumentEvent.IsChange : DocumentEvent → Prop
  | .changed _ _ _ => True
  | _ => False

namespace DocumentEvent

/-- Nothing else is sent. -/
theorem messages_cases (s : Session) (event : DocumentEvent) :
    event.messages s = [refreshRequest] ∨ event.messages s = [] := by
  unfold messages
  split
  · split
    · exact .inl rfl
    · exact .inr rfl
  · exact .inr rfl

/-- A refresh is asked for if the text of an open XML document changes. -/
theorem messages_eq_iff {s : Session} {event : DocumentEvent} (hrefreshes : s.refreshes = true)
    (hxml : isXmlUrl event.url = true) :
    event.messages s = [refreshRequest] ↔ event.IsChange ∧ (s.document? event.url).isSome := by
  cases event with
  | changed url version changes =>
    have hxml : isXmlUrl url = true := hxml
    simp [messages, IsChange, DocumentEvent.url, hrefreshes, hxml, Option.isSome_iff_ne_none]
  | opened url version text => simp [messages, IsChange]
  | closed url => simp [messages, IsChange]

/-- A change of a document that is not open changes nothing. -/
theorem apply_of_closed {s : Session} (event : DocumentEvent) (hchange : event.IsChange)
    (hclosed : ¬ (s.document? event.url).isSome) : event.apply s = s := by
  cases event with
  | changed url version changes =>
    have hnone : s.document? url = none := Option.not_isSome_iff_eq_none.1 hclosed
    simp only [apply, hnone]
  | opened url version text => exact hchange.elim
  | closed url => exact hchange.elim

end DocumentEvent

/-- An event is read from a notification of one of the methods about documents. -/
theorem exists_of_event? {e : Exchange} {event : DocumentEvent} (h : e.event? = some event) :
    e.call.id = none ∧ ∃ method, Method.ofName? e.call.method = some method ∧
      DocumentEvent.ofMethod? e.call method = some event := by
  unfold Exchange.event? DocumentEvent.ofCall? at h
  split at h
  · cases h
  next hid => exact ⟨hid, Option.bind_eq_some_iff.1 h⟩

/-- A value comes from a success. -/
theorem eq_ok_of_toOption {α ε : Type} {r : Except ε α} {a : α} (h : r.toOption = some a) :
    r = .ok a := by
  cases r with
  | error e => cases h
  | ok b =>
    cases h
    rfl

section

variable (replies : String → Reply) (s : Session)

/-- A notification that can be read leads to what its handler leads to. -/
theorem run_asNotification {α : Type} {c : Call} (hid : c.id = none) (p : α)
    (handler : α → Talk Session) :
    ((asNotification s c (.ok p) handler).run replies).value = (((handler p).run replies).value, .silence) ∧
      ((asNotification s c (.ok p) handler).run replies).sent = ((handler p).run replies).sent := by
  unfold asNotification
  rw [hid]
  refine ⟨Talk.value_bind replies _ _, (Talk.sent_bind replies _ _).trans ?_⟩
  exact List.append_nil _

/-- What a change of a document lets the server send. -/
theorem sent_change (p : ChangeParams) :
    ((change s p).run replies).sent = (DocumentEvent.changed p.url p.version p.changes).messages s := by
  unfold change
  simp only [DocumentEvent.messages]
  cases hd : s.document? p.url with
  | none => rfl
  | some d =>
    refine (Talk.sent_bind replies _ _).trans ?_
    rw [sent_refreshAfter]
    simp [Session.openText]
    rfl

end

/-- A notification about a document does what it says, and nothing is sent but a request for a refresh. -/
theorem outcome_event {s : Session} (hs : s.phase = .running) {e : Exchange} {event : DocumentEvent}
    (he : e.event? = some event) :
    (e.outcome s).value = (event.apply s, .silence) ∧ (e.outcome s).sent = event.messages s := by
  obtain ⟨hid, method, hmethod, hsays⟩ := exists_of_event? he
  unfold Exchange.outcome
  rw [serve_eq_handle e.disk hs hmethod]
  unfold DocumentEvent.ofMethod? at hsays
  split at hsays
  · obtain ⟨p, hp, rfl⟩ := Option.map_eq_some_iff.1 hsays
    rw [handle, eq_ok_of_toOption hp]
    exact run_asNotification e.replies s hid p _
  · obtain ⟨p, hp, rfl⟩ := Option.map_eq_some_iff.1 hsays
    rw [handle, eq_ok_of_toOption hp, ← sent_change e.replies s p, ← session_change e.replies s p]
    exact run_asNotification e.replies s hid p (change s)
  · obtain ⟨url, hurl, rfl⟩ := Option.map_eq_some_iff.1 hsays
    rw [handle, eq_ok_of_toOption hurl]
    exact run_asNotification e.replies s hid url _
  · cases hsays

/-! ## What lenses depend on -/

/-- An event of one document leaves the others. -/
theorem document?_apply_of_ne (s : Session) {event : DocumentEvent} {url : Url}
    (h : event.url.toString ≠ url.toString) : (event.apply s).document? url = s.document? url := by
  rw [document?_apply]
  exact if_neg h

/-- The text of a file stays unless the session is told of a document with the URL of the file. -/
theorem source_apply (s : Session) (disk : Disk) (event : DocumentEvent) {p : Path}
    (h : ∀ u, Url.ofPath? p = some u → event.url.toString ≠ u.toString) :
    (event.apply s).source disk p = s.source disk p := by
  have hdocument : (Url.ofPath? p).bind (event.apply s).document? = (Url.ofPath? p).bind s.document? := by
    cases hu : Url.ofPath? p with
    | none => rfl
    | some u =>
      show (event.apply s).document? u = s.document? u
      rw [document?_apply_of_ne _ (h u hu)]
  rw [Session.source_eq, Session.source_eq, hdocument]

/-- There is no list of lenses for a document that is not open. -/
theorem answer_of_asksLenses_closed {s : Session} {ask : Exchange} {disk : Disk} {id : CallId} {url : Url}
    (hask : ask.AsksLenses disk id url) (hs : s.phase = .running) (hclosed : s.document? url = none) :
    (ask.outcome s).value.2 = .response ⟨id, .ok .null⟩ := by
  have hmethod : Method.ofName? ask.call.method = some .codeLens := by
    rw [hask.method]
    rfl
  unfold Exchange.outcome
  rw [serve_eq_handle ask.disk hs hmethod, hask.disk_eq]
  simp only [handle, asRequest, hask.id, hask.params, answerLenses, hclosed]
  rfl

/-- Two sessions that know the same of a document, of the folders and of the texts of XML files give the same
lenses for the document. -/
theorem answer_congr {s t : Session} {ask : Exchange} {disk : Disk} {id : CallId} {url : Url}
    (hask : ask.AsksLenses disk id url) (hs : s.phase = .running) (ht : t.phase = .running)
    (hfolders : t.SameFolders s) (hdocument : t.document? url = s.document? url)
    (htexts : ∀ p, Walk.isXml p = true → t.source disk p = s.source disk p) :
    (ask.outcome t).value.2 = (ask.outcome s).value.2 := by
  cases hd : s.document? url with
  | none =>
    rw [answer_of_asksLenses_closed hask hs hd, answer_of_asksLenses_closed hask ht (hdocument.trans hd)]
  | some d =>
    -- only the texts of XML files are looked at in a search
    have hsame : (Correlate.answers disk s.config s.workspace (t.source disk)).lenses s.workspace d.document
        = (Correlate.answers disk s.config s.workspace (s.source disk)).lenses s.workspace d.document :=
      Correlate.lenses_answers_congr fun _ p hp => htexts p hp
    have hlenses := (Correlate.fit_answers disk s.config s.workspace (s.source disk)).lenses s.workspace
      d.document
    have hlenses' : Ends (t.lenses disk d.document)
        ((Correlate.answers disk s.config s.workspace (s.source disk)).lenses s.workspace d.document) := by
      unfold Session.lenses
      rw [hfolders.1, hfolders.2, ← hsame]
      exact (Correlate.fit_answers disk s.config s.workspace (t.source disk)).lenses s.workspace d.document
    rw [answer_of_asksLenses hask hs hd hlenses, answer_of_asksLenses hask ht (hdocument.trans hd) hlenses']

/-- What a session answers about other documents stays unless a file that has the URL of the document that it is
told of has another text then. -/
theorem answer_event {s : Session} (hs : s.phase = .running) (event : DocumentEvent) {ask : Exchange}
    {disk : Disk} {id : CallId} {url : Url} (hask : ask.AsksLenses disk id url)
    (hother : event.url.toString ≠ url.toString)
    (htexts : ∀ p u, Url.ofPath? p = some u → event.url.toString = u.toString → Walk.isXml p = true →
      (event.apply s).source disk p = s.source disk p) :
    (ask.outcome (event.apply s)).value.2 = (ask.outcome s).value.2 := by
  have hdocument : (event.apply s).document? url = s.document? url :=
    document?_apply_of_ne s hother
  refine answer_congr hask hs ((phase_apply s event).trans hs) (sameFolders_apply s event) hdocument ?_
  intro p hp
  by_cases hfile : ∃ u, Url.ofPath? p = some u ∧ event.url.toString = u.toString
  · obtain ⟨u, hu, hsame⟩ := hfile
    exact htexts p u hu hsame hp
  · exact source_apply s disk event fun u hu hsame => hfile ⟨u, hu, hsame⟩

/-- In a session with an editor that supports refreshing lenses, a notification about an XML document lets the
editor refresh its lenses exactly if it changes the text of an open one. It changes the lenses of another
document without a word only if it opens or closes its own one, and a file with this URL has another text then. -/
theorem lenses_go_stale_by_opening_and_closing (s : Session) (e : Exchange) (event : DocumentEvent)
    (hs : s.phase = .running) (hrefreshes : s.refreshes = true) (he : e.event? = some event)
    (hxml : isXmlUrl event.url = true) :
    ((e.outcome s).sent = [refreshRequest] ∨ (e.outcome s).sent = []) ∧
    ((e.outcome s).sent = [refreshRequest] ↔ event.IsChange ∧ (s.document? event.url).isSome) ∧
    ∀ (ask : Exchange) (disk : Disk) (id : CallId) (url : Url), ask.AsksLenses disk id url →
      event.url.toString ≠ url.toString →
      (ask.outcome (e.next s)).value.2 ≠ (ask.outcome s).value.2 →
      (e.outcome s).sent = [refreshRequest] ∨
        ¬ event.IsChange ∧ ∃ p u, Url.ofPath? p = some u ∧ event.url.toString = u.toString ∧
          Walk.isXml p = true ∧ (e.next s).source disk p ≠ s.source disk p := by
  obtain ⟨hvalue, hsent⟩ := outcome_event hs he
  have hnext : e.next s = event.apply s := congrArg Prod.fst hvalue
  have hexact : (e.outcome s).sent = [refreshRequest] ↔ event.IsChange ∧ (s.document? event.url).isSome := by
    rw [hsent]
    exact DocumentEvent.messages_eq_iff hrefreshes hxml
  refine ⟨?_, hexact, ?_⟩
  · rw [hsent]
    exact DocumentEvent.messages_cases s event
  · intro ask disk id url hask hother hstale
    rw [hnext] at hstale ⊢
    by_cases hchange : event.IsChange
    · left
      by_contra hsilent
      apply hstale
      -- a silent change is one to a file that is not open, which changes nothing
      rw [event.apply_of_closed hchange fun hopen => hsilent (hexact.2 ⟨hchange, hopen⟩)]
    · right
      refine ⟨hchange, ?_⟩
      by_contra hnone
      apply hstale
      apply answer_event hs event hask hother
      intro p u hu hsame hp
      by_contra htext
      exact hnone ⟨p, u, hu, hsame, hp, htext⟩

/-! ## A project -/

/-- Begins a session in the sample project, with an editor that supports refreshing lenses. -/
def refreshingStart : Exchange :=
  ⟨sampleDisk, fun _ => .ok .null, ⟨"initialize", some (.obj [
    ("capabilities", .obj [("workspace", .obj [("codeLens", .obj [("refreshSupport", .bool true)])])]),
    ("rootUri", .str "file:///")]), some (.number 1)⟩⟩

/-- Asks for the lenses of the Java file. -/
def askingLenses : Exchange :=
  ⟨sampleDisk, fun _ => .ok .null, ⟨"textDocument/codeLens", some (.obj [
    ("textDocument", .obj [("uri", .str "file:///target/src/main/java/M.java")])]), some (.number 2)⟩⟩

/-- The session in which the Java file is open. -/
def javaSession : Session :=
  ⟨.running, [(sampleUrl.toString, ⟨.ofText sampleUrl.toString sampleText, 1⟩)], ⟨[sampleRoot]⟩,
    .standard, true⟩

/-- The XML file of the project with a statement, as it is opened in the editor. -/
def openedXml : String := "<mapper namespace='M'><sql id='f'/></mapper>"

/-- The URL of the XML file. -/
def xmlUrl : Url := ⟨"file".toList, some [], [], "/M.xml".toList, none, none⟩

/-- The session is reached by starting and opening the file. -/
theorem sessionAfter_java : sessionAfter .initial
    [refreshingStart, .opening "file:///target/src/main/java/M.java" 1 sampleText] = javaSession := by
  have hbegins : refreshingStart.Begins sampleDisk sampleRoot :=
    ⟨rfl, rfl, rfl, ⟨some ⟨"file".toList, some [], [], "/".toList, none, none⟩, none, none, true⟩,
      by with_unfolding_all rfl, rfl, by decide +kernel⟩
  have hstart : refreshingStart.next .initial = ⟨.running, [], ⟨[sampleRoot]⟩, .standard, true⟩ := by
    have hconfig : Config.load sampleDisk sampleRoot = .ok .standard := by decide +kernel
    obtain ⟨p, hparams, hnext⟩ := next_eq_of_begins hbegins hconfig
    have hp : readParams decodeStart refreshingStart.call
        = .ok ⟨some ⟨"file".toList, some [], [], "/".toList, none, none⟩, none, none, true⟩ := by
      with_unfolding_all rfl
    rw [hp] at hparams
    cases hparams
    exact hnext
  have hparse : Url.parse "file:///target/src/main/java/M.java" = .ok sampleUrl := by decide +kernel
  have hevent := event?_opening sampleText hparse (show Json.fitsSigned 32 1 = true from rfl)
  have hopened := congrArg Prod.fst (outcome_event (s := ⟨.running, [], ⟨[sampleRoot]⟩, .standard, true⟩)
    rfl hevent).1
  show Exchange.next (refreshingStart.next .initial) _ = _
  rw [hstart]
  exact hopened

/-- The lens of the Java file, given its XML mapper. -/
theorem answer_askingLenses {t : Session} (xml : XmlMapper) (ht : t.phase = .running)
    (hfolders : t.SameFolders javaSession)
    (hopen : t.document? sampleUrl = some ⟨.ofText sampleUrl.toString sampleText, 1⟩)
    (hanswer : Lookup.answer (t.source sampleDisk) "M" [.ofString "/M.xml"] = .ok (some xml)) :
    (askingLenses.outcome t).value.2 = .response ⟨.number 2, .ok (.arr [offered
      ⟨⟨⟨0, 16⟩, ⟨0, 17⟩⟩, xml.actionFor ⟨"f", ⟨0, 16⟩⟩⟩])⟩ := by
  have hparse : Url.parse "file:///target/src/main/java/M.java" = .ok sampleUrl := by decide +kernel
  have hask : askingLenses.AsksLenses sampleDisk (.number 2) sampleUrl := by
    refine ⟨rfl, rfl, rfl, ?_⟩
    simp [askingLenses, readParams, decodeLensParams, decodeWithTokens, decodeDocument, Json.Record.decode,
      Json.Record.ofFields, Json.Record.checkFields, Json.Record.required, List.lookup_cons, workToken,
      partialToken, decode_str hparse, Except.map, Except.mapError, bind, Except.bind, pure, Except.pure]
  have hlenses : Ends (t.lenses sampleDisk (.ofText sampleUrl.toString sampleText))
      (.ok [⟨⟨⟨0, 16⟩, ⟨0, 17⟩⟩, xml.actionFor ⟨"f", ⟨0, 16⟩⟩⟩]) := by
    rw [← lenses_of_answer hanswer]
    unfold Session.lenses
    rw [hfolders.1, hfolders.2]
    exact (Correlate.fit_answers _ _ _ _).lenses _ _
  exact answer_of_asksLenses hask ht hopen hlenses

/-- The XML file is opened with a statement that it does not have on the disk. The lens of the method leads to
it from now on, but the editor is not told. -/
theorem lenses_go_stale_by_opening_and_closing_sample :
    let es : List Exchange :=
      [refreshingStart, .opening "file:///target/src/main/java/M.java" 1 sampleText]
    let s := sessionAfter .initial es
    let e := Exchange.opening "file:///M.xml" 1 openedXml
    (e.outcome s).sent = [] ∧
      (askingLenses.outcome s).value.2 = .response ⟨.number 2, .ok (.arr [offered ⟨⟨⟨0, 16⟩, ⟨0, 17⟩⟩,
        .generate "file:///M.xml" ⟨0, 23⟩ (skeleton .sql "f")⟩])⟩ ∧
      (askingLenses.outcome (e.next s)).value.2 = .response ⟨.number 2, .ok (.arr [offered
        ⟨⟨⟨0, 16⟩, ⟨0, 17⟩⟩, .navigate "file:///M.xml" ⟨⟨0, 22⟩, ⟨0, 35⟩⟩⟩])⟩ ∧
      (askingLenses.outcome (e.next s)).value.2 ≠ (askingLenses.outcome s).value.2 := by
  intro es s e
  have hs : s = javaSession := sessionAfter_java
  have hevent : e.event? = some (.opened xmlUrl 1 openedXml.toList) :=
    event?_opening openedXml (by decide +kernel) rfl
  have hstale := lenses_go_stale_by_opening_and_closing s e _ (by rw [hs]; rfl) (by rw [hs]; rfl) hevent
    (by decide +kernel)
  have hsent : (e.outcome s).sent = [] := by
    rcases hstale.1 with hsent | hsent
    · exact absurd (hstale.2.1.1 hsent).1 id
    · exact hsent
  have hnext : e.next s = javaSession.openText xmlUrl 1 openedXml.toList := by
    rw [hs]
    exact congrArg Prod.fst (outcome_event rfl hevent).1
  have hbefore : (askingLenses.outcome s).value.2 = .response ⟨.number 2, .ok (.arr [offered
      ⟨⟨⟨0, 16⟩, ⟨0, 17⟩⟩, .generate "file:///M.xml" ⟨0, 23⟩ (skeleton .sql "f")⟩])⟩ := by
    rw [hs]
    exact answer_askingLenses ⟨"file:///M.xml", "M", [], ⟨0, 23⟩⟩ rfl ⟨rfl, rfl⟩
      (by with_unfolding_all rfl) (Lookup.answer_eq_ok_some_iff.2 (by decide +kernel))
  have hafter : (askingLenses.outcome (e.next s)).value.2 = .response ⟨.number 2, .ok (.arr [offered
      ⟨⟨⟨0, 16⟩, ⟨0, 17⟩⟩, .navigate "file:///M.xml" ⟨⟨0, 22⟩, ⟨0, 35⟩⟩⟩])⟩ := by
    rw [hnext]
    exact answer_askingLenses ⟨"file:///M.xml", "M", [⟨"f", .sql, ⟨0, 22⟩, ⟨0, 35⟩⟩], ⟨0, 35⟩⟩ rfl
      ⟨rfl, rfl⟩ (by with_unfolding_all rfl) (Lookup.answer_eq_ok_some_iff.2 (by decide +kernel))
  refine ⟨hsent, hbefore, hafter, ?_⟩
  rw [hbefore, hafter]
  simp [offered]

end StatementLens.Server
