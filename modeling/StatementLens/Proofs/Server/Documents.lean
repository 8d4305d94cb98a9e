import StatementLens.Proofs.Associations
import StatementLens.Proofs.Edits
import StatementLens.Server.Session

/-!
# The open documents of a session

An editor opens, changes and closes documents by notifications, between which it makes other calls.
What a session knows of a document is what the notifications about this document say, in their order
(`documents_follow_history`): the text that was opened last, with all later changes, unless it has been
closed since.
-/

namespace StatementLens.Server

/-! ## Runs of calls -/

/-- A call with what its handling meets: the disk at that time, and the replies of the editor. -/
structure Exchange where
  disk : Disk
  replies : String → Reply
  call : Call

/-- What comes of handling a call. -/
def Exchange.outcome (e : Exchange) (s : Session) : Talk.Outcome (Session × Answer) :=
  (serve e.disk s e.call).run e.replies

/-- The session after a call. -/
def Exchange.next (s : Session) (e : Exchange) : Session := (e.outcome s).value.1

/-- The session after calls that are handled one at a time. -/
def sessionAfter (s : Session) (es : List Exchange) : Session := es.foldl Exchange.next s

/-- What a notification says about a document. -/
inductive DocumentEvent where
  | opened (url : Url) (version : Int) (text : List Char)
  | changed (url : Url) (version : Int) (changes : List TextChange)
  | closed (url : Url)

namespace DocumentEvent

/-- The URL of the document. -/
def url : DocumentEvent → Url
  | .opened url _ _ => url
  | .changed url _ _ => url
  | .closed url => url

/-- Whether a document is the one with a URL. -/
def IsAbout (url : Url) (e : DocumentEvent) : Prop := e.url.toString = url.toString

instance (url : Url) (e : DocumentEvent) : Decidable (e.IsAbout url) :=
  inferInstanceAs (Decidable (_ = _))

/-- What a notification of a method says about a document, if its parameters can be read. -/
def ofMethod? (c : Call) : Method → Option DocumentEvent
  | .didOpen =>
    (readParams decodeOpen c).toOption.map fun p => .opened p.url p.version p.text.toList
  | .didChange =>
    (readParams decodeChangeParams c).toOption.map fun p => .changed p.url p.version p.changes
  | .didClose => (readParams decodeClose c).toOption.map .closed
  | _ => none

/-- What a call says about a document; a notification that carries an id says nothing. -/
def ofCall? (c : Call) : Option DocumentEvent :=
  match c.id with
  | some _ => none
  | none => (Method.ofName? c.method).bind (ofMethod? c)

/-- The session after what has been said about a document. -/
def apply (s : Session) : DocumentEvent → Session
  | .opened url version text => s.openText url version text
  | .changed url version changes =>
    match s.document? url with
    | none => s
    | some d => s.openText url version (applyChanges d.document.text changes)
  | .closed url => s.close url

end DocumentEvent

/-- What a call says about a document. -/
def Exchange.event? (e : Exchange) : Option DocumentEvent := DocumentEvent.ofCall? e.call

/-- What calls say about documents, in their order. -/
def historyOf (es : List Exchange) : List DocumentEvent := es.filterMap Exchange.event?

/-! ## One call -/

section

variable (replies : String → Reply) (s : Session) (c : Call)

/-- A notification that can be read leads to the session of its handler, and any other one nowhere. -/
theorem session_asNotification {α : Type} (params : Except CallError α) (handler : α → Talk Session) :
    ((asNotification s c params handler).run replies).value.1
      = match c.id, params with
        | none, .ok p => ((handler p).run replies).value
        | _, _ => s := by
  unfold asNotification
  cases c.id with
  | some id => rfl
  | none =>
    cases params with
    | error e => rfl
    | ok p =>
      have hbind := Talk.value_bind replies (handler p) fun s => pure (s, Answer.silence)
      exact congrArg Prod.fst hbind

/-- A notification leads to a session of which everything holds that holds of the session before it and
of those that its handler leads to. -/
theorem of_asNotification {α : Type} {params : Except CallError α} {handler : α → Talk Session}
    {P : Session → Prop} (hs : P s) (h : ∀ p, P ((handler p).run replies).value) :
    P ((asNotification s c params handler).run replies).value.1 := by
  rw [session_asNotification]
  split
  · apply h
  · exact hs

/-- A request leads to a session of which everything holds that holds of the session before it and
of those that its handler leads to. -/
theorem of_asRequest {α : Type} {params : Except CallError α} {handler : α → Talk (Session × Reply)}
    {P : Session → Prop} (hs : P s) (h : ∀ p, P ((handler p).run replies).value.1) :
    P ((asRequest s c params handler).run replies).value.1 := by
  unfold asRequest
  cases c.id with
  | none => exact hs
  | some id =>
    cases params with
    | error e => exact hs
    | ok p =>
      have hbind := Talk.value_bind replies (handler p)
        fun r => pure (r.1, Answer.response ⟨id, r.2⟩)
      exact (congrArg (fun r => P r.1) hbind).mpr (h p)

/-- A change of an open document is made, and others are not looked at. -/
theorem session_change (p : ChangeParams) :
    ((change s p).run replies).value = (DocumentEvent.changed p.url p.version p.changes).apply s := by
  unfold change
  simp only [DocumentEvent.apply]
  cases s.document? p.url with
  | none => rfl
  | some d => exact Talk.value_bind replies _ _

/-- An event of a document does not change how far a session has come. -/
theorem phase_apply (e : DocumentEvent) : (e.apply s).phase = s.phase := by
  cases e with
  | opened url version text => rfl
  | closed url => rfl
  | changed url version changes =>
    simp only [DocumentEvent.apply]
    cases s.document? url <;> rfl

/-- Whether two sessions have come as far and have the same documents. -/
def Session.Alike (s t : Session) : Prop := s.phase = t.phase ∧ s.documents = t.documents

/-- A session is like itself. -/
theorem Session.alike_of_eq {s t : Session} (h : s = t) : s.Alike t := h ▸ ⟨rfl, rfl⟩

/-- A notification leaves what its handler leaves. -/
theorem alike_asNotification {α : Type} {params : Except CallError α} {handler : α → Talk Session}
    (h : ∀ p, ((handler p).run replies).value.Alike s) :
    (((asNotification s c params handler).run replies).value.1).Alike s :=
  of_asNotification replies s c (P := fun t => t.Alike s) ⟨rfl, rfl⟩ h

/-- So does a request. -/
theorem alike_asRequest {α : Type} {params : Except CallError α} {handler : α → Talk (Session × Reply)}
    (h : ∀ p, (((handler p).run replies).value.1).Alike s) :
    (((asRequest s c params handler).run replies).value.1).Alike s :=
  of_asRequest replies s c (P := fun t => t.Alike s) ⟨rfl, rfl⟩ h

/-- A notification about a document does to the session what it says. -/
theorem alike_about {α : Type} {params : Except CallError α} {handler : α → Talk Session}
    {say : α → DocumentEvent} (hsay : ∀ p, ((handler p).run replies).value = (say p).apply s)
    (hcall : DocumentEvent.ofCall? c = match c.id with
      | some _ => none
      | none => params.toOption.map say) :
    (((asNotification s c params handler).run replies).value.1).Alike
      ((DocumentEvent.ofCall? c).elim s (DocumentEvent.apply s)) := by
  rw [session_asNotification, hcall]
  cases c.id with
  | some id => exact ⟨rfl, rfl⟩
  | none =>
    cases params with
    | error e => exact ⟨rfl, rfl⟩
    | ok p => exact Session.alike_of_eq (hsay p)

/-- Of the methods of a running session, only those about documents touch the documents. -/
theorem alike_handle (disk : Disk) {method : Method} (hmethod : Method.ofName? c.method = some method) :
    (((handle disk s c method).run replies).value.1).Alike
      ((DocumentEvent.ofCall? c).elim s (DocumentEvent.apply s)) := by
  have hcall : DocumentEvent.ofCall? c
      = match c.id with
        | some _ => none
        | none => DocumentEvent.ofMethod? c method := by
    unfold DocumentEvent.ofCall?
    rw [hmethod]
    rfl
  -- a method that says nothing about documents leaves them as they are
  have hother (hnone : DocumentEvent.ofMethod? c method = none)
      (halike : (((handle disk s c method).run replies).value.1).Alike s) :
      (((handle disk s c method).run replies).value.1).Alike
        ((DocumentEvent.ofCall? c).elim s (DocumentEvent.apply s)) := by
    rw [hcall, hnone]
    cases c.id <;> exact halike
  cases method with
  | didOpen => exact alike_about replies s c (fun p => rfl) hcall
  | didChange => exact alike_about replies s c (session_change replies s) hcall
  | didClose => exact alike_about replies s c (fun url => rfl) hcall
  | didSave =>
    apply hother rfl
    apply alike_asNotification
    intro url
    exact Session.alike_of_eq (Talk.value_bind replies _ _)
  | initialized => exact hother rfl (alike_asNotification replies s c fun _ => ⟨rfl, rfl⟩)
  | didChangeFolders => exact hother rfl (alike_asNotification replies s c fun _ => ⟨rfl, rfl⟩)
  | ignored => exact hother rfl (alike_asNotification replies s c fun _ => ⟨rfl, rfl⟩)
  | cancel => exact hother rfl (alike_asNotification replies s c fun _ => ⟨rfl, rfl⟩)
  | codeLens =>
    apply hother rfl
    apply alike_asRequest
    intro url
    exact Session.alike_of_eq (congrArg Prod.fst (Talk.value_bind replies _ _))
  | executeCommand =>
    apply hother rfl
    apply alike_asRequest
    intro p
    exact Session.alike_of_eq (congrArg Prod.fst (Talk.value_bind replies _ _))
  | unsupported params =>
    exact hother rfl (alike_asRequest replies s c fun _ => ⟨rfl, rfl⟩)

end

/-- Whether a call leaves a running session running. -/
def Exchange.Keeps (e : Exchange) : Prop := e.call.method ≠ "shutdown" ∧ e.call.method ≠ "exit"

/-- In a running session a method that the server provides is handled. -/
theorem serve_eq_handle (disk : Disk) {s : Session} {c : Call} {method : Method}
    (hs : s.phase = .running) (hmethod : Method.ofName? c.method = some method) :
    serve disk s c = handle disk s c method := by
  have hended : ¬ s.phase = .ended := by rw [hs]; decide
  unfold serve
  rw [if_neg hended]
  split
  · next hname => rw [hname] at hmethod; cases hmethod
  · next hname => rw [hname] at hmethod; cases hmethod
  · next hname => rw [hname] at hmethod; cases hmethod
  · simp only [hmethod, hs, if_true]

/-- In a running session a method that the server does not provide leads nowhere. -/
theorem next_eq_self {s : Session} {e : Exchange} (hs : s.phase = .running) (he : e.Keeps)
    (hmethod : Method.ofName? e.call.method = none) : e.next s = s := by
  have hfresh : ¬ s.phase = .fresh := by rw [hs]; decide
  have hended : ¬ s.phase = .ended := by rw [hs]; decide
  unfold Exchange.next Exchange.outcome serve
  rw [if_neg hended]
  split
  · unfold handleStart
    rw [if_neg hfresh]
    rfl
  · next hname => exact absurd hname he.1
  · next hname => exact absurd hname he.2
  · rw [hmethod]
    simp only [handleUnknown]
    split <;> rfl

/-- A call in a running session does what it says about documents, unless it asks for the end. -/
theorem alike_next {s : Session} {e : Exchange} (hs : s.phase = .running) (he : e.Keeps) :
    (e.next s).Alike (e.event?.elim s (DocumentEvent.apply s)) := by
  cases hmethod : Method.ofName? e.call.method with
  | some method =>
    unfold Exchange.next Exchange.outcome
    rw [serve_eq_handle e.disk hs hmethod]
    exact alike_handle e.replies s e.call e.disk hmethod
  | none =>
    have hevent : e.event? = none := by
      unfold Exchange.event? DocumentEvent.ofCall?
      rw [hmethod]
      cases e.call.id <;> rfl
    rw [hevent, next_eq_self hs he hmethod]
    exact ⟨rfl, rfl⟩

/-- A running session goes on unless it is shut down. -/
theorem phase_next {s : Session} {e : Exchange} (hs : s.phase = .running) (he : e.Keeps) :
    (e.next s).phase = .running := by
  rw [(alike_next hs he).1, ← hs]
  cases e.event? with
  | none => rfl
  | some event => exact phase_apply s event

/-! ## The entry of a document -/

namespace DocumentEvent

/-- Whether a document with a URL is opened. -/
def Opens (url : Url) : DocumentEvent → Prop
  | .opened other _ _ => other.toString = url.toString
  | _ => False

/-- Whether the document with a URL is closed. -/
def Closes (url : Url) : DocumentEvent → Prop
  | .closed other => other.toString = url.toString
  | _ => False

/-- The changes of the document with a URL, and its version after them. -/
def changesOf? (url : Url) : DocumentEvent → Option (Int × List TextChange)
  | .changed other version changes =>
    if other.toString = url.toString then some (version, changes) else none
  | _ => none

/-- What is known of the document with a URL after an event. -/
def entryAfter (url : Url) (d : Option OpenDocument) (e : DocumentEvent) : Option OpenDocument :=
  if e.url.toString = url.toString then
    match e with
    | .opened _ version text => some ⟨⟨url.toString, .ofText text⟩, version⟩
    | .changed _ version changes =>
      d.map fun d => ⟨⟨url.toString, .ofText (applyChanges d.document.text changes)⟩, version⟩
    | .closed _ => none
  else d

end DocumentEvent

section

variable (s : Session) {url other : Url}

/-- A document that has been closed is not open. -/
theorem Session.document?_close (h : other.toString = url.toString) :
    (s.close other).document? url = none := by
  unfold Session.document? Session.close
  rw [List.lookup_eq_none_iff]
  intro entry hentry
  have hne : entry.1 ≠ other.toString := by simpa using (List.mem_filter.1 hentry).2
  exact bne_iff_ne.2 fun heq => hne (heq.symm.trans h.symm)

/-- Closing a document leaves the others. -/
theorem Session.document?_close_of_ne (h : other.toString ≠ url.toString) :
    (s.close other).document? url = s.document? url :=
  lookup_filter_key (p := fun key => decide (key ≠ other.toString)) (decide_eq_true h.symm) s.documents

/-- So does opening one. -/
theorem Session.document?_openText_of_ne (version : Int) (text : List Char)
    (h : other.toString ≠ url.toString) :
    (s.openText other version text).document? url = s.document? url := by
  have hlast : ([(other.toString, (⟨⟨other.toString, .ofText text⟩, version⟩ : OpenDocument))].lookup
      url.toString) = none := by
    rw [List.lookup_eq_none_iff]
    intro entry hentry
    rw [List.mem_singleton.1 hentry]
    exact bne_iff_ne.2 (Ne.symm h)
  have hclose := s.document?_close_of_ne h
  unfold Session.document? at hclose ⊢
  unfold Session.openText
  rw [List.lookup_append, hlast, Option.or_none, hclose]

/-- Documents are told apart by how their URLs are written. -/
theorem Session.document?_congr (h : other.toString = url.toString) :
    s.document? other = s.document? url := by
  unfold Session.document?
  rw [h]

/-- An event touches the entry of its own document only. -/
theorem document?_apply (e : DocumentEvent) :
    (e.apply s).document? url = e.entryAfter url (s.document? url) := by
  by_cases h : e.url.toString = url.toString
  · cases e with
    | opened other version text =>
      have h : other.toString = url.toString := h
      simp only [DocumentEvent.apply, DocumentEvent.entryAfter, DocumentEvent.url, h, if_true]
      rw [← Session.document?_congr _ h, Session.document?_openText, h]
    | closed other =>
      have h : other.toString = url.toString := h
      simp only [DocumentEvent.apply, DocumentEvent.entryAfter, DocumentEvent.url, h, if_true]
      exact s.document?_close h
    | changed other version changes =>
      have h : other.toString = url.toString := h
      simp only [DocumentEvent.apply, DocumentEvent.entryAfter, DocumentEvent.url, h, if_true]
      rw [Session.document?_congr s h]
      cases hd : s.document? url with
      | none => exact hd
      | some d =>
        simp only [Option.map_some]
        rw [← Session.document?_congr _ h, Session.document?_openText, h]
  · unfold DocumentEvent.entryAfter
    rw [if_neg h]
    cases e with
    | opened other version text => exact s.document?_openText_of_ne version text h
    | closed other => exact s.document?_close_of_ne h
    | changed other version changes =>
      rw [DocumentEvent.apply]
      cases s.document? other with
      | none => rfl
      | some d => exact s.document?_openText_of_ne version _ h

end

/-! ## Runs -/

/-- Sessions that are alike have the same documents. -/
theorem Session.Alike.document? {s t : Session} (h : s.Alike t) (url : Url) :
    s.document? url = t.document? url := by
  unfold Session.document?
  rw [h.2]

/-- A running session goes on through a whole run. -/
theorem phase_sessionAfter {s : Session} (hs : s.phase = .running) {es : List Exchange}
    (hes : ∀ e ∈ es, e.Keeps) : (sessionAfter s es).phase = .running := by
  induction es generalizing s with
  | nil => exact hs
  | cons e rest ih =>
    exact ih (phase_next hs (hes e List.mem_cons_self)) fun f hf => hes f (List.mem_cons_of_mem e hf)

/-- What a session knows of a document after calls is what the calls say about it. -/
theorem document?_sessionAfter {s : Session} (hs : s.phase = .running) {es : List Exchange}
    (hes : ∀ e ∈ es, e.Keeps) (url : Url) :
    (sessionAfter s es).document? url
      = (historyOf es).foldl (DocumentEvent.entryAfter url) (s.document? url) := by
  induction es generalizing s with
  | nil => rfl
  | cons e rest ih =>
    have he := hes e List.mem_cons_self
    have hstep := (alike_next hs he).document? url
    have hrest := ih (phase_next hs he) fun f hf => hes f (List.mem_cons_of_mem e hf)
    unfold sessionAfter historyOf at hrest ⊢
    rw [List.foldl_cons, hrest, hstep]
    cases hevent : e.event? with
    | none =>
      rw [List.filterMap_cons_none hevent]
      rfl
    | some event =>
      rw [List.filterMap_cons_some hevent, List.foldl_cons, ← document?_apply]
      rfl

/-- What is said about other documents does not matter for the entry of a document. -/
theorem foldl_entryAfter_filter (url : Url) (d : Option OpenDocument) (history : List DocumentEvent) :
    (history.filter fun e => e.IsAbout url).foldl (DocumentEvent.entryAfter url) d
      = history.foldl (DocumentEvent.entryAfter url) d := by
  rw [List.foldl_filter]
  congr 1
  funext d e
  by_cases h : e.IsAbout url
  · rw [if_pos (by simpa using h)]
  · rw [if_neg (by simpa using h)]
    exact (if_neg h).symm

/-- Calls that say nothing about a document may be left out of what is said about it. -/
theorem historyOf_filter {url : Url} {keep : Exchange → Bool} {es : List Exchange}
    (hkeep : ∀ e ∈ es, ∀ event, e.event? = some event → event.IsAbout url → keep e = true) :
    (historyOf (es.filter keep)).filter (fun event => event.IsAbout url)
      = (historyOf es).filter fun event => event.IsAbout url := by
  unfold historyOf
  induction es with
  | nil => rfl
  | cons e rest ih =>
    have hrest := ih fun f hf => hkeep f (List.mem_cons_of_mem e hf)
    by_cases he : keep e = true
    · rw [List.filter_cons_of_pos he]
      cases hevent : e.event? with
      | none => rw [List.filterMap_cons_none hevent, List.filterMap_cons_none hevent, hrest]
      | some event =>
        rw [List.filterMap_cons_some hevent, List.filterMap_cons_some hevent, List.filter_cons,
          List.filter_cons, hrest]
    · rw [List.filter_cons_of_neg he, hrest]
      cases hevent : e.event? with
      | none => rw [List.filterMap_cons_none hevent]
      | some event =>
        have hother : ¬ event.IsAbout url := fun h => he (hkeep e List.mem_cons_self event hevent h)
        rw [List.filterMap_cons_some hevent, List.filter_cons_of_neg (by simpa using hother)]

private theorem exists_split_cons {α : Type} {P : α → List α → Prop} {x : α} {rest : List α} :
    (∃ before y after, x :: rest = before ++ y :: after ∧ P y after)
      ↔ P x rest ∨ ∃ before y after, rest = before ++ y :: after ∧ P y after := by
  constructor
  · rintro ⟨before, y, after, heq, h⟩
    cases before with
    | nil =>
      cases heq
      exact .inl h
    | cons z before =>
      cases heq
      exact .inr ⟨before, y, after, rfl, h⟩
  · rintro (h | ⟨before, y, after, rfl, h⟩)
    · exact ⟨[], x, rest, rfl, h⟩
    · exact ⟨x :: before, y, after, rfl, h⟩

/-- A document is open after an event that opens it, or if it was and is not closed. -/
theorem isSome_entryAfter (url : Url) (d : Option OpenDocument) (e : DocumentEvent) :
    (e.entryAfter url d).isSome ↔ e.Opens url ∨ (d.isSome ∧ ¬ e.Closes url) := by
  unfold DocumentEvent.entryAfter
  cases e with
  | opened other version text =>
    by_cases h : other.toString = url.toString <;>
      simp [DocumentEvent.url, DocumentEvent.Opens, DocumentEvent.Closes, h]
  | changed other version changes =>
    by_cases h : other.toString = url.toString <;>
      simp [DocumentEvent.url, DocumentEvent.Opens, DocumentEvent.Closes, h]
  | closed other =>
    by_cases h : other.toString = url.toString <;>
      simp [DocumentEvent.url, DocumentEvent.Opens, DocumentEvent.Closes, h]

/-- A document is known exactly if it has been opened and not been closed since. -/
theorem isSome_foldl_entryAfter (url : Url) (d : Option OpenDocument) (history : List DocumentEvent) :
    (history.foldl (DocumentEvent.entryAfter url) d).isSome
      ↔ (d.isSome ∧ ∀ e ∈ history, ¬ e.Closes url) ∨
        ∃ before e after, history = before ++ e :: after ∧ e.Opens url ∧ ∀ f ∈ after, ¬ f.Closes url := by
  induction history generalizing d with
  | nil => simp
  | cons e rest ih =>
    rw [List.foldl_cons, ih, isSome_entryAfter, List.forall_mem_cons, exists_split_cons
      (P := fun (e : DocumentEvent) after => e.Opens url ∧ ∀ f ∈ after, ¬ f.Closes url)]
    tauto

/-- Behind its last opening, a document has the opened text with all later changes, and the version of
the last of them. -/
theorem foldl_entryAfter_changes {url : Url} {history : List DocumentEvent} (version : Int)
    (text : List Char) (h : ∀ e ∈ history, ¬ e.Opens url ∧ ¬ e.Closes url) :
    history.foldl (DocumentEvent.entryAfter url) (some ⟨⟨url.toString, .ofText text⟩, version⟩)
      = some ⟨⟨url.toString, .ofText
          (((history.filterMap (DocumentEvent.changesOf? url)).map Prod.snd).foldl applyChanges text)⟩,
        ((history.filterMap (DocumentEvent.changesOf? url)).map Prod.fst).getLastD version⟩ := by
  induction history generalizing version text with
  | nil => rfl
  | cons e rest ih =>
    obtain ⟨he, hrest⟩ := List.forall_mem_cons.1 h
    rw [List.foldl_cons]
    cases e with
    | changed other next changes =>
      by_cases hurl : other.toString = url.toString
      · have hchanges : DocumentEvent.changesOf? url (.changed other next changes)
            = some (next, changes) := if_pos hurl
        have hentry : (DocumentEvent.changed other next changes).entryAfter url
            (some ⟨⟨url.toString, .ofText text⟩, version⟩)
            = some ⟨⟨url.toString, .ofText (applyChanges text changes)⟩, next⟩ := if_pos hurl
        rw [hentry, ih next _ hrest, List.filterMap_cons_some hchanges, List.map_cons, List.map_cons,
          List.foldl_cons, List.getLastD_cons]
      · have hchanges : DocumentEvent.changesOf? url (.changed other next changes) = none :=
          if_neg hurl
        have hentry : (DocumentEvent.changed other next changes).entryAfter url
            (some ⟨⟨url.toString, .ofText text⟩, version⟩)
            = some ⟨⟨url.toString, .ofText text⟩, version⟩ := if_neg hurl
        rw [hentry, ih version text hrest, List.filterMap_cons_none hchanges]
    | opened other next opened =>
      have hentry : (DocumentEvent.opened other next opened).entryAfter url
          (some ⟨⟨url.toString, .ofText text⟩, version⟩)
          = some ⟨⟨url.toString, .ofText text⟩, version⟩ := if_neg he.1
      rw [hentry, ih version text hrest, List.filterMap_cons_none rfl]
    | closed other =>
      have hentry : (DocumentEvent.closed other).entryAfter url
          (some ⟨⟨url.toString, .ofText text⟩, version⟩)
          = some ⟨⟨url.toString, .ofText text⟩, version⟩ := if_neg he.2
      rw [hentry, ih version text hrest, List.filterMap_cons_none rfl]

/-- A change of a document comes from a notification about it. -/
theorem exists_of_event?_changed {e : Exchange} {url : Url} {version : Int} {changes : List TextChange}
    (h : e.event? = some (.changed url version changes)) :
    e.call.id = none ∧ Method.ofName? e.call.method = some .didChange ∧
      readParams decodeChangeParams e.call = .ok ⟨url, version, changes⟩ := by
  unfold Exchange.event? DocumentEvent.ofCall? at h
  split at h
  · cases h
  next hid =>
    obtain ⟨method, hmethod, h⟩ := Option.bind_eq_some_iff.1 h
    unfold DocumentEvent.ofMethod? at h
    split at h
    · obtain ⟨p, -, hp⟩ := Option.map_eq_some_iff.1 h
      cases hp
    · obtain ⟨p, hparams, hp⟩ := Option.map_eq_some_iff.1 h
      cases hp
      refine ⟨hid, hmethod, ?_⟩
      cases hread : readParams decodeChangeParams e.call with
      | error f => rw [hread] at hparams; cases hparams
      | ok q => rw [hread] at hparams; cases hparams; rfl
    · obtain ⟨p, -, hp⟩ := Option.map_eq_some_iff.1 h
      cases hp
    · cases h

/-- A change of a document that is not open leads to nothing, and nothing is sent to the editor. -/
theorem outcome_changed {s : Session} {e : Exchange} {url : Url} {version : Int}
    {changes : List TextChange} (hs : s.phase = .running)
    (he : e.event? = some (.changed url version changes)) (hclosed : s.document? url = none) :
    e.outcome s = ⟨(s, .silence), [], []⟩ := by
  obtain ⟨hid, hmethod, hparams⟩ := exists_of_event?_changed he
  have hchange : change s ⟨url, version, changes⟩ = .done s := by
    unfold change
    simp only [hclosed]
    rfl
  unfold Exchange.outcome
  rw [serve_eq_handle e.disk hs hmethod, handle, hparams]
  unfold asNotification
  simp only [hid, hchange]
  rfl

/-! ## The history of a document -/

/-- Before a session is running, no document is open. -/
theorem documents_next_fresh {s : Session} (hs : s.phase = .fresh) (e : Exchange) :
    (e.next s).documents = s.documents := by
  unfold Exchange.next Exchange.outcome serve
  rw [if_neg (by rw [hs]; decide)]
  split
  · unfold handleStart
    rw [if_pos hs]
    apply of_asRequest e.replies s e.call (P := fun t => t.documents = s.documents) rfl
    intro p
    exact congrArg (fun r => Session.documents (Prod.fst r)) (Talk.value_bind e.replies _ _)
  · unfold handleStop
    rw [if_neg (by rw [hs]; decide)]
    rfl
  · rfl
  · split
    · unfold handleUnknown
      split <;> rfl
    · rw [if_neg (by rw [hs]; decide)]
      rfl

/-- A session knows a document exactly if it has been opened and not been closed since. Its text is then
the one that it was last opened with, changed by all changes since, and its version the one that came
with the last of them. Calls about other documents do not matter, and changes of a document that is not
open do nothing. -/
theorem documents_follow_history (first : Exchange) (es : List Exchange) (url : Url)
    (hfirst : (first.next .initial).phase = .running) (hes : ∀ e ∈ es, e.Keeps) :
    let session := sessionAfter (first.next .initial) es
    ((session.document? url).isSome ↔ ∃ before e after, historyOf es = before ++ e :: after ∧
      e.Opens url ∧ ∀ f ∈ after, ¬ f.Closes url) ∧
    (∀ before other version text after, historyOf es = before ++ .opened other version text :: after →
      other.toString = url.toString → (∀ e ∈ after, ¬ e.Opens url ∧ ¬ e.Closes url) →
      session.document? url = some ⟨⟨url.toString, .ofText
          (((after.filterMap (DocumentEvent.changesOf? url)).map Prod.snd).foldl applyChanges text)⟩,
        ((after.filterMap (DocumentEvent.changesOf? url)).map Prod.fst).getLastD version⟩) ∧
    (∀ keep : Exchange → Bool,
      (∀ e ∈ es, ∀ event, e.event? = some event → event.IsAbout url → keep e = true) →
      (sessionAfter (first.next .initial) (es.filter keep)).document? url = session.document? url) ∧
    ∀ (e : Exchange) other version changes, e.event? = some (.changed other version changes) →
      session.document? other = none → e.outcome session = ⟨(session, .silence), [], []⟩ := by
  have hinitial : (first.next .initial).document? url = none := by
    unfold Session.document?
    rw [documents_next_fresh rfl]
    rfl
  have hrun := document?_sessionAfter hfirst hes url
  rw [hinitial] at hrun
  refine ⟨?_, ?_, ?_, ?_⟩
  · rw [hrun, isSome_foldl_entryAfter]
    simp
  · intro before other version text after hhistory hother hafter
    have hopened : DocumentEvent.entryAfter url
        (before.foldl (DocumentEvent.entryAfter url) none) (.opened other version text)
        = some ⟨⟨url.toString, .ofText text⟩, version⟩ := if_pos hother
    rw [hrun, hhistory, List.foldl_append, List.foldl_cons, hopened,
      foldl_entryAfter_changes version text hafter]
  · intro keep hkeep
    have hfilter : ∀ e ∈ es.filter keep, e.Keeps := fun e he => hes e (List.mem_filter.1 he).1
    rw [hrun, document?_sessionAfter hfirst hfilter, hinitial, ← foldl_entryAfter_filter,
      historyOf_filter hkeep, foldl_entryAfter_filter]
  · intro e other version changes he hclosed
    exact outcome_changed (phase_sessionAfter hfirst hes) he hclosed

/-! ## A session -/

/-- A call on an empty disk, with an editor that only confirms. -/
def Exchange.plain (method : String) (params : Json) (id : Option CallId) : Exchange :=
  ⟨⟨.folder [], [], []⟩, fun _ => .ok .null, ⟨method, some params, id⟩⟩

/-- Opens a document. -/
def Exchange.opening (url : String) (version : Int) (text : String) : Exchange :=
  .plain "textDocument/didOpen" (.obj [("textDocument", .obj [("uri", .str url),
    ("languageId", .str "xml"), ("version", .int version), ("text", .str text)])]) none

/-- Replaces the text of a document. -/
def Exchange.replacing (url : String) (version : Int) (text : String) : Exchange :=
  .plain "textDocument/didChange" (.obj [("textDocument", .obj [("uri", .str url),
    ("version", .int version)]), ("contentChanges", .arr [.obj [("text", .str text)]])]) none

/-- Closes a document. -/
def Exchange.closing (url : String) : Exchange :=
  .plain "textDocument/didClose" (.obj [("textDocument", .obj [("uri", .str url)])]) none

/-- Begins a session. -/
def Exchange.starting : Exchange :=
  .plain "initialize" (.obj [("capabilities", .obj [])]) (some (.number 1))

/-- A document that is closed and opened again under another spelling of its URL, while changes of
another document come too early. -/
theorem documents_follow_history_reopened :
    let a : Url := ⟨"file".toList, some [], [], "/a.xml".toList, none, none⟩
    let b : Url := ⟨"file".toList, some [], [], "/b.xml".toList, none, none⟩
    let es : List Exchange := [.opening "file:///a.xml" 1 "x", .replacing "file:///b.xml" 9 "y",
      .closing "file:///a.xml", .opening "FILE:///b/../a.xml" 4 "z", .replacing "file:///a.xml" 6 "w"]
    (Exchange.starting.next .initial).phase = .running ∧ (∀ e ∈ es, e.Keeps) ∧
    (sessionAfter (Exchange.starting.next .initial) es).document? a
      = some ⟨⟨"file:///a.xml", .ofText ['w']⟩, 6⟩ ∧
    (sessionAfter (Exchange.starting.next .initial) es).document? b = none := by
  intro a b es
  have hfirst : (Exchange.starting.next .initial).phase = .running := rfl
  have hes : ∀ e ∈ es, e.Keeps := by
    simp [es, Exchange.Keeps, Exchange.opening, Exchange.replacing, Exchange.closing, Exchange.plain]
  have hhistory : historyOf es = [.opened a 1 ['x'], .changed b 9 [⟨none, ['y']⟩], .closed a]
      ++ .opened a 4 ['z'] :: [.changed a 6 [⟨none, ['w']⟩]] := by with_unfolding_all rfl
  obtain ⟨-, hopened, -, -⟩ := documents_follow_history .starting es a hfirst hes
  obtain ⟨hknown, -, -, -⟩ := documents_follow_history .starting es b hfirst hes
  refine ⟨hfirst, hes, ?_, ?_⟩
  · rw [hopened _ a 4 _ _ hhistory rfl (by simp [DocumentEvent.Opens, DocumentEvent.Closes])]
    with_unfolding_all rfl
  · rw [← Option.not_isSome_iff_eq_none, hknown]
    rintro ⟨before, e, after, heq, hopens, -⟩
    have hother : a.toString ≠ b.toString := by decide +kernel
    have hmem : e ∈ historyOf es := by simp [heq]
    have hnone : ∀ f ∈ historyOf es, ¬ f.Opens b := by
      rw [hhistory]
      simp [DocumentEvent.Opens, hother]
    exact hnone e hmem hopens

end StatementLens.Server
