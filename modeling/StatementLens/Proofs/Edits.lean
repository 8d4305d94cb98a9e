import StatementLens.Proofs.Positions
import StatementLens.Server.Session
import StatementLens.Text.Edit

/-!
# Edits and the changes that tell of them

An editor edits its own copy of a text by byte offsets and tells a server of each edit by a change,
which names places by positions. The server applies the changes to its copy. The main statement is
that the two copies never differ, however the changes are sent in batches.
-/

namespace StatementLens

open Text

/-- An edit that an editor makes in its own copy of a text. -/
inductive Edit where
  /-- Replaces what stands between two byte offsets. -/
  | splice (start stop : Nat) (text : List Char)
  /-- Replaces all of the text. -/
  | whole (text : List Char)

namespace Edit

/-- The editor's text after an edit. -/
def result (current : List Char) : Edit → List Char
  | .splice start stop text => takeBytes start current ++ text ++ dropBytes stop current
  | .whole text => text

/-- The change that tells of an edit of the current text. -/
def change (current : List Char) : Edit → TextChange
  | .splice start stop text => ⟨some ((IndexedText.ofText current).rangeOf start stop), text⟩
  | .whole text => ⟨none, text⟩

/-- Whether an offset is a place between characters, and not just behind a carriage return that
belongs to the end of a line or of the text. -/
def Addressable (current : List Char) (offset : Nat) : Prop :=
  ∃ pre post, current = pre ++ post ∧ offset = byteLength pre ∧ ¬ BehindReturn pre post

/-- Whether the places of an edit can be named by positions. -/
def Sendable (current : List Char) : Edit → Prop
  | .splice start stop _ => start ≤ stop ∧ Addressable current start ∧ Addressable current stop
  | .whole _ => True

/-- The editor's text after edits, made one after the other. -/
def results (current : List Char) (edits : List Edit) : List Char :=
  edits.foldl result current

/-- Whether each edit is one of the text that the edits before it lead to. -/
def AllSendable (current : List Char) : List Edit → Prop
  | [] => True
  | e :: rest => e.Sendable current ∧ AllSendable (e.result current) rest

/-- The changes that tell of edits, each one of the text that the edits before it lead to. -/
def changes (current : List Char) : List Edit → List TextChange
  | [] => []
  | e :: rest => e.change current :: changes (e.result current) rest

/-! ## One edit -/

theorem offsetAt_of_addressable {current : List Char} {n : Nat} (h : Addressable current n) :
    (IndexedText.ofText current).offsetAt ((IndexedText.ofText current).positionAt n) = n := by
  obtain ⟨pre, post, rfl, rfl, hreturn⟩ := h
  exact offsetAt_positionAt hreturn

/-- Applying the change that tells of an edit makes the edit. -/
theorem apply_change {current : List Char} {e : Edit} (h : e.Sendable current) :
    (e.change current).apply current = e.result current := by
  cases e with
  | whole text => rfl
  | splice start stop text =>
    obtain ⟨hle, hstart, hstop⟩ := h
    unfold change TextChange.apply result IndexedText.rangeOf
    simp only [offsetAt_of_addressable hstart, offsetAt_of_addressable hstop, Nat.max_eq_right hle]

/-! ## Runs of edits -/

/-- The changes that tell of edits lead to the editor's text. -/
theorem applyChanges_changes {current : List Char} {edits : List Edit}
    (h : AllSendable current edits) :
    applyChanges current (changes current edits) = results current edits := by
  induction edits generalizing current with
  | nil => rfl
  | cons e rest ih =>
    obtain ⟨he, hrest⟩ := h
    have hstep : applyChanges current (changes current (e :: rest))
        = applyChanges ((e.change current).apply current) (changes (e.result current) rest) := rfl
    rw [hstep, apply_change he, ih hrest]
    rfl

theorem allSendable_take {current : List Char} {edits : List Edit} (n : Nat)
    (h : AllSendable current edits) : AllSendable current (edits.take n) := by
  induction edits generalizing current n with
  | nil => simpa using h
  | cons e rest ih =>
    cases n with
    | zero => trivial
    | succ n => exact ⟨h.1, ih n h.2⟩

theorem changes_take (current : List Char) (edits : List Edit) (n : Nat) :
    (changes current edits).take n = changes current (edits.take n) := by
  induction edits generalizing current n with
  | nil => simp [changes]
  | cons e rest ih =>
    cases n with
    | zero => rfl
    | succ n => rw [changes, List.take_succ_cons, List.take_succ_cons, changes, ih]

theorem allSendable_append {current : List Char} {edits more : List Edit} :
    AllSendable current (edits ++ more)
      ↔ AllSendable current edits ∧ AllSendable (results current edits) more := by
  induction edits generalizing current with
  | nil => simp [AllSendable, results]
  | cons e rest ih =>
    rw [List.cons_append, AllSendable, AllSendable, ih, and_assoc]
    rfl

end Edit

/-! ## Sessions -/

namespace Server

theorem Talk.value_bind {α β : Type} (replies : String → Reply) (t : Talk α) (f : α → Talk β) :
    ((t >>= f).run replies).value = ((f (t.run replies).value).run replies).value := by
  show ((t.bind f).run replies).value = _
  induction t with
  | done a => rfl
  | tell event next ih => exact ih
  | notify method params next ih => exact ih
  | request method params next ih => exact ih (replies method)

theorem Talk.sent_bind {α β : Type} (replies : String → Reply) (t : Talk α) (f : α → Talk β) :
    ((t >>= f).run replies).sent
      = (t.run replies).sent ++ ((f (t.run replies).value).run replies).sent := by
  show ((t.bind f).run replies).sent = _
  induction t with
  | done a => rfl
  | tell event next ih => exact ih
  | notify method params next ih => exact congrArg (List.cons _) ih
  | request method params next ih => exact congrArg (List.cons _) (ih (replies method))

private theorem lookup_filter_self {β : Type} (key : String) (entries : List (String × β)) :
    (entries.filter fun entry => entry.1 ≠ key).lookup key = none := by
  rw [List.lookup_eq_none_iff]
  intro entry hentry
  have hne : entry.1 ≠ key := by simpa using (List.mem_filter.1 hentry).2
  exact bne_iff_ne.2 (Ne.symm hne)

/-- A document that has just been opened is the one with its URL. -/
theorem Session.document?_openText (s : Session) (url : Url) (version : Int) (text : List Char) :
    (s.openText url version text).document? url
      = some ⟨⟨url.toString, .ofText text⟩, version⟩ := by
  unfold Session.document? Session.openText Session.close
  simp only [List.lookup_append, lookup_filter_self]
  simp

/-- A change of an open document applies to its text. -/
theorem document?_change (replies : String → Reply) {s : Session} {p : ChangeParams}
    {d : OpenDocument} (h : s.document? p.url = some d) :
    ((change s p).run replies).value.document? p.url
      = some ⟨⟨p.url.toString, .ofText (applyChanges d.document.text p.changes)⟩, p.version⟩ := by
  have hvalue : ((change s p).run replies).value
      = s.openText p.url p.version (applyChanges d.document.text p.changes) := by
    unfold change
    rw [h]
    exact Talk.value_bind replies _ _
  rw [hvalue, Session.document?_openText]

/-- The session after an editor has told of batches of edits of a document, each with the version of
the document that it leads to. The editor's text is `current` at first. -/
def follow (replies : String → Reply) (url : Url) (s : Session) (current : List Char) :
    List (Int × List Edit) → Session
  | [] => s
  | (version, edits) :: rest =>
    let told := change s ⟨url, version, Edit.changes current edits⟩
    follow replies url (told.run replies).value (Edit.results current edits) rest

/-- The text of an open document. -/
def Session.text? (s : Session) (url : Url) : Option (List Char) :=
  (s.document? url).map fun d => d.document.text

/-- After batches of edits, the session holds the editor's text. -/
theorem text?_follow (replies : String → Reply) {url : Url} {s : Session} {current : List Char}
    {batches : List (Int × List Edit)} (hopen : s.text? url = some current)
    (h : Edit.AllSendable current (batches.flatMap Prod.snd)) :
    (follow replies url s current batches).text? url
      = some (Edit.results current (batches.flatMap Prod.snd)) := by
  induction batches generalizing s current with
  | nil => exact hopen
  | cons batch rest ih =>
    obtain ⟨version, edits⟩ := batch
    rw [List.flatMap_cons, Edit.allSendable_append] at h
    obtain ⟨d, hd, rfl⟩ := Option.map_eq_some_iff.1 hopen
    -- the batch leads the session to the text from which the editor makes the next batch
    have hstep := document?_change replies
      (p := ⟨url, version, Edit.changes d.document.text edits⟩) hd
    rw [Edit.applyChanges_changes h.1] at hstep
    rw [follow, ih (by unfold Session.text?; rw [hstep]; rfl) h.2, List.flatMap_cons]
    unfold Edit.results
    rw [List.foldl_append]

end Server

/-- An editor and a server that begin with the same text never differ: after each change the text
that the changes lead to is the editor's, and after each batch so is the text of the session. -/
theorem server_text_eq_editor_text (replies : String → Server.Reply) (url : Url)
    (s : Server.Session) (current : List Char) (batches : List (Int × List Edit))
    (hopen : s.text? url = some current)
    (hedits : Edit.AllSendable current (batches.flatMap Prod.snd)) :
    (∀ n, applyChanges current ((Edit.changes current (batches.flatMap Prod.snd)).take n)
      = Edit.results current ((batches.flatMap Prod.snd).take n)) ∧
    (Server.follow replies url s current batches).text? url
      = some (Edit.results current (batches.flatMap Prod.snd)) := by
  constructor
  · intro n
    rw [Edit.changes_take]
    exact Edit.applyChanges_changes (Edit.allSendable_take n hedits)
  · exact Server.text?_follow replies hopen hedits

/-- An editor that joins two lines across a carriage return, replaces the whole text and cuts it again
in the next batch. -/
theorem server_text_eq_editor_text_joined_lines :
    Edit.AllSendable "a\r\nb".toList
      [.splice 1 1 "😀".toList, .splice 5 7 "\r".toList, .whole "x\ry".toList,
        .splice 1 2 "\n".toList] ∧
    (Server.follow (fun _ => .ok .null) ⟨"file".toList, some [], [], "/a.xml".toList, none, none⟩
      (Server.Session.initial.openText ⟨"file".toList, some [], [], "/a.xml".toList, none, none⟩ 1
        "a\r\nb".toList) "a\r\nb".toList
      [(2, [.splice 1 1 "😀".toList, .splice 5 7 "\r".toList, .whole "x\ry".toList]),
        (3, [.splice 1 2 "\n".toList])]).text?
      ⟨"file".toList, some [], [], "/a.xml".toList, none, none⟩ = some "x\ny".toList := by
  have hedits : Edit.AllSendable "a\r\nb".toList
      [.splice 1 1 "😀".toList, .splice 5 7 "\r".toList, .whole "x\ry".toList,
        .splice 1 2 "\n".toList] := by
    refine ⟨⟨by decide, ⟨"a".toList, "\r\nb".toList, ?_⟩, ⟨"a".toList, "\r\nb".toList, ?_⟩⟩,
      ⟨by decide, ⟨"a😀".toList, "\r\nb".toList, ?_⟩, ⟨"a😀\r\n".toList, "b".toList, ?_⟩⟩, trivial,
      ⟨by decide, ⟨"x".toList, "\ry".toList, ?_⟩, ⟨"x\r".toList, "y".toList, ?_⟩⟩, trivial⟩
    all_goals exact ⟨by decide, by decide, by simp [BehindReturn]⟩
  refine ⟨hedits, ?_⟩
  exact (server_text_eq_editor_text _ _ _ _ _ (by
    unfold Server.Session.text?
    rw [Server.Session.document?_openText]
    rfl) hedits).2.trans (by decide)

end StatementLens
