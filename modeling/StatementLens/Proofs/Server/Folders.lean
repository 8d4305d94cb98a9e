import StatementLens.Proofs.Server.Agreement
import StatementLens.Proofs.Workspace

/-!
# The folders of a session

The call that starts a session and notifications about folders open and close folders one by one. The
folders of a session are what these changes lead to (`workspace_sessionAfter`), and they behave as a set
(`folders_behave_as_set`).
-/

namespace StatementLens

namespace Workspace

/-- Opening folders one by one is a list of changes. -/
theorem foldl_add_eq (w : Workspace) (folders : List Path) :
    folders.foldl add w = (folders.map FolderChange.added).foldl change w := by
  rw [List.foldl_map]
  rfl

/-- So is closing them. -/
theorem foldl_remove_eq (w : Workspace) (folders : List Path) :
    folders.foldl remove w = (folders.map FolderChange.removed).foldl change w := by
  rw [List.foldl_map]
  rfl

end Workspace

namespace Server

/-! ## The changes that calls issue -/

/-- At the start of a session the workspace folders are opened that have a path, or else the root. -/
def StartParams.changes (p : StartParams) : List FolderChange :=
  let named := (p.folders.getD []).filterMap Url.toPath?
  let opened := if named = [] then (p.rootUri.bind Url.toPath?).toList else named
  opened.map .added

/-- A notification about folders closes folders first and then opens others. -/
def FolderParams.changes (p : FolderParams) : List FolderChange :=
  (p.removed.filterMap Url.toPath?).map .removed ++ (p.added.filterMap Url.toPath?).map .added

/-- The changes of folders that a call issues in a session: only a request that starts the session and
notifications about folders while it is running issue any, and none if their parameters cannot be read. -/
def Exchange.folderChanges (e : Exchange) (s : Session) : List FolderChange :=
  if e.call.method = "initialize" ∧ e.call.id.isSome = true ∧ s.phase = .fresh then
    ((readParams decodeStart e.call).toOption.map StartParams.changes).getD []
  else if e.call.method = "workspace/didChangeWorkspaceFolders" ∧ e.call.id = none ∧
      s.phase = .running then
    ((readParams decodeFolders e.call).toOption.map FolderParams.changes).getD []
  else []

/-- The changes that calls issue one after the other. -/
def folderChangesOf (s : Session) : List Exchange → List FolderChange
  | [] => []
  | e :: rest => e.folderChanges s ++ folderChangesOf (e.next s) rest

/-- Starting a session opens its folders. -/
theorem workspace_start (disk : Disk) (replies : String → Reply) (s : Session) (p : StartParams) :
    ((start disk s p).run replies).value.1.workspace = p.changes.foldl Workspace.change s.workspace := by
  have hpaths : p.changes = p.paths.map .added := by
    simp [StartParams.changes, StartParams.paths, List.isEmpty_iff]
  rw [hpaths, ← Workspace.foldl_add_eq]
  exact congrArg (fun r => Session.workspace (Prod.fst r)) (Talk.value_bind replies _ _)

/-- A notification about folders closes and opens them. -/
theorem workspace_changeFolders (s : Session) (p : FolderParams) :
    (changeFolders s p).workspace = p.changes.foldl Workspace.change s.workspace := by
  unfold FolderParams.changes
  rw [List.foldl_append, ← Workspace.foldl_remove_eq, ← Workspace.foldl_add_eq]
  rfl

section

variable {s : Session} {e : Exchange}

/-- A method that the server provides leads nowhere unless the session is running. -/
theorem next_of_not_running {method : Method} (hs : s.phase ≠ .running)
    (hmethod : Method.ofName? e.call.method = some method) : e.next s = s := by
  unfold Exchange.next Exchange.outcome serve
  split
  · rfl
  · split
    · next hname => rw [hname] at hmethod; cases hmethod
    · next hname => rw [hname] at hmethod; cases hmethod
    · next hname => rw [hname] at hmethod; cases hmethod
    · simp only [hmethod]
      rfl

/-- A call to initialize a session changes the folders as it says. -/
theorem workspace_next_start (h : e.call.method = "initialize") :
    (e.next s).workspace = (e.folderChanges s).foldl Workspace.change s.workspace := by
  have hother : ¬ e.call.method = "workspace/didChangeWorkspaceFolders" := by
    rw [h]
    decide
  unfold Exchange.next Exchange.outcome serve Exchange.folderChanges
  rw [if_neg (c := _ ∧ _ ∧ s.phase = .running) fun hc => hother hc.1, h]
  by_cases hfresh : s.phase = .fresh
  · rw [if_neg (by rw [hfresh]; decide)]
    simp only [handleStart, hfresh, if_true, asRequest]
    cases hid : e.call.id with
    | none => simp; rfl
    | some id =>
      cases hparams : readParams decodeStart e.call with
      | error failure => simp [Except.toOption]; rfl
      | ok p =>
        simp only [Option.isSome_some, and_self, if_true, Except.toOption, Option.map_some, Option.getD_some]
        rw [Talk.value_bind]
        exact workspace_start e.disk e.replies s p
  · simp only [hfresh, and_false, if_false, handleStart]
    split <;> rfl

/-- So does a notification about folders. -/
theorem workspace_next_folders (h : e.call.method = "workspace/didChangeWorkspaceFolders") :
    (e.next s).workspace = (e.folderChanges s).foldl Workspace.change s.workspace := by
  have hmethod : Method.ofName? e.call.method = some .didChangeFolders := by
    rw [h]
    rfl
  have hother : ¬ e.call.method = "initialize" := by
    rw [h]
    decide
  unfold Exchange.next Exchange.outcome Exchange.folderChanges
  rw [if_neg (c := _ ∧ _ ∧ s.phase = .fresh) fun hc => hother hc.1]
  by_cases hs : s.phase = .running
  · rw [serve_eq_handle e.disk hs hmethod, handle, session_asNotification]
    cases hid : e.call.id with
    | some id => simp
    | none =>
      cases hparams : readParams decodeFolders e.call with
      | error failure => simp [Except.toOption]
      | ok p =>
        simp only [h, hs, and_self, if_true, Except.toOption, Option.map_some, Option.getD_some]
        exact workspace_changeFolders s p
  · simp only [hs, and_false, if_false]
    exact congrArg Session.workspace (next_of_not_running hs hmethod)

/-- No other call changes the folders. -/
theorem workspace_next_other (hstart : e.call.method ≠ "initialize")
    (hfolders : e.call.method ≠ "workspace/didChangeWorkspaceFolders") :
    (e.next s).workspace = s.workspace := by
  by_cases hs : s.phase = .running ∧ e.Keeps
  · exact (sameFolders_next hs.1 ⟨hs.2, hfolders⟩).1
  · -- the session is not running, or it stops
    unfold Exchange.next Exchange.outcome serve
    split
    · rfl
    · split
      · next hname => exact absurd hname hstart
      · unfold handleStop
        split
        · exact of_asRequest e.replies { s with phase := .stopped } e.call
            (P := fun t => t.workspace = s.workspace) rfl fun _ => rfl
        · rfl
      · rfl
      · next hstop hexit =>
        have hnot : ¬ s.phase = .running := fun hrunning => hs ⟨hrunning, hstop, hexit⟩
        split
        · unfold handleUnknown
          split <;> rfl
        · rw [if_neg hnot]
          rfl

end

/-- A call changes the folders of a session as it says. -/
theorem workspace_next (s : Session) (e : Exchange) :
    (e.next s).workspace = (e.folderChanges s).foldl Workspace.change s.workspace := by
  by_cases hstart : e.call.method = "initialize"
  · exact workspace_next_start hstart
  · by_cases hfolders : e.call.method = "workspace/didChangeWorkspaceFolders"
    · exact workspace_next_folders hfolders
    · have hnone : e.folderChanges s = [] := by simp [Exchange.folderChanges, hstart, hfolders]
      rw [hnone]
      exact workspace_next_other hstart hfolders

/-- The folders of a session are those after the changes that calls have issued. -/
theorem workspace_sessionAfter (s : Session) (es : List Exchange) :
    (sessionAfter s es).workspace = (folderChangesOf s es).foldl Workspace.change s.workspace := by
  induction es generalizing s with
  | nil => rfl
  | cons e rest ih =>
    rw [folderChangesOf, List.foldl_append, ← workspace_next]
    exact ih (e.next s)

/-- The folders of a workspace behave as a set up to their spelling, whatever changes have led to it, and
the folders of a session come from such changes. The innermost folder around a path is the only one with
the most components. It depends on the set only, and a folder that is not around the path makes no
difference for it. -/
theorem folders_behave_as_set (changes : List FolderChange) :
    let w := Workspace.after changes
    (w.folders.Pairwise fun f g => f.components ≠ g.components) ∧
    (∀ folder : Path, (∃ f ∈ w.folders, f.components = folder.components) ↔
      ∃ before f rest, changes = before ++ .added f :: rest ∧ f.components = folder.components ∧
        ∀ g, .removed g ∈ rest → g.components ≠ folder.components) ∧
    (∀ path, (w.folderOf? path).isSome = true ↔ ∃ f ∈ w.folders, f.components <+: path.components) ∧
    (∀ path f, w.folderOf? path = some f ↔ f ∈ w.folders ∧ f.components <+: path.components ∧
      ∀ g ∈ w.folders, g.components <+: path.components → g ≠ f →
        g.components.length < f.components.length) ∧
    (∀ others path,
      (∀ folder : Path, (∃ f ∈ w.folders, f.components = folder.components) ↔
        ∃ f ∈ (Workspace.after others).folders, f.components = folder.components) →
      (w.folderOf? path).map Path.components
        = ((Workspace.after others).folderOf? path).map Path.components) ∧
    (∀ folder path : Path, ¬ folder.components <+: path.components →
      (w.add folder).folderOf? path = w.folderOf? path ∧
        (w.remove folder).folderOf? path = w.folderOf? path) ∧
    ∀ es, (sessionAfter .initial es).workspace = .after (folderChangesOf .initial es) := by
  intro w
  have hdistinct : w.Distinct := Workspace.distinct_after changes
  refine ⟨?_, fun folder => ?_, fun path => ?_, fun path f => ?_, fun others path hsame => ?_,
    fun folder path haround => ?_, workspace_sessionAfter .initial⟩
  · simpa only [Workspace.Distinct, Path.sameAs_eq_false_iff] using hdistinct
  · have hholds := Workspace.holds_after_iff changes folder
    simpa only [Workspace.Holds, Workspace.LastAdded, Path.sameAs_iff, Path.sameAs_eq_false_iff]
      using hholds
  · rw [Workspace.folderOf?_isSome_iff]
    simp only [Path.startsWith_iff]
  · rw [hdistinct.folderOf?_eq_some_iff]
    simp only [Path.startsWith_iff]
  · apply Workspace.components_folderOf?_congr
    simpa only [Workspace.Holds, Path.sameAs_iff] using hsame
  · have hfalse : path.startsWith folder = false :=
      Bool.eq_false_iff.2 (mt Path.startsWith_iff.1 haround)
    exact ⟨w.folderOf?_change (.inl rfl) hfalse, w.folderOf?_change (.inr rfl) hfalse⟩

/-- A folder is opened, and one in it is opened twice, closed and opened again, each time under another
spelling. -/
def reopened : List FolderChange :=
  [.added (.ofString "/w/"), .added (.ofString "/w/shop"), .added (.ofString "/w//shop/."),
    .removed (.ofString "/w/./shop/"), .added (.ofString "/w/shop/")]

/-- The same folders are opened once, the inner one first. -/
def openedOnce : List FolderChange := [.added (.ofString "/w//shop"), .added (.ofString "/w")]

/-- A notification that closes a folder and opens it again under another spelling. -/
def Exchange.respelling (removed added : String) : Exchange :=
  .plain "workspace/didChangeWorkspaceFolders" (.obj [("event", .obj [
    ("added", .arr [.obj [("uri", .str added), ("name", .str "")]]),
    ("removed", .arr [.obj [("uri", .str removed), ("name", .str "")]])])]) none

/-- A session that starts in two folders, one of which is then spelled in another way. The first notification
comes too early. -/
def respelled : List Exchange :=
  [.respelling "file:///w" "file:///v",
    .plain "initialize" (.obj [("capabilities", .obj []), ("workspaceFolders", .arr [
      .obj [("uri", .str "file:///w/"), ("name", .str "")],
      .obj [("uri", .str "file:///w/shop"), ("name", .str "")]])]) (some (.number 1)),
    .respelling "file:///w/shop/" "file:///w//shop"]

/-- The innermost folder is found under its last spelling, it does not depend on how the folders have come to
be open, and a folder next to it makes no difference. A session issues the changes that its calls say. -/
theorem folders_behave_as_set_reopened :
    (Workspace.after reopened).folderOf? (.ofString "/w/shop/A.java")
      = some (.ofString "/w/shop/") ∧
    ((Workspace.after reopened).folderOf? (.ofString "/w/shop/A.java")).map Path.components
      = ((Workspace.after openedOnce).folderOf? (.ofString "/w/shop/A.java")).map Path.components ∧
    ((Workspace.after reopened).add (.ofString "/w/sho")).folderOf? (.ofString "/w/shop/A.java")
      = some (.ofString "/w/shop/") ∧
    (sessionAfter .initial respelled).workspace = .after [.added (.ofString "/w/"),
      .added (.ofString "/w/shop"), .removed (.ofString "/w/shop/"), .added (.ofString "/w//shop")] := by
  obtain ⟨-, -, -, hinner, hset, hframe, hissued⟩ := folders_behave_as_set reopened
  have hinnermost : (Workspace.after reopened).folderOf? (.ofString "/w/shop/A.java")
      = some (.ofString "/w/shop/") := (hinner _ _).2 (by decide +kernel)
  have hreopened : (Workspace.after reopened).folders = [.ofString "/w/", .ofString "/w/shop/"] := by
    decide +kernel
  have honce : (Workspace.after openedOnce).folders = [.ofString "/w//shop", .ofString "/w"] := by
    decide +kernel
  have hshop : (Path.ofString "/w//shop").components = (Path.ofString "/w/shop/").components := by
    decide +kernel
  have hw : (Path.ofString "/w").components = (Path.ofString "/w/").components := by decide +kernel
  have hchanges : folderChangesOf .initial respelled = [.added (.ofString "/w/"),
      .added (.ofString "/w/shop"), .removed (.ofString "/w/shop/"), .added (.ofString "/w//shop")] := by
    decide +kernel
  refine ⟨hinnermost, hset openedOnce _ fun folder => ?_, ?_, hchanges ▸ hissued respelled⟩
  · simp [hreopened, honce, hshop, hw, or_comm]
  · rw [(hframe (.ofString "/w/sho") (.ofString "/w/shop/A.java") (by decide +kernel)).1, hinnermost]

end Server

end StatementLens
