import StatementLens.Proofs.Server.Documents
import StatementLens.Proofs.Url.Dots

/-!
# Open documents and files

An open document shadows the file that it is about if its URL is written the way the URLs of files
are. Under any other spelling of the URL, the file is read from the disk all the same
(`plain_buffer_shadows_file`).
-/

namespace StatementLens

/-- Whether a URL names the file at a path. -/
def Url.Names (u : Url) (p : Path) : Prop := ∃ q, u.toPath? = some q ∧ q.sameAs p = true

/-- The URL of a path names it. -/
theorem Url.names_of_ofPath? {p : Path} {u : Url} (h : ofPath? p = some u) : u.Names p := by
  obtain ⟨q, hq, hcomponents⟩ := toPath?_of_ofPath? h
  exact ⟨q, hq, by simp [Path.sameAs, hcomponents]⟩

/-- A URL that names a path is the one of the path if it is plain. -/
theorem Url.Names.ofPath?_eq_some_iff {p : Path} {u : Url} (h : u.Names p) :
    ofPath? p = some u ↔ u.isPlain = true := by
  obtain ⟨q, hq, hsame⟩ := h
  exact Url.ofPath?_eq_some_iff hq (by simpa [Path.sameAs] using hsame)

/-! ## Reading records -/

namespace Json.Record

variable {α β : Type}

/-- What is read as a record is built from it. -/
theorem exists_build_of_decode {r : Record α} {title : String} {origin : Origin} {j : Json} {a : α}
    (h : r.decode title origin j = .ok a) : ∃ get, r.build get = .ok a := by
  unfold decode at h
  split at h
  case h_1 fields =>
    unfold ofFields at h
    cases hcheck : r.checkFields fields with
    | error e =>
      rw [hcheck] at h
      cases h
    | ok u =>
      rw [hcheck] at h
      exact ⟨_, h⟩
  case h_2 items =>
    unfold ofItems at h
    simp only [bind, Except.bind, pure, Except.pure] at h
    grind
  case h_3 => cases h

/-- A required field that has been built is there. -/
theorem exists_of_build_required {name : String} {d : Decoder α} {get : String → Option Json} {a : α}
    (h : (required name d).build get = .ok a) : ∃ j, get name = some j ∧ d j = .ok a := by
  unfold required at h
  grind

theorem exists_of_build_map {f : α → β} {r : Record α} {get : String → Option Json} {b : β}
    (h : (r.map f).build get = .ok b) : ∃ a, r.build get = .ok a ∧ f a = b := by
  unfold map at h
  cases hr : r.build get with
  | error e => simp [hr, Except.map] at h
  | ok a => exact ⟨a, rfl, by simpa [hr, Except.map] using h⟩

/-- Both parts of a record have been built. -/
theorem exists_of_build_andAlso {r : Record (α → β)} {s : Record α} {get : String → Option Json}
    {b : β} (h : (r.andAlso s).build get = .ok b) :
    ∃ f a, r.build get = .ok f ∧ s.build get = .ok a ∧ f a = b := by
  unfold andAlso at h
  simp only [bind, Except.bind, pure, Except.pure] at h
  grind

end Json.Record

namespace Server

/-! ## The URLs of open documents -/

/-- Whether all documents of a session are known by URLs that have been read. -/
def Session.HasUrls (s : Session) : Prop :=
  ∀ entry ∈ s.documents, ∃ t url, Url.parse t = .ok url ∧ entry.1 = url.toString

/-- A URL has been read from a text. -/
theorem exists_of_decode {j : Json} {url : Url} (h : Url.decode j = .ok url) :
    ∃ t, Url.parse t = .ok url := by
  unfold Url.decode at h
  grind

/-- So has the URL of a document that is opened. -/
theorem exists_of_decodeOpen {j : Json} {p : OpenParams} (h : decodeOpen j = .ok p) :
    ∃ t, Url.parse t = .ok p.url := by
  obtain ⟨get, hget⟩ := Json.Record.exists_build_of_decode h
  obtain ⟨item, -, hitem⟩ := Json.Record.exists_of_build_required hget
  obtain ⟨get, hget⟩ := Json.Record.exists_build_of_decode hitem
  obtain ⟨f, text, hversion, -, rfl⟩ := Json.Record.exists_of_build_andAlso hget
  obtain ⟨f, version, hlanguage, -, rfl⟩ := Json.Record.exists_of_build_andAlso hversion
  obtain ⟨f, language, huri, -, rfl⟩ := Json.Record.exists_of_build_andAlso hlanguage
  obtain ⟨url, hurl, rfl⟩ := Json.Record.exists_of_build_map huri
  obtain ⟨j, -, hj⟩ := Json.Record.exists_of_build_required hurl
  exact exists_of_decode hj

/-- Opening a document under a URL that has been read keeps this. -/
theorem Session.HasUrls.openText {s : Session} (hs : s.HasUrls) {url : Url} (version : Int)
    (text : List Char) (hurl : ∃ t other, Url.parse t = .ok other ∧ url.toString = other.toString) :
    (s.openText url version text).HasUrls := by
  intro entry hentry
  rcases List.mem_append.1 hentry with hold | hnew
  · exact hs entry (List.mem_filter.1 hold).1
  · rw [List.mem_singleton.1 hnew]
    exact hurl

/-- Each open document has a URL that has been read. -/
theorem Session.HasUrls.exists_of_document? {s : Session} (hs : s.HasUrls) {url : Url}
    {d : OpenDocument} (h : s.document? url = some d) :
    ∃ t other, Url.parse t = .ok other ∧ url.toString = other.toString := by
  obtain ⟨front, back, hdocuments, -⟩ := List.lookup_eq_some_iff.1 h
  exact hs (url.toString, d) (by simp [hdocuments])

theorem exists_of_readParams {α : Type} {decode : Json.Decoder α} {c : Call} {p : α}
    (h : (readParams decode c).toOption = some p) : ∃ j, decode j = .ok p := by
  unfold readParams at h
  split at h
  case h_1 => cases h
  case h_2 j _ =>
    cases hj : decode j with
    | error e => simp [hj, Except.mapError, Except.toOption] at h
    | ok q =>
      simp only [hj, Except.mapError, Except.toOption, Option.some.injEq] at h
      exact ⟨j, h ▸ hj⟩

/-- A document is opened under a URL that has been read. -/
theorem exists_of_event?_opened {e : Exchange} {url : Url} {version : Int} {text : List Char}
    (h : e.event? = some (.opened url version text)) : ∃ t, Url.parse t = .ok url := by
  unfold Exchange.event? DocumentEvent.ofCall? at h
  split at h
  · cases h
  · obtain ⟨method, -, h⟩ := Option.bind_eq_some_iff.1 h
    unfold DocumentEvent.ofMethod? at h
    split at h
    · obtain ⟨p, hparams, hp⟩ := Option.map_eq_some_iff.1 h
      cases hp
      obtain ⟨j, hj⟩ := exists_of_readParams hparams
      exact exists_of_decodeOpen hj
    · obtain ⟨p, -, hp⟩ := Option.map_eq_some_iff.1 h
      cases hp
    · obtain ⟨p, -, hp⟩ := Option.map_eq_some_iff.1 h
      cases hp
    · cases h

/-- An event of a document keeps this. -/
theorem Session.HasUrls.apply {s : Session} (hs : s.HasUrls) {e : Exchange} {event : DocumentEvent}
    (he : e.event? = some event) : (event.apply s).HasUrls := by
  cases event with
  | opened url version text =>
    obtain ⟨t, ht⟩ := exists_of_event?_opened he
    exact hs.openText version text ⟨t, url, ht, rfl⟩
  | closed url => exact fun entry hentry => hs entry (List.mem_filter.1 hentry).1
  | changed url version changes =>
    simp only [DocumentEvent.apply]
    cases hd : s.document? url with
    | none => exact hs
    | some d => exact hs.openText version _ (hs.exists_of_document? hd)

/-- A call leaves the documents, drops them all, or does what it says about one of them. -/
theorem documents_next (s : Session) (e : Exchange) :
    (e.next s).documents = s.documents ∨ (e.next s).documents = [] ∨
      ∃ event, e.event? = some event ∧ (e.next s).documents = (event.apply s).documents := by
  by_cases hfresh : s.phase = .fresh
  · exact .inl (documents_next_fresh hfresh e)
  by_cases hkeeps : s.phase = .running ∧ e.Keeps
  · have halike := (alike_next hkeeps.1 hkeeps.2).2
    cases hevent : e.event? with
    | none => exact .inl (by simpa [hevent] using halike)
    | some event => exact .inr (.inr ⟨event, rfl, by simpa [hevent] using halike⟩)
  -- what is left are calls that come too late, and those that ask for the end
  unfold Exchange.next Exchange.outcome serve
  split
  · exact .inl rfl
  · split
    · unfold handleStart
      rw [if_neg hfresh]
      exact .inl rfl
    · unfold handleStop
      split
      · rw [← or_assoc]
        left
        exact of_asRequest e.replies { s with phase := .stopped } e.call
          (P := fun t => t.documents = s.documents ∨ t.documents = []) (.inl rfl) fun _ => .inr rfl
      · exact .inl rfl
    · exact .inl rfl
    · next hstop hexit =>
      split
      · unfold handleUnknown
        split <;> exact .inl rfl
      · rw [if_neg fun h => hkeeps ⟨h, hstop, hexit⟩]
        exact .inl rfl

/-- So does any call. -/
theorem Session.HasUrls.next {s : Session} (hs : s.HasUrls) (e : Exchange) :
    (e.next s).HasUrls := by
  unfold Session.HasUrls
  rcases documents_next s e with h | h | ⟨event, hevent, h⟩
  · rw [h]
    exact hs
  · simp [h]
  · rw [h]
    exact hs.apply hevent

/-- So the URLs of open documents have been read, in every session. -/
theorem hasUrls_sessionAfter (es : List Exchange) : (sessionAfter .initial es).HasUrls := by
  apply List.foldlRecOn es Exchange.next (motive := Session.HasUrls)
  · simp [Session.HasUrls, Session.initial]
  · exact fun s hs e _ => hs.next e

/-! ## Reading files -/

/-- A file has the text of the document that is open under its URL, or else its text on the disk. -/
theorem Session.source_eq (s : Session) (disk : Disk) (p : Path) :
    s.source disk p = match (Url.ofPath? p).bind s.document? with
      | some d => some (String.ofList d.document.text)
      | none => TextSource.ofDisk disk p := by
  unfold Session.source TextSource.ofOpen
  cases Url.ofPath? p with
  | none => rfl
  | some url =>
    simp only [Option.bind_some]
    cases s.document? url <;> rfl

/-- If one open document names a file, the file has the text of the document, provided the URL of the
document is plain. Otherwise it has its text on the disk. -/
theorem plain_buffer_shadows_file (es : List Exchange) (disk : Disk) (p : Path) (t : String)
    (url : Url) (d : OpenDocument) (hurl : Url.parse t = .ok url)
    (hopen : (sessionAfter .initial es).document? url = some d) (hnames : url.Names p)
    (honly : ∀ t' other, Url.parse t' = .ok other →
      ((sessionAfter .initial es).document? other).isSome → other.Names p →
      other.toString = url.toString) :
    let source := (sessionAfter .initial es).source disk
    let text := if url.isPlain then some (String.ofList d.document.text)
      else TextSource.ofDisk disk p
    source p = text ∧
      ∀ namespace_, Lookup.examine source namespace_ p
        = Lookup.examine (fun _ => text) namespace_ p := by
  intro source text
  have hread : source p = text := by
    rw [show source p = _ from Session.source_eq _ disk p]
    by_cases hplain : url.isPlain = true
    · have hfile := hnames.ofPath?_eq_some_iff.2 hplain
      simp [text, hfile, hopen, hplain]
    · have hclosed : (Url.ofPath? p).bind (sessionAfter .initial es).document? = none := by
        rw [Option.bind_eq_none_iff]
        intro file hfile
        rw [Option.eq_none_iff_forall_ne_some]
        intro other hother
        -- the document would have to be the one that is open, whose URL is then plain
        obtain ⟨t', key, hkey, hwritten⟩ := (hasUrls_sessionAfter es).exists_of_document? hother
        obtain rfl := Url.eq_of_toString_eq hkey hfile hwritten.symm
        have hsame := honly t' key hkey (by simp [hother]) (Url.names_of_ofPath? hfile)
        obtain rfl := Url.eq_of_toString_eq hurl hfile hsame.symm
        exact hplain (hnames.ofPath?_eq_some_iff.1 hfile)
      simp [text, hclosed, hplain]
  refine ⟨hread, fun namespace_ => ?_⟩
  unfold Lookup.examine
  rw [hread]

/-- A document that is open as `%40.xml` does not shadow the file `@.xml`, though it is the only one that
names it. -/
theorem encoded_buffer_misses_file :
    let url : Url := ⟨"file".toList, some [], [], "/%40.xml".toList, none, none⟩
    let es : List Exchange := [.starting, .opening "file:///%40.xml" 1 "new", .opening "file:///b.xml" 1 ""]
    let disk : Disk := ⟨.folder [(Text.encodeUtf8 "@.xml", .file (Text.encodeUtf8 "old"))], [], []⟩
    let p : Path := .ofString "/@.xml"
    url.Names p ∧ (sessionAfter .initial es).document? url = some ⟨.ofText "file:///%40.xml" "new", 1⟩ ∧
      (sessionAfter .initial es).source disk p = some "old" := by
  intro url es disk p
  have hurl : Url.parse "file:///%40.xml" = .ok url := by decide +kernel
  have hdocuments : (sessionAfter .initial es).documents
      = [("file:///%40.xml", ⟨.ofText "file:///%40.xml" "new", 1⟩),
        ("file:///b.xml", ⟨.ofText "file:///b.xml" "", 1⟩)] := by with_unfolding_all rfl
  have hopen : (sessionAfter .initial es).document? url
      = some ⟨.ofText "file:///%40.xml" "new", 1⟩ := by
    unfold Session.document?
    rw [hdocuments]
    with_unfolding_all rfl
  have hnames : url.Names p := ⟨p, by decide +kernel, by decide +kernel⟩
  refine ⟨hnames, hopen, ?_⟩
  have honly : ∀ t other, Url.parse t = .ok other →
      ((sessionAfter .initial es).document? other).isSome → other.Names p →
      other.toString = url.toString := by
    intro t other hother hsome hp
    obtain ⟨d, hd⟩ := Option.isSome_iff_exists.1 hsome
    obtain ⟨front, back, hentry, -⟩ := List.lookup_eq_some_iff.1 hd
    have hmem : (other.toString, d) ∈ (sessionAfter .initial es).documents := by simp [hentry]
    rw [hdocuments] at hmem
    simp only [List.mem_cons, Prod.mk.injEq, List.not_mem_nil, or_false] at hmem
    rcases hmem with ⟨hkey, -⟩ | ⟨hkey, -⟩
    · rw [hkey]
      decide +kernel
    · -- the other document names another file
      have hfile : Url.ofPath? (.ofString "/b.xml")
          = some ⟨"file".toList, some [], [], "/b.xml".toList, none, none⟩ := by decide +kernel
      obtain rfl := Url.eq_of_toString_eq hother hfile (hkey.trans (by decide +kernel))
      obtain ⟨q, hq, hsame⟩ := hp
      have hq : .ofString "/b.xml" = q := Option.some.inj (hq.symm.trans (by decide +kernel)).symm
      subst hq
      exact absurd hsame (by decide +kernel)
  have h := (plain_buffer_shadows_file es disk p _ url _ hurl hopen hnames honly).1
  rw [h]
  decide +kernel

end Server

end StatementLens
