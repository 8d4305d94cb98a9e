import StatementLens.Correlate
import StatementLens.Proofs.Lookup

/-!
# The value of the lenses of a document

What is told on the way does not matter for the lenses: they are a value, or a failure, that depends on
the texts of the XML files only (`Correlate.fit_answers`). The files that are looked at all have the
extension of XML files, and there is a failure only if one of them breaks off (`Lookup.answer_eq_error`).
-/

namespace StatementLens

/-! ## Computations that tell of events -/

/-- Whether a computation has a value, whatever has been told before. -/
def Yields {α : Type} (c : Logged α) (a : α) : Prop := ∀ events, (c.run events).1 = a

namespace Yields

variable {α β : Type}

/-- A value yields itself. -/
theorem pure (a : α) : Yields (Pure.pure a) a := fun _ => rfl

/-- A computation goes on from the value that the one before it yields. -/
theorem bind {c : Logged α} {f : α → Logged β} {a : α} {b : β} (hc : Yields c a)
    (hf : Yields (f a) b) : Yields (c >>= f) b := by
  intro events
  have h : ((c >>= f).run events).1 = ((f (c.run events).1).run (c.run events).2).1 := rfl
  rw [h, hc events]
  exact hf _

end Yields

/-- Whether an attempt has a result, whatever has been told before. -/
def Ends {α : Type} (c : Attempt α) (result : Except Failure α) : Prop := Yields c.run result

namespace Ends

variable {α β : Type}

/-- A value is a result. -/
theorem pure (a : α) : Ends (Pure.pure a) (.ok a) := fun _ => rfl

/-- An attempt goes on from the value that the one before it ends in. -/
theorem bind {c : Attempt α} {f : α → Attempt β} {a : α} {result : Except Failure β}
    (hc : Ends c (.ok a)) (hf : Ends (f a) result) : Ends (c >>= f) result :=
  Yields.bind (f := ExceptT.bindCont f) hc hf

/-- Behind a failure nothing is attempted. -/
theorem fail {c : Attempt α} {f : α → Attempt β} {failure : Failure} (hc : Ends c (.error failure)) :
    Ends (c >>= f) (.error failure) :=
  Yields.bind (f := ExceptT.bindCont f) hc fun _ => rfl

/-- Telling of an event always succeeds. -/
theorem note (event : Event) : Ends (StatementLens.note event) (.ok ()) := fun _ => rfl

/-- So does telling of several. -/
theorem noteAll (events : List Event) : Ends (StatementLens.noteAll events) (.ok ()) := fun _ => rfl

end Ends

/-! ## Files that are looked at -/

namespace Walk

mutual

/-- All files that are found in a tree are XML files. -/
theorem isXml_of_mem_filesOf {disk : Disk} {config : Config} {levels : List Ignore.Level}
    {names : List FileName} {path : Path} {file : SizedFile} :
    (t : FileTree) → file ∈ filesOf disk config levels names path t → isXml file.path = true
  | .file bytes, h => by
    unfold filesOf at h
    grind
  | .link _, h => by
    unfold filesOf at h
    exact absurd h List.not_mem_nil
  | .folder entries, h => by
    unfold filesOf at h
    obtain ⟨entry, hentry, hfile⟩ := List.mem_flatMap.1 h
    exact isXml_of_mem_filesOfEntries entries (List.mem_mergeSort.1 hentry) hfile

/-- So are those that are found in the entries of a folder. -/
theorem isXml_of_mem_filesOfEntries {disk : Disk} {config : Config} {levels : List Ignore.Level}
    {names : List FileName} {path : Path} {file : SizedFile} {entry : FileName × List SizedFile} :
    (entries : List (FileName × FileTree)) →
      entry ∈ filesOfEntries disk config levels names path entries → file ∈ entry.2 →
      isXml file.path = true
  | [], h, _ => by
    unfold filesOfEntries at h
    exact absurd h List.not_mem_nil
  | (name, t) :: rest, h, hfile => by
    unfold filesOfEntries at h
    rcases List.mem_cons.1 h with rfl | h
    · dsimp only at hfile
      split at hfile
      · exact absurd hfile List.not_mem_nil
      · exact isXml_of_mem_filesOf t hfile
    · exact isXml_of_mem_filesOfEntries rest h hfile

end

/-- Looking for files below the entries of a folder keeps their names. -/
theorem map_fst_filesOfEntries (disk : Disk) (config : Config) (levels : List Ignore.Level)
    (names : List FileName) (path : Path) (entries : List (FileName × FileTree)) :
    (filesOfEntries disk config levels names path entries).map Prod.fst = entries.map Prod.fst := by
  induction entries with
  | nil =>
    rw [filesOfEntries]
    rfl
  | cons entry rest ih =>
    obtain ⟨name, t⟩ := entry
    rw [filesOfEntries, List.map_cons, List.map_cons, ih]

/-- The entries of a folder that are in order are listed as they stand. -/
theorem filesOf_of_sorted {disk : Disk} {config : Config} {levels : List Ignore.Level}
    {names : List FileName} {path : Path} {entries : List (FileName × FileTree)}
    (h : (entries.map Prod.fst).Pairwise fun a b => decide (a ≤ b) = true) :
    filesOf disk config levels names path (.folder entries)
      = (filesOfEntries disk config (Ignore.Level.ofFolder disk names :: levels) names path
        entries).flatMap Prod.snd := by
  rw [← map_fst_filesOfEntries disk config (Ignore.Level.ofFolder disk names :: levels) names path,
    List.pairwise_map] at h
  rw [filesOf, List.mergeSort_of_pairwise h]

/-- All files that are listed are XML files. -/
theorem isXml_of_mem_xmlFiles {disk : Disk} {config : Config} {start path : Path}
    (h : path ∈ xmlFiles disk config start) : isXml path = true := by
  obtain ⟨file, hfile, rfl⟩ := List.mem_map.1 h
  have hall := (List.mem_filter.1 hfile).1
  unfold allFiles at hall
  split at hall
  · exact absurd hall List.not_mem_nil
  · split at hall
    · exact absurd hall List.not_mem_nil
    · split at hall
      · exact absurd hall List.not_mem_nil
      · exact isXml_of_mem_filesOf _ hall

end Walk

/-! ## Looking a mapper up -/

namespace Lookup

/-- What looking up the XML mapper of a Java mapper ends in. -/
def found (disk : Disk) (config : Config) (workspace : Workspace) (source : TextSource)
    (mapper : JavaMapper) : Except Failure (Option XmlMapper) :=
  match (Document.pathOf? mapper.uri).bind (config.searchRoot? workspace) with
  | none => .ok none
  | some folder => answer source mapper.qualifiedName (Walk.xmlFiles disk config folder)

/-- Looking a mapper up ends in the answer of a search, or in none if there is no folder for it. -/
theorem ends_find (disk : Disk) (config : Config) (workspace : Workspace) (source : TextSource)
    (mapper : JavaMapper) :
    Ends (find disk config workspace source mapper) (found disk config workspace source mapper) := by
  unfold find found
  cases (Document.pathOf? mapper.uri).bind (config.searchRoot? workspace) with
  | none => exact .pure none
  | some folder =>
    have hbelow : Ends (searchBelow disk config source mapper.qualifiedName folder)
        (answer source mapper.qualifiedName (Walk.xmlFiles disk config folder)) :=
      .bind (.noteAll _) fun events => search_eq _ events
    simp only
    cases hanswer : answer source mapper.qualifiedName (Walk.xmlFiles disk config folder) with
    | error failure =>
      rw [hanswer] at hbelow
      exact hbelow.fail
    | ok found =>
      rw [hanswer] at hbelow
      apply hbelow.bind
      cases found with
      | none => exact .pure none
      | some xml => exact .bind (.note _) (.pure (some xml))

/-- Sources that give the files the same texts lead to the same answer. -/
theorem answer_congr {source other : TextSource} {paths : List Path}
    (h : ∀ path ∈ paths, source path = other path) (namespace_ : String) :
    answer source namespace_ paths = answer other namespace_ paths := by
  have hends : ∀ path ∈ paths, endOf? source namespace_ path = endOf? other namespace_ path := by
    intro path hpath
    unfold endOf? passes breaks mapperOf?
    rw [h path hpath]
  unfold answer
  congr 2
  induction paths with
  | nil => rfl
  | cons path rest ih =>
    rw [List.findSome?_cons, List.findSome?_cons, hends path List.mem_cons_self,
      ih (fun p hp => h p (List.mem_cons_of_mem _ hp)) fun p hp => hends p (List.mem_cons_of_mem _ hp)]

end Lookup

/-! ## The lenses of a document -/

namespace Correlate

/-- What services answer, apart from what they tell. -/
structure Answers where
  declaresMapper : Document → Bool
  isPlaced : Document → String → Bool
  readMapper : Document → Option JavaMapper
  findXml : JavaMapper → Except Failure (Option XmlMapper)

/-- Whether services answer so, whatever has been told before. -/
structure Answers.Fit (a : Answers) (services : Services Attempt) : Prop where
  declaresMapper : ∀ d, Ends (services.declaresMapper d) (.ok (a.declaresMapper d))
  isPlaced : ∀ d folder, Ends (services.isPlaced d folder) (.ok (a.isPlaced d folder))
  readMapper : ∀ d, Ends (services.readMapper d) (.ok (a.readMapper d))
  findXml : ∀ mapper, Ends (services.findXml mapper) (a.findXml mapper)
  tell : ∀ event, Ends (services.tell event) (.ok ())

/-- The lenses that follow from answers. -/
def Answers.lenses (a : Answers) (workspace : Workspace) (d : Document) :
    Except Failure (List Lens) :=
  if a.declaresMapper d && a.isPlaced d (folderName workspace d) then
    match a.readMapper d with
    | none => .ok []
    | some mapper =>
      if mapper.methods.isEmpty then .ok []
      else
        match a.findXml mapper with
        | .error failure => .error failure
        | .ok none => .ok []
        | .ok (some xml) => .ok (mapper.methods.filterMap (lens? d xml))
  else .ok []

namespace Answers.Fit

variable {a : Answers} {services : Services Attempt}

/-- The lenses of methods are those whose names can be found. -/
theorem lensesOf (h : a.Fit services) (d : Document) (xml : XmlMapper) (methods : List JavaMethod) :
    Ends (lensesOf services d xml methods) (.ok (methods.filterMap (lens? d xml))) := by
  induction methods with
  | nil => exact .pure []
  | cons method rest ih =>
    unfold Correlate.lensesOf
    cases hlens : lens? d xml method with
    | none =>
      rw [List.filterMap_cons_none hlens]
      exact .bind (h.tell _) ih
    | some lens =>
      rw [List.filterMap_cons_some hlens]
      exact .bind ih (.pure _)

/-- The lenses that services make follow from their answers. -/
theorem lenses (h : a.Fit services) (workspace : Workspace) (d : Document) :
    Ends (services.lenses workspace d) (a.lenses workspace d) := by
  unfold Services.lenses Answers.lenses
  apply (h.declaresMapper d).bind
  cases a.declaresMapper d with
  | false => exact .bind (h.tell _) (.pure [])
  | true =>
    apply (h.isPlaced d _).bind
    cases a.isPlaced d (folderName workspace d) with
    | false => exact .bind (h.tell _) (.pure [])
    | true =>
      apply (h.readMapper d).bind
      cases a.readMapper d with
      | none => exact .pure []
      | some mapper =>
        cases hmethods : mapper.methods.isEmpty with
        | true =>
          simp only [hmethods]
          exact .pure []
        | false =>
          simp only [hmethods]
          have hfind := h.findXml mapper
          rcases hxml : a.findXml mapper with failure | _ | xml
          · rw [hxml] at hfind
            exact hfind.fail
          · rw [hxml] at hfind
            exact .bind hfind (.bind (h.tell _) (.pure []))
          · rw [hxml] at hfind
            exact .bind hfind (.bind (h.lensesOf d xml _) (.bind (h.tell _) (.pure _)))

end Answers.Fit

/-- What the services on a disk answer. -/
def answers (disk : Disk) (config : Config) (workspace : Workspace) (source : TextSource) :
    Answers where
  declaresMapper := JavaMapper.isDeclaredIn config
  isPlaced d folder :=
    match d.path? with
    | some path => config.isMapperPath path folder
    | none => false
  readMapper := JavaMapper.read?
  findXml := Lookup.found disk config workspace source

/-- The services on a disk answer so. -/
theorem fit_answers (disk : Disk) (config : Config) (workspace : Workspace) (source : TextSource) :
    (answers disk config workspace source).Fit (services disk config workspace source) where
  declaresMapper d _ := rfl
  isPlaced d folder := by
    simp only [services, answers]
    exact .pure _
  readMapper d := by
    simp only [services, answers]
    cases JavaMapper.read? d with
    | none => exact .pure none
    | some mapper => exact .bind (.note _) (.pure (some mapper))
  findXml mapper := by
    simp only [services, answers]
    exact Lookup.ends_find disk config workspace source mapper
  tell := .note

/-- Only the texts of XML files matter for the lenses of a document, and none if the document declares
no mapper. -/
theorem lenses_answers_congr {disk : Disk} {config : Config} {workspace : Workspace}
    {source other : TextSource} {d : Document}
    (h : JavaMapper.isDeclaredIn config d = true →
      ∀ path, Walk.isXml path = true → source path = other path) :
    (answers disk config workspace source).lenses workspace d
      = (answers disk config workspace other).lenses workspace d := by
  cases hdeclared : JavaMapper.isDeclaredIn config d with
  | false =>
    simp only [Answers.lenses, answers, hdeclared, Bool.false_and, Bool.false_eq_true, if_false]
  | true =>
    have hfound : Lookup.found disk config workspace source
        = Lookup.found disk config workspace other := by
      funext mapper
      unfold Lookup.found
      cases (Document.pathOf? mapper.uri).bind (config.searchRoot? workspace) with
      | none => rfl
      | some folder =>
        exact Lookup.answer_congr
          (fun path hpath => h hdeclared path (Walk.isXml_of_mem_xmlFiles hpath)) _
    rw [answers, hfound, ← answers]

end Correlate

end StatementLens
