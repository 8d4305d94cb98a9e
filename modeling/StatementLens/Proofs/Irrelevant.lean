import Mathlib.Logic.Relation
import StatementLens.Proofs.Correlate

/-!
# Irrelevant files

A file can have nothing to do with the mapper that is looked for: it cannot be read, it is malformed, it
is no mapper, or it is the mapper of another namespace. Such files come and go without a trace in the
answer of a search (`answer_of_edits`). A file with the mapper can be overlooked as well. The first file that
is neither gives the answer, whatever follows it (`answer_eq_some_iff`), or breaks the search off
(`answer_eq_error_iff_reached`).
-/

namespace StatementLens

/-- What a text is read as does not depend on the URL, which only goes into the mapper. -/
theorem XmlMapper.parse_of_parse {uri : String} {text : List Char} {m : XmlMapper}
    (h : parse uri text = .ok (some m)) (other : String) :
    parse other text = .ok (some { m with uri := other }) := by
  obtain ⟨root, hparse, hroot⟩ := parse_eq_some_iff.1 h
  obtain ⟨space, offset, hspace, hoffset, rfl⟩ := ofRoot_eq_some_iff.1 hroot
  exact parse_eq_some_iff.2 ⟨root, hparse, ofRoot_eq_some_iff.2 ⟨space, offset, hspace, hoffset, rfl⟩⟩

namespace Lookup

/-! ## Relevance -/

/-- What files can hold that has nothing to do with the mapper of a namespace. -/
inductive Irrelevant (namespace_ : String) : Option String → Prop where
  /-- The file cannot be read. -/
  | unreadable : Irrelevant namespace_ none
  /-- It is malformed. -/
  | malformed {uri text message : String}
      (h : XmlMapper.parse uri text.toList = .error (.malformed message)) :
      Irrelevant namespace_ (some text)
  /-- It is no mapper. -/
  | noMapper {uri text : String} (h : XmlMapper.parse uri text.toList = .ok none) :
      Irrelevant namespace_ (some text)
  /-- It is the mapper of another namespace. -/
  | otherSpace {uri text : String} {m : XmlMapper}
      (h : XmlMapper.parse uri text.toList = .ok (some m)) (hother : m.namespace_ ≠ namespace_) :
      Irrelevant namespace_ (some text)

/-- Whether a file is passed over unread: it has no URL, or its text lacks what is looked for first. -/
def Overlooked (namespace_ : String) (path : Path) (content : Option String) : Prop :=
  Url.ofPath? path = none ∨ ∀ text ∈ content, mayHold namespace_.toList text.toList = false

instance (namespace_ : String) (path : Path) (content : Option String) :
    Decidable (Overlooked namespace_ path content) := inferInstanceAs (Decidable (_ ∨ _))

/-- Whether a file is read as a mapper with a namespace. -/
def Matches (namespace_ : String) (path : Path) (content : Option String) (m : XmlMapper) : Prop :=
  ∃ text url, content = some text ∧ Url.ofPath? path = some url ∧
    XmlMapper.parse url.toString text.toList = .ok (some m) ∧ m.namespace_ = namespace_

variable {namespace_ : String}

/-- A text that is read as the mapper, under any URL, is not irrelevant. -/
theorem Irrelevant.namespace_ne {uri text : String} {m : XmlMapper}
    (h : Irrelevant namespace_ (some text)) (hm : XmlMapper.parse uri text.toList = .ok (some m)) :
    m.namespace_ ≠ namespace_ := by
  -- what makes a file irrelevant may have been found under another URL
  have hother := XmlMapper.parse_of_parse hm
  cases h with
  | @malformed uri' _ message hparse =>
    rw [hother uri'] at hparse
    cases hparse
  | @noMapper uri' _ hparse =>
    rw [hother uri'] at hparse
    cases hparse
  | @otherSpace uri' _ m' hparse hne =>
    rw [hother uri'] at hparse
    cases hparse
    exact hne

/-- Nor is a text that breaks off. -/
theorem Irrelevant.breaks_eq_false {content : Option String} (h : Irrelevant namespace_ content) :
    breaks content = false := by
  cases h with
  | unreadable => rfl
  | malformed hparse => exact breaks_of_parse hparse (by simp)
  | noMapper hparse => exact breaks_of_parse hparse (by simp)
  | otherSpace hparse _ => exact breaks_of_parse hparse (by simp)

/-- A file is irrelevant, overlooked, matches or breaks off, and one that matches or breaks off is not
irrelevant. -/
theorem irrelevant_or_overlooked_iff (path : Path) (content : Option String) :
    Irrelevant namespace_ content ∨ Overlooked namespace_ path content ↔
      ¬ (((∃ m, Matches namespace_ path content m) ∨ breaks content = true) ∧
        ¬ Overlooked namespace_ path content) := by
  constructor
  · rintro (hirrelevant | hoverlooked) ⟨⟨m, text, url, rfl, hurl, hparse, hname⟩ | hbreaks, hseen⟩
    · exact hirrelevant.namespace_ne hparse hname
    · rw [hirrelevant.breaks_eq_false] at hbreaks
      cases hbreaks
    · exact hseen hoverlooked
    · exact hseen hoverlooked
  · intro h
    by_cases hoverlooked : Overlooked namespace_ path content
    · exact .inr hoverlooked
    · left
      have hurl : ∃ url, Url.ofPath? path = some url :=
        Option.ne_none_iff_exists'.1 fun hnone => hoverlooked (.inl hnone)
      obtain ⟨url, hurl⟩ := hurl
      cases content with
      | none => exact .unreadable
      | some text =>
        rcases hparse : XmlMapper.parse url.toString text.toList with
          (message | ⟨start, stop⟩) | (_ | m)
        · exact .malformed hparse
        · have hbreaks := XmlMapper.exists_inverted_iff.1 ⟨start, stop, hparse⟩
          exact absurd ⟨.inr hbreaks, hoverlooked⟩ h
        · exact .noMapper hparse
        · refine .otherSpace hparse fun hname => h ⟨.inl ⟨m, ?_⟩, hoverlooked⟩
          exact ⟨text, url, rfl, hurl, hparse, hname⟩

/-! ## The answer of a search -/

/-- Files with what they hold. -/
def contents (source : TextSource) (paths : List Path) : List (Path × Option String) :=
  paths.map fun path => (path, source path)

/-- What a file with what it holds ends a search with. -/
def ending? (namespace_ : String) (file : Path × Option String) : Option (Except Failure XmlMapper) :=
  endOf? (fun _ => file.2) namespace_ file.1

/-- A search depends on the files and what they hold. -/
theorem findSome?_contents (source : TextSource) (namespace_ : String) (paths : List Path) :
    (contents source paths).findSome? (ending? namespace_)
      = paths.findSome? (endOf? source namespace_) := by
  unfold contents
  rw [List.findSome?_map]
  rfl

/-- The mapper of a file is what it is read as. -/
theorem mapperOf?_eq_some_iff {source : TextSource} {path : Path} {m : XmlMapper} :
    mapperOf? source namespace_ path = some m ↔ Matches namespace_ path (source path) m := by
  constructor
  · exact exists_of_mapperOf?
  · rintro ⟨text, url, hsource, hurl, hparse, hname⟩
    unfold mapperOf?
    simp only [hsource, hurl, hparse, hname, if_true]

/-- A file is not overlooked if it can be read, is looked at more closely and has a URL. -/
theorem not_overlooked_iff {source : TextSource} {path : Path} {text : String}
    (h : source path = some text) :
    ¬ Overlooked namespace_ path (source path) ↔
      passes source namespace_ path = true ∧ (Url.ofPath? path).isSome = true := by
  simp [passes, Overlooked, h, and_comm, Option.isSome_iff_ne_none]

/-- A file that matches ends a search unless it is overlooked. -/
theorem endOf?_eq_ok_iff_matches {source : TextSource} {path : Path} {m : XmlMapper} :
    endOf? source namespace_ path = some (.ok m) ↔
      Matches namespace_ path (source path) m ∧ ¬ Overlooked namespace_ path (source path) := by
  rw [endOf?_eq_ok_iff, mapperOf?_eq_some_iff, and_comm]
  refine and_congr_right fun hm => ?_
  obtain ⟨text, url, hsource, hurl, -, -⟩ := hm
  rw [not_overlooked_iff hsource, hurl, Option.isSome_some, eq_self_iff_true, and_true]

/-- So does a file that breaks off. -/
theorem endOf?_eq_error_iff_breaks {source : TextSource} {path : Path} {failure : Failure} :
    endOf? source namespace_ path = some (.error failure) ↔ failure = brokenOff ∧
      breaks (source path) = true ∧ ¬ Overlooked namespace_ path (source path) := by
  rw [endOf?_eq_error_iff]
  cases hsource : source path with
  | none => simp [breaks]
  | some text =>
    rw [← hsource, not_overlooked_iff hsource]
    tauto

/-- Behind all other files the search goes on. -/
theorem endOf?_eq_none_iff {source : TextSource} {path : Path} :
    endOf? source namespace_ path = none ↔
      Irrelevant namespace_ (source path) ∨ Overlooked namespace_ path (source path) := by
  rw [irrelevant_or_overlooked_iff]
  constructor
  · rintro hnone ⟨⟨m, hm⟩ | hbreaks, hseen⟩
    · have hend := endOf?_eq_ok_iff_matches.2 ⟨hm, hseen⟩
      rw [hnone] at hend
      cases hend
    · have hend := endOf?_eq_error_iff_breaks.2 ⟨rfl, hbreaks, hseen⟩
      rw [hnone] at hend
      cases hend
  · intro h
    rcases hend : endOf? source namespace_ path with _ | failure | m
    · rfl
    · obtain ⟨-, hbreaks, hseen⟩ := endOf?_eq_error_iff_breaks.1 hend
      exact absurd ⟨.inr hbreaks, hseen⟩ h
    · obtain ⟨hm, hseen⟩ := endOf?_eq_ok_iff_matches.1 hend
      exact absurd ⟨.inl ⟨m, hm⟩, hseen⟩ h

/-- Whether a search gets to a file and does not overlook it: all files in front of it are irrelevant or
overlooked. -/
def Reaches (source : TextSource) (namespace_ : String) (paths : List Path) (path : Path) : Prop :=
  ∃ front rest, paths = front ++ path :: rest ∧ ¬ Overlooked namespace_ path (source path) ∧
    ∀ p ∈ front, Irrelevant namespace_ (source p) ∨ Overlooked namespace_ p (source p)

section

variable {source : TextSource} {paths : List Path}

/-- A search answers with the first file that matches and is not overlooked. -/
theorem answer_eq_some_iff {m : XmlMapper} :
    answer source namespace_ paths = .ok (some m) ↔
      ∃ path, Reaches source namespace_ paths path ∧ Matches namespace_ path (source path) m := by
  rw [answer_eq_ok_some_iff, List.findSome?_eq_some_iff]
  simp only [endOf?_eq_ok_iff_matches, endOf?_eq_none_iff]
  constructor
  · rintro ⟨front, path, rest, hpaths, ⟨hm, hseen⟩, hfront⟩
    exact ⟨path, ⟨front, rest, hpaths, hseen, hfront⟩, hm⟩
  · rintro ⟨path, ⟨front, rest, hpaths, hseen, hfront⟩, hm⟩
    exact ⟨front, path, rest, hpaths, ⟨hm, hseen⟩, hfront⟩

/-- It fails if a file that breaks off comes first. -/
theorem answer_eq_error_iff_reached {failure : Failure} :
    answer source namespace_ paths = .error failure ↔ failure = brokenOff ∧
      ∃ path, Reaches source namespace_ paths path ∧ breaks (source path) = true := by
  rw [answer_eq_error_iff, List.findSome?_eq_some_iff]
  simp only [endOf?_eq_error_iff_breaks, endOf?_eq_none_iff]
  constructor
  · rintro ⟨front, path, rest, hpaths, ⟨hfailure, hbreaks, hseen⟩, hfront⟩
    exact ⟨hfailure, path, ⟨front, rest, hpaths, hseen, hfront⟩, hbreaks⟩
  · rintro ⟨hfailure, path, ⟨front, rest, hpaths, hseen, hfront⟩, hbreaks⟩
    exact ⟨front, path, rest, hpaths, ⟨hfailure, hbreaks, hseen⟩, hfront⟩

/-- There is no mapper if all files are irrelevant or overlooked. -/
theorem answer_eq_none_iff :
    answer source namespace_ paths = .ok none ↔
      ∀ p ∈ paths, Irrelevant namespace_ (source p) ∨ Overlooked namespace_ p (source p) := by
  rw [answer_eq_ok_none_iff, List.findSome?_eq_none_iff]
  simp only [endOf?_eq_none_iff]

end

/-! ## Edits of irrelevant files -/

/-- One irrelevant file comes, goes or changes. -/
inductive IrrelevantEdit (namespace_ : String) :
    List (Path × Option String) → List (Path × Option String) → Prop where
  | insert (front rest : List (Path × Option String)) {path : Path} {content : Option String}
      (h : Irrelevant namespace_ content) :
      IrrelevantEdit namespace_ (front ++ rest) (front ++ (path, content) :: rest)
  | delete (front rest : List (Path × Option String)) {path : Path} {content : Option String}
      (h : Irrelevant namespace_ content) :
      IrrelevantEdit namespace_ (front ++ (path, content) :: rest) (front ++ rest)
  | replace (front rest : List (Path × Option String)) {path : Path} {old new : Option String}
      (hold : Irrelevant namespace_ old) (hnew : Irrelevant namespace_ new) :
      IrrelevantEdit namespace_ (front ++ (path, old) :: rest) (front ++ (path, new) :: rest)

/-- An irrelevant file does not end a search. -/
theorem findSome?_append_irrelevant {content : Option String} (h : Irrelevant namespace_ content)
    (front rest : List (Path × Option String)) (path : Path) :
    (front ++ (path, content) :: rest).findSome? (ending? namespace_)
      = (front ++ rest).findSome? (ending? namespace_) := by
  have hnone : ending? namespace_ (path, content) = none := endOf?_eq_none_iff.2 (.inl h)
  rw [List.findSome?_append, List.findSome?_cons, hnone, List.findSome?_append]

/-- An irrelevant file that comes, goes or changes leaves no trace in how a search ends. -/
theorem IrrelevantEdit.findSome?_eq {files files' : List (Path × Option String)}
    (h : IrrelevantEdit namespace_ files files') :
    files.findSome? (ending? namespace_) = files'.findSome? (ending? namespace_) := by
  cases h with
  | insert front rest h => exact (findSome?_append_irrelevant h front rest _).symm
  | delete front rest h => exact findSome?_append_irrelevant h front rest _
  | replace front rest hold hnew =>
    rw [findSome?_append_irrelevant hold, findSome?_append_irrelevant hnew]

/-- Nor do any number of them. -/
theorem answer_of_edits {source source' : TextSource} {paths paths' : List Path}
    (h : Relation.ReflTransGen (IrrelevantEdit namespace_) (contents source paths)
      (contents source' paths')) :
    answer source namespace_ paths = answer source' namespace_ paths' := by
  unfold answer
  rw [← findSome?_contents, ← findSome?_contents]
  generalize contents source paths = files at h
  generalize contents source' paths' = files' at h
  induction h with
  | refl => rfl
  | tail _ hstep ih => rw [ih, hstep.findSome?_eq]

/-! ## Looking a mapper up -/

/-- Looking a mapper up fails if the search for it does. -/
theorem found_eq_error_iff {disk : Disk} {config : Config} {workspace : Workspace}
    {source : TextSource} {mapper : JavaMapper} {failure : Failure} :
    found disk config workspace source mapper = .error failure ↔ failure = brokenOff ∧
      ∃ folder, (Document.pathOf? mapper.uri).bind (config.searchRoot? workspace) = some folder ∧
        ∃ path, Reaches source mapper.qualifiedName (Walk.xmlFiles disk config folder) path ∧
          breaks (source path) = true := by
  unfold found
  cases (Document.pathOf? mapper.uri).bind (config.searchRoot? workspace) with
  | none => simp
  | some folder =>
    simp only [Option.some.injEq, exists_eq_left']
    exact answer_eq_error_iff_reached

/-- Bad files neither hide nor change good ones, but for one kind. What a search answers is read, with the
namespace that is looked for, from one of the files, whose URL it has. Irrelevant files can be inserted,
deleted and changed without a trace. The first file that matches and is not overlooked gives the answer,
whatever follows it. There is none only if each file is irrelevant or overlooked. The search fails, and
looking a mapper up with it, exactly if the first file that is neither breaks off, which no file without an
internal subset does. -/
theorem irrelevant_files_leave_no_trace (source : TextSource) (namespace_ : String)
    (paths : List Path) (events : List Event) :
    (∀ m, ((search source namespace_ paths).run.run events).1 = .ok (some m) →
      m.namespace_ = namespace_ ∧ ∃ path ∈ paths, ∃ url, Url.ofPath? path = some url ∧
        m.uri = url.toString ∧ Matches namespace_ path (source path) m) ∧
    (∀ source' paths' events',
      Relation.ReflTransGen (IrrelevantEdit namespace_) (contents source paths)
        (contents source' paths') →
      ((search source' namespace_ paths').run.run events').1
        = ((search source namespace_ paths).run.run events).1) ∧
    (∀ m, ((search source namespace_ paths).run.run events).1 = .ok (some m) ↔
      ∃ path, Reaches source namespace_ paths path ∧ Matches namespace_ path (source path) m) ∧
    (((search source namespace_ paths).run.run events).1 = .ok none ↔
      ∀ p ∈ paths, Irrelevant namespace_ (source p) ∨ Overlooked namespace_ p (source p)) ∧
    (∀ failure, ((search source namespace_ paths).run.run events).1 = .error failure ↔
      failure = brokenOff ∧
        ∃ path, Reaches source namespace_ paths path ∧ breaks (source path) = true) ∧
    (∀ disk config workspace (mapper : JavaMapper) failure,
      ((find disk config workspace source mapper).run.run events).1 = .error failure ↔
        failure = brokenOff ∧
          ∃ folder, (Document.pathOf? mapper.uri).bind (config.searchRoot? workspace) = some folder ∧
            ∃ path, Reaches source mapper.qualifiedName (Walk.xmlFiles disk config folder) path ∧
              breaks (source path) = true) ∧
    ∀ path, (∀ text ∈ source path, Xml.hasSubset text.toList = false) →
      breaks (source path) = false := by
  simp only [search_eq, ends_find _ _ _ source _ events]
  refine ⟨?_, ?_, fun m => answer_eq_some_iff, answer_eq_none_iff,
    fun failure => answer_eq_error_iff_reached, fun _ _ _ _ _ => found_eq_error_iff, ?_⟩
  · intro m hm
    obtain ⟨path, ⟨front, rest, rfl, -, -⟩, hmatches⟩ := answer_eq_some_iff.1 hm
    have huri := url_of_mapperOf? (mapperOf?_eq_some_iff.2 hmatches)
    obtain ⟨text, url, hsource, hurl, hparse, hname⟩ := hmatches
    rw [urlOf?, hurl] at huri
    exact ⟨hname, path, List.mem_append_right _ List.mem_cons_self, url, hurl,
      (Option.some.inj huri).symm, text, url, hsource, hurl, hparse, hname⟩
  · intro source' paths' events' hedits
    exact (answer_of_edits hedits).symm
  · exact fun path => breaks_of_no_subset

/-- A mapper that is written with a reference, a malformed file, a mapper that is written plainly and one
whose root is closed inside of an entity. -/
def mixedSource : TextSource := fun path =>
  if path = .ofString "/a.xml" then some "<mapper namespace=\"a&#46;B\"/>"
  else if path = .ofString "/b.xml" then some "<mapper a.B"
  else if path = .ofString "/c.xml" then some "<mapper namespace=\"a.B\"/>"
  else if path = .ofString "/e.xml" then
    some "<!DOCTYPE m [<!ENTITY e '<a/></mapper>'>]><mapper namespace='a.B'>&e;"
  else none

/-- The first file is overlooked, though it matches. The mapper behind it is found in spite of files that are
malformed or cannot be read, but not behind a file that breaks off. -/
theorem irrelevant_files_leave_no_trace_mixedSource :
    Matches "a.B" (.ofString "/a.xml") (mixedSource (.ofString "/a.xml"))
      ⟨"file:///a.xml", "a.B", [], ⟨0, 29⟩⟩ ∧
    ((search mixedSource "a.B" [.ofString "/a.xml", .ofString "/c.xml"]).run.run []).1
      = .ok (some ⟨"file:///c.xml", "a.B", [], ⟨0, 25⟩⟩) ∧
    ((search mixedSource "a.B" [.ofString "/a.xml", .ofString "/b.xml", .ofString "/c.xml",
      .ofString "/d.xml"]).run.run []).1 = .ok (some ⟨"file:///c.xml", "a.B", [], ⟨0, 25⟩⟩) ∧
    ((search mixedSource "a.B" [.ofString "/a.xml", .ofString "/e.xml",
      .ofString "/c.xml"]).run.run []).1 = .error (.defect "XML scan failed: task panicked") := by
  have hfirst : Matches "a.B" (.ofString "/a.xml") (mixedSource (.ofString "/a.xml"))
      ⟨"file:///a.xml", "a.B", [], ⟨0, 29⟩⟩ :=
    mapperOf?_eq_some_iff.1 (by decide +kernel)
  have hthird : Matches "a.B" (.ofString "/c.xml") (mixedSource (.ofString "/c.xml"))
      ⟨"file:///c.xml", "a.B", [], ⟨0, 25⟩⟩ :=
    mapperOf?_eq_some_iff.1 (by decide +kernel)
  have hbreaks : breaks (mixedSource (.ofString "/e.xml")) = true := by decide +kernel
  have hoverlooked : Overlooked "a.B" (.ofString "/a.xml") (mixedSource (.ofString "/a.xml")) := by
    decide +kernel
  have hseen : ¬ Overlooked "a.B" (.ofString "/c.xml") (mixedSource (.ofString "/c.xml")) := by
    decide +kernel
  have hseen' : ¬ Overlooked "a.B" (.ofString "/e.xml") (mixedSource (.ofString "/e.xml")) := by
    decide +kernel
  have hmalformed : Irrelevant "a.B" (mixedSource (.ofString "/b.xml")) := by
    have hparse : XmlMapper.parse "u" "<mapper a.B".toList
        = .error (.malformed "u: unexpected end of stream") := by decide +kernel
    rw [show mixedSource (.ofString "/b.xml") = some "<mapper a.B" by decide +kernel]
    exact .malformed hparse
  have hunreadable : Irrelevant "a.B" (mixedSource (.ofString "/d.xml")) := by
    rw [show mixedSource (.ofString "/d.xml") = none by decide +kernel]
    exact .unreadable
  obtain ⟨-, hedits, hanswer, -⟩ := irrelevant_files_leave_no_trace mixedSource "a.B"
    [.ofString "/a.xml", .ofString "/c.xml"] []
  obtain ⟨-, -, -, -, hfails, -⟩ := irrelevant_files_leave_no_trace mixedSource "a.B"
    [.ofString "/a.xml", .ofString "/e.xml", .ofString "/c.xml"] []
  have hshort := (hanswer ⟨"file:///c.xml", "a.B", [], ⟨0, 25⟩⟩).2
    ⟨.ofString "/c.xml", ⟨[.ofString "/a.xml"], [], rfl, hseen, by simp [hoverlooked]⟩, hthird⟩
  refine ⟨hfirst, hshort, (hedits mixedSource _ [] ?_).trans hshort, (hfails _).2 ⟨rfl, .ofString "/e.xml",
    ⟨[.ofString "/a.xml"], [.ofString "/c.xml"], rfl, hseen', by simp [hoverlooked]⟩, hbreaks⟩⟩
  let front := contents mixedSource [.ofString "/a.xml"]
  let rest := contents mixedSource [.ofString "/c.xml"]
  let three := contents mixedSource [.ofString "/a.xml", .ofString "/b.xml", .ofString "/c.xml"]
  exact .tail (.single (.insert front rest hmalformed)) (.insert three [] hunreadable)

end Lookup

end StatementLens
