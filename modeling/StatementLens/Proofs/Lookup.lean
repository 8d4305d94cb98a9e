import StatementLens.Lookup
import StatementLens.Proofs.Mapper.Root
import StatementLens.Proofs.Xml.RootTag

/-!
# Looking mappers up

The answer of a search is that of the first file that ends it, with the mapper or with a failure
(`search_eq`). A file is skipped unread if its text holds no `<mapper` or not the namespace. This leaves the
answer as it is unless the first file that holds the mapper is one of those that are skipped
(`search_eq_plainSearch_iff`). A mapper that is spelled plainly never is (`mayHold_of_plain`).
-/

namespace StatementLens

open Text

/-! ## Plain spelling -/

/-- Without the blank space around it, a text is still a part of itself. -/
theorem trim_isInfix (cs : List Char) : trim cs <:+: cs := by
  have hstart : cs.dropWhile isBlank <:+ cs := List.dropWhile_suffix _
  have hend : trim cs <+: cs.dropWhile isBlank := by
    unfold trim trimEnd
    rw [← List.reverse_suffix, List.reverse_reverse]
    exact List.dropWhile_suffix _
  exact hend.isInfix.trans hstart.isInfix

/-- A root is spelled plainly if its tag starts with `<mapper` and nothing is to be replaced in the
namespace that is written in it. -/
structure Plain (text : List Char) (root : Xml.Element) : Prop where
  name : "<mapper".toList <+: dropBytes root.start text
  space : ∀ raw ∈ Xml.attributesAt text root.start, raw.name = ⟨[], "namespace".toList⟩ →
    ∀ c ∈ raw.value.chars, Xml.isPlain c = true

/-- The text of a mapper that is spelled plainly holds what is looked for in it. -/
theorem mayHold_of_plain {uri : String} {text : List Char} {root : Xml.Element} {m : XmlMapper}
    (hroot : Xml.parse text = .ok root) (hm : XmlMapper.parse uri text = .ok (some m))
    (h : Plain text root) : Lookup.mayHold m.namespace_.toList text = true := by
  obtain ⟨root', hroot', hofRoot⟩ := XmlMapper.parse_eq_some_iff.1 hm
  rw [hroot] at hroot'
  cases hroot'
  obtain ⟨_, _, hspace, -, rfl⟩ := XmlMapper.ofRoot_eq_some_iff.1 hofRoot
  obtain ⟨-, value, hvalue, -, rfl⟩ := XmlMapper.namespaceOf?_eq_some_iff.1 hspace
  obtain ⟨raw, hraw, hname, hinfix, hplain⟩ := Xml.exists_written hroot hvalue
  have hwritten : value = raw.value.chars := hplain (h.space raw hraw hname)
  have htag : "<mapper".toList <:+: text :=
    h.name.isInfix.trans (dropBytes_suffix root.start text).isInfix
  have hspace : (String.ofList (trim value)).toList <:+: text := by
    rw [String.toList_ofList]
    exact (trim_isInfix value).trans (hwritten ▸ hinfix)
  unfold Lookup.mayHold
  rw [Bool.and_eq_true, contains_iff, contains_iff]
  exact ⟨htag, hspace⟩

/-! ## The answer of a search -/

namespace Lookup

/-- The mapper with a namespace that a file holds. -/
def mapperOf? (source : TextSource) (namespace_ : String) (path : Path) : Option XmlMapper :=
  match source path, Url.ofPath? path with
  | some text, some url =>
    match XmlMapper.parse url.toString text.toList with
    | .ok (some mapper) => if mapper.namespace_ = namespace_ then some mapper else none
    | _ => none
  | _, _ => none

/-- Whether the text of a file is looked at more closely. -/
def passes (source : TextSource) (namespace_ : String) (path : Path) : Bool :=
  (source path).any fun text => mayHold namespace_.toList text.toList

/-- Whether what a file holds is a text whose reading breaks off. -/
def breaks (content : Option String) : Bool :=
  content.any fun text => XmlMapper.breaksOff text.toList

/-- What a file ends a search with, the mapper that is looked for or a failure. Behind other files the
search goes on. -/
def endOf? (source : TextSource) (namespace_ : String) (path : Path) :
    Option (Except Failure XmlMapper) :=
  if passes source namespace_ path then
    if (Url.ofPath? path).isSome && breaks (source path) then some (.error brokenOff)
    else (mapperOf? source namespace_ path).map .ok
  else none

/-- What the first file that ends a search ends it with. There is no mapper if none does. -/
def answer (source : TextSource) (namespace_ : String) (paths : List Path) :
    Except Failure (Option XmlMapper) :=
  ((paths.findSome? (endOf? source namespace_)).map fun result => result.map some).getD (.ok none)

variable {source : TextSource} {namespace_ : String}

/-- What the mapper of a file is read from. -/
theorem exists_of_mapperOf? {path : Path} {m : XmlMapper}
    (h : mapperOf? source namespace_ path = some m) : ∃ text url, source path = some text ∧
      Url.ofPath? path = some url ∧ XmlMapper.parse url.toString text.toList = .ok (some m) ∧
      m.namespace_ = namespace_ := by
  unfold mapperOf? at h
  split at h
  next text url hsource hurl =>
    split at h
    next m' hparse =>
      split at h
      next hname =>
        cases h
        exact ⟨text, url, hsource, hurl, hparse, hname⟩
      next => cases h
    next => cases h
  next => cases h

/-- A text that is read to the end, under any URL, does not break off. -/
theorem breaks_of_parse {uri text : String} {result : Except XmlMapper.Fault (Option XmlMapper)}
    (hparse : XmlMapper.parse uri text.toList = result)
    (h : ∀ start stop, result ≠ .error (.inverted start stop)) : breaks (some text) = false := by
  unfold breaks
  rw [Option.any_some, Bool.eq_false_iff, Ne, ← @XmlMapper.exists_inverted_iff uri, hparse]
  rintro ⟨start, stop, hinverted⟩
  exact h start stop hinverted

/-- A file without an internal subset does not break off. -/
theorem breaks_of_no_subset {content : Option String}
    (h : ∀ text ∈ content, Xml.hasSubset text.toList = false) : breaks content = false := by
  cases content with
  | none => rfl
  | some text => exact XmlMapper.breaksOff_of_no_subset (h text rfl)

/-- A file that holds a mapper does not break off. -/
theorem breaks_of_mapperOf? {path : Path} {m : XmlMapper}
    (h : mapperOf? source namespace_ path = some m) : breaks (source path) = false := by
  obtain ⟨text, url, hsource, -, hparse, -⟩ := exists_of_mapperOf? h
  rw [hsource]
  exact breaks_of_parse hparse (by simp)

/-- A file ends a search with its mapper if it is looked at. -/
theorem endOf?_eq_ok_iff {path : Path} {m : XmlMapper} :
    endOf? source namespace_ path = some (.ok m) ↔
      passes source namespace_ path = true ∧ mapperOf? source namespace_ path = some m := by
  unfold endOf?
  rw [Option.ite_none_right_eq_some]
  refine and_congr_right fun _ => ?_
  split
  next hbreaks =>
    have hread : ¬ mapperOf? source namespace_ path = some m := fun hm => by
      rw [breaks_of_mapperOf? hm, Bool.and_false] at hbreaks
      cases hbreaks
    simp [hread]
  next => simp

/-- It ends it with a failure if it is looked at, has a URL and breaks off. -/
theorem endOf?_eq_error_iff {path : Path} {failure : Failure} :
    endOf? source namespace_ path = some (.error failure) ↔
      passes source namespace_ path = true ∧ (Url.ofPath? path).isSome = true ∧
        breaks (source path) = true ∧ failure = brokenOff := by
  unfold endOf?
  rw [Option.ite_none_right_eq_some]
  refine and_congr_right fun _ => ?_
  split
  next hbreaks =>
    rw [Bool.and_eq_true] at hbreaks
    simp [hbreaks, eq_comm]
  next hread =>
    rw [Bool.and_eq_true] at hread
    simp only [Option.map_eq_some_iff, reduceCtorEq, and_false, exists_false, false_iff]
    exact fun h => hread ⟨h.1, h.2.1⟩

/-- A file is found, breaks the search off or is passed over just as it ends the search or does not. -/
theorem examine_eq (path : Path) :
    (∃ m, endOf? source namespace_ path = some (.ok m) ∧ examine source namespace_ path = .found m) ∨
    (endOf? source namespace_ path = some (.error brokenOff) ∧
      examine source namespace_ path = .broken) ∨
    (endOf? source namespace_ path = none ∧ ∃ events, examine source namespace_ path = .other events) := by
  unfold endOf? examine passes breaks mapperOf?
  cases source path with
  | none => exact .inr (.inr ⟨rfl, _, rfl⟩)
  | some text =>
    simp only [Option.any_some]
    by_cases hpasses : mayHold namespace_.toList text.toList = true
    · simp only [hpasses, if_true]
      cases Url.ofPath? path with
      | none => exact .inr (.inr ⟨rfl, _, rfl⟩)
      | some url =>
        have hbreaks := @XmlMapper.exists_inverted_iff url.toString text.toList
        simp only [Option.isSome_some, Bool.true_and]
        cases hparse : XmlMapper.parse url.toString text.toList with
        | error fault =>
          rw [hparse] at hbreaks
          cases fault with
          | malformed message =>
            have hread : XmlMapper.breaksOff text.toList = false := by simpa using hbreaks
            exact .inr (.inr ⟨by simp [hread], _, rfl⟩)
          | inverted start stop =>
            have hread : XmlMapper.breaksOff text.toList = true := by simpa using hbreaks
            exact .inr (.inl ⟨by simp [hread], rfl⟩)
        | ok result =>
          rw [hparse] at hbreaks
          have hread : XmlMapper.breaksOff text.toList = false := by simpa using hbreaks
          cases result with
          | none => exact .inr (.inr ⟨by simp [hread], _, rfl⟩)
          | some m =>
            by_cases hname : m.namespace_ = namespace_
            · exact .inl ⟨m, by simp [hread, hname], by simp [hname]⟩
            · exact .inr (.inr ⟨by simp [hread, hname], [], by simp [hname]⟩)
    · simp only [hpasses]
      exact .inr (.inr ⟨rfl, [], rfl⟩)

/-- A search has its answer, whatever has been told before. -/
theorem search_eq (paths : List Path) (events : List Event) :
    ((search source namespace_ paths).run.run events).1 = answer source namespace_ paths := by
  induction paths generalizing events with
  | nil => rfl
  | cons path rest ih =>
    unfold answer at ih ⊢
    rw [search, List.findSome?_cons]
    -- only behind a file that is passed over the search goes on
    rcases @examine_eq source namespace_ path with
      ⟨m, hend, hexamine⟩ | ⟨hend, hexamine⟩ | ⟨hend, more, hexamine⟩
    · rw [hexamine, hend]
      rfl
    · rw [hexamine, hend]
      rfl
    · rw [hexamine, hend]
      exact ih _

/-- The answer of a search tells how it ends. -/
theorem answer_eq_iff (paths : List Path) (ending : Option (Except Failure XmlMapper)) :
    answer source namespace_ paths = (ending.map fun result => result.map some).getD (.ok none) ↔
      paths.findSome? (endOf? source namespace_) = ending := by
  unfold answer
  rcases paths.findSome? (endOf? source namespace_) with _ | _ | _ <;>
    rcases ending with _ | _ | _ <;> simp [Except.map]

/-- A search finds what the first file that ends it ends it with. -/
theorem answer_eq_ok_some_iff {paths : List Path} {m : XmlMapper} :
    answer source namespace_ paths = .ok (some m) ↔
      paths.findSome? (endOf? source namespace_) = some (.ok m) :=
  answer_eq_iff paths (some (.ok m))

/-- It finds nothing if no file ends it. -/
theorem answer_eq_ok_none_iff {paths : List Path} :
    answer source namespace_ paths = .ok none ↔
      paths.findSome? (endOf? source namespace_) = none :=
  answer_eq_iff paths none

/-- It fails if the first file that ends it does so with a failure. -/
theorem answer_eq_error_iff {paths : List Path} {failure : Failure} :
    answer source namespace_ paths = .error failure ↔
      paths.findSome? (endOf? source namespace_) = some (.error failure) :=
  answer_eq_iff paths (some (.error failure))

/-- A search finds the first mapper among the files that are looked at, if none of them breaks off. -/
theorem answer_of_not_breaks {paths : List Path} (h : ∀ p ∈ paths, breaks (source p) = false) :
    answer source namespace_ paths
      = .ok ((paths.filter (passes source namespace_)).findSome? (mapperOf? source namespace_)) := by
  induction paths with
  | nil => rfl
  | cons path rest ih =>
    have hread := h path List.mem_cons_self
    have hrest := ih fun p hp => h p (List.mem_cons_of_mem _ hp)
    unfold answer endOf? at hrest ⊢
    rw [List.findSome?_cons, List.filter_cons, hread, Bool.and_false]
    by_cases hpasses : passes source namespace_ path = true
    · rw [if_pos hpasses, if_pos hpasses, List.findSome?_cons]
      cases mapperOf? source namespace_ path with
      | none => exact hrest
      | some m => rfl
    · rw [if_neg hpasses, if_neg hpasses]
      exact hrest

/-! ## Searching without looking at the text first -/

/-- The mapper of the first file that holds one with a namespace. -/
def plainSearch (source : TextSource) (namespace_ : String) (paths : List Path) : Option XmlMapper :=
  paths.findSome? (mapperOf? source namespace_)

/-- The URL of a file, as mappers have it. -/
def urlOf? (path : Path) : Option String := (Url.ofPath? path).map Url.toString

/-- The first file that holds the mapper with a namespace. -/
def firstHolder? (source : TextSource) (namespace_ : String) (paths : List Path) : Option Path :=
  paths.find? fun path => (mapperOf? source namespace_ path).isSome

section

variable {front rest : List Path} {path : Path} {m : XmlMapper}

/-- Nothing in front of the first file with the mapper changes the answer of a plain search. -/
theorem plainSearch_first (hfront : ∀ p ∈ front, mapperOf? source namespace_ p = none)
    (hm : mapperOf? source namespace_ path = some m) :
    plainSearch source namespace_ (front ++ path :: rest) = some m := by
  unfold plainSearch
  rw [List.findSome?_append, List.findSome?_eq_none_iff.2 hfront, Option.none_or,
    List.findSome?_cons, hm]

/-- A search stops at the first file with the mapper if this is looked at, and else goes on behind
it. -/
theorem answer_first (hreads : ∀ p ∈ front ++ path :: rest, breaks (source p) = false)
    (hfront : ∀ p ∈ front, mapperOf? source namespace_ p = none)
    (hm : mapperOf? source namespace_ path = some m) :
    answer source namespace_ (front ++ path :: rest)
      = if passes source namespace_ path then .ok (some m) else answer source namespace_ rest := by
  have hnone : (front.filter (passes source namespace_)).findSome? (mapperOf? source namespace_)
      = none :=
    List.findSome?_eq_none_iff.2 fun p hp => hfront p (List.mem_filter.1 hp).1
  have hrest : ∀ p ∈ rest, breaks (source p) = false := fun p hp => hreads p (by simp [hp])
  rw [answer_of_not_breaks hreads, answer_of_not_breaks hrest, List.filter_append,
    List.findSome?_append, hnone, Option.none_or, List.filter_cons]
  split
  · rw [List.findSome?_cons, hm]
  · rfl

/-- The URL of a mapper is that of its file. -/
theorem url_of_mapperOf? (hm : mapperOf? source namespace_ path = some m) :
    urlOf? path = some m.uri := by
  obtain ⟨text, url, -, hurl, hparse, -⟩ := exists_of_mapperOf? hm
  obtain ⟨root, -, hroot⟩ := XmlMapper.parse_eq_some_iff.1 hparse
  obtain ⟨space, offset, -, -, rfl⟩ := XmlMapper.ofRoot_eq_some_iff.1 hroot
  unfold urlOf?
  rw [hurl]
  rfl

/-- A mapper that is found has the URL of one of the files. -/
theorem url_of_answer {paths : List Path} (hreads : ∀ p ∈ paths, breaks (source p) = false)
    (h : answer source namespace_ paths = .ok (some m)) : m.uri ∈ paths.filterMap urlOf? := by
  rw [answer_of_not_breaks hreads] at h
  obtain ⟨p, hp, hm⟩ := List.exists_of_findSome?_eq_some (Except.ok.inj h)
  exact List.mem_filterMap.2 ⟨p, (List.mem_filter.1 hp).1, url_of_mapperOf? hm⟩

/-- The first file that holds the mapper has others in front of it that do not. -/
theorem exists_of_firstHolder? {paths : List Path}
    (h : firstHolder? source namespace_ paths = some path) : ∃ front rest m,
      paths = front ++ path :: rest ∧ (∀ p ∈ front, mapperOf? source namespace_ p = none) ∧
      mapperOf? source namespace_ path = some m := by
  obtain ⟨hsome, front, rest, rfl, hfront⟩ := List.find?_eq_some_iff_append.1 h
  obtain ⟨m, hm⟩ := Option.isSome_iff_exists.1 hsome
  exact ⟨front, rest, m, rfl, by simpa using hfront, hm⟩

end

/-- Skipping files unread does no harm if the first file that holds the mapper is not skipped. -/
theorem answer_eq_plainSearch {paths : List Path} (hreads : ∀ p ∈ paths, breaks (source p) = false)
    (h : ∀ path, firstHolder? source namespace_ paths = some path →
      passes source namespace_ path = true) :
    answer source namespace_ paths = .ok (plainSearch source namespace_ paths) := by
  cases hholder : firstHolder? source namespace_ paths with
  | none =>
    have hnone : ∀ p ∈ paths, mapperOf? source namespace_ p = none := by
      simpa [firstHolder?] using hholder
    rw [answer_of_not_breaks hreads]
    unfold plainSearch
    rw [List.findSome?_eq_none_iff.2 hnone]
    exact congrArg _
      (List.findSome?_eq_none_iff.2 fun p hp => hnone p (List.mem_filter.1 hp).1)
  | some path =>
    obtain ⟨front, rest, m, rfl, hfront, hm⟩ := exists_of_firstHolder? hholder
    rw [answer_first hreads hfront hm, plainSearch_first hfront hm, if_pos (h path hholder)]

/-- If it does no harm and no two files have the same URL, the first file that holds the mapper is not
skipped. -/
theorem passes_of_answer_eq {paths : List Path} (hreads : ∀ p ∈ paths, breaks (source p) = false)
    (hurls : (paths.filterMap urlOf?).Nodup)
    (heq : answer source namespace_ paths = .ok (plainSearch source namespace_ paths))
    {path : Path} (hpath : firstHolder? source namespace_ paths = some path) :
    passes source namespace_ path = true := by
  obtain ⟨front, rest, m, rfl, hfront, hm⟩ := exists_of_firstHolder? hpath
  rw [answer_first hreads hfront hm, plainSearch_first hfront hm] at heq
  by_contra hpasses
  rw [if_neg hpasses] at heq
  -- the mapper would come from another file with the same URL
  have hmem := url_of_answer (fun p hp => hreads p (by simp [hp])) heq
  rw [List.filterMap_append, List.filterMap_cons_some (url_of_mapperOf? hm)] at hurls
  exact (List.nodup_cons.1 (List.nodup_append.1 hurls).2.1).1 hmem

/-- Among files that do not break off, skipping some unread never changes the answer of a search exactly
if no file that holds the mapper is skipped. If these files have different URLs, it leaves the answer as
it is exactly if the first file that holds the mapper is not skipped. A file in which the mapper is spelled
plainly is never skipped, and a file without an internal subset never breaks off. -/
theorem search_eq_plainSearch_iff (source : TextSource) (namespace_ : String) :
    ((∀ paths events, (∀ p ∈ paths, breaks (source p) = false) →
        ((search source namespace_ paths).run.run events).1
          = .ok (plainSearch source namespace_ paths)) ↔
      ∀ path, (mapperOf? source namespace_ path).isSome = true →
        passes source namespace_ path = true) ∧
    (∀ paths events, (∀ p ∈ paths, breaks (source p) = false) → (paths.filterMap urlOf?).Nodup →
      (((search source namespace_ paths).run.run events).1
          = .ok (plainSearch source namespace_ paths) ↔
        ∀ path, firstHolder? source namespace_ paths = some path →
          passes source namespace_ path = true)) ∧
    (∀ uri text root m, Xml.parse text = .ok root → XmlMapper.parse uri text = .ok (some m) →
      m.namespace_ = namespace_ → Plain text root → mayHold namespace_.toList text = true) ∧
    ∀ path, (∀ text ∈ source path, Xml.hasSubset text.toList = false) →
      breaks (source path) = false := by
  simp only [search_eq]
  refine ⟨⟨fun heq path hsome => ?_, fun h paths _ hreads => ?_⟩,
    fun paths _ hreads hurls => ⟨?_, ?_⟩, ?_, ?_⟩
  · -- a list of this one file tells
    have hholder : firstHolder? source namespace_ [path] = some path := by
      simp [firstHolder?, hsome]
    have hurls : ([path].filterMap urlOf?).Nodup := by
      cases hurl : urlOf? path <;> simp [hurl]
    obtain ⟨m, hm⟩ := Option.isSome_iff_exists.1 hsome
    have hreads : ∀ p ∈ [path], breaks (source p) = false := by simp [breaks_of_mapperOf? hm]
    exact passes_of_answer_eq hreads hurls (heq [path] [] hreads) hholder
  · refine answer_eq_plainSearch hreads fun path hpath => h path ?_
    obtain ⟨front, rest, m, -, -, hm⟩ := exists_of_firstHolder? hpath
    rw [hm, Option.isSome_some]
  · intro heq path hpath
    exact passes_of_answer_eq hreads hurls heq hpath
  · intro h
    exact answer_eq_plainSearch hreads h
  · rintro uri text root m hroot hparse rfl hplain
    exact mayHold_of_plain hroot hparse hplain
  · exact fun path => breaks_of_no_subset

/-- A namespace that is written with a reference stands nowhere in the text, so its file is skipped. -/
theorem search_skips_reference :
    let source : TextSource := fun _ => some "<mapper namespace=\"a&#46;B\"/>"
    let path : Path := ⟨[47, 109]⟩
    mapperOf? source "a.B" path = some ⟨"file:///m", "a.B", [], ⟨0, 29⟩⟩ ∧
      breaks (source path) = false ∧
      firstHolder? source "a.B" [path] = some path ∧ passes source "a.B" path = false ∧
      ((search source "a.B" [path]).run.run []).1 ≠ .ok (plainSearch source "a.B" [path]) := by
  intro source path
  have hreads : breaks (source path) = false := by decide +kernel
  have hholder : firstHolder? source "a.B" [path] = some path := by decide +kernel
  have hpasses : passes source "a.B" path = false := by decide +kernel
  refine ⟨by decide +kernel, hreads, hholder, hpasses, fun heq => ?_⟩
  have hlooked := ((search_eq_plainSearch_iff source "a.B").2.1 [path] [] (by simp [hreads])
    (by decide +kernel)).1 heq path hholder
  rw [hpasses] at hlooked
  cases hlooked

end Lookup

end StatementLens
