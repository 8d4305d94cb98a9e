import Mathlib.Data.List.Chain
import StatementLens.Correlate

/-!
# One lookup for all methods

The XML mapper of a Java mapper is looked up once, in front of the loop over the methods. The lenses are
those of a lookup at each method, and so are the failures (`lenses_eq_lookup_per_method`). The calls of
services are kept in their order, so that it can be said which of them are made.
-/

namespace StatementLens.Correlate

/-! ## Services that are watched -/

/-- What services do when they are called: each gives a value or fails. -/
structure Behaviour (ε : Type) where
  declaresMapper : Document → Except ε Bool
  isPlaced : Document → String → Except ε Bool
  readMapper : Document → Except ε (Option JavaMapper)
  findXml : JavaMapper → Except ε (Option XmlMapper)

/-- A call of a service, with what the service is asked about. -/
inductive ServiceCall where
  | declaresMapper (d : Document)
  | isPlaced (d : Document) (folder : String)
  | readMapper (d : Document)
  | findXml (mapper : JavaMapper)

/-- A computation that may fail and keeps the calls it makes, also if it fails. -/
abbrev Watched (ε : Type) := ExceptT ε (StateM (List ServiceCall))

/-- Makes a call that is answered so. -/
def call {ε α : Type} (c : ServiceCall) (answer : Except ε α) : Watched ε α :=
  ExceptT.mk fun calls => (answer, calls ++ [c])

variable {ε : Type}

/-- The result of a computation and its calls, behind calls that have been made before. -/
def outcome {α : Type} (x : Watched ε α) (calls : List ServiceCall) :
    Except ε α × List ServiceCall := (ExceptT.run x).run calls

theorem outcome_pure {α : Type} (a : α) (calls : List ServiceCall) :
    outcome (pure a : Watched ε α) calls = (.ok a, calls) := rfl

/-- A computation goes on from the value before it. -/
theorem outcome_bind_ok {α β : Type} {x : Watched ε α} {a : α} {calls calls' : List ServiceCall}
    (h : outcome x calls = (.ok a, calls')) (f : α → Watched ε β) :
    outcome (x >>= f) calls = outcome (f a) calls' := by
  show ExceptT.bindCont f (outcome x calls).1 (outcome x calls).2 = _
  rw [h]
  rfl

/-- Behind a failure nothing is called. -/
theorem outcome_bind_error {α β : Type} {x : Watched ε α} {e : ε} {calls calls' : List ServiceCall}
    (h : outcome x calls = (.error e, calls')) (f : α → Watched ε β) :
    outcome (x >>= f) calls = (.error e, calls') := by
  show ExceptT.bindCont f (outcome x calls).1 (outcome x calls).2 = _
  rw [h]
  rfl

namespace Behaviour

/-- The services that behave so and keep the calls. -/
def services (b : Behaviour ε) : Services (Watched ε) where
  declaresMapper d := call (.declaresMapper d) (b.declaresMapper d)
  isPlaced d folder := call (.isPlaced d folder) (b.isPlaced d folder)
  readMapper d := call (.readMapper d) (b.readMapper d)
  findXml mapper := call (.findXml mapper) (b.findXml mapper)
  tell _ := pure ()

section

variable {b : Behaviour ε} {d : Document} {mapper : JavaMapper} {folder : String}

/-- Asking whether a document declares a mapper is one call. -/
theorem outcome_declaresMapper {answer : Except ε Bool} (h : b.declaresMapper d = answer)
    (calls : List ServiceCall) :
    outcome (b.services.declaresMapper d) calls = (answer, calls ++ [.declaresMapper d]) := h ▸ rfl

/-- So is asking whether it is in its place. -/
theorem outcome_isPlaced {answer : Except ε Bool} (h : b.isPlaced d folder = answer)
    (calls : List ServiceCall) :
    outcome (b.services.isPlaced d folder) calls = (answer, calls ++ [.isPlaced d folder]) := h ▸ rfl

/-- So is reading the mapper. -/
theorem outcome_readMapper {answer : Except ε (Option JavaMapper)} (h : b.readMapper d = answer)
    (calls : List ServiceCall) :
    outcome (b.services.readMapper d) calls = (answer, calls ++ [.readMapper d]) := h ▸ rfl

/-- So is looking up its XML mapper. -/
theorem outcome_findXml {answer : Except ε (Option XmlMapper)} (h : b.findXml mapper = answer)
    (calls : List ServiceCall) :
    outcome (b.services.findXml mapper) calls = (answer, calls ++ [.findXml mapper]) := h ▸ rfl

end

/-- The lenses of methods, with a lookup for each of them. -/
def lensesEach (b : Behaviour ε) (d : Document) (mapper : JavaMapper) :
    List JavaMethod → Except ε (List Lens)
  | [] => return []
  | method :: rest => do
    match ← b.findXml mapper with
    | none => b.lensesEach d mapper rest
    | some xml =>
      match d.source.wordAt method.position with
      | none => b.lensesEach d mapper rest
      | some range => return ⟨range, xml.actionFor method⟩ :: (← b.lensesEach d mapper rest)

/-- The lenses of a document, with a lookup for each method. -/
def lensesWithEachLookup (b : Behaviour ε) (workspace : Workspace) (d : Document) :
    Except ε (List Lens) := do
  if !(← b.declaresMapper d) then return []
  if !(← b.isPlaced d (folderName workspace d)) then return []
  match ← b.readMapper d with
  | none => return []
  | some mapper => b.lensesEach d mapper mapper.methods

/-! ## The loop over the methods -/

/-- With the XML mapper at hand, the loop makes no calls. -/
theorem outcome_lensesOf (b : Behaviour ε) (d : Document) (xml : XmlMapper)
    (methods : List JavaMethod) (calls : List ServiceCall) :
    outcome (lensesOf b.services d xml methods) calls
      = (.ok (methods.filterMap (lens? d xml)), calls) := by
  induction methods with
  | nil => rfl
  | cons method rest ih =>
    unfold lensesOf
    cases hlens : lens? d xml method with
    | none =>
      rw [List.filterMap_cons_none hlens]
      exact ih
    | some lens =>
      rw [List.filterMap_cons_some hlens]
      exact outcome_bind_ok ih _

/-- If each lookup finds the same XML mapper, the lenses are those of one lookup. -/
theorem lensesEach_some {b : Behaviour ε} {mapper : JavaMapper} {xml : XmlMapper}
    (h : b.findXml mapper = .ok (some xml)) (d : Document) (methods : List JavaMethod) :
    b.lensesEach d mapper methods = .ok (methods.filterMap (lens? d xml)) := by
  induction methods with
  | nil => rfl
  | cons method rest ih =>
    unfold lensesEach
    rw [h, ih]
    cases hword : d.source.wordAt method.position with
    | none =>
      have hlens : lens? d xml method = none := by
        unfold lens?
        rw [hword]
        rfl
      rw [List.filterMap_cons_none hlens]
      rfl
    | some range =>
      have hlens : lens? d xml method = some ⟨range, xml.actionFor method⟩ := by
        unfold lens?
        rw [hword]
        rfl
      rw [List.filterMap_cons_some hlens]
      rfl

/-- If none finds one, there are no lenses. -/
theorem lensesEach_none {b : Behaviour ε} {mapper : JavaMapper} (h : b.findXml mapper = .ok none)
    (d : Document) (methods : List JavaMethod) : b.lensesEach d mapper methods = .ok [] := by
  induction methods with
  | nil => rfl
  | cons method rest ih =>
    unfold lensesEach
    rw [h]
    exact ih

/-- If they fail, the first failure stands for all, provided there is a method. -/
theorem lensesEach_error {b : Behaviour ε} {mapper : JavaMapper} {e : ε}
    (h : b.findXml mapper = .error e) (d : Document) {methods : List JavaMethod}
    (hne : methods ≠ []) : b.lensesEach d mapper methods = .error e := by
  obtain ⟨method, rest, rfl⟩ := List.exists_cons_of_ne_nil hne
  unfold lensesEach
  rw [h]
  rfl

/-! ## The calls -/

/-- Whether a call is answered in such a way that there is more to do. -/
def Passes (b : Behaviour ε) : ServiceCall → Prop
  | .declaresMapper d => b.declaresMapper d = .ok true
  | .isPlaced d folder => b.isPlaced d folder = .ok true
  | .readMapper d => ∃ mapper, b.readMapper d = .ok (some mapper) ∧ mapper.methods ≠ []
  | .findXml _ => False

/-- What can be said of the calls that are made for a document. -/
structure Orderly (b : Behaviour ε) (workspace : Workspace) (d : Document)
    (calls : List ServiceCall) : Prop where
  /-- They come in one order. -/
  inOrder : ∃ mapper, calls <+: [.declaresMapper d, .isPlaced d (folderName workspace d), .readMapper d,
    .findXml mapper]
  /-- None is made twice. -/
  nodup : calls.Nodup
  /-- The lookup is made for the mapper that has been read, which has methods. -/
  looksUp : ∀ mapper, .findXml mapper ∈ calls →
    b.readMapper d = .ok (some mapper) ∧ mapper.methods ≠ []
  /-- Another call follows only where there is more to do. -/
  passes : calls.IsChain fun c _ => b.Passes c

section

variable {b : Behaviour ε} {workspace : Workspace} {d : Document}

/-- One call is in order. -/
theorem orderly_one : b.Orderly workspace d [.declaresMapper d] where
  inOrder := ⟨default, _, rfl⟩
  nodup := by simp
  looksUp := by simp
  passes := .singleton _

/-- A second one is, if the first answers yes. -/
theorem orderly_two (hdeclares : b.declaresMapper d = .ok true) :
    b.Orderly workspace d [.declaresMapper d, .isPlaced d (folderName workspace d)] where
  inOrder := ⟨default, _, rfl⟩
  nodup := by simp
  looksUp := by simp
  passes := .cons_cons hdeclares (.singleton _)

/-- A third one is, if the second answers yes. -/
theorem orderly_three (hdeclares : b.declaresMapper d = .ok true)
    (hplaced : b.isPlaced d (folderName workspace d) = .ok true) :
    b.Orderly workspace d
      [.declaresMapper d, .isPlaced d (folderName workspace d), .readMapper d] where
  inOrder := ⟨default, _, rfl⟩
  nodup := by simp
  looksUp := by simp
  passes := .cons_cons hdeclares (.cons_cons hplaced (.singleton _))

/-- A lookup is, if a mapper with methods has been read. -/
theorem orderly_four (hdeclares : b.declaresMapper d = .ok true)
    (hplaced : b.isPlaced d (folderName workspace d) = .ok true) {mapper : JavaMapper}
    (hread : b.readMapper d = .ok (some mapper)) (hne : mapper.methods ≠ []) :
    b.Orderly workspace d
      [.declaresMapper d, .isPlaced d (folderName workspace d), .readMapper d, .findXml mapper] where
  inOrder := ⟨mapper, List.prefix_rfl⟩
  nodup := by simp
  looksUp := by
    intro mapper' hmem
    obtain rfl : mapper' = mapper := by simpa using hmem
    exact ⟨hread, hne⟩
  passes := .cons_cons hdeclares (.cons_cons hplaced (.cons_cons ⟨mapper, hread, hne⟩ (.singleton _)))

end

/-! ## The lenses of a document -/

/-- All lenses lead to one XML mapper. -/
theorem uri_of_mem_filterMap_lens? {d : Document} {xml : XmlMapper} {methods : List JavaMethod}
    {lens : Lens} (h : lens ∈ methods.filterMap (lens? d xml)) : lens.action.uri = xml.uri := by
  obtain ⟨method, -, hlens⟩ := List.mem_filterMap.1 h
  unfold lens? at hlens
  obtain ⟨range, -, rfl⟩ := Option.map_eq_some_iff.1 hlens
  show (xml.actionFor method).uri = xml.uri
  unfold XmlMapper.actionFor
  cases xml.find? method.name <;> rfl

/-- A result whose lenses lead to one XML mapper. -/
def LeadsToOne (result : Except ε (List Lens)) : Prop :=
  ∀ lenses, result = .ok lenses → ∃ uri, ∀ lens ∈ lenses, lens.action.uri = uri

theorem leadsToOne_error (e : ε) : LeadsToOne (.error e) := nofun

theorem leadsToOne_nil : LeadsToOne (.ok [] : Except ε (List Lens)) := by
  intro lenses h
  cases h
  exact ⟨"", by simp⟩

/-- The lenses of one XML mapper lead to it. -/
theorem leadsToOne_lens? (d : Document) (xml : XmlMapper) (methods : List JavaMethod) :
    LeadsToOne (.ok (methods.filterMap (lens? d xml)) : Except ε (List Lens)) := by
  intro lenses h
  cases h
  exact ⟨xml.uri, fun _ hmem => uri_of_mem_filterMap_lens? hmem⟩

/-- What a watched run gives, by the call that is its last. -/
theorem exists_outcome_lenses (b : Behaviour ε) (workspace : Workspace) (d : Document) :
    ∃ calls, outcome (b.services.lenses workspace d) [] = (b.lensesWithEachLookup workspace d, calls) ∧
      b.Orderly workspace d calls ∧ LeadsToOne (b.lensesWithEachLookup workspace d) := by
  unfold Services.lenses lensesWithEachLookup
  cases hdeclares : b.declaresMapper d with
  | error e =>
    exact ⟨_, outcome_bind_error (outcome_declaresMapper hdeclares _) _, orderly_one, leadsToOne_error e⟩
  | ok declares =>
  rw [outcome_bind_ok (outcome_declaresMapper hdeclares _)]
  cases declares with
  | false => exact ⟨_, rfl, orderly_one, leadsToOne_nil⟩
  | true =>
  cases hplaced : b.isPlaced d (folderName workspace d) with
  | error e =>
    exact ⟨_, outcome_bind_error (outcome_isPlaced hplaced _) _, orderly_two hdeclares,
      leadsToOne_error e⟩
  | ok placed =>
  simp only [Bool.not_true, Bool.false_eq_true, if_false]
  rw [outcome_bind_ok (outcome_isPlaced hplaced _)]
  cases placed with
  | false => exact ⟨_, rfl, orderly_two hdeclares, leadsToOne_nil⟩
  | true =>
  simp only [Bool.not_true, Bool.false_eq_true, if_false]
  cases hread : b.readMapper d with
  | error e =>
    exact ⟨_, outcome_bind_error (outcome_readMapper hread _) _, orderly_three hdeclares hplaced,
      leadsToOne_error e⟩
  | ok mapper? =>
  rw [outcome_bind_ok (outcome_readMapper hread _)]
  cases mapper? with
  | none => exact ⟨_, rfl, orderly_three hdeclares hplaced, leadsToOne_nil⟩
  | some mapper =>
  show ∃ calls, outcome (if mapper.methods.isEmpty then _ else _) _
      = (b.lensesEach d mapper mapper.methods, calls) ∧
    _ ∧ LeadsToOne (b.lensesEach d mapper mapper.methods)
  by_cases hmethods : mapper.methods = []
  · have hempty : b.lensesEach d mapper mapper.methods = .ok [] := by
      rw [hmethods]
      rfl
    rw [hempty, if_pos (List.isEmpty_iff.2 hmethods)]
    exact ⟨_, outcome_pure _ _, orderly_three hdeclares hplaced, leadsToOne_nil⟩
  have horderly := orderly_four hdeclares hplaced hread hmethods
  rw [if_neg fun h => hmethods (List.isEmpty_iff.1 h)]
  cases hfind : b.findXml mapper with
  | error e =>
    rw [lensesEach_error hfind d hmethods]
    exact ⟨_, outcome_bind_error (outcome_findXml hfind _) _, horderly, leadsToOne_error e⟩
  | ok xml? =>
  rw [outcome_bind_ok (outcome_findXml hfind _)]
  cases xml? with
  | none =>
    rw [lensesEach_none hfind]
    exact ⟨_, rfl, horderly, leadsToOne_nil⟩
  | some xml =>
    rw [lensesEach_some hfind]
    exact ⟨_, outcome_bind_ok (outcome_lensesOf b d xml mapper.methods _) _, horderly,
      leadsToOne_lens? d xml mapper.methods⟩

/-- The lenses of a document are those of a lookup for each method, with the same failures. No more calls
are made than one for each service, in one order, and the lookup only for a mapper with methods. No call
follows one that fails or after which there is nothing to do. All lenses lead to one XML mapper. -/
theorem lenses_eq_lookup_per_method (b : Behaviour ε) (workspace : Workspace) (d : Document) :
    (outcome (b.services.lenses workspace d) []).1 = b.lensesWithEachLookup workspace d ∧
    b.Orderly workspace d (outcome (b.services.lenses workspace d) []).2 ∧
    ∀ lenses, (outcome (b.services.lenses workspace d) []).1 = .ok lenses →
      ∃ uri, ∀ lens ∈ lenses, lens.action.uri = uri := by
  obtain ⟨calls, houtcome, horderly, huri⟩ := b.exists_outcome_lenses workspace d
  rw [houtcome]
  exact ⟨rfl, horderly, huri⟩

/-- A mapper with two methods is read from any document, and its XML mapper has no statements. -/
def twoMethods : Behaviour String where
  declaresMapper _ := .ok true
  isPlaced _ _ := .ok true
  readMapper d := .ok (some ⟨d.uri, none, "Names", [⟨"find", ⟨0, 0⟩⟩, ⟨"keep", ⟨0, 5⟩⟩]⟩)
  findXml _ := .ok (some ⟨"Names.xml", "Names", [], ⟨0, 0⟩⟩)

/-- Both methods get a lens, and both lenses make a statement in the one XML mapper. -/
theorem lenses_eq_lookup_per_method_twoMethods :
    (outcome (twoMethods.services.lenses ⟨[]⟩ (.ofText "Names.java" "find keep")) []).1 = .ok [
      ⟨⟨⟨0, 0⟩, ⟨0, 4⟩⟩, .generate "Names.xml" ⟨0, 0⟩
        "\n    <sql id=\"find\">\n          \n    </sql>\n\n"⟩,
      ⟨⟨⟨0, 5⟩, ⟨0, 9⟩⟩, .generate "Names.xml" ⟨0, 0⟩
        "\n    <sql id=\"keep\">\n          \n    </sql>\n\n"⟩] := by
  obtain ⟨hsame, -, -⟩ :=
    lenses_eq_lookup_per_method twoMethods ⟨[]⟩ (.ofText "Names.java" "find keep")
  rw [hsame]
  decide +kernel

end Behaviour

end StatementLens.Correlate
