import StatementLens.Json.Decode
import StatementLens.Proofs.Associations
import StatementLens.Proofs.Xml.Readers

/-!
# Records in any order

A record is read from an object in two steps: the fields are checked as they stand, and then the record is
built from the values under its keys. Records are built of single fields, so a value that fails its check
cannot be built from (`IsRegular`). Hence with different keys an object is read by what it has under the
keys of the record (`ofFields_eq_ok_iff`), wherever it stands and whatever else there is.
-/

namespace StatementLens.Json

variable {α β ε : Type}

/-- Results agree up to their errors if they are the same values. -/
theorem toOption_eq_of_ok_iff {ε' : Type} {x : Except ε α} {y : Except ε' α} (h : ∀ a, x = .ok a ↔ y = .ok a) :
    x.toOption = y.toOption := by
  cases x with
  | ok a =>
    rw [(h a).1 rfl]
    rfl
  | error e =>
    cases y with
    | ok a => exact absurd ((h a).2 rfl) (by simp)
    | error e' => rfl

theorem map_eq_ok_iff {x : Except ε α} {f : α → β} {b : β} :
    x.map f = .ok b ↔ ∃ a, x = .ok a ∧ f a = b := by
  cases x with
  | ok a => simp [Except.map]
  | error e => simp [Except.map]

theorem mapError_eq_ok_iff {ε' : Type} {x : Except ε α} {f : ε → ε'} {a : α} :
    x.mapError f = .ok a ↔ x = .ok a := by
  cases x with
  | error e => exact ⟨fun h => (by cases h), fun h => (by cases h)⟩
  | ok b => exact ⟨fun h => (by cases h; rfl), fun h => (by cases h; rfl)⟩

/-! ## Regular records -/

namespace Record

/-- The keys of a record in the order of their declaration. -/
def keys (r : Record α) : List String := r.checks.map Prod.fst

/-- Whether a record is built from the values under its keys only, and only if these pass their checks. -/
structure IsRegular (r : Record α) : Prop where
  build_congr : ∀ {get get' : String → Option Json}, (∀ key ∈ r.keys, get key = get' key) →
    r.build get = r.build get'
  check_of_build : ∀ {get : String → Option Json} {a : α}, r.build get = .ok a →
    ∀ {key check j}, (key, check) ∈ r.checks → get key = some j → check j = .ok ()

/-- A single field is regular, whatever stands for it if it is absent. -/
theorem isRegular_of_field {r : Record α} {name : String} (d : Decoder α) (absent : Except DecodeError α)
    (hchecks : r.checks = [(name, fun j => (d j).map fun _ => ())])
    (hbuild : ∀ get, r.build get = (get name).elim absent d) : r.IsRegular where
  build_congr {get get'} h := by
    have hname : get name = get' name := h name (by simp [keys, hchecks])
    rw [hbuild, hbuild, hname]
  check_of_build {get a} h key check j hmem hget := by
    rw [hchecks, List.mem_singleton] at hmem
    obtain ⟨rfl, rfl⟩ := Prod.mk.inj hmem
    rw [hbuild, hget, Option.elim_some] at h
    exact map_eq_ok_iff.2 ⟨a, h, rfl⟩

/-- A required field is read, or its absence is an error. -/
theorem build_required (name : String) (d : Decoder α) (get : String → Option Json) :
    (required name d).build get = (get name).elim (.error (.missingField name)) d := by
  cases hget : get name with
  | none => simp [required, hget]
  | some j => simp [required, hget]

/-- A field with a default is read, or the default stands for it. -/
theorem build_withDefault (name : String) (d : Decoder α) (default : α) (get : String → Option Json) :
    (withDefault name d default).build get = (get name).elim (.ok default) d := by
  cases hget : get name with
  | none => simp [withDefault, hget]
  | some j => simp [withDefault, hget]

/-- Required fields are regular. -/
theorem isRegular_required (name : String) (d : Decoder α) : (required name d).IsRegular :=
  isRegular_of_field d _ rfl (build_required name d)

/-- So are fields with a default. -/
theorem isRegular_withDefault (name : String) (d : Decoder α) (default : α) :
    (withDefault name d default).IsRegular :=
  isRegular_of_field d _ rfl (build_withDefault name d default)

/-- So are optional fields. -/
theorem isRegular_optional (name : String) (d : Decoder α) : (optional name d).IsRegular :=
  isRegular_withDefault name (decodeOption d) none

/-! ### What records are built from -/

variable {get : String → Option Json}

/-- A changed record is built from the record. -/
theorem build_map_eq_ok_iff {f : α → β} {r : Record α} {b : β} :
    (r.map f).build get = .ok b ↔ ∃ a, r.build get = .ok a ∧ f a = b :=
  map_eq_ok_iff

/-- Two records are built one after the other. -/
theorem build_andAlso_eq_ok_iff {r : Record (α → β)} {s : Record α} {b : β} :
    (r.andAlso s).build get = .ok b
      ↔ ∃ f, r.build get = .ok f ∧ ∃ a, s.build get = .ok a ∧ f a = b := by
  unfold andAlso
  simp only [Xml.bind_eq_ok, pure, Except.pure, Except.ok.injEq]

/-- A required field has to be there and to be read. -/
theorem build_required_eq_ok_iff {name : String} {d : Decoder α} {a : α} :
    (required name d).build get = .ok a ↔ ∃ j, get name = some j ∧ d j = .ok a := by
  rw [build_required]
  cases get name with
  | none => simp
  | some j => simp

/-- A field with a default need not be there. -/
theorem build_withDefault_eq_ok_iff {name : String} {d : Decoder α} {default a : α} :
    (withDefault name d default).build get = .ok a
      ↔ (get name = none ∧ default = a) ∨ ∃ j, get name = some j ∧ d j = .ok a := by
  rw [build_withDefault]
  cases get name with
  | none => simp
  | some j => simp

theorem IsRegular.map {r : Record α} (h : r.IsRegular) (f : α → β) : (r.map f).IsRegular where
  build_congr hget := congrArg (Except.map f) (h.build_congr hget)
  check_of_build hbuild := by
    obtain ⟨a, ha, -⟩ := build_map_eq_ok_iff.1 hbuild
    exact h.check_of_build ha

/-- Two regular records make a regular one. -/
theorem IsRegular.andAlso {r : Record (α → β)} {s : Record α} (hr : r.IsRegular) (hs : s.IsRegular) :
    (r.andAlso s).IsRegular where
  build_congr {get get'} hget := by
    have hkeys : (r.andAlso s).keys = r.keys ++ s.keys := List.map_append
    rw [hkeys, List.forall_mem_append] at hget
    unfold Record.andAlso
    simp only [hr.build_congr hget.1, hs.build_congr hget.2]
  check_of_build hbuild key check j hmem hget := by
    obtain ⟨f, hf, a, ha, -⟩ := build_andAlso_eq_ok_iff.1 hbuild
    rcases List.mem_append.1 hmem with hmem | hmem
    · exact hr.check_of_build hf hmem hget
    · exact hs.check_of_build ha hmem hget

/-! ## Objects -/

/-- All fields with a known key have to pass their checks. -/
theorem checkFields_eq_ok_iff {r : Record α} {row : List (String × Json)} :
    r.checkFields row = .ok () ↔
      ∀ field ∈ row, ∀ check, r.checks.lookup field.1 = some check → check field.2 = .ok () := by
  induction row with
  | nil => simp [checkFields]
  | cons field row ih =>
    obtain ⟨key, j⟩ := field
    rw [List.forall_mem_cons, ← ih, checkFields]
    cases hcheck : r.checks.lookup key with
    | none => simp
    | some check =>
      cases hj : check j with
      | error e => simp [hj, bind, Except.bind]
      | ok u => simp [hj, bind, Except.bind]

/-- The values of an object with different keys that are under the keys of a record decide whether it is
read, and as what. -/
theorem IsRegular.ofFields_eq_ok_iff {r : Record α} (h : r.IsRegular) {row : List (String × Json)}
    (hrow : (row.map Prod.fst).Nodup) {a : α} :
    r.ofFields row = .ok a ↔ r.build (fun key => row.lookup key) = .ok a := by
  unfold ofFields
  rw [Xml.bind_eq_ok]
  constructor
  · rintro ⟨-, -, hbuild⟩
    exact hbuild
  · intro hbuild
    refine ⟨(), checkFields_eq_ok_iff.2 fun field hfield check hcheck => ?_, hbuild⟩
    have hget : row.lookup field.1 = some field.2 := (lookup_eq_some_iff_mem hrow).2 hfield
    exact h.check_of_build hbuild (mem_of_lookup_eq_some hcheck) hget

/-- Whether a field is read as a value: one that is absent as the default, and one that is present as what
it holds. -/
def FieldReads (row : List (String × Json)) (key : String) (d : Decoder α) (default a : α) : Prop :=
  (row.lookup key = none ∧ default = a) ∨ ∃ j, row.lookup key = some j ∧ d j = .ok a

/-- Whether a record is built from the values of some fields as a given one. -/
def Builds (r : Record α) (row : List (String × Json)) (a : α) : Prop :=
  r.build (fun key => row.lookup key) = .ok a

section

variable {row : List (String × Json)}

/-- A required field is built from the row that has it. -/
theorem builds_required (hrow : (row.map Prod.fst).Nodup) {name : String} {d : Decoder α} {j : Json} {a : α}
    (hmem : (name, j) ∈ row) (hread : d j = .ok a) : (required name d).Builds row a :=
  build_required_eq_ok_iff.2 ⟨j, (lookup_eq_some_iff_mem hrow).2 hmem, hread⟩

/-- So is a field with a default. -/
theorem builds_withDefault (hrow : (row.map Prod.fst).Nodup) {name : String} {d : Decoder α} {default : α}
    {j : Json} {a : α} (hmem : (name, j) ∈ row) (hread : d j = .ok a) :
    (withDefault name d default).Builds row a :=
  build_withDefault_eq_ok_iff.2 (.inr ⟨j, (lookup_eq_some_iff_mem hrow).2 hmem, hread⟩)

theorem Builds.map {r : Record α} {a : α} (h : r.Builds row a) (f : α → β) : (r.map f).Builds row (f a) :=
  build_map_eq_ok_iff.2 ⟨a, h, rfl⟩

/-- Two records are built from the row that both are built from. -/
theorem Builds.andAlso {r : Record (α → β)} {s : Record α} {f : α → β} {a : α} (hr : r.Builds row f)
    (hs : s.Builds row a) : (r.andAlso s).Builds row (f a) :=
  build_andAlso_eq_ok_iff.2 ⟨f, hr, a, hs, rfl⟩

end

/-- Fields with unknown keys are not checked. -/
theorem checkFields_filter (r : Record α) (row : List (String × Json)) :
    r.checkFields (row.filter fun field => field.1 ∈ r.keys) = r.checkFields row := by
  induction row with
  | nil => rfl
  | cons field row ih =>
    obtain ⟨key, j⟩ := field
    rw [List.filter_cons]
    by_cases hkey : key ∈ r.keys
    · rw [if_pos (decide_eq_true hkey), checkFields, checkFields, ih]
    · have hnone : r.checks.lookup key = none := by
        rw [List.lookup_eq_none_iff]
        intro entry hentry
        exact bne_iff_ne.2 fun heq => hkey (heq ▸ List.mem_map_of_mem hentry)
      rw [if_neg (by simpa using hkey), ih, checkFields, hnone]

/-- Fields under other keys than those of a record are not looked at. -/
theorem IsRegular.ofFields_filter {r : Record α} (h : r.IsRegular) (row : List (String × Json)) :
    r.ofFields (row.filter fun field => field.1 ∈ r.keys) = r.ofFields row := by
  have hget : r.build (fun key => (row.filter fun field => field.1 ∈ r.keys).lookup key)
      = r.build fun key => row.lookup key :=
    h.build_congr fun key hkey => lookup_filter_key (p := fun key => decide (key ∈ r.keys)) (decide_eq_true hkey) row
  unfold ofFields
  rw [checkFields_filter, hget]

end Record

/-- Whether objects are read by what they have under some keys: other fields change nothing, and with
different keys neither does the order of the fields, but for which error is reported first. -/
structure ReadsByKey (read : Json → Except ε α) (keys : List String) : Prop where
  unknown : ∀ row, read (.obj row) = read (.obj (row.filter fun field => field.1 ∈ keys))
  order : ∀ {row row'}, (row.map Prod.fst).Nodup → row.Perm row' →
    (read (.obj row)).toOption = (read (.obj row')).toOption

/-- With more keys, fewer fields are known to change nothing. -/
theorem ReadsByKey.mono {read : Json → Except ε α} {keys keys' : List String} (h : ReadsByKey read keys)
    (hsubset : ∀ key ∈ keys, key ∈ keys') : ReadsByKey read keys' where
  unknown row := by
    rw [h.unknown row, h.unknown (row.filter fun field => field.1 ∈ keys'), List.filter_filter]
    refine congrArg (fun row => read (.obj row)) (List.filter_congr fun field _ => ?_)
    by_cases hkey : field.1 ∈ keys
    · simp [hkey, hsubset _ hkey]
    · simp [hkey]
  order := h.order

/-- Regular records are read by their keys. -/
theorem Record.IsRegular.readsByKey {r : Record α} (h : r.IsRegular) {read : Decoder α}
    (hread : ∀ row, read (.obj row) = r.ofFields row) : ReadsByKey read r.keys where
  unknown row := by rw [hread, hread, h.ofFields_filter]
  order {row row'} hrow hperm := by
    have hrow' : (row'.map Prod.fst).Nodup := (hperm.map Prod.fst).nodup_iff.1 hrow
    have hget : (fun key => row.lookup key) = fun key => row'.lookup key :=
      funext fun key => lookup_perm hrow hperm
    rw [hread, hread]
    refine toOption_eq_of_ok_iff fun a => ?_
    rw [h.ofFields_eq_ok_iff hrow, h.ofFields_eq_ok_iff hrow', hget]

/-- What errors are reported as makes no difference. -/
theorem ReadsByKey.mapError {ε' : Type} {read : Json → Except ε α} {read' : Json → Except ε' α}
    {keys : List String} (h : ReadsByKey read keys) (f : ε → ε')
    (hread : ∀ row, read' (.obj row) = (read (.obj row)).mapError f) : ReadsByKey read' keys where
  unknown row := by rw [hread, hread, ← h.unknown]
  order {row row'} hrow hperm := by
    have hoption : ∀ row, (read' (.obj row)).toOption = (read (.obj row)).toOption := fun row =>
      toOption_eq_of_ok_iff fun a => by rw [hread, mapError_eq_ok_iff]
    rw [hoption, hoption, h.order hrow hperm]

end StatementLens.Json
