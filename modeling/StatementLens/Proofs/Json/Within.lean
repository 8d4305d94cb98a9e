import Mathlib.Data.List.Sort
import Mathlib.Data.String.Basic
import StatementLens.Json.Value
import StatementLens.Proofs.Associations

/-!
# Values within values

An object is the same to its readers in whatever order its fields stand and with whatever fields besides.
`Within j k` says that `k` has all that `j` has in this sense, also inside of lists and objects. Objects
that are read from a text have their fields in the order of the keys (`ofFields_perm`), and the fields as
they were written are within them (`within_ofFields`).
-/

namespace StatementLens.Json

/-! ## Fields in the order of their keys -/

/-- Whether fields stand in the order of their keys, none of which comes twice. -/
def Ascending (row : List (String × Json)) : Prop := row.Pairwise fun f g => f.1 < g.1

theorem Ascending.nodup {row : List (String × Json)} (h : Ascending row) : (row.map Prod.fst).Nodup := by
  rw [List.Nodup, List.pairwise_map]
  exact h.imp fun hlt => ne_of_lt hlt

theorem insertField_perm {key : String} (value : Json) {row : List (String × Json)}
    (h : key ∉ row.map Prod.fst) : (insertField key value row).Perm ((key, value) :: row) := by
  induction row with
  | nil => exact .refl _
  | cons field row ih =>
    obtain ⟨k, v⟩ := field
    rw [List.map_cons, List.mem_cons, not_or] at h
    rw [insertField, if_neg h.1]
    by_cases hlt : key < k
    · rw [if_pos hlt]
    · rw [if_neg hlt]
      exact ((ih h.2).cons _).trans (.swap _ _ _)

theorem mem_insertField {key : String} {value : Json} {row : List (String × Json)} {field : String × Json}
    (h : field ∈ insertField key value row) : field = (key, value) ∨ field ∈ row := by
  induction row with
  | nil => exact .inl (List.mem_singleton.1 h)
  | cons first row ih =>
    obtain ⟨k, v⟩ := first
    rw [insertField] at h
    split at h
    · rcases List.mem_cons.1 h with h | h
      · exact .inl h
      · exact .inr (List.mem_cons_of_mem _ h)
    · split at h
      · exact List.mem_cons.1 h
      · rcases List.mem_cons.1 h with rfl | h
        · exact .inr List.mem_cons_self
        · exact (ih h).imp_right (List.mem_cons_of_mem _)

theorem Ascending.insertField {row : List (String × Json)} (h : Ascending row) (key : String)
    (value : Json) : Ascending (insertField key value row) := by
  induction row with
  | nil => exact List.pairwise_singleton _ _
  | cons field row ih =>
    obtain ⟨k, v⟩ := field
    obtain ⟨hfirst, hrow⟩ := List.pairwise_cons.1 h
    rw [Json.insertField]
    split
    case isTrue heq => exact List.pairwise_cons.2 ⟨heq ▸ hfirst, hrow⟩
    case isFalse hne =>
      split
      case isTrue hlt =>
        refine List.pairwise_cons.2 ⟨fun other hother => ?_, h⟩
        rcases List.mem_cons.1 hother with rfl | hother
        · exact hlt
        · exact hlt.trans (hfirst other hother)
      case isFalse hnot =>
        have hgt : k < key := lt_of_le_of_ne (not_lt.1 hnot) (Ne.symm hne)
        refine List.pairwise_cons.2 ⟨fun other hother => ?_, ih hrow⟩
        rcases mem_insertField hother with rfl | hother
        · exact hgt
        · exact hfirst other hother

/-- The fields of an object that is made of some fields. -/
def sortedFields (row : List (String × Json)) : List (String × Json) :=
  row.foldl (fun acc field => insertField field.1 field.2 acc) []

theorem ofFields_eq (row : List (String × Json)) : ofFields row = .obj (sortedFields row) := rfl

theorem ascending_sortedFields (row : List (String × Json)) : Ascending (sortedFields row) :=
  List.foldlRecOn row _ List.Pairwise.nil fun _ hacc field _ => hacc.insertField field.1 field.2

theorem sortedFields_perm {row : List (String × Json)} (h : (row.map Prod.fst).Nodup) :
    (sortedFields row).Perm row := by
  -- what has been put in place so far has none of the keys that are left
  have hfold : ∀ (rest acc : List (String × Json)), ((rest ++ acc).map Prod.fst).Nodup →
      (rest.foldl (fun acc field => insertField field.1 field.2 acc) acc).Perm (rest ++ acc) := by
    intro rest
    induction rest with
    | nil => exact fun acc _ => .refl _
    | cons field rest ih =>
      intro acc hnodup
      rw [List.cons_append, List.map_cons, List.nodup_cons, List.map_append, List.mem_append,
        not_or] at hnodup
      obtain ⟨hnew, hnodup⟩ := hnodup
      have hperm : (insertField field.1 field.2 acc).Perm (field :: acc) := insertField_perm _ hnew.2
      have hmove : (rest ++ insertField field.1 field.2 acc).Perm (field :: (rest ++ acc)) :=
        (hperm.append_left rest).trans List.perm_middle
      refine (ih _ ?_).trans hmove
      rw [(hmove.map Prod.fst).nodup_iff, List.map_cons, List.nodup_cons, List.map_append, List.mem_append,
        not_or]
      exact ⟨hnew, hnodup⟩
  have hsorted := hfold row []
  rw [List.append_nil] at hsorted
  exact hsorted h

/-- An object that is made of fields under different keys does not depend on their order. -/
theorem ofFields_perm {row row' : List (String × Json)} (h : (row.map Prod.fst).Nodup)
    (hperm : row.Perm row') : ofFields row = ofFields row' := by
  have h' : (row'.map Prod.fst).Nodup := (hperm.map Prod.fst).nodup_iff.1 h
  have hsorted : (sortedFields row).Perm (sortedFields row') :=
    ((sortedFields_perm h).trans hperm).trans (sortedFields_perm h').symm
  rw [ofFields_eq, ofFields_eq]
  refine congrArg Json.obj (hsorted.eq_of_pairwise ?_ (ascending_sortedFields row) (ascending_sortedFields row'))
  intro f g _ _ hlt hgt
  exact absurd hgt (lt_asymm hlt)

theorem get?_ofFields {row : List (String × Json)} (h : (row.map Prod.fst).Nodup) (key : String) :
    (ofFields row).get? key = row.lookup key :=
  (lookup_perm h (sortedFields_perm h).symm).symm

/-! ## Values with all that another has -/

mutual

/-- Whether a value has all that the first one has: the same items in lists, and in objects the same
fields in any order, possibly among others. -/
def Within : Json → Json → Prop
  | .arr items, k => ∃ items', k = .arr items' ∧ WithinItems items items'
  | .obj row, k => ∃ row', k = .obj row' ∧ (row'.map Prod.fst).Nodup ∧ WithinFields row row'
  | j, k => j = k

/-- The same for items, one by one. -/
def WithinItems : List Json → List Json → Prop
  | [], items' => items' = []
  | j :: items, items' => ∃ k rest, items' = k :: rest ∧ Within j k ∧ WithinItems items rest

/-- The same for fields by their keys. -/
def WithinFields : List (String × Json) → List (String × Json) → Prop
  | [], _ => True
  | (key, j) :: row, row' => (∃ k, (key, k) ∈ row' ∧ Within j k) ∧ WithinFields row row'

end

theorem withinItems_of_forall₂ {items items' : List Json} (h : List.Forall₂ Within items items') :
    WithinItems items items' := by
  induction h with
  | nil => rfl
  | cons hfirst _ ih => exact ⟨_, _, rfl, hfirst, ih⟩

theorem withinFields_iff {row row' : List (String × Json)} :
    WithinFields row row' ↔ ∀ field ∈ row, ∃ k, (field.1, k) ∈ row' ∧ Within field.2 k := by
  induction row with
  | nil => simp [WithinFields]
  | cons field row ih => rw [WithinFields, ih, List.forall_mem_cons]

/-- Whether fields have the same keys one by one, and values within values. -/
def FieldwiseWithin (row row' : List (String × Json)) : Prop :=
  List.Forall₂ (fun f g => f.1 = g.1 ∧ Within f.2 g.2) row row'

theorem FieldwiseWithin.keys_eq {row row' : List (String × Json)} (h : FieldwiseWithin row row') :
    row'.map Prod.fst = row.map Prod.fst := by
  induction h with
  | nil => rfl
  | cons hfield _ ih => rw [List.map_cons, List.map_cons, ih, hfield.1]

theorem FieldwiseWithin.exists_mem {row row' : List (String × Json)} (h : FieldwiseWithin row row')
    {field : String × Json} (hfield : field ∈ row) : ∃ k, (field.1, k) ∈ row' ∧ Within field.2 k := by
  induction h with
  | nil => cases hfield
  | @cons f g _ _ hfirst _ ih =>
    rcases List.mem_cons.1 hfield with rfl | hfield
    · exact ⟨g.2, hfirst.1 ▸ List.mem_cons_self, hfirst.2⟩
    · obtain ⟨k, hk, hwithin⟩ := ih hfield
      exact ⟨k, List.mem_cons_of_mem _ hk, hwithin⟩

/-- Fields that have been put in order are those that were there. -/
theorem within_ofFields {row mid : List (String × Json)} (hrow : (row.map Prod.fst).Nodup)
    (h : FieldwiseWithin row mid) : Within (.obj row) (ofFields mid) := by
  refine ⟨_, ofFields_eq mid, (ascending_sortedFields mid).nodup, ?_⟩
  rw [withinFields_iff]
  intro field hfield
  obtain ⟨k, hk, hwithin⟩ := h.exists_mem hfield
  have hperm : (sortedFields mid).Perm mid := sortedFields_perm (h.keys_eq ▸ hrow)
  exact ⟨k, hperm.mem_iff.2 hk, hwithin⟩

end StatementLens.Json
