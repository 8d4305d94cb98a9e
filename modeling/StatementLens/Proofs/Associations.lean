import Mathlib.Data.List.Nodup
import Mathlib.Data.List.Perm.Basic

/-!
# Lists of values under names

A list of pairs is read as a map from their first components. With different first components, looking one
up only depends on which pairs are in the list.
-/

namespace StatementLens

variable {κ β : Type} [BEq κ] [LawfulBEq κ] {entries : List (κ × β)} {key : κ}

/-- Among entries under different keys, looking a key up finds the entry that has it. -/
theorem lookup_eq_some_iff_mem (h : (entries.map Prod.fst).Nodup) {b : β} :
    entries.lookup key = some b ↔ (key, b) ∈ entries := by
  rw [List.lookup_eq_some_iff]
  constructor
  · rintro ⟨front, rest, rfl, -⟩
    exact List.mem_append_right _ List.mem_cons_self
  · intro hmem
    obtain ⟨front, rest, rfl⟩ := List.append_of_mem hmem
    refine ⟨front, rest, rfl, fun entry hentry => bne_iff_ne.2 fun hkey => ?_⟩
    rw [List.map_append, List.map_cons, List.nodup_append] at h
    exact h.2.2 entry.1 (List.mem_map_of_mem hentry) key List.mem_cons_self hkey.symm

/-- What is found under a key is in the list. -/
theorem mem_of_lookup_eq_some {b : β} (h : entries.lookup key = some b) : (key, b) ∈ entries := by
  obtain ⟨front, rest, rfl, -⟩ := List.lookup_eq_some_iff.1 h
  exact List.mem_append_right _ List.mem_cons_self

theorem lookup_perm {entries' : List (κ × β)} (h : (entries.map Prod.fst).Nodup)
    (hperm : entries.Perm entries') : entries.lookup key = entries'.lookup key := by
  have h' : (entries'.map Prod.fst).Nodup := (hperm.map Prod.fst).nodup_iff.1 h
  ext b
  rw [lookup_eq_some_iff_mem h, lookup_eq_some_iff_mem h', hperm.mem_iff]

/-- Entries under other keys make no difference. -/
theorem lookup_filter_key {p : κ → Bool} (hkey : p key = true) (entries : List (κ × β)) :
    (entries.filter fun entry => p entry.1).lookup key = entries.lookup key := by
  induction entries with
  | nil => rfl
  | cons entry rest ih =>
    obtain ⟨k, b⟩ := entry
    rw [List.filter_cons]
    by_cases hk : p k = true
    · rw [if_pos hk, List.lookup_cons, List.lookup_cons, ih]
    · have hskip : (key == k) = false := beq_eq_false_iff_ne.2 fun heq => hk (heq ▸ hkey)
      rw [if_neg hk, ih, List.lookup_cons, hskip]

end StatementLens
