import Mathlib.Data.List.Infix
import Mathlib.Tactic.Common
import StatementLens.Text.Bytes

/-!
# Measures of joined texts

How the measures of a text behave when the text is put together from parts: a byte offset that is the
length of a first part leads to the place between the two parts.
-/

namespace StatementLens.Text

/-! ## Lengths -/

private theorem foldl_measure (f : Char → Nat) (cs : List Char) (n : Nat) :
    cs.foldl (fun n c => n + f c) n = n + cs.foldl (fun n c => n + f c) 0 := by
  induction cs generalizing n with
  | nil => rfl
  | cons c cs ih =>
    rw [List.foldl_cons, List.foldl_cons, ih (n + f c), ih (0 + f c)]
    omega

@[simp]
theorem byteLength_nil : byteLength [] = 0 := rfl

@[simp]
theorem byteLength_cons (c : Char) (cs : List Char) :
    byteLength (c :: cs) = c.utf8Size + byteLength cs := by
  unfold byteLength
  rw [List.foldl_cons, foldl_measure]
  omega

@[simp]
theorem byteLength_append (a b : List Char) :
    byteLength (a ++ b) = byteLength a + byteLength b := by
  unfold byteLength
  rw [List.foldl_append, foldl_measure]

@[simp]
theorem unitLength_nil : unitLength [] = 0 := rfl

@[simp]
theorem unitLength_cons (c : Char) (cs : List Char) :
    unitLength (c :: cs) = unitSize c + unitLength cs := by
  unfold unitLength
  rw [List.foldl_cons, foldl_measure]
  omega

@[simp]
theorem unitLength_append (a b : List Char) :
    unitLength (a ++ b) = unitLength a + unitLength b := by
  unfold unitLength
  rw [List.foldl_append, foldl_measure]

theorem unitSize_pos (c : Char) : 0 < unitSize c := by
  unfold unitSize
  split <;> omega

/-! ## Cutting at an offset -/

/-- Dropping as many bytes as a first part has leaves the second part. -/
theorem dropBytes_append (a b : List Char) : dropBytes (byteLength a) (a ++ b) = b := by
  induction a with
  | nil => cases b <;> simp [dropBytes]
  | cons c a ih =>
    have hpos := c.utf8Size_pos
    rw [List.cons_append, dropBytes, byteLength_cons, if_pos (by omega)]
    rw [show c.utf8Size + byteLength a - c.utf8Size = byteLength a by omega, ih]

private theorem takeBytesOnto_append (taken a b : List Char) :
    takeBytesOnto taken (byteLength a) (a ++ b) = taken.reverse ++ a := by
  induction a generalizing taken with
  | nil => cases b <;> simp [takeBytesOnto]
  | cons c a ih =>
    have hpos := c.utf8Size_pos
    rw [List.cons_append, takeBytesOnto, byteLength_cons, if_pos (by omega)]
    rw [show c.utf8Size + byteLength a - c.utf8Size = byteLength a by omega, ih]
    simp

/-- Taking as many bytes as a first part has gives the first part. -/
theorem takeBytes_append (a b : List Char) : takeBytes (byteLength a) (a ++ b) = a := by
  unfold takeBytes
  rw [takeBytesOnto_append]
  rfl

theorem slice_of_le {start stop : Nat} (h : stop ≤ start) (text : List Char) : slice start stop text = [] := by
  unfold slice
  rw [Nat.sub_eq_zero_of_le h]
  cases dropBytes start text with
  | nil => rfl
  | cons c cs => simp [takeBytes, takeBytesOnto]

/-- The slice between the ends of two parts is the part between them. -/
theorem slice_append (a b c : List Char) :
    slice (byteLength a) (byteLength a + byteLength b) (a ++ (b ++ c)) = b := by
  unfold slice
  rw [dropBytes_append, show byteLength a + byteLength b - byteLength a = byteLength b by omega,
    takeBytes_append]

theorem dropBytes_suffix (n : Nat) (cs : List Char) : dropBytes n cs <:+ cs := by
  induction cs generalizing n with
  | nil => exact List.suffix_rfl
  | cons c cs ih =>
    unfold dropBytes
    split
    · exact (ih _).trans (List.suffix_cons c cs)
    · exact List.suffix_rfl

/-! ## Boundaries -/

private theorem floorBoundaryFrom_prefix (passed n : Nat) (a : List Char) (h : n ≤ byteLength a) :
    ∃ p q, a = p ++ q ∧ ∀ b, floorBoundaryFrom passed n (a ++ b) = passed + byteLength p := by
  induction a generalizing passed n with
  | nil =>
    refine ⟨[], [], rfl, fun b => ?_⟩
    cases b with
    | nil => rfl
    | cons c b =>
      have hpos := c.utf8Size_pos
      rw [byteLength_nil] at h
      rw [List.nil_append, floorBoundaryFrom, if_neg (by omega)]
      rfl
  | cons c a ih =>
    rw [byteLength_cons] at h
    by_cases hc : c.utf8Size ≤ n
    · obtain ⟨p, q, hpq, hfloor⟩ := ih (passed + c.utf8Size) (n - c.utf8Size) (by omega)
      refine ⟨c :: p, q, by rw [hpq]; rfl, fun b => ?_⟩
      rw [List.cons_append, floorBoundaryFrom, if_pos hc, hfloor, byteLength_cons]
      omega
    · refine ⟨[], c :: a, rfl, fun b => ?_⟩
      rw [List.cons_append, floorBoundaryFrom, if_neg hc]
      rfl

private theorem floorBoundaryFrom_append (passed : Nat) (a b : List Char) :
    floorBoundaryFrom passed (byteLength a) (a ++ b) = passed + byteLength a := by
  induction a generalizing passed with
  | nil =>
    cases b with
    | nil => rfl
    | cons c b =>
      have hpos := c.utf8Size_pos
      rw [List.nil_append, floorBoundaryFrom, byteLength_nil, if_neg (by omega)]
      rfl
  | cons c a ih =>
    rw [List.cons_append, floorBoundaryFrom, byteLength_cons, if_pos (by omega)]
    rw [show c.utf8Size + byteLength a - c.utf8Size = byteLength a by omega, ih]
    omega

/-- The end of a first part is a boundary. -/
theorem floorBoundary_append (a b : List Char) :
    floorBoundary (byteLength a) (a ++ b) = byteLength a := by
  unfold floorBoundary
  rw [floorBoundaryFrom_append]
  omega

/-- An offset inside a first part has its boundary there, whatever follows the part. -/
theorem floorBoundary_prefix {n : Nat} {a : List Char} (h : n ≤ byteLength a) :
    ∃ p q, a = p ++ q ∧ ∀ b, floorBoundary n (a ++ b) = byteLength p := by
  obtain ⟨p, q, hpq, hfloor⟩ := floorBoundaryFrom_prefix 0 n a h
  refine ⟨p, q, hpq, fun b => ?_⟩
  unfold floorBoundary
  rw [hfloor]
  omega

/-! ## Units and bytes of a part -/

private theorem unitsBeforeFrom_append (passed : Nat) (a b : List Char) :
    unitsBeforeFrom passed (byteLength a) (a ++ b) = passed + unitLength a := by
  induction a generalizing passed with
  | nil =>
    cases b with
    | nil => rfl
    | cons c b =>
      have hpos := c.utf8Size_pos
      rw [List.nil_append, unitsBeforeFrom, byteLength_nil, if_neg (by omega)]
      rfl
  | cons c a ih =>
    rw [List.cons_append, unitsBeforeFrom, byteLength_cons, if_pos (by omega)]
    rw [show c.utf8Size + byteLength a - c.utf8Size = byteLength a by omega, ih, unitLength_cons]
    omega

/-- The units in front of the end of a first part are those of the part. -/
theorem unitsBefore_append (a b : List Char) :
    unitsBefore (byteLength a) (a ++ b) = unitLength a := by
  unfold unitsBefore
  rw [unitsBeforeFrom_append]
  omega

private theorem bytesBeforeFrom_append (passed : Nat) (a b : List Char) :
    bytesBeforeFrom passed (unitLength a) (a ++ b) = passed + byteLength a := by
  induction a generalizing passed with
  | nil => cases b <;> simp [bytesBeforeFrom]
  | cons c a ih =>
    have hpos := unitSize_pos c
    rw [List.cons_append, bytesBeforeFrom, unitLength_cons, if_neg (by omega)]
    rw [show unitSize c + unitLength a - unitSize c = unitLength a by omega, ih, byteLength_cons]
    omega

/-- A column that is the width of a first part leads to the end of the part. -/
theorem bytesBefore_append (a b : List Char) :
    bytesBefore (unitLength a) (a ++ b) = byteLength a := by
  unfold bytesBefore
  rw [bytesBeforeFrom_append]
  omega

private theorem bytesBeforeFrom_of_le (passed u : Nat) (a : List Char) (h : unitLength a ≤ u) :
    bytesBeforeFrom passed u a = passed + byteLength a := by
  induction a generalizing passed u with
  | nil => rfl
  | cons c a ih =>
    have hpos := unitSize_pos c
    rw [unitLength_cons] at h
    rw [bytesBeforeFrom, if_neg (by omega), ih _ _ (by omega), byteLength_cons]
    omega

/-- A column beyond a text leads to its end. -/
theorem bytesBefore_of_le {u : Nat} {a : List Char} (h : unitLength a ≤ u) :
    bytesBefore u a = byteLength a := by
  unfold bytesBefore
  rw [bytesBeforeFrom_of_le 0 u a h]
  omega

/-! ## Pieces -/

/-- A text contains exactly its infixes. -/
theorem contains_iff {piece cs : List Char} : contains piece cs = true ↔ piece <:+: cs := by
  induction cs with
  | nil => simp [contains]
  | cons c cs ih =>
    rw [contains, Bool.or_eq_true, List.isPrefixOf_iff_prefix, ih, List.infix_cons_iff]

end StatementLens.Text
