import Mathlib.Order.Bounds.Defs
import StatementLens.Proofs.Bytes

/-!
# Boundaries and slices

An offset is a boundary of a text if it lies between two characters or at an end of the text. Two
boundaries in order are the ends of a slice. Offsets are moved to boundaries in two ways: an offset
inside a character goes back to the start of it, and a column leads to the first boundary that it is
not beyond.
-/

namespace StatementLens.Text

/-! ## Boundaries -/

/-- Whether an offset lies between two characters of a text, or at an end of the text. -/
def IsBoundary (cs : List Char) (n : Nat) : Prop :=
  ∃ pre post, cs = pre ++ post ∧ n = byteLength pre

/-- Between two parts of a text there is a boundary. -/
theorem isBoundary_append (a b : List Char) : IsBoundary (a ++ b) (byteLength a) :=
  ⟨a, b, rfl, rfl⟩

theorem IsBoundary.le_byteLength {cs : List Char} {n : Nat} (h : IsBoundary cs n) :
    n ≤ byteLength cs := by
  obtain ⟨pre, post, rfl, rfl⟩ := h
  rw [byteLength_append]
  omega

/-- Boundaries are in front of the first character or boundaries of the rest. -/
theorem isBoundary_cons_iff {c : Char} {cs : List Char} {n : Nat} :
    IsBoundary (c :: cs) n ↔ n = 0 ∨ ∃ m, IsBoundary cs m ∧ n = c.utf8Size + m := by
  constructor
  · intro h
    obtain ⟨pre, post, hcs, rfl⟩ := h
    cases pre with
    | nil => exact .inl rfl
    | cons d pre =>
      obtain ⟨rfl, rfl⟩ := List.cons_eq_cons.1 hcs
      exact .inr ⟨byteLength pre, isBoundary_append pre post, byteLength_cons c pre⟩
  · intro h
    rcases h with rfl | ⟨m, ⟨pre, post, rfl, rfl⟩, rfl⟩
    · exact ⟨[], c :: cs, rfl, rfl⟩
    · exact ⟨c :: pre, post, rfl, (byteLength_cons c pre).symm⟩

theorem byteLength_reverse (cs : List Char) : byteLength cs.reverse = byteLength cs := by
  induction cs with
  | nil => rfl
  | cons c cs ih =>
    rw [List.reverse_cons, byteLength_append, ih, byteLength_cons, byteLength_cons, byteLength_nil]
    omega

theorem eq_nil_of_byteLength_eq_zero {cs : List Char} (h : byteLength cs = 0) : cs = [] := by
  cases cs with
  | nil => rfl
  | cons c cs =>
    have hpos := c.utf8Size_pos
    rw [byteLength_cons] at h
    omega

/-- The parts in front of one boundary are the same. -/
theorem append_inj_of_byteLength {a b a' b' : List Char} (h : a ++ b = a' ++ b')
    (hlength : byteLength a = byteLength a') : a = a' ∧ b = b' := by
  have htake := takeBytes_append a b
  have hdrop := dropBytes_append a b
  rw [h, hlength, takeBytes_append] at htake
  rw [h, hlength, dropBytes_append] at hdrop
  exact ⟨htake.symm, hdrop.symm⟩

/-- A boundary within the second of three parts of a text splits this part. -/
theorem IsBoundary.exists_between {a b c : List Char} {n : Nat} (h : IsBoundary (a ++ (b ++ c)) n)
    (hstart : byteLength a ≤ n) (hstop : n ≤ byteLength (a ++ b)) :
    ∃ p q, b = p ++ q ∧ n = byteLength (a ++ p) := by
  obtain ⟨pre, post, htext, rfl⟩ := h
  rw [← List.append_assoc] at htext
  rcases List.append_eq_append_iff.1 htext with ⟨m, rfl, -⟩ | ⟨m, hm, -⟩
  · -- the boundary is at the end of the part, or beyond it
    have hm : m = [] := by
      apply eq_nil_of_byteLength_eq_zero
      rw [byteLength_append] at hstop
      omega
    exact ⟨b, [], by simp, by rw [hm, List.append_nil]⟩
  · rcases List.append_eq_append_iff.1 hm with ⟨p, rfl, rfl⟩ | ⟨p, rfl, -⟩
    · exact ⟨p, m, rfl, rfl⟩
    · -- the boundary is at the start of the part, or in front of it
      have hp : p = [] := by
        apply eq_nil_of_byteLength_eq_zero
        rw [byteLength_append] at hstart
        omega
      exact ⟨[], b, rfl, by rw [hp, List.append_nil, List.append_nil]⟩

/-! ## The boundary at or before an offset -/

/-- What has been passed is added. -/
private theorem floorBoundaryFrom_eq (passed n : Nat) (cs : List Char) :
    floorBoundaryFrom passed n cs = passed + floorBoundary n cs := by
  unfold floorBoundary
  induction cs generalizing passed n with
  | nil => rfl
  | cons c cs ih =>
    rw [floorBoundaryFrom, floorBoundaryFrom]
    split
    · rw [ih (passed + c.utf8Size), ih (0 + c.utf8Size)]
      omega
    · rfl

/-- A character is passed if it fits as a whole. -/
theorem floorBoundary_cons (n : Nat) (c : Char) (cs : List Char) :
    floorBoundary n (c :: cs)
      = if c.utf8Size ≤ n then c.utf8Size + floorBoundary (n - c.utf8Size) cs else 0 := by
  have hfrom := floorBoundaryFrom_eq c.utf8Size (n - c.utf8Size) cs
  rw [← hfrom]
  unfold floorBoundary
  rw [floorBoundaryFrom, Nat.zero_add]

/-- The boundary at or before an offset is a boundary. -/
theorem isBoundary_floorBoundary (n : Nat) (cs : List Char) :
    IsBoundary cs (floorBoundary n cs) := by
  induction cs generalizing n with
  | nil => exact isBoundary_append [] []
  | cons c cs ih =>
    rw [floorBoundary_cons, isBoundary_cons_iff]
    split
    · exact .inr ⟨_, ih _, rfl⟩
    · exact .inl rfl

/-- It is at or before the offset. -/
theorem floorBoundary_le (n : Nat) (cs : List Char) : floorBoundary n cs ≤ n := by
  induction cs generalizing n with
  | nil => exact Nat.zero_le n
  | cons c cs ih =>
    rw [floorBoundary_cons]
    split
    · have hrest := ih (n - c.utf8Size)
      omega
    · omega

/-- No other boundary is between it and the offset. -/
theorem IsBoundary.le_floorBoundary {cs : List Char} {m n : Nat} (h : IsBoundary cs m)
    (hle : m ≤ n) : m ≤ floorBoundary n cs := by
  induction cs generalizing m n with
  | nil =>
    have hzero := h.le_byteLength
    rw [byteLength_nil] at hzero
    omega
  | cons c cs ih =>
    rw [floorBoundary_cons]
    rcases isBoundary_cons_iff.1 h with rfl | ⟨k, hk, rfl⟩
    · omega
    · have hrest : k ≤ floorBoundary (n - c.utf8Size) cs := ih hk (by omega)
      rw [if_pos (by omega)]
      omega

/-- The boundaries at or before an offset, or the end of the text if this comes first. -/
def boundariesUpTo (cs : List Char) (n : Nat) : Set Nat :=
  {m | IsBoundary cs m ∧ m ≤ min n (byteLength cs)}

/-- It is the greatest boundary up to the offset. -/
theorem isGreatest_floorBoundary (n : Nat) (cs : List Char) :
    IsGreatest (boundariesUpTo cs n) (floorBoundary n cs) := by
  have hboundary := isBoundary_floorBoundary n cs
  refine ⟨⟨hboundary, Nat.le_min.2 ⟨floorBoundary_le n cs, hboundary.le_byteLength⟩⟩, ?_⟩
  intro m hm
  exact hm.1.le_floorBoundary (hm.2.trans (Nat.min_le_left _ _))

/-- A boundary is its own. -/
theorem isBoundary_iff_floorBoundary_eq {cs : List Char} {n : Nat} :
    IsBoundary cs n ↔ floorBoundary n cs = n := by
  constructor
  · intro h
    exact Nat.le_antisymm (floorBoundary_le n cs) (h.le_floorBoundary (Nat.le_refl n))
  · intro h
    rw [← h]
    exact isBoundary_floorBoundary n cs

instance (cs : List Char) (n : Nat) : Decidable (IsBoundary cs n) :=
  decidable_of_iff (floorBoundary n cs = n) isBoundary_iff_floorBoundary_eq.symm

/-! ## Slices -/

/-- Whether two offsets are the ends of a slice of a text. -/
structure Sliceable (cs : List Char) (start stop : Nat) : Prop where
  isBoundary_start : IsBoundary cs start
  isBoundary_stop : IsBoundary cs stop
  le : start ≤ stop

instance (cs : List Char) (start stop : Nat) : Decidable (Sliceable cs start stop) :=
  decidable_of_iff (IsBoundary cs start ∧ IsBoundary cs stop ∧ start ≤ stop)
    ⟨fun h => ⟨h.1, h.2.1, h.2.2⟩, fun h => ⟨h.1, h.2, h.3⟩⟩

/-- A part of a text is a slice. -/
theorem sliceable_append (a b c : List Char) :
    Sliceable (a ++ (b ++ c)) (byteLength a) (byteLength (a ++ b)) := by
  refine ⟨isBoundary_append a (b ++ c), ?_, ?_⟩
  · rw [← List.append_assoc]
    exact isBoundary_append (a ++ b) c
  · rw [byteLength_append]
    omega

/-- The ends of a slice split the text into what is in front of it, the slice and what follows. -/
theorem Sliceable.exists_parts {cs : List Char} {start stop : Nat} (h : Sliceable cs start stop) :
    ∃ a b c, cs = a ++ (b ++ c) ∧ start = byteLength a ∧ stop = byteLength (a ++ b) := by
  obtain ⟨a, rest, rfl, rfl⟩ := h.isBoundary_start
  have hstop := h.isBoundary_stop
  have hend := hstop.le_byteLength
  rw [show a ++ rest = a ++ (rest ++ []) by simp] at hstop
  obtain ⟨b, c, rfl, rfl⟩ := hstop.exists_between h.le hend
  exact ⟨a, b, c, rfl, rfl, rfl⟩

/-- Any two of a chain of boundaries are the ends of a slice. -/
theorem pairwise_sliceable {cs : List Char} {ns : List Nat} (hle : ns.IsChain (· ≤ ·))
    (h : ∀ n ∈ ns, IsBoundary cs n) : ns.Pairwise (Sliceable cs) := by
  apply (List.isChain_iff_pairwise.1 hle).imp_of_mem
  intro m n hm hn hmn
  exact ⟨h m hm, h n hn, hmn⟩

/-! ## Widths and lengths -/

/-- A character has no more units than bytes. -/
theorem unitSize_le_utf8Size (c : Char) : unitSize c ≤ c.utf8Size := by
  have hval : c.toNat = c.val.toNat := rfl
  unfold unitSize Char.utf8Size
  simp only [UInt32.le_iff_toNat_le, UInt32.toNat_ofNatLT, hval]
  split
  · split_ifs <;> omega
  · -- a character above the basic plane takes four bytes
    rw [if_neg (by omega)]
    split_ifs <;> omega

/-- Nor has a text. -/
theorem unitLength_le_byteLength (cs : List Char) : unitLength cs ≤ byteLength cs := by
  induction cs with
  | nil => exact Nat.le_refl 0
  | cons c cs ih =>
    have hsize := unitSize_le_utf8Size c
    rw [unitLength_cons, byteLength_cons]
    omega

theorem length_le_byteLength (cs : List Char) : cs.length ≤ byteLength cs := by
  induction cs with
  | nil => exact Nat.le_refl 0
  | cons c cs ih =>
    have hpos := c.utf8Size_pos
    rw [List.length_cons, byteLength_cons]
    omega

/-! ## The boundary of a column -/

/-- What has been passed is added. -/
private theorem bytesBeforeFrom_eq (passed u : Nat) (cs : List Char) :
    bytesBeforeFrom passed u cs = passed + bytesBefore u cs := by
  unfold bytesBefore
  induction cs generalizing passed u with
  | nil => rfl
  | cons c cs ih =>
    rw [bytesBeforeFrom, bytesBeforeFrom]
    split
    · rfl
    · rw [ih (passed + c.utf8Size), ih (0 + c.utf8Size)]
      omega

/-- A character is passed while columns are left. -/
theorem bytesBefore_cons (u : Nat) (c : Char) (cs : List Char) :
    bytesBefore u (c :: cs)
      = if u = 0 then 0 else c.utf8Size + bytesBefore (u - unitSize c) cs := by
  have hfrom := bytesBeforeFrom_eq c.utf8Size (u - unitSize c) cs
  rw [← hfrom]
  unfold bytesBefore
  rw [bytesBeforeFrom, Nat.zero_add]

/-- A column leads to the end of the shortest beginning of a text that is as wide, or of the text. -/
theorem exists_bytesBefore (u : Nat) (cs : List Char) :
    ∃ before after, cs = before ++ after ∧ bytesBefore u cs = byteLength before ∧
      (u ≤ unitLength before ∨ after = []) ∧
      ∀ p q, cs = p ++ q → u ≤ unitLength p → byteLength before ≤ byteLength p := by
  induction cs generalizing u with
  | nil => exact ⟨[], [], rfl, rfl, .inr rfl, fun p q _ _ => Nat.zero_le _⟩
  | cons c cs ih =>
    by_cases hu : u = 0
    · refine ⟨[], c :: cs, rfl, ?_, .inl (by omega), fun p q _ _ => Nat.zero_le _⟩
      rw [bytesBefore_cons, if_pos hu]
      rfl
    · obtain ⟨before, after, rfl, hbytes, hwide, hleast⟩ := ih (u - unitSize c)
      refine ⟨c :: before, after, rfl, ?_, ?_, ?_⟩
      · rw [bytesBefore_cons, if_neg hu, hbytes, byteLength_cons]
      · rw [unitLength_cons]
        rcases hwide with hwide | hnil
        · exact .inl (by omega)
        · exact .inr hnil
      · intro p q hsplit hp
        cases p with
        | nil =>
          rw [unitLength_nil] at hp
          omega
        | cons d p =>
          obtain ⟨rfl, hrest⟩ := List.cons_eq_cons.1 hsplit
          rw [unitLength_cons] at hp
          have hle := hleast p q hrest (by omega)
          rw [byteLength_cons, byteLength_cons]
          omega

/-- More columns are never fewer bytes. -/
theorem bytesBefore_mono {u v : Nat} (h : u ≤ v) (cs : List Char) :
    bytesBefore u cs ≤ bytesBefore v cs := by
  obtain ⟨before, after, hcs, hbytes, -, hleast⟩ := exists_bytesBefore u cs
  obtain ⟨before', after', hcs', hbytes', hwide, -⟩ := exists_bytesBefore v cs
  rw [hbytes, hbytes']
  rcases hwide with hwide | rfl
  · exact hleast before' after' hcs' (h.trans hwide)
  · -- the greater column is beyond the text
    rw [List.append_nil] at hcs'
    rw [← hcs', hcs, byteLength_append]
    omega

end StatementLens.Text
