import Mathlib.Data.List.Chain
import StatementLens.Proofs.Positions
import StatementLens.Text.Identifier

/-!
# Sets with boundaries

A set that is given by sorted boundaries is made of the stretches between a boundary at which it
begins and the next one. One set is part of another if each of its stretches lies in a stretch of the
other, which one pass over both tables finds out. So it is found that whatever starts an identifier
may also continue one.
-/

namespace StatementLens.Text

/-! ## Stretches -/

/-- The stretches of a set: where each begins, and where it has ended. -/
def stretches : List Nat → List (Nat × Nat)
  | start :: stop :: rest => (start, stop) :: stretches rest
  | _ => []

/-- Boundaries in ascending order that leave no stretch open. -/
def areBoundaries (bounds : List Nat) : Bool :=
  decide (bounds.IsChain (· < ·)) && bounds.length % 2 = 0

private theorem countP_odd_iff {xs : List Nat} (hsorted : xs.Pairwise (· < ·))
    (heven : xs.length % 2 = 0) (n : Nat) :
    xs.countP (· ≤ n) % 2 = 1 ↔ ∃ s ∈ stretches xs, s.1 ≤ n ∧ n < s.2 := by
  fun_induction stretches xs with
  | case1 start stop rest ih =>
    obtain ⟨hstart, hsorted⟩ := List.pairwise_cons.1 hsorted
    obtain ⟨hstop, hsorted⟩ := List.pairwise_cons.1 hsorted
    have hlt := hstart stop (by simp)
    have hlength : rest.length % 2 = 0 := by
      simp only [List.length_cons] at heven
      omega
    have ih := ih hsorted hlength
    by_cases hn : n < stop
    · -- nothing behind this stretch counts
      have hnone : rest.countP (· ≤ n) = 0 := by
        rw [List.countP_eq_zero]
        intro x hx
        have := hstop x hx
        simp only [decide_eq_true_eq]
        omega
      rw [hnone] at ih
      have hrest : ¬ ∃ s ∈ stretches rest, s.1 ≤ n ∧ n < s.2 := fun h => absurd (ih.2 h) (by decide)
      simp only [List.countP_cons, hnone, List.mem_cons, exists_eq_or_imp, hrest, or_false]
      have hstop : ¬ stop ≤ n := by omega
      by_cases hs : start ≤ n
      · simp [hs, hn, hstop]
      · simp [hs, hstop]
    · have hboth : start ≤ n ∧ stop ≤ n := by omega
      simp only [List.countP_cons, List.mem_cons, exists_eq_or_imp, hn, and_false, false_or, hboth,
        decide_true, if_true, ← ih]
      omega
  | case2 xs hne =>
    match xs, hne with
    | [], _ => simp
    | [x], _ => simp at heven
    | x :: y :: rest, hne => exact absurd rfl (hne x y rest)

/-- A set holds exactly what lies in its stretches. -/
theorem inBoundaries_iff {bounds : Array Nat} (h : areBoundaries bounds.toList = true) (n : Nat) :
    inBoundaries bounds n = true ↔ ∃ s ∈ stretches bounds.toList, s.1 ≤ n ∧ n < s.2 := by
  simp only [areBoundaries, Bool.and_eq_true, decide_eq_true_eq, List.isChain_iff_pairwise] at h
  unfold inBoundaries
  rw [decide_eq_true_iff, ← countP_odd_iff h.1 h.2, ← countAtMost_eq_countP h.1]

/-! ## Inclusion -/

/-- The stretches from the first one on that reaches beyond `n`. -/
def reaching (n : Nat) : List (Nat × Nat) → List (Nat × Nat)
  | s :: rest => if s.2 ≤ n then reaching n rest else s :: rest
  | [] => []

/-- Whether each stretch lies in a stretch of another set. -/
def areCovered : List (Nat × Nat) → List (Nat × Nat) → Bool
  | [], _ => true
  | s :: rest, others =>
    match reaching s.1 others with
    | t :: others => t.1 ≤ s.1 && s.2 ≤ t.2 && areCovered rest (t :: others)
    | [] => false

private theorem mem_of_mem_reaching {n : Nat} {t : Nat × Nat} {others : List (Nat × Nat)}
    (h : t ∈ reaching n others) : t ∈ others := by
  fun_induction reaching n others with
  | case1 s rest hle ih => exact List.mem_cons_of_mem s (ih h)
  | case2 s rest hlt => exact h
  | case3 => exact h

private theorem exists_of_areCovered {ss others : List (Nat × Nat)} (h : areCovered ss others = true) :
    ∀ s ∈ ss, ∃ t ∈ others, t.1 ≤ s.1 ∧ s.2 ≤ t.2 := by
  induction ss generalizing others with
  | nil => simp
  | cons s ss ih =>
    rw [areCovered] at h
    split at h
    · next t rest hreach =>
      simp only [Bool.and_eq_true, decide_eq_true_eq] at h
      have hmem : ∀ u ∈ t :: rest, u ∈ others := fun u hu => mem_of_mem_reaching (hreach ▸ hu)
      intro u hu
      rcases List.mem_cons.1 hu with rfl | hu
      · exact ⟨t, hmem t (by simp), h.1⟩
      · obtain ⟨v, hv, hle⟩ := ih h.2 u hu
        exact ⟨v, hmem v hv, hle⟩
    · cases h

/-- A set is part of another if its stretches are covered. -/
theorem inBoundaries_of_areCovered {as bs : Array Nat} (has : areBoundaries as.toList = true)
    (hbs : areBoundaries bs.toList = true)
    (h : areCovered (stretches as.toList) (stretches bs.toList) = true) {n : Nat}
    (hn : inBoundaries as n = true) : inBoundaries bs n = true := by
  obtain ⟨s, hs, hle, hlt⟩ := (inBoundaries_iff has n).1 hn
  obtain ⟨t, ht, hstart, hstop⟩ := exists_of_areCovered h s hs
  exact (inBoundaries_iff hbs n).2 ⟨t, ht, by omega, by omega⟩

/-- What starts an identifier may continue one. -/
theorem isIdentifierContinue_of_start {c : Char} (h : isIdentifierStart c = true) :
    isIdentifierContinue c = true := by
  unfold isIdentifierStart at h
  unfold isIdentifierContinue
  by_cases hlt : c.toNat < 0x80
  · rw [if_pos hlt] at h ⊢
    simp [Char.isAlphanum, h]
  -- the kernel goes through both tables
  · rw [if_neg hlt] at h ⊢
    exact inBoundaries_of_areCovered (by decide +kernel) (by decide +kernel) (by decide +kernel) h

end StatementLens.Text
