import Mathlib.Data.List.TakeDrop
import Mathlib.Data.List.TakeWhile
import StatementLens.Proofs.Bytes
import StatementLens.Text.Span

/-!
# Runs of characters

A text is a run of characters of some kind and what follows it, which begins with no such character.
-/

namespace StatementLens.Text

/-- What follows begins with no character that `p` accepts. -/
def StopsAt (p : Char → Bool) (y : List Char) : Prop := ∀ c, y.head? = some c → p c = false

theorem stopsAt_nil (p : Char → Bool) : StopsAt p [] := by
  intro c hc
  cases hc

@[simp]
theorem stopsAt_cons {p : Char → Bool} {c : Char} {y : List Char} :
    StopsAt p (c :: y) ↔ p c = false := by
  simp [StopsAt]

theorem stopsAt_append_of_all {p : Char → Bool} {t : List Char} (ht : t ≠ [])
    (h : ∀ c ∈ t, p c = false) (y : List Char) : StopsAt p (t ++ y) := by
  obtain ⟨c, t, rfl⟩ := List.exists_cons_of_ne_nil ht
  exact stopsAt_cons.2 (h c (by simp))

/-- What stands behind the first character does not matter. -/
theorem StopsAt.of_append {p : Char → Bool} {t y : List Char} (h : StopsAt p (t ++ y)) (ht : t ≠ [])
    (y' : List Char) : StopsAt p (t ++ y') := by
  obtain ⟨c, t, rfl⟩ := List.exists_cons_of_ne_nil ht
  exact stopsAt_cons.2 (stopsAt_cons.1 h)

theorem StopsAt.of_left {p : Char → Bool} {t y : List Char} (h : StopsAt p (t ++ y)) :
    StopsAt p t := by
  intro c hc
  apply h c
  rw [List.head?_append, hc]
  rfl

theorem StopsAt.of_head {p : Char → Bool} {y y' : List Char} (h : StopsAt p y)
    (hhead : y'.head? = y.head?) : StopsAt p y' := by
  intro c hc
  exact h c (hhead ▸ hc)

theorem StopsAt.append_cons {p : Char → Bool} {t y : List Char} {c : Char}
    (h : StopsAt p (t ++ c :: y)) (y' : List Char) : StopsAt p (t ++ c :: y') := by
  rw [List.append_cons] at h ⊢
  exact h.of_append (by simp) y'

/-! ## Runs -/

theorem stopsAt_dropWhile (p : Char → Bool) (cs : List Char) : StopsAt p (cs.dropWhile p) := by
  intro c hc
  have hhead := List.head?_dropWhile_not p cs
  rw [hc] at hhead
  exact hhead

theorem StopsAt.takeWhile_eq_nil {p : Char → Bool} {t y : List Char} (h : StopsAt p (t ++ y)) :
    t.takeWhile p = [] := by
  cases t with
  | nil => rfl
  | cons c t => exact List.takeWhile_cons_of_neg (by simp [stopsAt_cons.1 h])

theorem StopsAt.dropWhile_eq_self {p : Char → Bool} {y : List Char} (h : StopsAt p y) :
    y.dropWhile p = y := by
  cases y with
  | nil => rfl
  | cons c y => exact List.dropWhile_cons_of_neg (by simp [stopsAt_cons.1 h])

theorem takeWhile_append_of_stopsAt {p : Char → Bool} {y : List Char} (hy : StopsAt p y)
    (t : List Char) : (t ++ y).takeWhile p = t.takeWhile p := by
  induction t with
  | nil => exact StopsAt.takeWhile_eq_nil (y := []) (by rwa [List.append_nil])
  | cons c t ih => rw [List.cons_append, List.takeWhile_cons, List.takeWhile_cons, ih]

theorem span_append {p : Char → Bool} {t y : List Char} (ht : ∀ c ∈ t, p c = true) (hy : StopsAt p y) :
    (t ++ y).span p = (t, y) := by
  have htake : t.takeWhile p = t := List.takeWhile_eq_self_iff.2 ht
  rw [List.span_eq_takeWhile_dropWhile, takeWhile_append_of_stopsAt hy, htake,
    List.dropWhile_append_of_pos ht, hy.dropWhile_eq_self]

/-- A text is a run of characters that `p` accepts and what follows it. -/
theorem exists_span (p : Char → Bool) (cs : List Char) :
    ∃ t y, cs = t ++ y ∧ (∀ c ∈ t, p c = true) ∧ StopsAt p y ∧ cs.span p = (t, y) :=
  ⟨cs.takeWhile p, cs.dropWhile p, List.takeWhile_append_dropWhile.symm,
    fun _ hc => List.mem_takeWhile_imp hc, stopsAt_dropWhile p cs, List.span_eq_takeWhile_dropWhile p cs⟩

theorem splitWhile_append {p : Char → Bool} {t y : List Char} (ht : ∀ c ∈ t, p c = true)
    (hy : StopsAt p y) (o : Nat) :
    Span.splitWhile p ⟨o, t ++ y⟩ = (t, ⟨o + byteLength t, y⟩) := by
  unfold Span.splitWhile
  simp only [span_append ht hy]

/-- The same with the places of both. -/
theorem exists_splitWhile (p : Char → Bool) (o : Nat) (cs : List Char) :
    ∃ t y, cs = t ++ y ∧ (∀ c ∈ t, p c = true) ∧ StopsAt p y ∧
      Span.splitWhile p ⟨o, cs⟩ = (t, ⟨o + byteLength t, y⟩) := by
  obtain ⟨t, y, rfl, ht, hy, -⟩ := exists_span p cs
  exact ⟨t, y, rfl, ht, hy, splitWhile_append ht hy o⟩

end StatementLens.Text
