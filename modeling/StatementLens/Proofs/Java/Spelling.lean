import Mathlib.Data.List.Basic
import StatementLens.Proofs.Java.Layout
import StatementLens.Proofs.Java.Reads
import StatementLens.Proofs.Java.SimpleNames
import StatementLens.Proofs.Slices

/-!
# Texts of parts

The text of a part of a source is that of its tokens with the gaps between them (`written_textOf`). Gaps
are nothing in front of glued tokens and white space where there are no comments. White space beside a
dot or an angle bracket makes no difference to the simple name of a text (`simpleName_gap`), so a part
with dots between its words has the simple name of its tokens (`Written.simpleName_eq`).
-/

namespace StatementLens.Java

open Text

/-! ## Written tokens -/

/-- The characters of tokens, without gaps. -/
def spelling (ts : List Token) : List Char := ts.flatMap Token.chars

/-- The texts of tokens with gaps between them. -/
inductive Written : List Token → List Char → Prop where
  | nil : Written [] []
  | one {t : Token} : Written [t] t.chars
  | cons {t u : Token} {ts : List Token} {gap body : List Char} (glued : u.glued = true → gap = [])
      (blank : u.comments = [] → ∀ c ∈ gap, isBlankChar c = true) (rest : Written (u :: ts) body) :
      Written (t :: u :: ts) (t.chars ++ (gap ++ body))

/-- Tokens that are laid in a text are written there behind a gap. -/
theorem Laid.exists_written {offset : Nat} {cs : List Char} {t : Token} {ts back : List Token}
    (h : Laid offset cs (t :: (ts ++ back))) :
    ∃ gap body after, cs = gap ++ (body ++ after) ∧ t.start = offset + byteLength gap ∧
      (t.comments = [] → ∀ c ∈ gap, isBlankChar c = true) ∧
      ((t :: ts).getLast (by simp)).stop = t.start + byteLength body ∧ Written (t :: ts) body := by
  induction ts generalizing offset cs t with
  | nil =>
    cases h with
    | cons _ _ blank start stop _ _ rest => exact ⟨_, _, _, rfl, start, blank, stop, .one⟩
  | cons u ts ih =>
    cases h with
    | @cons _ gap _ _ _ _ _ blank start stop glued _ rest =>
      obtain ⟨between, body, after, rfl, hstart, hbetween, hstop, hwritten⟩ := ih rest
      refine ⟨gap, t.chars ++ (between ++ body), after, by simp, start, blank, ?_, .cons ?_ hbetween hwritten⟩
      · rw [List.getLast_cons (by simp), hstop, hstart, byteLength_append, byteLength_append]
        omega
      · intro hglued
        have hplace := glued u rfl
        rw [hglued, stop, hstart, eq_comm, decide_eq_true_eq] at hplace
        exact eq_nil_of_byteLength_eq_zero (by omega)

theorem written_slice {text : List Char} {front ts back : List Token} {first last : Token}
    (h : tokens text = some (front ++ (ts ++ back))) (hfirst : ts.head? = some first)
    (hlast : ts.getLast? = some last) : Written ts (slice first.start last.stop text) := by
  obtain ⟨mark, rest, rfl, hall⟩ := exists_laid_of_tokens h
  obtain ⟨before, rest, rfl, hlaid⟩ := hall.of_append
  obtain ⟨ts, rfl⟩ := List.head?_eq_some_iff.1 hfirst
  obtain ⟨gap, body, after, rfl, hstart, -, hstop, hwritten⟩ := Laid.exists_written hlaid
  rw [List.getLast?_eq_some_getLast (by simp), Option.some.injEq] at hlast
  have hslice : slice first.start last.stop (mark ++ (before ++ (gap ++ (body ++ after)))) = body := by
    have hsplit := slice_append (mark ++ (before ++ gap)) body after
    rw [← hlast, hstop, hstart]
    simpa only [byteLength_append, List.append_assoc, Nat.add_assoc] using hsplit
  rwa [hslice]

/-- The text of a part is that of its tokens with gaps between them. -/
theorem written_textOf {κ : Type} {text : List Char} {trees part : List (Tree κ)} {label : κ}
    (h : tokens text = some (forestTokens trees)) (hpart : Within (.node label part) trees) :
    Written (forestTokens part) (textOf text part) := by
  obtain ⟨front, back, htokens⟩ := hpart.exists_tokens
  rw [htokens, Tree.tokens] at h
  unfold textOf
  cases hts : forestTokens part with
  | nil => exact .nil
  | cons t ts =>
    rw [hts] at h
    have hlast := List.getLast?_eq_some_getLast (List.cons_ne_nil t ts)
    simp only [List.head?_cons, hlast]
    exact written_slice h rfl hlast

/-! ## Tidy tokens -/

/-- Nothing stands between tokens. -/
def Seamless (ts : List Token) : Prop := ∀ t ∈ ts.tail, t.glued = true

/-- No comment stands between tokens. -/
def Uncommented (ts : List Token) : Prop := ∀ t ∈ ts.tail, t.comments = []

/-- Up to the first angle bracket, one of each two tokens that follow each other is a dot. -/
def IsDotted : List Token → Prop
  | t :: u :: ts =>
    t.kind = .symbol .less ∨
      (t.kind = .symbol .dot ∨ u.kind = .symbol .dot ∨ u.kind = .symbol .less) ∧ IsDotted (u :: ts)
  | _ => True

instance (ts : List Token) : Decidable (Seamless ts) :=
  inferInstanceAs (Decidable (∀ t ∈ ts.tail, t.glued = true))

instance (ts : List Token) : Decidable (Uncommented ts) :=
  inferInstanceAs (Decidable (∀ t ∈ ts.tail, t.comments = []))

instance IsDotted.decide : (ts : List Token) → Decidable (IsDotted ts)
  | [] | [_] => .isTrue trivial
  | t :: u :: ts =>
    have := IsDotted.decide (u :: ts)
    inferInstanceAs (Decidable (t.kind = .symbol .less ∨
      (t.kind = .symbol .dot ∨ u.kind = .symbol .dot ∨ u.kind = .symbol .less) ∧ IsDotted (u :: ts)))

namespace Written

variable {ts : List Token} {body : List Char}

theorem eq_spelling (h : Written ts body) (hts : Seamless ts) : body = spelling ts := by
  induction h with
  | nil => rfl
  | one => simp [spelling]
  | @cons t u ts gap body glued blank rest ih =>
    have hrest : Seamless (u :: ts) := fun v hv => hts v (List.mem_cons_of_mem u hv)
    rw [glued (hts u List.mem_cons_self), ih hrest]
    rfl

/-- Texts of the same tokens without comments differ in white space only. -/
theorem filter_eq (h : Written ts body) (hts : Uncommented ts) :
    body.filter (fun c => !isBlankChar c) = (spelling ts).filter fun c => !isBlankChar c := by
  induction h with
  | nil => rfl
  | one => simp [spelling]
  | @cons t u ts gap body glued blank rest ih =>
    have hrest : Uncommented (u :: ts) := fun v hv => hts v (List.mem_cons_of_mem u hv)
    have hgap : gap.filter (fun c => !isBlankChar c) = [] := by
      rw [List.filter_eq_nil_iff]
      intro c hc
      simp [blank (hts u List.mem_cons_self) c hc]
    have hspelling : spelling (t :: u :: ts) = t.chars ++ spelling (u :: ts) := rfl
    rw [hspelling, List.filter_append, List.filter_append, List.filter_append, hgap, ih hrest,
      List.nil_append]

private theorem isBlank_of_isBlankChar {c : Char} (h : isBlankChar c = true) : isBlank c = true := by
  simp only [isBlankChar, Bool.or_eq_true, decide_eq_true_eq] at h
  rcases h with ((((rfl | rfl) | rfl) | rfl) | h) | h
  · decide
  · decide
  · decide
  · decide
  · simp [isBlank, h]
  · simp [isBlank, h]

private theorem chars_eq_of_mem_spellings {chars : List Char} :
    ((chars, Symbol.dot) ∈ Symbol.spellings → chars = ['.']) ∧
      ((chars, Symbol.less) ∈ Symbol.spellings → chars = ['<']) := by
  simp [Symbol.spellings]

/-- The simple name of tokens with dots between them does not depend on white space. -/
theorem simpleName_eq (h : Written ts body) (hts : Uncommented ts) (hdots : IsDotted ts)
    (hspelled : ∀ t ∈ ts, ∀ s, t.kind = .symbol s → (t.chars, s) ∈ Symbol.spellings) :
    simpleName body = simpleName (spelling ts) := by
  -- what stands before the tokens is carried along
  suffices hall : ∀ before, simpleName (before ++ body) = simpleName (before ++ spelling ts) from hall []
  induction h with
  | nil => exact fun _ => rfl
  | one => simp [spelling]
  | @cons t u ts gap body glued blank rest ih =>
    intro before
    have hspelling : spelling (t :: u :: ts) = t.chars ++ spelling (u :: ts) := rfl
    rw [hspelling, ← List.append_assoc before t.chars, ← List.append_assoc before t.chars]
    rcases hdots with hless | ⟨hbeside, hrest⟩
    · have hchars := chars_eq_of_mem_spellings.2 (hspelled t List.mem_cons_self _ hless)
      have hmem : '<' ∈ before ++ t.chars := by simp [hchars]
      rw [simpleName_append_of_mem hmem, simpleName_append_of_mem hmem]
    · have hgap : ∀ c ∈ gap, isBlank c = true := fun c hc =>
        isBlank_of_isBlankChar (blank (hts u List.mem_cons_self) c hc)
      rw [← List.append_assoc, ih (fun v hv => hts v (List.mem_cons_of_mem u hv)) hrest
        (fun v hv => hspelled v (List.mem_cons_of_mem t hv)), List.append_assoc]
      apply simpleName_gap hgap
      have hnext : spelling (u :: ts) = u.chars ++ spelling ts := rfl
      rcases hbeside with hdot | hdot | hless
      · have hchars := chars_eq_of_mem_spellings.1 (hspelled t List.mem_cons_self _ hdot)
        exact .inl (by simp [hchars])
      · have hchars := chars_eq_of_mem_spellings.1 (hspelled u (by simp) _ hdot)
        exact .inr (.inl (by simp [hnext, hchars]))
      · have hchars := chars_eq_of_mem_spellings.2 (hspelled u (by simp) _ hless)
        exact .inr (.inr (by simp [hnext, hchars]))

end Written

end StatementLens.Java
