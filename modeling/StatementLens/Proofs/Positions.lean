import Mathlib.Data.List.Basic
import StatementLens.Proofs.Bytes
import StatementLens.Text.Lines

/-!
# Positions and offsets

A position is found by halving in the offsets at which lines start. Here it is counted instead: the
line of a place is the number of line feeds in front of it, and its column the width of what stands
between the last of them and the place. An offset read back from such a position is the same one,
unless the place is just behind a carriage return that the content of its line leaves out.
-/

namespace StatementLens

open Text

/-! ## Halving -/

/-- Halving finds the place where the items become too great. -/
private theorem countAtMostIn_eq {xs : Array Nat} {n k : Nat}
    (hbelow : ∀ i (h : i < xs.size), i < k → xs[i] ≤ n)
    (habove : ∀ i (h : i < xs.size), k ≤ i → n < xs[i]) {lo hi : Nat} (h : hi ≤ xs.size)
    (hlo : lo ≤ k) (hhi : k ≤ hi) : countAtMostIn xs n lo hi h = k := by
  fun_induction countAtMostIn xs n lo hi h with
  | case1 lo hi h hlt hmid hle ih =>
    have hk : (lo + hi) / 2 < k := by
      by_contra hge
      have := habove _ hmid (by omega)
      omega
    exact ih (by omega) (by omega)
  | case2 lo hi h hlt hmid hgt ih =>
    have hk : k ≤ (lo + hi) / 2 := by
      by_contra hlt'
      exact hgt (hbelow _ hmid (by omega))
    exact ih (by omega) (by omega)
  | case3 lo hi h hge => omega

/-- Halving finds the number of a first stretch of entries if these are at most `n` and all others
greater. -/
theorem countAtMost_append {xs ys : List Nat} {n : Nat} (hbelow : ∀ x ∈ xs, x ≤ n)
    (habove : ∀ y ∈ ys, n < y) : countAtMost (xs ++ ys).toArray n = xs.length := by
  unfold countAtMost
  apply countAtMostIn_eq
  · intro i h hi
    rw [List.getElem_toArray, List.getElem_append_left hi]
    exact hbelow _ (List.getElem_mem hi)
  · intro i h hi
    rw [List.getElem_toArray, List.getElem_append_right hi]
    exact habove _ (List.getElem_mem _)
  · omega
  · simp

/-- A sorted list splits at any number. -/
private theorem exists_split_of_sorted {xs : List Nat} (h : xs.Pairwise (· < ·)) (n : Nat) :
    ∃ below above, xs = below ++ above ∧ (∀ x ∈ below, x ≤ n) ∧ ∀ x ∈ above, n < x := by
  induction xs with
  | nil => exact ⟨[], [], rfl, by simp, by simp⟩
  | cons x xs ih =>
    obtain ⟨hx, hxs⟩ := List.pairwise_cons.1 h
    by_cases hle : x ≤ n
    · obtain ⟨below, above, rfl, hbelow, habove⟩ := ih hxs
      exact ⟨x :: below, above, rfl, by simpa [hle] using hbelow, habove⟩
    · refine ⟨[], x :: xs, rfl, by simp, ?_⟩
      intro y hy
      rcases List.mem_cons.1 hy with rfl | hy
      · omega
      · have := hx y hy
        omega

/-- Halving counts the entries of a sorted table that are at most `n`. -/
theorem countAtMost_eq_countP {xs : List Nat} (h : xs.Pairwise (· < ·)) (n : Nat) :
    countAtMost xs.toArray n = xs.countP (· ≤ n) := by
  obtain ⟨below, above, rfl, hbelow, habove⟩ := exists_split_of_sorted h n
  have hall : below.countP (· ≤ n) = below.length :=
    List.countP_eq_length.2 (by simpa using hbelow)
  have hnone : above.countP (· ≤ n) = 0 := List.countP_eq_zero.2 (by simpa using habove)
  rw [countAtMost_append hbelow habove, List.countP_append, hall, hnone, Nat.add_zero]

/-! ## Starts of lines -/

/-- The offsets just behind the line feeds of a text that starts at `offset`. -/
def startsFrom (offset : Nat) : List Char → List Nat
  | [] => []
  | c :: cs =>
    if c = '\n' then (offset + c.utf8Size) :: startsFrom (offset + c.utf8Size) cs
    else startsFrom (offset + c.utf8Size) cs

private theorem foldl_starts (text : List Char) (starts : Array Nat) (offset : Nat) :
    (text.foldl
      (fun (starts, offset) c =>
        let next := offset + c.utf8Size
        (if c = '\n' then starts.push next else starts, next))
      (starts, offset)).1 = (starts.toList ++ startsFrom offset text).toArray := by
  induction text generalizing starts offset with
  | nil => simp [startsFrom]
  | cons c text ih =>
    rw [List.foldl_cons, startsFrom]
    by_cases hc : c = '\n'
    · simp only [hc, if_true]
      rw [ih]
      simp
    · simp only [hc, if_false]
      rw [ih]

/-- The first line starts at zero, and the others behind line feeds. -/
theorem lineStarts_eq (text : List Char) : lineStarts text = (0 :: startsFrom 0 text).toArray := by
  unfold lineStarts
  rw [foldl_starts]
  rfl

/-- The starts in two parts of a text follow each other. -/
theorem startsFrom_append (offset : Nat) (a b : List Char) :
    startsFrom offset (a ++ b) = startsFrom offset a ++ startsFrom (offset + byteLength a) b := by
  induction a generalizing offset with
  | nil => rfl
  | cons c a ih =>
    rw [List.cons_append, startsFrom, startsFrom, ih, byteLength_cons, Nat.add_assoc]
    split <;> rfl

/-- A line starts behind each line feed. -/
theorem length_startsFrom (offset : Nat) (a : List Char) :
    (startsFrom offset a).length = a.count '\n' := by
  induction a generalizing offset with
  | nil => rfl
  | cons c a ih =>
    rw [startsFrom]
    by_cases hc : c = '\n'
    · rw [if_pos hc, List.length_cons, ih, hc, List.count_cons_self]
    · rw [if_neg hc, ih, List.count_cons_of_ne hc]

/-- All starts are behind the offset and within the text. -/
theorem startsFrom_bounds {offset x : Nat} {a : List Char} (h : x ∈ startsFrom offset a) :
    offset < x ∧ x ≤ offset + byteLength a := by
  induction a generalizing offset with
  | nil => simp [startsFrom] at h
  | cons c a ih =>
    have hpos := c.utf8Size_pos
    rw [startsFrom] at h
    rw [byteLength_cons]
    split at h
    · rcases List.mem_cons.1 h with rfl | h
      · omega
      · have := ih h
        omega
    · have := ih h
      omega

theorem startsFrom_eq_nil {offset : Nat} {a : List Char} (h : '\n' ∉ a) :
    startsFrom offset a = [] := by
  rw [← List.length_eq_zero_iff, length_startsFrom, List.count_eq_zero]
  exact h

/-- The lines that start up to a place are one more than the line feeds in front of it. -/
theorem countAtMost_lineStarts (pre post : List Char) :
    countAtMost (lineStarts (pre ++ post)) (byteLength pre) = pre.count '\n' + 1 := by
  rw [lineStarts_eq, startsFrom_append, ← List.cons_append, countAtMost_append]
  · rw [List.length_cons, length_startsFrom]
  · intro x hx
    rcases List.mem_cons.1 hx with rfl | hx
    · omega
    · have := startsFrom_bounds hx
      omega
  · intro y hy
    have := startsFrom_bounds hy
    omega

/-! ## Lines -/

/-- Whether a line starts just behind a text. -/
def EndsLine (front : List Char) : Prop := front = [] ∨ ∃ f, front = f ++ ['\n']

/-- The content of a line, which leaves out a carriage return at its end. -/
def lineContent (line : List Char) : List Char :=
  if line.getLast? = some '\r' then line.dropLast else line

/-- A line is its content, or its content and a carriage return. -/
theorem lineContent_cases (line : List Char) :
    (line.getLast? ≠ some '\r' ∧ line = lineContent line) ∨ line = lineContent line ++ ['\r'] := by
  unfold lineContent
  by_cases hcr : line.getLast? = some '\r'
  · obtain ⟨l, rfl⟩ := List.getLast?_eq_some_iff.1 hcr
    rw [if_pos hcr, List.dropLast_concat]
    exact .inr rfl
  · rw [if_neg hcr]
    exact .inl ⟨hcr, rfl⟩

theorem unitLength_lineContent (line : List Char) :
    unitLength (lineContent line) ≤ unitLength line := by
  rcases lineContent_cases line with ⟨-, hline⟩ | hline
  · exact Nat.le_of_eq (congrArg unitLength hline.symm)
  · have hlength := congrArg unitLength hline
    rw [unitLength_append] at hlength
    omega

theorem byteLength_lineContent (line : List Char) :
    byteLength (lineContent line) ≤ byteLength line := by
  rcases lineContent_cases line with ⟨-, hline⟩ | hline
  · exact Nat.le_of_eq (congrArg byteLength hline.symm)
  · have hlength := congrArg byteLength hline
    rw [byteLength_append] at hlength
    omega

theorem notMem_lineContent {line : List Char} {c : Char} (h : c ∉ line) : c ∉ lineContent line := by
  unfold lineContent
  split
  · exact fun hmem => h (List.dropLast_subset _ hmem)
  · exact h

/-- Every text consists of whole lines and the beginning of one more. -/
theorem exists_lastLine (a : List Char) :
    ∃ front last, a = front ++ last ∧ EndsLine front ∧ '\n' ∉ last := by
  induction a using List.reverseRecOn with
  | nil => exact ⟨[], [], rfl, Or.inl rfl, by simp⟩
  | append_singleton a c ih =>
    by_cases hc : c = '\n'
    · subst hc
      exact ⟨a ++ ['\n'], [], by simp, Or.inr ⟨a, rfl⟩, by simp⟩
    · obtain ⟨front, last, rfl, hfront, hlast⟩ := ih
      refine ⟨front, last ++ [c], by simp, hfront, ?_⟩
      simp [hlast, Ne.symm hc]

/-- A line ends at the first line feed or at the end of the text. -/
theorem exists_lineEnd (b : List Char) :
    ∃ line post, b = line ++ post ∧ '\n' ∉ line ∧ (post = [] ∨ ∃ p, post = '\n' :: p) := by
  induction b with
  | nil => exact ⟨[], [], rfl, by simp, Or.inl rfl⟩
  | cons c b ih =>
    by_cases hc : c = '\n'
    · exact ⟨[], c :: b, rfl, by simp, Or.inr ⟨b, by rw [hc]⟩⟩
    · obtain ⟨line, post, rfl, hline, hpost⟩ := ih
      refine ⟨c :: line, post, rfl, ?_, hpost⟩
      simp [hline, Ne.symm hc]

/-- The entry for a line in the starts of the lines of a text. -/
theorem getElem?_lineStarts {front : List Char} (hfront : EndsLine front) (rest : List Char) :
    (lineStarts (front ++ rest))[front.count '\n']? = some (byteLength front) := by
  rw [lineStarts_eq, startsFrom_append, List.getElem?_toArray, ← List.cons_append,
    List.getElem?_append_left (by simp [length_startsFrom])]
  rcases hfront with rfl | ⟨f, rfl⟩
  · simp
  · -- the last line feed of the front gives the last of its starts
    have hlen := length_startsFrom 0 f
    rw [startsFrom_append, List.count_append, ← hlen]
    simp [startsFrom]

/-- Counting gives the position of a place: the line feeds in front of it, and the width of the
beginning of its line. -/
theorem positionAt_eq {front last : List Char} (post : List Char) (hfront : EndsLine front)
    (hlast : '\n' ∉ last) :
    (IndexedText.ofText (front ++ (last ++ post))).positionAt (byteLength front + byteLength last)
      = ⟨front.count '\n', unitLength last⟩ := by
  have hfloor : floorBoundary (byteLength front + byteLength last) (front ++ (last ++ post))
      = byteLength front + byteLength last := by
    rw [← byteLength_append, ← List.append_assoc, floorBoundary_append]
  have hcount := countAtMost_lineStarts (front ++ last) post
  rw [List.append_assoc, byteLength_append, List.count_append, List.count_eq_zero.2 hlast,
    Nat.add_zero] at hcount
  have hstart : (lineStarts (front ++ (last ++ post))).getD (front.count '\n') 0
      = byteLength front := by
    rw [Array.getD_eq_getD_getElem?, getElem?_lineStarts hfront]
    rfl
  unfold IndexedText.positionAt IndexedText.ofText
  simp only [hfloor, hcount, Nat.add_sub_cancel, hstart]
  rw [dropBytes_append, Nat.add_sub_cancel_left, unitsBefore_append]

/-- The next line starts behind the line feed that ends a line, if there is one. -/
private theorem next_start (front : List Char) {line post : List Char} (hline : '\n' ∉ line)
    (hpost : post = [] ∨ ∃ p, post = '\n' :: p) :
    ((lineStarts (front ++ (line ++ post)))[front.count '\n' + 1]? = none ∧ post = []) ∨
      (lineStarts (front ++ (line ++ post)))[front.count '\n' + 1]?
        = some (byteLength front + byteLength line + 1) := by
  rcases hpost with rfl | ⟨p, rfl⟩
  · left
    refine ⟨?_, rfl⟩
    rw [Array.getElem?_eq_none_iff, lineStarts_eq, List.append_nil, startsFrom_append,
      startsFrom_eq_nil hline]
    simp [length_startsFrom]
  · right
    have hnext : EndsLine (front ++ (line ++ ['\n'])) := Or.inr ⟨front ++ line, by simp⟩
    have hget := getElem?_lineStarts hnext p
    have hcount : (front ++ (line ++ ['\n'])).count '\n' = front.count '\n' + 1 := by
      simp [List.count_eq_zero.2 hline]
    have hlf : ('\n').utf8Size = 1 := by decide
    rw [hcount, List.append_assoc, List.append_assoc, List.singleton_append] at hget
    rw [hget]
    simp only [byteLength_append, byteLength_cons, byteLength_nil, hlf]
    rw [Nat.add_assoc]

private theorem contentBounds (front line : List Char) :
    (if line.getLast? = some '\r' then
        some (byteLength front, byteLength front + byteLength line - 1)
      else some (byteLength front, byteLength front + byteLength line))
      = some (byteLength front, byteLength front + byteLength (lineContent line)) := by
  unfold lineContent
  split
  · next hcr =>
    -- the carriage return is one byte that the content leaves out
    obtain ⟨l, rfl⟩ := List.getLast?_eq_some_iff.1 hcr
    have hsize : ('\r').utf8Size = 1 := by decide
    rw [List.dropLast_concat, byteLength_append, byteLength_cons, byteLength_nil, hsize]
    rfl
  · rfl

/-- The bounds of a line are the ends of its content. -/
theorem lineBounds_eq {front line post : List Char} (hfront : EndsLine front)
    (hline : '\n' ∉ line) (hpost : post = [] ∨ ∃ p, post = '\n' :: p) :
    (IndexedText.ofText (front ++ (line ++ post))).lineBounds (front.count '\n')
      = some (byteLength front, byteLength front + byteLength (lineContent line)) := by
  unfold IndexedText.lineBounds IndexedText.ofText
  simp only [getElem?_lineStarts hfront]
  rcases next_start front hline hpost with ⟨hnext, rfl⟩ | hnext
  · have hstop : byteLength (front ++ (line ++ [])) = byteLength front + byteLength line := by simp
    simp only [hnext, hstop, slice_append]
    exact contentBounds front line
  · simp only [hnext, Nat.add_sub_cancel, slice_append]
    exact contentBounds front line

/-- The offset of a column of a line is counted in its content. -/
theorem offsetAt_eq {front line post : List Char} (u : Nat) (hfront : EndsLine front)
    (hline : '\n' ∉ line) (hpost : post = [] ∨ ∃ p, post = '\n' :: p) :
    (IndexedText.ofText (front ++ (line ++ post))).offsetAt ⟨front.count '\n', u⟩
      = byteLength front + bytesBefore u (lineContent line) := by
  obtain ⟨cut, hcut⟩ : ∃ cut, line = lineContent line ++ cut := by
    rcases lineContent_cases line with ⟨-, hline⟩ | hline
    · exact ⟨[], by rw [List.append_nil]; exact hline⟩
    · exact ⟨['\r'], hline⟩
  have hslice : slice (byteLength front) (byteLength front + byteLength (lineContent line))
      (front ++ (line ++ post)) = lineContent line := by
    have hsplit : line ++ post = lineContent line ++ (cut ++ post) := by
      rw [← List.append_assoc, ← hcut]
    rw [hsplit, slice_append]
  unfold IndexedText.offsetAt
  rw [lineBounds_eq hfront hline hpost]
  show byteLength front + bytesBefore u (slice _ _ (front ++ (line ++ post))) = _
  rw [hslice]

/-! ## Places -/

/-- Whether a place is just behind a carriage return that its line leaves out. -/
def BehindReturn (pre post : List Char) : Prop :=
  pre.getLast? = some '\r' ∧ (post = [] ∨ ∃ p, post = '\n' :: p)

instance (pre post : List Char) : Decidable (BehindReturn pre post) :=
  decidable_of_iff (pre.getLast? = some '\r' ∧ (post = [] ∨ post.head? = some '\n')) (by
    unfold BehindReturn
    rw [List.head?_eq_some_iff])

/-- What the content of a line leaves out is behind the place. -/
theorem exists_lineContent_behind {front last more post : List Char}
    (h : ¬ BehindReturn (front ++ last) (more ++ post)) (hpost : post = [] ∨ ∃ p, post = '\n' :: p) :
    ∃ tail, lineContent (last ++ more) = last ++ tail ∧ (more = tail ∨ more = tail ++ ['\r']) := by
  unfold lineContent
  split
  · next hcr =>
    rcases List.eq_nil_or_concat more with rfl | ⟨tail, c, rfl⟩
    · exfalso
      rw [List.append_nil] at hcr
      obtain ⟨l, rfl⟩ := List.getLast?_eq_some_iff.1 hcr
      exact h ⟨by simp, hpost⟩
    · have hc : c = '\r' := by simpa using hcr
      refine ⟨tail, ?_, Or.inr (by rw [List.concat_eq_append, hc])⟩
      rw [List.concat_eq_append, ← List.append_assoc, List.dropLast_concat]
  · exact ⟨more, rfl, Or.inl rfl⟩

/-- The offset of the position of a place is the place, unless its line leaves it out. -/
theorem offsetAt_positionAt {pre post : List Char} (h : ¬ BehindReturn pre post) :
    (IndexedText.ofText (pre ++ post)).offsetAt
      ((IndexedText.ofText (pre ++ post)).positionAt (byteLength pre)) = byteLength pre := by
  obtain ⟨front, last, rfl, hfront, hlast⟩ := exists_lastLine pre
  obtain ⟨more, post, rfl, hmore, hpost⟩ := exists_lineEnd post
  have hpos := positionAt_eq (more ++ post) hfront hlast
  rw [List.append_assoc, byteLength_append, hpos]
  have hline : '\n' ∉ last ++ more := by simp [hlast, hmore]
  have hoff := offsetAt_eq (unitLength last) hfront hline hpost
  rw [List.append_assoc] at hoff
  rw [hoff]
  -- the beginning of the line is a beginning of its content
  obtain ⟨tail, htail, -⟩ := exists_lineContent_behind h hpost
  rw [htail, bytesBefore_append]

/-- A place further on has a greater position. -/
theorem positionAt_lt (a : List Char) {b : List Char} (hb : b ≠ []) (c : List Char) :
    (IndexedText.ofText (a ++ (b ++ c))).positionAt (byteLength a)
      < (IndexedText.ofText (a ++ (b ++ c))).positionAt (byteLength (a ++ b)) := by
  obtain ⟨front, last, rfl, hfront, hlast⟩ := exists_lastLine a
  obtain ⟨before, line, rfl, hbefore, hline⟩ := exists_lastLine b
  have hstart := positionAt_eq ((before ++ line) ++ c) hfront hlast
  rcases hbefore with rfl | ⟨f, rfl⟩
  · -- both places are in one line
    have hlasts : '\n' ∉ last ++ line := by simp [hlast, hline]
    have hstop := positionAt_eq c hfront hlasts
    have hwidth : 0 < unitLength line := by
      obtain ⟨d, ds, hcons⟩ := List.exists_cons_of_ne_nil (show line ≠ [] by simpa using hb)
      rw [hcons, unitLength_cons]
      exact Nat.add_pos_left (unitSize_pos d) _
    simp only [List.nil_append, List.append_assoc, byteLength_append] at hstart hstop ⊢
    rw [hstart, hstop]
    refine .inr ⟨rfl, ?_⟩
    show unitLength last < unitLength (last ++ line)
    rw [unitLength_append]
    omega
  · -- a line ends between them
    have hends : EndsLine (front ++ last ++ (f ++ ['\n'])) := .inr ⟨front ++ last ++ f, by simp⟩
    have hstop := positionAt_eq c hends hline
    simp only [List.append_assoc, byteLength_append, Nat.add_assoc] at hstart hstop ⊢
    rw [hstart, hstop]
    refine .inl ?_
    show front.count '\n' < (front ++ (last ++ (f ++ ['\n']))).count '\n'
    simp only [List.count_append, List.count_singleton_self]
    omega

/-- Positions are ordered as the places in a text are. -/
theorem positionAt_lt_of_lt {text a b a' b' : List Char} (h : text = a ++ b) (h' : text = a' ++ b')
    (hlt : byteLength a < byteLength a') :
    (IndexedText.ofText text).positionAt (byteLength a)
      < (IndexedText.ofText text).positionAt (byteLength a') := by
  rcases List.append_eq_append_iff.1 (h.symm.trans h') with ⟨m, rfl, rfl⟩ | ⟨m, rfl, -⟩
  · subst h
    refine positionAt_lt a ?_ b'
    rintro rfl
    simp at hlt
  · rw [byteLength_append] at hlt
    omega

/-- Later places have later positions. -/
theorem positionAt_le_of_le {text a b a' b' : List Char} (h : text = a ++ b) (h' : text = a' ++ b')
    (hle : byteLength a ≤ byteLength a') :
    (IndexedText.ofText text).positionAt (byteLength a)
      ≤ (IndexedText.ofText text).positionAt (byteLength a') := by
  rcases Nat.lt_or_eq_of_le hle with hlt | heq
  · rcases positionAt_lt_of_lt h h' hlt with hline | ⟨hline, hcharacter⟩
    · exact .inl hline
    · exact .inr ⟨hline, Nat.le_of_lt hcharacter⟩
  · rw [heq]
    exact .inr ⟨rfl, Nat.le_refl _⟩

/-- The position of an offset in a first part does not depend on what follows the part. -/
theorem positionAt_front {n : Nat} {a : List Char} (h : n ≤ byteLength a) (b b' : List Char) :
    (IndexedText.ofText (a ++ b)).positionAt n = (IndexedText.ofText (a ++ b')).positionAt n := by
  obtain ⟨p, q, rfl, hfloor⟩ := floorBoundary_prefix h
  -- both offsets count as the end of `p`
  have hend : ∀ r, (IndexedText.ofText ((p ++ q) ++ r)).positionAt n
      = (IndexedText.ofText ((p ++ q) ++ r)).positionAt (byteLength p) := by
    intro r
    unfold IndexedText.positionAt IndexedText.ofText
    have hp : floorBoundary (byteLength p) ((p ++ q) ++ r) = byteLength p := by
      rw [List.append_assoc, floorBoundary_append]
    simp only [hfloor r, hp]
  rw [hend b, hend b']
  obtain ⟨front, last, rfl, hfront, hlast⟩ := exists_lastLine p
  rw [byteLength_append]
  simp only [List.append_assoc]
  rw [positionAt_eq _ hfront hlast, positionAt_eq _ hfront hlast]

/-- The column of a place, read in a text where a line feed follows, leads to the end of the content
of the line. -/
theorem offsetAt_clamped {front last : List Char} {u : Nat} (post : List Char)
    (hfront : EndsLine front) (hlast : '\n' ∉ last) (hu : unitLength last ≤ u) :
    (IndexedText.ofText (front ++ (last ++ '\n' :: post))).offsetAt ⟨front.count '\n', u⟩
      = byteLength front + byteLength (lineContent last) := by
  rw [offsetAt_eq u hfront hlast (Or.inr ⟨post, rfl⟩)]
  have hcontent := unitLength_lineContent last
  rw [bytesBefore_of_le (by omega)]

end StatementLens
