import Mathlib.Data.List.Infix
import StatementLens.Text.Lowercase

/-!
# Words in lower case

The lower-case form of a text has ASCII letters that its ASCII capitals do not account for: the first half of
the form of a capital I with a dot, and the form of the sign for kelvin. A word of ASCII letters without a
`k` that does not end in an `i` is not touched by either. So it stands in the lower-case form of a text just
if it stands in the text in any ASCII case (`infix_lowercase_iff`), and it makes no difference which of its
two lower-case forms a capital sigma is given.
-/

namespace StatementLens.Text

/-! ## Capitals -/

theorem toLower_of_not_upper {c : Char} (h : c.toNat < 65 ∨ 90 < c.toNat) : c.toLower = c := by
  unfold Char.toLower
  rw [dif_neg]
  rintro ⟨hlow, hhigh⟩
  have hlow := UInt32.le_iff_toNat_le.1 hlow
  have hhigh := UInt32.le_iff_toNat_le.1 hhigh
  have hc : c.toNat = c.val.toNat := rfl
  simp at hlow hhigh
  omega

theorem toLower_toLower (c : Char) : c.toLower.toLower = c.toLower := by
  by_cases h : c.toNat < 65 ∨ 90 < c.toNat
  · rw [toLower_of_not_upper h, toLower_of_not_upper h]
  · have hupper : ∀ n < 91, (Char.ofNat n).toLower.toLower = (Char.ofNat n).toLower := by decide +kernel
    have hc := hupper c.toNat (by omega)
    rwa [Char.ofNat_toNat] at hc

theorem toNat_ofNat {n : Nat} (h : n.isValidChar) : (Char.ofNat n).toNat = n := by
  unfold Char.ofNat
  rw [dif_pos h]
  rfl

theorem toLower_ofNat {n : Nat} (h : 90 < n) : (Char.ofNat n).toLower = Char.ofNat n := by
  by_cases hvalid : n.isValidChar
  · apply toLower_of_not_upper
    right
    rw [toNat_ofNat hvalid]
    exact h
  · have hzero : Char.ofNat n = Char.ofNat 0 := by
      unfold Char.ofNat
      rw [dif_neg hvalid]
      rfl
    rw [hzero]
    decide

/-- Lower-case forms are in lower case. -/
theorem toLower_of_mem_lowercase {cs : List Char} {c : Char} (h : c ∈ lowercase cs) : c.toLower = c := by
  obtain ⟨d, -, hc⟩ := List.mem_flatMap.1 h
  unfold lowercaseChar at hc
  split at hc
  · rw [List.mem_singleton.1 hc]
    exact toLower_toLower d
  · split at hc
    · simp only [List.mem_cons, List.not_mem_nil, or_false] at hc
      rcases hc with rfl | rfl <;> decide
    · split at hc
      · next run hrun =>
        rw [List.mem_singleton.1 hc]
        have htargets : ∀ run ∈ capitalRuns, 90 < run.target := by decide +kernel
        have htarget := htargets run (Array.mem_of_find?_eq_some hrun)
        exact toLower_ofNat (by omega)
      · rw [List.mem_singleton.1 hc]
        exact toLower_of_not_upper (by omega)

theorem lowercase_eq_self {cs : List Char} (h : ∀ c ∈ cs, c.toNat < 0x80 ∧ c.toLower = c) :
    lowercase cs = cs := by
  unfold lowercase
  induction cs with
  | nil => rfl
  | cons c cs ih =>
    obtain ⟨hascii, hlower⟩ := h c List.mem_cons_self
    rw [List.flatMap_cons, ih fun d hd => h d (List.mem_cons_of_mem c hd), lowercaseChar, if_pos hascii, hlower]
    rfl

/-! ## Forms of characters -/

/-- The lower-case form of a character is one character of the same side of ASCII, with two exceptions. -/
theorem lowercaseChar_cases (c : Char) :
    (c.toNat < 0x80 ∧ lowercaseChar c = [c.toLower]) ∨
      (0x80 ≤ c.toNat ∧ lowercaseChar c = ['i', Char.ofNat 0x307]) ∨
      (0x80 ≤ c.toNat ∧ ∃ d, lowercaseChar c = [d] ∧ (d = 'k' ∨ 0x80 ≤ d.toNat)) := by
  unfold lowercaseChar
  split
  case isTrue hascii => exact .inl ⟨hascii, rfl⟩
  case isFalse hbeyond =>
    have hle : 0x80 ≤ c.toNat := by omega
    split
    case isTrue => exact .inr (.inl ⟨hle, rfl⟩)
    case isFalse =>
      refine .inr (.inr ⟨hle, ?_⟩)
      split
      case h_1 run hrun =>
        have hruns : ∀ run ∈ capitalRuns, run.first = 0x212A ∧ run.last = 0x212A ∧ run.target = 0x6B ∨
            0x80 ≤ run.target ∧ (run.target + (run.last - run.first) < 0xD800 ∨
              0xDFFF < run.target ∧ run.target + (run.last - run.first) < 0x110000) := by decide +kernel
        have hholds := Array.find?_some hrun
        simp only [CapitalRun.holds, Bool.and_eq_true, decide_eq_true_eq] at hholds
        refine ⟨_, rfl, ?_⟩
        rcases hruns run (Array.mem_of_find?_eq_some hrun) with ⟨hfirst, hlast, htarget⟩ | ⟨htarget, hvalid⟩
        · left
          have hzero : run.target + (c.toNat - run.first) = 0x6B := by omega
          rw [hzero]
        · right
          rw [toNat_ofNat]
          · omega
          · simp only [Nat.isValidChar]
            omega
      case h_2 => exact ⟨c, rfl, .inr hle⟩

/-- A lower-case form of a text. A capital sigma has two forms, of which the second belongs to the ends of
words. -/
inductive IsLowercase : List Char → List Char → Prop where
  | nil : IsLowercase [] []
  | cons {cs lower : List Char} (c : Char) (rest : IsLowercase cs lower) :
      IsLowercase (c :: cs) (lowercaseChar c ++ lower)
  | finalSigma {cs lower : List Char} (rest : IsLowercase cs lower) :
      IsLowercase ('Σ' :: cs) ('ς' :: lower)

theorem isLowercase_lowercase (cs : List Char) : IsLowercase cs (lowercase cs) := by
  unfold lowercase
  induction cs with
  | nil => exact .nil
  | cons c cs ih =>
    rw [List.flatMap_cons]
    exact .cons c ih

/-! ## Words -/

/-- Whether a word is one that lower-casing neither makes nor breaks. -/
structure IsSteady (word : List Char) : Prop where
  ascii : ∀ c ∈ word, c.toNat < 0x80
  no_k : 'k' ∉ word
  last : word.getLast? ≠ some 'i'

theorem IsSteady.tail {c : Char} {word : List Char} (h : IsSteady (c :: word)) : IsSteady word where
  ascii d hd := h.ascii d (List.mem_cons_of_mem c hd)
  no_k hk := h.no_k (List.mem_cons_of_mem c hk)
  last hi := by
    refine h.last ?_
    rw [List.getLast?_cons, hi]
    rfl

/-- No form of a character beyond ASCII begins a steady word. -/
theorem IsSteady.not_prefix {word : List Char} (h : IsSteady word) (hne : word ≠ []) {c : Char}
    (hc : 0x80 ≤ c.toNat) (lower : List Char) : ¬ word <+: lowercaseChar c ++ lower := by
  obtain ⟨a, word, rfl⟩ := List.exists_cons_of_ne_nil hne
  have ha : a.toNat < 0x80 := h.ascii a List.mem_cons_self
  rcases lowercaseChar_cases c with ⟨hascii, -⟩ | ⟨-, hform⟩ | ⟨-, d, hform, hd⟩
  · omega
  · rw [hform, List.cons_append, List.cons_prefix_cons]
    rintro ⟨rfl, hprefix⟩
    -- the dot that follows the letter does not go on with the word
    cases word with
    | nil => exact h.last rfl
    | cons b word =>
      obtain ⟨rfl, -⟩ := List.cons_prefix_cons.1 hprefix
      exact absurd (h.tail.ascii _ List.mem_cons_self) (by decide)
  · rw [hform, List.cons_append, List.cons_prefix_cons]
    rintro ⟨rfl, -⟩
    rcases hd with rfl | hd
    · exact h.no_k List.mem_cons_self
    · omega

/-- A word stands at the front of a lower-case form if it stands at the front of the text in any ASCII
case. -/
theorem prefix_lowercase_iff {word cs lower : List Char} (hlower : IsLowercase cs lower)
    (h : IsSteady word) : word <+: lower ↔ word <+: cs.map Char.toLower := by
  induction hlower generalizing word with
  | nil => rfl
  | @cons cs lower c rest ih =>
    cases word with
    | nil => simp
    | cons a word =>
      rw [List.map_cons, List.cons_prefix_cons]
      rcases Nat.lt_or_ge c.toNat 0x80 with hc | hc
      · rw [lowercaseChar, if_pos hc, List.cons_append, List.cons_prefix_cons, List.nil_append, ih h.tail]
      · refine iff_of_false (h.not_prefix (List.cons_ne_nil a word) hc lower) ?_
        rintro ⟨rfl, -⟩
        have ha := h.ascii _ List.mem_cons_self
        rw [toLower_of_not_upper (by omega)] at ha
        omega
  | @finalSigma cs lower rest ih =>
    cases word with
    | nil => simp
    | cons a word =>
      have ha : a.toNat < 0x80 := h.ascii a List.mem_cons_self
      rw [List.map_cons, List.cons_prefix_cons, List.cons_prefix_cons]
      refine iff_of_false ?_ ?_
      · rintro ⟨rfl, -⟩
        exact absurd ha (by decide)
      · rintro ⟨rfl, -⟩
        exact absurd ha (by decide)

/-- A word that stands in a lower-case form does not begin inside the form of a character. -/
theorem IsSteady.infix_form_iff {word : List Char} (h : IsSteady word) (hne : word ≠ []) (c : Char)
    (lower : List Char) :
    word <:+: lowercaseChar c ++ lower ↔ word <+: lowercaseChar c ++ lower ∨ word <:+: lower := by
  rcases lowercaseChar_cases c with ⟨-, hform⟩ | ⟨-, hform⟩ | ⟨-, d, hform, -⟩
  · rw [hform]
    exact List.infix_cons_iff
  · have hdot : ¬ word <+: Char.ofNat 0x307 :: lower := by
      obtain ⟨a, word, rfl⟩ := List.exists_cons_of_ne_nil hne
      rw [List.cons_prefix_cons]
      rintro ⟨rfl, -⟩
      exact absurd (h.ascii _ List.mem_cons_self) (by decide)
    rw [hform, List.cons_append, List.cons_append, List.nil_append, List.infix_cons_iff, List.infix_cons_iff,
      or_iff_right hdot]
  · rw [hform]
    exact List.infix_cons_iff

/-- A word stands in a lower-case form if it stands in the text in any ASCII case. -/
theorem infix_lowercase_iff {word cs lower : List Char} (hlower : IsLowercase cs lower)
    (h : IsSteady word) (hne : word ≠ []) : word <:+: lower ↔ word <:+: cs.map Char.toLower := by
  have hprefix := prefix_lowercase_iff hlower h
  induction hlower with
  | nil => rfl
  | @cons cs lower c rest ih =>
    have hrest : word <:+: lower ↔ word <:+: cs.map Char.toLower := ih (prefix_lowercase_iff rest h)
    rw [h.infix_form_iff hne, hprefix, hrest, List.map_cons, List.infix_cons_iff]
  | @finalSigma cs lower rest ih =>
    have hrest : word <:+: lower ↔ word <:+: cs.map Char.toLower := ih (prefix_lowercase_iff rest h)
    rw [List.infix_cons_iff, hprefix, hrest, List.map_cons, List.infix_cons_iff]

end StatementLens.Text
