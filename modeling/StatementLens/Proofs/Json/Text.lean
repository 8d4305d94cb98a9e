import StatementLens.Json.Reader
import StatementLens.Json.Width
import StatementLens.Json.Writer
import StatementLens.Proofs.Json.Within
import StatementLens.Proofs.Spans

/-!
# Reading written values

What is written for a value is read as the same value, but for the order of the fields in its objects
(`exists_parse_write`). Each kind of values is read back in front of any text that cannot go on with it:
only the digits of a number could.
-/

namespace StatementLens.Json

open Text

/-! ## Blanks -/

/-- Nothing is skipped where no blank stands. -/
theorem skipSpace_of_stopsAt {cs : List Char} (h : StopsAt isSpace cs) (o : Nat) :
    skipSpace ⟨o, cs⟩ = ⟨o, cs⟩ := by
  unfold skipSpace Span.dropWhile
  rw [← List.nil_append cs, splitWhile_append (List.forall_mem_nil _) h]
  rfl

/-! ## Strings -/

/-- Plain characters are written as they are. -/
theorem escapeChar_of_isPlain {c : Char} (h : isPlain c = true) : escapeChar c = [c] := by
  simp only [isPlain, Bool.and_eq_true, decide_eq_true_eq] at h
  obtain ⟨⟨hquote, hbackslash⟩, hcontrol⟩ := h
  have hne : ∀ {d : Char}, d.toNat < 0x20 → c ≠ d := by
    rintro d hd rfl
    omega
  unfold escapeChar
  rw [if_neg hquote, if_neg hbackslash, if_neg (hne (by decide)), if_neg (hne (by decide)),
    if_neg (hne (by decide)), if_neg (by omega), if_neg (by omega), if_neg (by omega)]

/-- Four hexadecimal digits write each number of a control character. -/
theorem hexNumber_control {n : Nat} (h : n < 32) :
    hexNumber ['0', '0', hexDigit (n / 16), hexDigit (n % 16)] = some n ∧
      byteLength ['0', '0', hexDigit (n / 16), hexDigit (n % 16)] = 4 := by
  have hall : ∀ n : Fin 32, hexNumber ['0', '0', hexDigit (n / 16), hexDigit (n % 16)] = some n.val ∧
      byteLength ['0', '0', hexDigit (n / 16), hexDigit (n % 16)] = 4 := by decide
  exact hall ⟨n, h⟩

/-- Four digits are read as their number. -/
theorem readHex_append {digits : List Char} {n : Nat} (hcount : digits.length = 4)
    (hlength : byteLength digits = 4) (hnumber : hexNumber digits = some n) (o : Nat) (tail : List Char) :
    readHex ⟨o, digits ++ tail⟩ = .ok (n, ⟨o + 4, tail⟩) := by
  simp only [readHex, Span.drop, List.take_left' hcount, List.drop_left' hcount, hlength, hnumber,
    Nat.lt_irrefl, if_false]

/-- A control character is read back from its four digits. -/
theorem readCodePoint_control {c : Char} (h : c.toNat < 0x20) (o : Nat) (tail : List Char) :
    readCodePoint ⟨o, ['0', '0', hexDigit (c.toNat / 16), hexDigit (c.toNat % 16)] ++ tail⟩
      = .ok (c, ⟨o + 4, tail⟩) := by
  obtain ⟨hnumber, hlength⟩ := hexNumber_control h
  have htrailing : isTrailing c.toNat = false := by
    simp only [isTrailing, Bool.and_eq_false_iff, decide_eq_false_iff_not]
    omega
  have hleading : isLeading c.toNat = false := by
    simp only [isLeading, Bool.and_eq_false_iff, decide_eq_false_iff_not]
    omega
  unfold readCodePoint
  rw [readHex_append rfl hlength hnumber]
  simp [htrailing, hleading, bind, Except.bind, pure, Except.pure]

/-- A character that does not stand for itself is read back from its escape. -/
theorem readEscape_escapeChar {c : Char} (h : isPlain c = false) :
    ∃ cs, escapeChar c = '\\' :: cs ∧
      ∀ o tail, ∃ o', readEscape ⟨o, cs ++ tail⟩ = .ok (c, ⟨o', tail⟩) := by
  have hof : ∀ {n : Nat}, c.toNat = n → c = Char.ofNat n := by
    rintro n rfl
    exact (Char.ofNat_toNat c).symm
  -- most escapes are a single letter
  have hletter : ∀ {letter d : Char}, c = d →
      (∀ o tail, readEscape ⟨o, letter :: tail⟩ = .ok (d, ⟨o + letter.utf8Size, tail⟩)) →
      ∃ cs, ['\\', letter] = '\\' :: cs ∧
        ∀ o tail, ∃ o', readEscape ⟨o, cs ++ tail⟩ = .ok (c, ⟨o', tail⟩) := by
    rintro letter d rfl hread
    exact ⟨[letter], rfl, fun o tail => ⟨_, hread o tail⟩⟩
  unfold escapeChar
  split_ifs with hquote hbackslash hnewline hreturn htab hback hfeed hcontrol
  · exact hletter hquote fun o tail => rfl
  · exact hletter hbackslash fun o tail => rfl
  · exact hletter hnewline fun o tail => rfl
  · exact hletter hreturn fun o tail => rfl
  · exact hletter htab fun o tail => rfl
  · exact hletter (hof hback) fun o tail => rfl
  · exact hletter (hof hfeed) fun o tail => rfl
  · exact ⟨_, rfl, fun o tail => ⟨_, readCodePoint_control hcontrol _ tail⟩⟩
  · have hplain : isPlain c = true := by
      simp only [isPlain, Bool.and_eq_true, decide_eq_true_eq]
      exact ⟨⟨hquote, hbackslash⟩, by omega⟩
    rw [hplain] at h
    cases h

/-- A text of plain characters is written as it is. -/
theorem flatMap_escapeChar_of_isPlain {cs : List Char} (h : ∀ c ∈ cs, isPlain c = true) :
    cs.flatMap escapeChar = cs := by
  induction cs with
  | nil => rfl
  | cons c cs ih =>
    obtain ⟨hc, hcs⟩ := List.forall_mem_cons.1 h
    rw [List.flatMap_cons, escapeChar_of_isPlain hc, ih hcs]
    rfl

/-- A string is read in pieces that stand for themselves and escapes between them. -/
theorem readStringOnto_escape {cs : List Char} {fuel : Nat} (hfuel : cs.length < fuel)
    (pieces : List (List Char)) (o : Nat) (tail : List Char) :
    ∃ o', readStringOnto fuel pieces ⟨o, cs.flatMap escapeChar ++ '"' :: tail⟩
      = .ok (String.ofList (pieces.reverse.flatten ++ cs), ⟨o', tail⟩) := by
  induction fuel generalizing cs pieces o with
  | zero => omega
  | succ fuel ih =>
    obtain ⟨plain, rest, rfl, hplain, hrest, -⟩ := exists_span isPlain cs
    rw [List.flatMap_append, flatMap_escapeChar_of_isPlain hplain, List.append_assoc]
    cases rest with
    | nil =>
      have hstop : StopsAt isPlain ('"' :: tail) := stopsAt_cons.2 (by decide)
      refine ⟨o + byteLength plain + '"'.utf8Size, ?_⟩
      unfold readStringOnto
      rw [List.flatMap_nil, List.nil_append, splitWhile_append hplain hstop]
      simp [Span.head?, Span.tail, pure, Except.pure]
    | cons c rest =>
      obtain ⟨escape, hescape, hread⟩ := readEscape_escapeChar (stopsAt_cons.1 hrest)
      have hstop : StopsAt isPlain ((c :: rest).flatMap escapeChar ++ '"' :: tail) := by
        rw [List.flatMap_cons, hescape]
        exact stopsAt_cons.2 (by decide)
      obtain ⟨o', hc⟩ := hread (o + byteLength plain + '\\'.utf8Size) (rest.flatMap escapeChar ++ '"' :: tail)
      have hshorter : rest.length < fuel := by
        rw [List.length_append, List.length_cons] at hfuel
        omega
      obtain ⟨o'', hrest⟩ := ih hshorter ([c] :: plain :: pieces) o'
      refine ⟨o'', ?_⟩
      unfold readStringOnto
      rw [splitWhile_append hplain hstop, List.flatMap_cons, hescape, List.cons_append, List.cons_append,
        List.append_assoc]
      show (readEscape ⟨o + byteLength plain + '\\'.utf8Size, _⟩ >>= fun p =>
        readStringOnto fuel ([p.1] :: plain :: pieces) p.2) = _
      rw [hc]
      exact hrest.trans (by simp)

/-- Escaping never makes a text shorter, so the text that is written is fuel enough. -/
theorem length_le_length_escape (cs : List Char) : cs.length ≤ (cs.flatMap escapeChar).length := by
  induction cs with
  | nil => exact Nat.le_refl _
  | cons c cs ih =>
    have hpos : 0 < (escapeChar c).length := by
      cases hplain : isPlain c with
      | true => simp [escapeChar_of_isPlain hplain]
      | false =>
        obtain ⟨escape, hescape, -⟩ := readEscape_escapeChar hplain
        simp [hescape]
    rw [List.flatMap_cons, List.length_append, List.length_cons]
    omega

/-- A string stands between two quotes. -/
theorem toList_writeString (t : String) :
    (writeString t).toList = '"' :: (t.toList.flatMap escapeChar ++ ['"']) := by
  unfold writeString
  rw [String.toList_ofList, List.cons_append]

/-- A string is read back behind its opening quote. -/
theorem readString_escape (t : String) (o : Nat) (tail : List Char) :
    ∃ o', readString ⟨o, t.toList.flatMap escapeChar ++ '"' :: tail⟩ = .ok (t, ⟨o', tail⟩) := by
  have hfuel : t.toList.length < (t.toList.flatMap escapeChar ++ '"' :: tail).length + 1 := by
    have hle := length_le_length_escape t.toList
    rw [List.length_append]
    omega
  obtain ⟨o', hread⟩ := readStringOnto_escape hfuel [] o tail
  refine ⟨o', hread.trans ?_⟩
  rw [List.reverse_nil, List.flatten_nil, List.nil_append, String.ofList_toList]

/-! ## Numbers -/

/-- Whether a character goes on with a number. -/
def isNumberPart (c : Char) : Bool := c.isDigit || c = '.' || c = 'e' || c = 'E'

/-- Only zero is written with a leading zero. -/
theorem head?_toDigits_ne_zero {n : Nat} (h : n ≠ 0) : (Nat.toDigits 10 n).head? ≠ some '0' := by
  induction n using Nat.strong_induction_on with
  | _ n ih =>
    by_cases hlt : n < 10
    · have hall : ∀ m : Fin 10, m.val ≠ 0 → [Nat.digitChar m].head? ≠ some '0' := by decide
      rw [Nat.toDigits_of_lt_base hlt]
      exact hall ⟨n, hlt⟩ h
    · rw [Nat.toDigits_of_base_le (by decide) (by omega),
        List.head?_append_of_ne_nil _ Nat.toDigits_ne_nil]
      exact ih (n / 10) (by omega) (by omega)

/-- A number has at least one digit. -/
theorem exists_toDigits_cons (n : Nat) :
    ∃ c cs, Nat.toDigits 10 n = c :: cs ∧ c.isDigit = true := by
  obtain ⟨c, cs, hcons⟩ := List.exists_cons_of_ne_nil (Nat.toDigits_ne_nil (n := n) (b := 10))
  exact ⟨c, cs, hcons, Nat.isDigit_of_mem_toDigits (by decide) (by decide) (hcons ▸ List.mem_cons_self)⟩

theorem ne_of_isDigit {c d : Char} (hc : c.isDigit = true) (hd : d.isDigit = false) : c ≠ d := by
  rintro rfl
  rw [hc] at hd
  cases hd

theorem isSpace_of_isDigit {c : Char} (h : c.isDigit = true) : isSpace c = false := by
  simp only [isSpace, Bool.or_eq_false_iff, decide_eq_false_iff_not]
  exact ⟨⟨⟨ne_of_isDigit h (by decide), ne_of_isDigit h (by decide)⟩, ne_of_isDigit h (by decide)⟩,
    ne_of_isDigit h (by decide)⟩

/-- The digits of a number have its value. -/
theorem decimalValue_toDigits (n : Nat) : decimalValue (Nat.toDigits 10 n) = n :=
  Nat.ofDigitChars_toDigits (by decide) (by decide)

/-- There is no fraction where the number stops. -/
theorem readFraction_of_stopsAt {tail : List Char} (h : StopsAt isNumberPart tail) (o : Nat) :
    readFraction ⟨o, tail⟩ = .ok ([], ⟨o, tail⟩) := by
  unfold readFraction
  rw [if_neg]
  intro hhead
  have hdot := h '.' hhead
  revert hdot
  decide

/-- Nor is there an exponent. -/
theorem readExponent_of_stopsAt {tail : List Char} (h : StopsAt isNumberPart tail) (o : Nat) :
    readExponent ⟨o, tail⟩ = .ok (none, ⟨o, tail⟩) := by
  unfold readExponent
  rw [if_neg]
  rw [Bool.or_eq_true, decide_eq_true_iff, decide_eq_true_iff]
  rintro (hhead | hhead)
  · have hmark := h 'e' hhead
    revert hmark
    decide
  · have hmark := h 'E' hhead
    revert hmark
    decide

/-- A number is read back in front of what does not go on with it. -/
theorem readNumber_toDigits {n : Nat} (hn : n < Nat.pow 2 64) {tail : List Char}
    (htail : StopsAt isNumberPart tail) (o : Nat) :
    ∃ o', readNumber false ⟨o, Nat.toDigits 10 n ++ tail⟩ = .ok (.int n, ⟨o', tail⟩) := by
  have hdigits : ∀ c ∈ Nat.toDigits 10 n, c.isDigit = true := fun c hc =>
    Nat.isDigit_of_mem_toDigits (by decide) (by decide) hc
  have hstop : StopsAt Char.isDigit tail := by
    intro c hc
    have hpart := htail c hc
    simp only [isNumberPart, Bool.or_eq_false_iff] at hpart
    exact hpart.1.1.1
  have hnone : (tail.head?.map Char.isDigit).getD false = false := by
    cases hhead : tail.head? with
    | none => rfl
    | some c => exact hstop c hhead
  obtain ⟨c, ds, hcons, hc⟩ := exists_toDigits_cons n
  -- a leading zero stands alone, so that both ways of cutting the digits off lead to all of them
  have hwhole : (if c = '0' then (['0'], Span.tail ⟨o, Nat.toDigits 10 n ++ tail⟩)
        else Span.splitWhile Char.isDigit ⟨o, Nat.toDigits 10 n ++ tail⟩)
      = (Nat.toDigits 10 n, ⟨o + byteLength (Nat.toDigits 10 n), tail⟩) := by
    split
    case isTrue hzero =>
      have hn : n = 0 := by
        by_contra hne
        exact head?_toDigits_ne_zero hne (by rw [hcons, hzero]; rfl)
      rw [hn]
      rfl
    case isFalse => exact splitWhile_append hdigits hstop o
  have hhead : Span.head? ⟨o, Nat.toDigits 10 n ++ tail⟩ = some c := by
    rw [hcons]
    rfl
  have hrest : Span.head? ⟨o + byteLength (Nat.toDigits 10 n), tail⟩ = tail.head? := rfl
  refine ⟨o + byteLength (Nat.toDigits 10 n), ?_⟩
  unfold readNumber
  rw [hhead]
  simp only [hc, Bool.not_true, Bool.false_eq_true, if_false, hwhole, hrest, hnone, Bool.and_false,
    readFraction_of_stopsAt htail]
  simp [hn, bind, Except.bind, pure, Except.pure, decimalValue_toDigits, readExponent_of_stopsAt htail]

/-- A digit begins a number. -/
theorem readScalar_of_isDigit {c : Char} (h : c.isDigit = true) (s : Span) :
    readScalar c s = readNumber false s := by
  unfold readScalar
  split
  case h_6 => rw [if_pos h]
  all_goals exact absurd h (by decide)

/-! ## Values that are read back -/

mutual

/-- Whether a value is read back from its text: it has no numbers but natural ones of 64 bits, its objects
have different keys, and it nests less deep than `depth`. -/
def Readable (depth : Nat) : Json → Prop
  | .int n => 0 ≤ n ∧ n < widthCount 64
  | .float _ => False
  | .arr items => 1 < depth ∧ ReadableItems (depth - 1) items
  | .obj row => 1 < depth ∧ (row.map Prod.fst).Nodup ∧ ReadableFields (depth - 1) row
  | _ => True

/-- The same for all items of a list. -/
def ReadableItems (depth : Nat) : List Json → Prop
  | [] => True
  | j :: items => Readable depth j ∧ ReadableItems depth items

/-- The same for the values of all fields. -/
def ReadableFields (depth : Nat) : List (String × Json) → Prop
  | [] => True
  | field :: row => Readable depth field.2 ∧ ReadableFields depth row

end

/-! ## Lists and objects as they are written -/

/-- What follows the first of some texts in a list of them: each behind a comma. -/
def followingTexts (texts : List String) : List Char := texts.flatMap fun t => ',' :: t.toList

/-- Behind the first text, each one follows a comma. -/
theorem toList_intercalate_comma (t : String) (texts : List String) :
    (",".intercalate (t :: texts)).toList = t.toList ++ followingTexts texts := by
  induction texts generalizing t with
  | nil => simp [followingTexts]
  | cons next texts ih =>
    rw [String.intercalate_cons_cons, String.toList_append, String.toList_append, ih, List.append_assoc]
    rfl

/-- A list that is not empty, with what follows its first item. -/
theorem toList_write_arr_cons (j : Json) (items : List Json) (tail : List Char) :
    (write (.arr (j :: items))).toList ++ tail
      = '[' :: ((write j).toList ++ (followingTexts (writeItems items) ++ ']' :: tail)) := by
  rw [write, writeItems, String.toList_append, String.toList_append, toList_intercalate_comma]
  simp

/-- The text of a field. -/
theorem toList_field (key : String) (j : Json) (tail : List Char) :
    (writeString key ++ ":" ++ write j).toList ++ tail
      = '"' :: (key.toList.flatMap escapeChar ++ '"' :: ':' :: ((write j).toList ++ tail)) := by
  rw [String.toList_append, String.toList_append, toList_writeString]
  simp

/-- An object that is not empty, with what follows its first field. -/
theorem toList_write_obj_cons (field : String × Json) (row : List (String × Json)) (tail : List Char) :
    (write (.obj (field :: row))).toList ++ tail
      = '{' :: ((writeString field.1 ++ ":" ++ write field.2).toList
        ++ (followingTexts (writeFields row) ++ '}' :: tail)) := by
  rw [write, writeFields, String.toList_append, String.toList_append, toList_intercalate_comma]
  simp

/-- What follows an item begins with a comma or with the end. -/
theorem stopsAt_followingTexts {p : Char → Bool} (hcomma : p ',' = false) (texts : List String)
    {closing : Char} (hclosing : p closing = false) (tail : List Char) :
    StopsAt p (followingTexts texts ++ closing :: tail) := by
  cases texts with
  | nil => exact stopsAt_cons.2 hclosing
  | cons t texts => exact stopsAt_cons.2 hcomma

/-- A natural number is written by its digits. -/
theorem toList_write_nat (n : Nat) : (write (.int n)).toList = Nat.toDigits 10 n := by
  rw [write]
  show (toString n).toList = _
  rw [Nat.toString_eq_ofList_toDigits, String.toList_ofList]

/-- No value begins with a blank or with the end of a list. -/
theorem exists_write_cons {j : Json} {depth : Nat} (h : Readable depth j) :
    ∃ c cs, (write j).toList = c :: cs ∧ isSpace c = false ∧ c ≠ ']' := by
  cases j with
  | null => exact ⟨_, _, rfl, by decide, by decide⟩
  | bool b =>
    cases b with
    | false => exact ⟨_, _, rfl, by decide, by decide⟩
    | true => exact ⟨_, _, rfl, by decide, by decide⟩
  | int n =>
    obtain ⟨m, rfl⟩ := Int.eq_ofNat_of_zero_le h.1
    obtain ⟨c, cs, hcons, hdigit⟩ := exists_toDigits_cons m
    exact ⟨c, cs, (toList_write_nat m).trans hcons, isSpace_of_isDigit hdigit,
      ne_of_isDigit hdigit (by decide)⟩
  | float d => exact h.elim
  | str t => exact ⟨_, _, toList_writeString t, by decide, by decide⟩
  | arr items =>
    have htext : (write (.arr items)).toList = '[' :: ((",".intercalate (writeItems items)).toList ++ [']']) := by
      rw [write, String.toList_append, String.toList_append]
      rfl
    exact ⟨_, _, htext, by decide, by decide⟩
  | obj row =>
    have htext : (write (.obj row)).toList = '{' :: ((",".intercalate (writeFields row)).toList ++ ['}']) := by
      rw [write, String.toList_append, String.toList_append]
      rfl
    exact ⟨_, _, htext, by decide, by decide⟩

/-! ## Steps between items and fields -/

/-- The next item of a list begins at once or behind a comma. -/
theorem readListStep_next {j : Json} {depth : Nat} (hj : Readable depth j) (o : Nat) (tail : List Char) :
    (readListStep true ⟨o, (write j).toList ++ tail⟩ = .ok (true, ⟨o, (write j).toList ++ tail⟩)) ∧
      readListStep false ⟨o, ',' :: ((write j).toList ++ tail)⟩
        = .ok (true, ⟨o + ','.utf8Size, (write j).toList ++ tail⟩) := by
  obtain ⟨c, cs, hcons, hspace, hend⟩ := exists_write_cons hj
  rw [hcons, List.cons_append]
  have hskip : ∀ o, skipSpace ⟨o, c :: (cs ++ tail)⟩ = ⟨o, c :: (cs ++ tail)⟩ :=
    skipSpace_of_stopsAt (stopsAt_cons.2 hspace)
  have hcomma : skipSpace ⟨o, ',' :: c :: (cs ++ tail)⟩ = ⟨o, ',' :: c :: (cs ++ tail)⟩ :=
    skipSpace_of_stopsAt (stopsAt_cons.2 (by decide)) o
  constructor
  · unfold readListStep
    simp only [hskip, Span.head?, List.head?_cons]
    split
    case h_1 hnone => cases hnone
    case h_2 hsome => exact absurd (Option.some.inj hsome) hend
    case h_3 => rfl
    case h_4 => rfl
  · unfold readListStep
    simp only [hcomma, Span.head?, List.head?_cons, Span.tail, hskip]
    rfl

/-- A bracket ends a list. -/
theorem readListStep_end (first : Bool) (o : Nat) (tail : List Char) :
    readListStep first ⟨o, ']' :: tail⟩ = .ok (false, ⟨o, ']' :: tail⟩) := by
  unfold readListStep
  simp only [skipSpace_of_stopsAt (stopsAt_cons.2 (show isSpace ']' = false by decide)), Span.head?,
    List.head?_cons]

/-- The next key of an object begins at once or behind a comma. -/
theorem readKey_next (key : String) (o : Nat) (tail : List Char) :
    (∃ o', readKey true ⟨o, '"' :: (key.toList.flatMap escapeChar ++ '"' :: tail)⟩
      = .ok (some key, ⟨o', tail⟩)) ∧
    ∃ o', readKey false ⟨o, ',' :: '"' :: (key.toList.flatMap escapeChar ++ '"' :: tail)⟩
      = .ok (some key, ⟨o', tail⟩) := by
  have hskip : ∀ o cs, skipSpace ⟨o, '"' :: cs⟩ = ⟨o, '"' :: cs⟩ := fun o cs =>
    skipSpace_of_stopsAt (stopsAt_cons.2 (by decide)) o
  have hcomma : ∀ cs, skipSpace ⟨o, ',' :: cs⟩ = ⟨o, ',' :: cs⟩ := fun cs =>
    skipSpace_of_stopsAt (stopsAt_cons.2 (by decide)) o
  constructor
  · obtain ⟨o', hread⟩ := readString_escape key (o + '"'.utf8Size) tail
    refine ⟨o', ?_⟩
    unfold readKey
    simp [hskip, Span.head?, Span.tail, hread, bind, Except.bind, pure, Except.pure]
  · obtain ⟨o', hread⟩ := readString_escape key (o + ','.utf8Size + '"'.utf8Size) tail
    refine ⟨o', ?_⟩
    unfold readKey
    simp [hskip, hcomma, Span.head?, Span.tail, hread, bind, Except.bind, pure, Except.pure]

/-- A brace ends an object. -/
theorem readKey_end (first : Bool) (o : Nat) (tail : List Char) :
    readKey first ⟨o, '}' :: tail⟩ = .ok (none, ⟨o, '}' :: tail⟩) := by
  unfold readKey
  simp [skipSpace_of_stopsAt (stopsAt_cons.2 (show isSpace '}' = false by decide)), Span.head?, bind,
    Except.bind, pure, Except.pure]

theorem readColon_colon (o : Nat) (tail : List Char) :
    readColon ⟨o, ':' :: tail⟩ = .ok ⟨o + ':'.utf8Size, tail⟩ := by
  unfold readColon
  simp only [skipSpace_of_stopsAt (stopsAt_cons.2 (show isSpace ':' = false by decide)), Span.head?,
    List.head?_cons, Span.tail]

variable {fuel depth : Nat} {s s₁ s₂ s₃ : Span} {k : Json}

/-- One item is read, and then the rest of the list. -/
theorem readItems_step {done : List Json} (hstep : readListStep done.isEmpty s = .ok (true, s₁))
    (hvalue : readValue fuel depth s₁ = .ok (k, s₂)) :
    readItems (fuel + 1) depth done s = readItems fuel depth (k :: done) s₂ := by
  rw [readItems, hstep]
  simp [hvalue, bind, Except.bind]

/-- One field is read, and then the rest of the object. -/
theorem readFields_step {done : List (String × Json)} {first : Bool} {key : String}
    (hkey : readKey first s = .ok (some key, s₁)) (hcolon : readColon s₁ = .ok s₂)
    (hvalue : readValue fuel depth s₂ = .ok (k, s₃)) :
    readFields (fuel + 1) depth done first s = readFields fuel depth ((key, k) :: done) false s₃ := by
  rw [readFields, hkey]
  simp [hcolon, hvalue, bind, Except.bind]

/-! ## Values -/

/-- A value that is neither a list nor an object is read by its first character. -/
theorem readValue_scalar {c : Char} {cs : List Char} (hspace : isSpace c = false) (hlist : c ≠ '[')
    (hobject : c ≠ '{') (o : Nat) : readValue (fuel + 1) depth ⟨o, c :: cs⟩ = readScalar c ⟨o, c :: cs⟩ := by
  unfold readValue
  simp only [skipSpace_of_stopsAt (stopsAt_cons.2 hspace), Span.head?, List.head?_cons]

/-- A bracket begins a list, one level down. -/
theorem readValue_list (hdepth : 1 < depth) (o : Nat) (cs : List Char) :
    readValue (fuel + 1) depth ⟨o, '[' :: cs⟩
      = readItems fuel (depth - 1) [] ⟨o + '['.utf8Size, cs⟩ := by
  obtain ⟨n, rfl⟩ : ∃ n, depth = n + 2 := ⟨depth - 2, by omega⟩
  unfold readValue
  simp only [skipSpace_of_stopsAt (stopsAt_cons.2 (show isSpace '[' = false by decide)), Span.head?,
    List.head?_cons, Span.tail]
  rfl

/-- A brace begins an object, one level down. -/
theorem readValue_object (hdepth : 1 < depth) (o : Nat) (cs : List Char) :
    readValue (fuel + 1) depth ⟨o, '{' :: cs⟩
      = readFields fuel (depth - 1) [] true ⟨o + '{'.utf8Size, cs⟩ := by
  obtain ⟨n, rfl⟩ : ∃ n, depth = n + 2 := ⟨depth - 2, by omega⟩
  unfold readValue
  simp only [skipSpace_of_stopsAt (stopsAt_cons.2 (show isSpace '{' = false by decide)), Span.head?,
    List.head?_cons, Span.tail]
  rfl

/-- Whether the text of a value is read as a value with all that the first one has, in front of anything
that does not go on with a number. Each step of the reader takes one of its fuel, and it makes at most two
steps at one character. -/
def IsReadBack (depth : Nat) (j : Json) : Prop :=
  ∀ (fuel : Nat) (tail : List Char) (o : Nat), 2 * (write j).toList.length ≤ fuel →
    StopsAt isNumberPart tail →
      ∃ k o', readValue fuel depth ⟨o, (write j).toList ++ tail⟩ = .ok (k, ⟨o', tail⟩) ∧ Within j k

/-- Values other than lists and objects are read back if their scalar is. -/
theorem isReadBack_of_readScalar {j : Json} {c : Char} {cs : List Char} (htext : (write j).toList = c :: cs)
    (hspace : isSpace c = false) (hlist : c ≠ '[') (hobject : c ≠ '{') (hself : Within j j)
    (hread : ∀ (tail : List Char) (o : Nat), StopsAt isNumberPart tail →
      ∃ o', readScalar c ⟨o, c :: cs ++ tail⟩ = .ok (j, ⟨o', tail⟩)) : IsReadBack depth j := by
  intro fuel tail o hfuel htail
  rw [htext, List.length_cons] at hfuel
  obtain ⟨fuel, rfl⟩ : ∃ n, fuel = n + 1 := ⟨fuel - 1, by omega⟩
  obtain ⟨o', hread⟩ := hread tail o htail
  refine ⟨j, o', ?_, hself⟩
  rw [htext, List.cons_append, readValue_scalar hspace hlist hobject]
  exact hread

/-- Numbers of 64 bits are read back. -/
theorem isReadBack_nat {n : Nat} (hn : n < Nat.pow 2 64) : IsReadBack depth (.int n) := by
  obtain ⟨c, cs, hcons, hdigit⟩ := exists_toDigits_cons n
  refine isReadBack_of_readScalar ((toList_write_nat n).trans hcons) (isSpace_of_isDigit hdigit)
    (ne_of_isDigit hdigit (by decide)) (ne_of_isDigit hdigit (by decide)) rfl fun tail o htail => ?_
  rw [readScalar_of_isDigit hdigit, ← hcons]
  exact readNumber_toDigits hn htail o

/-- Texts are read back. -/
theorem isReadBack_str (t : String) : IsReadBack depth (.str t) := by
  have htext : (write (.str t)).toList = '"' :: (t.toList.flatMap escapeChar ++ ['"']) := by
    rw [write, toList_writeString]
  refine isReadBack_of_readScalar htext (by decide) (by decide) (by decide) rfl fun tail o _ => ?_
  obtain ⟨o', hread⟩ := readString_escape t (o + '"'.utf8Size) tail
  refine ⟨o', ?_⟩
  rw [List.cons_append, List.append_assoc]
  show (readString ⟨o + '"'.utf8Size, _⟩ >>= fun p => pure (Json.str p.1, p.2)) = _
  rw [List.singleton_append, hread]
  rfl

/-- Items behind the first are read back one by one. -/
theorem readItems_following {items : List Json}
    (hitems : ∀ j ∈ items, Readable depth j ∧ IsReadBack depth j) {done : List Json} (hdone : done ≠ [])
    (hfuel : 2 * (followingTexts (writeItems items)).length < fuel) (o : Nat) (tail : List Char) :
    ∃ items' o', readItems fuel depth done ⟨o, followingTexts (writeItems items) ++ ']' :: tail⟩
      = .ok (.arr (done.reverse ++ items'), ⟨o', tail⟩) ∧ List.Forall₂ Within items items' := by
  obtain ⟨fuel, rfl⟩ : ∃ n, fuel = n + 1 := ⟨fuel - 1, by omega⟩
  have hstarted : done.isEmpty = false := List.isEmpty_eq_false_iff.2 hdone
  induction items generalizing fuel done o with
  | nil =>
    refine ⟨[], o + ']'.utf8Size, ?_, .nil⟩
    rw [readItems]
    show (readListStep done.isEmpty ⟨o, ']' :: tail⟩ >>= _) = _
    rw [readListStep_end]
    simp [Span.tail, bind, Except.bind, pure, Except.pure]
  | cons j items ih =>
    obtain ⟨⟨hj, hback⟩, hitems⟩ := List.forall_mem_cons.1 hitems
    have htext : followingTexts (writeItems (j :: items)) ++ ']' :: tail
        = ',' :: ((write j).toList ++ (followingTexts (writeItems items) ++ ']' :: tail)) := by
      simp [followingTexts, writeItems]
    have hlength : (followingTexts (writeItems (j :: items))).length
        = 1 + (write j).toList.length + (followingTexts (writeItems items)).length := by
      simp [followingTexts, writeItems]
      omega
    have hstep := (readListStep_next hj o (followingTexts (writeItems items) ++ ']' :: tail)).2
    rw [← hstarted] at hstep
    obtain ⟨k, o', hvalue, hwithin⟩ := hback fuel _ (o + ','.utf8Size) (by omega)
      (stopsAt_followingTexts (by decide) (writeItems items) (show isNumberPart ']' = false by decide) tail)
    obtain ⟨fuel, rfl⟩ : ∃ n, fuel = n + 1 := ⟨fuel - 1, by omega⟩
    obtain ⟨items', o'', hrest, hforall⟩ := ih hitems (List.cons_ne_nil k done) o' fuel (by omega) rfl
    refine ⟨k :: items', o'', ?_, .cons hwithin hforall⟩
    rw [htext, readItems_step hstep hvalue, hrest, List.reverse_cons, List.append_assoc]
    rfl

/-- Items are readable one by one. -/
theorem readableItems_iff {items : List Json} :
    ReadableItems depth items ↔ ∀ j ∈ items, Readable depth j := by
  induction items with
  | nil => simp [ReadableItems]
  | cons j items ih => rw [ReadableItems, ih, List.forall_mem_cons]

/-- So are the values of fields. -/
theorem readableFields_iff {row : List (String × Json)} :
    ReadableFields depth row ↔ ∀ field ∈ row, Readable depth field.2 := by
  induction row with
  | nil => simp [ReadableFields]
  | cons field row ih => rw [ReadableFields, ih, List.forall_mem_cons]

/-- A list is read back if its items are. -/
theorem isReadBack_arr {items : List Json} (h : Readable depth (.arr items))
    (hitems : ∀ j ∈ items, IsReadBack (depth - 1) j) : IsReadBack depth (.arr items) := by
  intro fuel tail o hfuel htail
  have hreadable := readableItems_iff.1 h.2
  cases items with
  | nil =>
    have htext : (write (.arr [])).toList = ['[', ']'] := rfl
    rw [htext] at hfuel ⊢
    obtain ⟨fuel, rfl⟩ : ∃ n, fuel = n + 2 := ⟨fuel - 2, by simp at hfuel; omega⟩
    refine ⟨.arr [], o + '['.utf8Size + ']'.utf8Size, ?_, [], rfl, rfl⟩
    show readValue (fuel + 2) depth ⟨o, '[' :: ']' :: tail⟩ = _
    rw [readValue_list h.1, readItems, List.isEmpty_nil, readListStep_end]
    simp [Span.tail, bind, Except.bind, pure, Except.pure]
  | cons j items =>
    obtain ⟨hback, hitems⟩ := List.forall_mem_cons.1 hitems
    obtain ⟨hj, hreadable⟩ := List.forall_mem_cons.1 hreadable
    have htext := toList_write_arr_cons j items tail
    have hlength : (write (.arr (j :: items))).toList.length
        = 2 + (write j).toList.length + (followingTexts (writeItems items)).length := by
      have hshort := congrArg List.length (toList_write_arr_cons j items [])
      simp only [List.append_nil, List.length_cons, List.length_append, List.length_nil] at hshort
      omega
    obtain ⟨fuel, rfl⟩ : ∃ n, fuel = n + 2 := ⟨fuel - 2, by omega⟩
    have hstep := (readListStep_next hj (o + '['.utf8Size)
      (followingTexts (writeItems items) ++ ']' :: tail)).1
    obtain ⟨k, o', hvalue, hwithin⟩ := hback fuel _ (o + '['.utf8Size) (by omega)
      (stopsAt_followingTexts (by decide) (writeItems items) (show isNumberPart ']' = false by decide) tail)
    have hfirst : readItems (fuel + 1) (depth - 1) [] ⟨o + '['.utf8Size, _⟩
        = readItems fuel (depth - 1) [k] ⟨o', _⟩ := readItems_step hstep hvalue
    have hmore : 2 * (followingTexts (writeItems items)).length < fuel := by omega
    obtain ⟨items', o'', hrest, hforall⟩ := readItems_following
      (fun j hj => ⟨hreadable j hj, hitems j hj⟩) (List.cons_ne_nil k []) hmore o' tail
    refine ⟨.arr (k :: items'), o'', ?_, k :: items', rfl, ?_⟩
    · rw [htext, readValue_list h.1, hfirst, hrest]
      rfl
    · exact withinItems_of_forall₂ (.cons hwithin hforall)

/-- The text of a value is shorter than that of its field, so there is fuel enough for it. -/
theorem length_lt_length_field (key : String) (j : Json) :
    (write j).toList.length < (writeString key ++ ":" ++ write j).toList.length := by
  have htext := congrArg List.length (toList_field key j [])
  simp only [List.append_nil, List.length_cons, List.length_append] at htext
  omega

/-- A field is read back at once if it is the first, and else behind a comma. -/
theorem readFields_next (key : String) {j : Json} (hback : IsReadBack depth j)
    (hfuel : 2 * (write j).toList.length ≤ fuel) (done : List (String × Json)) (o : Nat) {tail : List Char}
    (htail : StopsAt isNumberPart tail) :
    (∃ k o', readFields (fuel + 1) depth done true ⟨o, (writeString key ++ ":" ++ write j).toList ++ tail⟩
      = readFields fuel depth ((key, k) :: done) false ⟨o', tail⟩ ∧ Within j k) ∧
    ∃ k o',
      readFields (fuel + 1) depth done false ⟨o, ',' :: ((writeString key ++ ":" ++ write j).toList ++ tail)⟩
        = readFields fuel depth ((key, k) :: done) false ⟨o', tail⟩ ∧ Within j k := by
  rw [toList_field]
  obtain ⟨⟨o₁, hfirst⟩, o₂, hnext⟩ := readKey_next key o (':' :: ((write j).toList ++ tail))
  constructor
  · obtain ⟨k, o', hvalue, hwithin⟩ := hback fuel tail (o₁ + ':'.utf8Size) hfuel htail
    exact ⟨k, o', readFields_step hfirst (readColon_colon o₁ _) hvalue, hwithin⟩
  · obtain ⟨k, o', hvalue, hwithin⟩ := hback fuel tail (o₂ + ':'.utf8Size) hfuel htail
    exact ⟨k, o', readFields_step hnext (readColon_colon o₂ _) hvalue, hwithin⟩

/-- At the brace, the fields are put in order. -/
theorem readFields_end (done : List (String × Json)) (first : Bool) (o : Nat) (tail : List Char) :
    readFields (fuel + 1) depth done first ⟨o, '}' :: tail⟩
      = .ok (ofFields done.reverse, ⟨o + '}'.utf8Size, tail⟩) := by
  rw [readFields, readKey_end]
  rfl

/-- Fields behind the first are read back one by one. -/
theorem readFields_following {row : List (String × Json)} (hrow : ∀ field ∈ row, IsReadBack depth field.2)
    (hfuel : 2 * (followingTexts (writeFields row)).length < fuel) (done : List (String × Json)) (o : Nat)
    (tail : List Char) :
    ∃ row' o', readFields fuel depth done false ⟨o, followingTexts (writeFields row) ++ '}' :: tail⟩
      = .ok (ofFields (done.reverse ++ row'), ⟨o', tail⟩) ∧ FieldwiseWithin row row' := by
  obtain ⟨fuel, rfl⟩ : ∃ n, fuel = n + 1 := ⟨fuel - 1, by omega⟩
  induction row generalizing fuel done o with
  | nil =>
    refine ⟨[], o + '}'.utf8Size, ?_, .nil⟩
    rw [List.append_nil]
    exact readFields_end done false o tail
  | cons field row ih =>
    obtain ⟨key, j⟩ := field
    obtain ⟨hback, hrow⟩ := List.forall_mem_cons.1 hrow
    have htext : followingTexts (writeFields ((key, j) :: row)) ++ '}' :: tail
        = ',' :: ((writeString key ++ ":" ++ write j).toList
          ++ (followingTexts (writeFields row) ++ '}' :: tail)) := by
      simp [followingTexts, writeFields]
    have hlength : (followingTexts (writeFields ((key, j) :: row))).length
        = 1 + (writeString key ++ ":" ++ write j).toList.length + (followingTexts (writeFields row)).length := by
      simp [followingTexts, writeFields]
      omega
    have hvalue : 2 * (write j).toList.length ≤ fuel := by
      have hshorter := length_lt_length_field key j
      omega
    obtain ⟨k, o', hnext, hwithin⟩ := (readFields_next key hback hvalue done o
      (stopsAt_followingTexts (by decide) (writeFields row) (show isNumberPart '}' = false by decide) tail)).2
    obtain ⟨fuel, rfl⟩ : ∃ n, fuel = n + 1 := ⟨fuel - 1, by omega⟩
    obtain ⟨row', o'', hrest, hforall⟩ := ih hrow ((key, k) :: done) o' fuel (by omega)
    refine ⟨(key, k) :: row', o'', ?_, .cons ⟨rfl, hwithin⟩ hforall⟩
    rw [htext, hnext, hrest, List.reverse_cons, List.append_assoc]
    rfl

/-- An object is read back with its fields in the order of their keys, if its values are read back. -/
theorem readValue_write_obj {row : List (String × Json)} (h : Readable depth (.obj row))
    (hrow : ∀ field ∈ row, IsReadBack (depth - 1) field.2)
    (hfuel : 2 * (write (.obj row)).toList.length ≤ fuel) (o : Nat) (tail : List Char) :
    ∃ row' o', readValue fuel depth ⟨o, (write (.obj row)).toList ++ tail⟩
      = .ok (ofFields row', ⟨o', tail⟩) ∧ FieldwiseWithin row row' := by
  cases row with
  | nil =>
    have htext : (write (.obj [])).toList = ['{', '}'] := rfl
    rw [htext] at hfuel ⊢
    obtain ⟨fuel, rfl⟩ : ∃ n, fuel = n + 2 := ⟨fuel - 2, by simp at hfuel; omega⟩
    refine ⟨[], o + '{'.utf8Size + '}'.utf8Size, ?_, .nil⟩
    exact (readValue_object h.1 o ('}' :: tail)).trans (readFields_end [] true _ tail)
  | cons field row =>
    obtain ⟨key, j⟩ := field
    obtain ⟨hback, hrow⟩ := List.forall_mem_cons.1 hrow
    have htext := toList_write_obj_cons (key, j) row tail
    have hlength : (write (.obj ((key, j) :: row))).toList.length
        = 2 + (writeString key ++ ":" ++ write j).toList.length + (followingTexts (writeFields row)).length := by
      have hshort := congrArg List.length (toList_write_obj_cons (key, j) row [])
      simp only [List.append_nil, List.length_cons, List.length_append, List.length_nil] at hshort ⊢
      omega
    obtain ⟨fuel, rfl⟩ : ∃ n, fuel = n + 2 := ⟨fuel - 2, by omega⟩
    have hvalue : 2 * (write j).toList.length ≤ fuel := by
      have hshorter := length_lt_length_field key j
      omega
    obtain ⟨k, o', hfirst, hwithin⟩ := (readFields_next key hback hvalue [] (o + '{'.utf8Size)
      (stopsAt_followingTexts (by decide) (writeFields row) (show isNumberPart '}' = false by decide) tail)).1
    have hmore : 2 * (followingTexts (writeFields row)).length < fuel := by omega
    obtain ⟨row', o'', hrest, hforall⟩ := readFields_following hrow hmore [(key, k)] o' tail
    refine ⟨(key, k) :: row', o'', ?_, .cons ⟨rfl, hwithin⟩ hforall⟩
    rw [htext, readValue_object h.1, hfirst, hrest]
    rfl

/-- An object is read back if its values are. -/
theorem isReadBack_obj {row : List (String × Json)} (h : Readable depth (.obj row))
    (hrow : ∀ field ∈ row, IsReadBack (depth - 1) field.2) : IsReadBack depth (.obj row) := by
  intro fuel tail o hfuel _
  obtain ⟨row', o', hread, hforall⟩ := readValue_write_obj h hrow hfuel o tail
  exact ⟨ofFields row', o', hread, within_ofFields h.2.1 hforall⟩

theorem sizeOf_lt_of_mem_items {items : List Json} {j : Json} (h : j ∈ items) : sizeOf j < sizeOf (arr items) := by
  have hlt := List.sizeOf_lt_of_mem h
  rw [arr.sizeOf_spec]
  omega

theorem sizeOf_lt_of_mem_fields {row : List (String × Json)} {field : String × Json} (h : field ∈ row) :
    sizeOf field.2 < sizeOf (obj row) := by
  have hlt := List.sizeOf_lt_of_mem h
  have hfield : sizeOf field = 1 + sizeOf field.1 + sizeOf field.2 := by
    cases field
    rfl
  rw [obj.sizeOf_spec]
  omega

/-- Every readable value is read back. -/
theorem isReadBack_of_readable {depth : Nat} (j : Json) (h : Readable depth j) : IsReadBack depth j := by
  match j with
  | .null => exact isReadBack_of_readScalar rfl (by decide) (by decide) (by decide) rfl fun tail o _ => ⟨_, rfl⟩
  | .bool true =>
    exact isReadBack_of_readScalar rfl (by decide) (by decide) (by decide) rfl fun tail o _ => ⟨_, rfl⟩
  | .bool false =>
    exact isReadBack_of_readScalar rfl (by decide) (by decide) (by decide) rfl fun tail o _ => ⟨_, rfl⟩
  | .int n =>
    obtain ⟨m, rfl⟩ := Int.eq_ofNat_of_zero_le h.1
    exact isReadBack_nat (Int.ofNat_lt.1 h.2)
  | .float _ => exact h.elim
  | .str t => exact isReadBack_str t
  | .arr items =>
    have hitems := readableItems_iff.1 h.2
    exact isReadBack_arr h fun item hitem => isReadBack_of_readable item (hitems item hitem)
  | .obj row =>
    have hrow := readableFields_iff.1 h.2.2
    exact isReadBack_obj h fun field hfield => isReadBack_of_readable field.2 (hrow field hfield)
termination_by sizeOf j
decreasing_by
  · exact sizeOf_lt_of_mem_items hitem
  · exact sizeOf_lt_of_mem_fields hfield

/-- A readable value has all that it has itself. -/
theorem within_self {depth : Nat} (j : Json) (h : Readable depth j) : Within j j := by
  match j with
  | .null | .bool _ | .int _ | .float _ | .str _ => rfl
  | .arr items =>
    have hitems := readableItems_iff.1 h.2
    exact ⟨items, rfl, withinItems_of_forall₂
      (List.forall₂_same.2 fun item hitem => within_self item (hitems item hitem))⟩
  | .obj row =>
    have hrow := readableFields_iff.1 h.2.2
    exact ⟨row, rfl, h.2.1, withinFields_iff.2 fun field hfield =>
      ⟨field.2, hfield, within_self field.2 (hrow field hfield)⟩⟩
termination_by sizeOf j
decreasing_by
  · exact sizeOf_lt_of_mem_items hitem
  · exact sizeOf_lt_of_mem_fields hfield

/-- A text is parsed if a value is read from it with nothing left. -/
theorem parse_of_readValue {text : List Char} {k : Json} {o : Nat}
    (h : readValue (2 * text.length + 2) maxDepth ⟨0, text⟩ = .ok (k, ⟨o, []⟩)) : parse text = .ok k := by
  unfold parse Span.ofText
  rw [h]
  rfl

/-- What is written for a value is read as a value with all that the first one has. -/
theorem exists_parse_write {j : Json} (h : Readable maxDepth j) :
    ∃ k, parse (write j).toList = .ok k ∧ Within j k := by
  obtain ⟨k, o', hread, hwithin⟩ :=
    isReadBack_of_readable j h _ [] 0 (Nat.le_add_right _ 2) (stopsAt_nil _)
  rw [List.append_nil] at hread
  exact ⟨k, parse_of_readValue hread, hwithin⟩

/-- Of an object, nothing else is read than was written. -/
theorem exists_parse_write_obj {row : List (String × Json)} (h : Readable maxDepth (.obj row)) :
    ∃ row', parse (write (.obj row)).toList = .ok (ofFields row') ∧ FieldwiseWithin row row' := by
  have hrow := readableFields_iff.1 h.2.2
  obtain ⟨row', o', hread, hforall⟩ := readValue_write_obj h
    (fun field hfield => isReadBack_of_readable field.2 (hrow field hfield)) (Nat.le_add_right _ 2) 0 []
  rw [List.append_nil] at hread
  exact ⟨row', parse_of_readValue hread, hforall⟩

end StatementLens.Json
