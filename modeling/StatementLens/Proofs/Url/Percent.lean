import StatementLens.Text.Bytes
import StatementLens.Url.Percent

/-!
# Splitting and percent encoding

Texts and bytes are cut into pieces by `List.splitOnP`. What percent encoding writes is ASCII, holds
no byte of the set that it encodes, and decodes to the bytes it was made from, if percent signs are
in the set.
-/

namespace StatementLens.Text

/-! ## Pieces -/

/-- The loop that cuts a list, with the piece at hand and the pieces before it. -/
private theorem foldl_pieces {α : Type} (p : α → Bool) (xs piece : List α) (done : List (List α)) :
    let r := xs.foldl
      (fun (s : List α × List (List α)) x =>
        if p x then ([], s.1.reverse :: s.2) else (x :: s.1, s.2)) (piece, done)
    (r.1.reverse :: r.2).reverse
      = done.reverse ++ (xs.splitOnP p).modifyHead (piece.reverse ++ ·) := by
  induction xs generalizing piece done with
  | nil => simp
  | cons x xs ih =>
    rw [List.foldl_cons, List.splitOnP_cons_eq_if_modifyHead]
    by_cases hx : p x = true
    · simp only [hx, if_true]
      refine (ih [] (piece.reverse :: done)).trans ?_
      obtain ⟨y, ys, h⟩ := List.exists_cons_of_ne_nil (List.splitOnP_ne_nil p xs)
      simp [h]
    · simp only [hx, Bool.false_eq_true, if_false]
      refine (ih (x :: piece) done).trans ?_
      obtain ⟨y, ys, h⟩ := List.exists_cons_of_ne_nil (List.splitOnP_ne_nil p xs)
      simp [h]

theorem splitOn_eq_splitOnP (p : Char → Bool) (cs : List Char) :
    splitOn p cs = cs.splitOnP p := by
  have h := foldl_pieces p cs [] []
  obtain ⟨y, ys, hs⟩ := List.exists_cons_of_ne_nil (List.splitOnP_ne_nil p cs)
  simpa [hs, splitOn] using h

theorem splitBytes_eq_splitOn (b : UInt8) (bytes : List UInt8) :
    splitBytes b bytes = bytes.splitOn b := by
  have h := foldl_pieces (· == b) bytes [] []
  obtain ⟨y, ys, hs⟩ := List.exists_cons_of_ne_nil (List.splitOnP_ne_nil (· == b) bytes)
  rw [List.splitOn_eq_splitOnP, hs]
  simpa [hs, splitBytes] using h

theorem splitOn_eq_splitOn (c : Char) (cs : List Char) : splitOn (· = c) cs = cs.splitOn c := by
  rw [splitOn_eq_splitOnP, List.splitOn_eq_splitOnP]
  congr 1

/-- Cutting at the first of several separators. -/
private theorem splitOn_append_flatMap_cons {α : Type} [BEq α] [LawfulBEq α] (x : α)
    (front : List α) (pieces : List (List α)) :
    (front ++ pieces.flatMap (x :: ·)).splitOn x
      = front.splitOn x ++ pieces.flatMap (·.splitOn x) := by
  induction pieces generalizing front with
  | nil => simp
  | cons piece rest ih =>
    rw [List.flatMap_cons, List.flatMap_cons, List.cons_append, List.splitOn_append_cons_self, ih]

/-- Pieces that each have a separator in front are cut apart again, and cut further inside. -/
theorem splitOn_flatMap_cons {α : Type} [BEq α] [LawfulBEq α] (x : α) (pieces : List (List α)) :
    (pieces.flatMap (x :: ·)).splitOn x = [] :: pieces.flatMap (·.splitOn x) := by
  simpa using splitOn_append_flatMap_cons x [] pieces

/-- Pieces that hold no separator are what is cut apart again behind the first one. -/
theorem splitOn_drop_flatMap_cons {α : Type} [BEq α] [LawfulBEq α] {x : α}
    {pieces : List (List α)} (hne : pieces ≠ []) (h : ∀ piece ∈ pieces, x ∉ piece) :
    ((pieces.flatMap (x :: ·)).drop 1).splitOn x = pieces := by
  have hwhole : pieces.flatMap (·.splitOn x) = pieces := by
    rw [List.flatMap_def, List.map_congr_left fun piece hp => List.splitOn_eq_singleton (h piece hp),
      ← List.flatMap_def, List.flatMap_singleton']
  obtain ⟨piece, rest, rfl⟩ := List.exists_cons_of_ne_nil hne
  rw [List.flatMap_cons, List.cons_append, List.drop_one, List.tail_cons,
    splitOn_append_flatMap_cons, ← List.flatMap_cons, hwhole]

/-- No piece holds the separator. -/
theorem notMem_of_mem_splitOn {α : Type} [BEq α] [LawfulBEq α] {x : α} {xs piece : List α}
    (h : piece ∈ xs.splitOn x) : x ∉ piece := by
  induction xs generalizing piece with
  | nil => simp_all
  | cons y xs ih =>
    rw [List.splitOn_cons_eq_if_modifyHead] at h
    split at h
    case isTrue =>
      rcases List.mem_cons.1 h with rfl | h
      · exact List.not_mem_nil
      · exact ih h
    case isFalse hne =>
      obtain ⟨first, rest, hs⟩ := List.exists_cons_of_ne_nil (List.splitOn_ne_nil x xs)
      rw [hs, List.modifyHead_cons] at h
      rcases List.mem_cons.1 h with rfl | h
      · have hfirst : x ∉ first := ih (hs ▸ List.mem_cons_self ..)
        have hxy : x ≠ y := fun h => hne (beq_iff_eq.2 h.symm)
        simp [hxy, hfirst]
      · exact ih (hs ▸ List.mem_cons_of_mem _ h)

/-- Pieces put together again, with a separator in front of each. -/
theorem flatMap_cons_splitOn {α : Type} [BEq α] [LawfulBEq α] (x : α) (xs : List α) :
    (xs.splitOn x).flatMap (x :: ·) = x :: xs := by
  induction xs with
  | nil => simp
  | cons y xs ih =>
    rw [List.splitOn_cons_eq_if_modifyHead]
    split
    case isTrue h => rw [List.flatMap_cons, ih, beq_iff_eq.1 h, List.singleton_append]
    case isFalse h =>
      obtain ⟨first, rest, hs⟩ := List.exists_cons_of_ne_nil (List.splitOn_ne_nil x xs)
      rw [hs, List.flatMap_cons, List.cons_append, List.cons.injEq] at ih
      rw [hs, List.modifyHead_cons, List.flatMap_cons, List.cons_append, List.cons_append, ih.2]

/-- What stands in a piece of a text is no separator and stands in the text. -/
theorem of_mem_splitOn {p : Char → Bool} {cs piece : List Char} (h : piece ∈ splitOn p cs) {c : Char}
    (hc : c ∈ piece) : c ∈ cs ∧ p c = false := by
  rw [splitOn_eq_splitOnP] at h
  induction cs generalizing piece with
  | nil =>
    rw [List.splitOnP_nil, List.mem_singleton] at h
    rw [h] at hc
    cases hc
  | cons d cs ih =>
    have hrest : ∀ {piece}, piece ∈ List.splitOnP p cs → c ∈ piece → c ∈ d :: cs ∧ p c = false := by
      intro piece hpiece hmem
      obtain ⟨hcs, hp⟩ := ih hpiece hmem
      exact ⟨List.mem_cons_of_mem d hcs, hp⟩
    rw [List.splitOnP_cons_eq_if_modifyHead] at h
    split at h
    · rcases List.mem_cons.1 h with rfl | h
      · cases hc
      · exact hrest h hc
    · next hd =>
      obtain ⟨first, rest, hs⟩ := List.exists_cons_of_ne_nil (List.splitOnP_ne_nil p cs)
      rw [hs, List.modifyHead_cons] at h
      rcases List.mem_cons.1 h with rfl | h
      · rcases List.mem_cons.1 hc with rfl | hc
        · exact ⟨List.mem_cons_self, by simpa using hd⟩
        · exact hrest (hs ▸ List.mem_cons_self) hc
      · exact hrest (hs ▸ List.mem_cons_of_mem first h) hc

/-- Pieces of a text that hold no separator are what is cut apart again behind the first one. -/
theorem splitOn_drop_flatMap {p : Char → Bool} {x : Char} (hx : p x = true) {pieces : List (List Char)}
    (hne : pieces ≠ []) (h : ∀ piece ∈ pieces, ∀ c ∈ piece, p c = false) :
    splitOn p ((pieces.flatMap (x :: ·)).drop 1) = pieces := by
  rw [splitOn_eq_splitOnP]
  induction pieces with
  | nil => exact absurd rfl hne
  | cons piece rest ih =>
    have hpiece := h piece List.mem_cons_self
    cases rest with
    | nil => simpa using List.splitOnP_eq_singleton hpiece
    | cons next rest =>
      have htail := ih (List.cons_ne_nil next rest) fun q hq => h q (List.mem_cons_of_mem piece hq)
      rw [List.flatMap_cons, List.cons_append, List.drop_one, List.tail_cons] at htail ⊢
      rw [List.flatMap_cons, List.cons_append,
        List.splitOnP_append_cons_of_forall_mem hpiece x hx, htail]

/-! ## Bytes -/

private theorem toList_loop (bytes : ByteArray) (i : Nat) (done : List UInt8) :
    ByteArray.toList.loop bytes i done = done.reverse ++ bytes.data.toList.drop i := by
  fun_induction ByteArray.toList.loop bytes i done with
  | case1 i done h ih =>
    have hi : i < bytes.data.toList.length := h
    rw [ih, List.drop_eq_getElem_cons hi]
    simpa [ByteArray.get!] using getElem!_pos bytes.data i h
  | case2 i done h =>
    have hi : bytes.data.toList.length ≤ i := Nat.le_of_not_lt h
    simp [List.drop_eq_nil_of_le hi]

theorem encodeUtf8_ofList (cs : List Char) :
    encodeUtf8 (String.ofList cs) = cs.flatMap String.utf8EncodeChar := by
  have h := toList_loop (String.ofList cs).toByteArray 0 []
  simpa [encodeUtf8, ByteArray.toList, List.utf8Encode] using h

/-- An ASCII character is one byte. -/
theorem encodeUtf8_ofList_ascii {cs : List Char} (h : ∀ c ∈ cs, c.toNat < 0x80) :
    encodeUtf8 (String.ofList cs) = cs.map fun c => c.toNat.toUInt8 := by
  rw [encodeUtf8_ofList]
  induction cs with
  | nil => rfl
  | cons c cs ih =>
    have hc : c.toNat ≤ 127 := Nat.le_of_lt_succ (h c (List.mem_cons_self ..))
    rw [List.flatMap_cons, ih fun d hd => h d (List.mem_cons_of_mem _ hd)]
    simp [String.utf8EncodeChar, hc]

end StatementLens.Text

namespace StatementLens.Url

open Text

/-! ## Percent encoding -/

/-- A byte as percent encoding writes it. -/
def percentEncodeByte (set : UInt8 → Bool) (b : UInt8) : List Char :=
  if set b then ['%', upperHex (b.toNat / 16), upperHex (b.toNat % 16)] else [Char.ofNat b.toNat]

theorem percentEncodeBytes_cons (set : UInt8 → Bool) (b : UInt8) (bytes : List UInt8) :
    percentEncodeBytes set (b :: bytes) = percentEncodeByte set b ++ percentEncodeBytes set bytes :=
  rfl

theorem toNat_upperHex {n : Nat} (h : n < 16) : (upperHex n).toNat < 0x80 := by
  revert n
  decide

theorem hexOf_upperHex {n : Nat} (h : n < 16) :
    hexOf (upperHex n).toNat.toUInt8 = some n.toUInt8 := by
  revert n
  decide

theorem toNat_ofNat_byte (b : UInt8) : (Char.ofNat b.toNat).toNat = b.toNat := by
  have hvalid : b.toNat.isValidChar := .inl (by have := b.toNat_lt; omega)
  unfold Char.ofNat
  rw [dif_pos hvalid]
  rfl

/-- What percent encoding writes: percent signs, digits, and the bytes that are not in the set. -/
theorem mem_percentEncodeBytes {set : UInt8 → Bool} {bytes : List UInt8} {c : Char}
    (h : c ∈ percentEncodeBytes set bytes) :
    c = '%' ∨ (∃ n < 16, c = upperHex n) ∨ ∃ b, set b = false ∧ c = Char.ofNat b.toNat := by
  obtain ⟨b, -, hc⟩ := List.mem_flatMap.1 h
  by_cases hb : set b = true
  · have hhigh : b.toNat / 16 < 16 := by have := b.toNat_lt; omega
    have hlow : b.toNat % 16 < 16 := Nat.mod_lt _ (by decide)
    simp only [hb, if_true, List.mem_cons, List.not_mem_nil, or_false] at hc
    rcases hc with rfl | rfl | rfl
    · exact .inl rfl
    · exact .inr (.inl ⟨_, hhigh, rfl⟩)
    · exact .inr (.inl ⟨_, hlow, rfl⟩)
  · simp only [hb, Bool.false_eq_true, if_false, List.mem_cons, List.not_mem_nil, or_false] at hc
    exact .inr (.inr ⟨b, by simpa using hb, hc⟩)

/-- No character of the set is written, unless it is a percent sign or a digit. -/
theorem notMem_percentEncodeBytes {set : UInt8 → Bool} {c : Char} (bytes : List UInt8)
    (hset : ∀ b, c = Char.ofNat b.toNat → set b = true) (hpercent : c ≠ '%')
    (hdigit : ∀ n < 16, c ≠ upperHex n) : c ∉ percentEncodeBytes set bytes := by
  intro h
  rcases mem_percentEncodeBytes h with rfl | ⟨n, hn, rfl⟩ | ⟨b, hb, rfl⟩
  · exact hpercent rfl
  · exact hdigit n hn rfl
  · simp [hset b rfl] at hb

section Decoding

variable {set : UInt8 → Bool} (hbeyond : ∀ b, 0x80 ≤ b → set b = true) (hpercent : set 0x25 = true)

include hbeyond in
theorem toNat_lt_of_set_eq_false {b : UInt8} (h : set b = false) : b.toNat < 0x80 := by
  apply Nat.lt_of_not_le
  intro hle
  simp [hbeyond b (UInt8.le_iff_toNat_le.2 hle)] at h

include hbeyond in
theorem ascii_percentEncodeBytes {bytes : List UInt8} {c : Char}
    (h : c ∈ percentEncodeBytes set bytes) : c.toNat < 0x80 := by
  rcases mem_percentEncodeBytes h with rfl | ⟨n, hn, rfl⟩ | ⟨b, hb, rfl⟩
  · decide
  · exact toNat_upperHex hn
  · have hlt : b.toNat < 0x80 := toNat_lt_of_set_eq_false hbeyond hb
    rw [toNat_ofNat_byte]
    exact hlt

/-- A byte that is no percent sign stands for itself. -/
theorem percentDecodeBytes_cons {b : UInt8} (h : b ≠ 0x25) (rest : List UInt8) :
    percentDecodeBytes (b :: rest) = b :: percentDecodeBytes rest := by
  rw [percentDecodeBytes]
  simp [h]

include hpercent in
/-- An encoded byte in front of others is read back. -/
theorem percentDecodeBytes_percentEncodeByte (b : UInt8) (rest : List UInt8) :
    percentDecodeBytes ((percentEncodeByte set b).map (fun c => c.toNat.toUInt8) ++ rest)
      = b :: percentDecodeBytes rest := by
  by_cases hb : set b = true
  · have hhigh : b.toNat / 16 < 16 := by have := b.toNat_lt; omega
    have hlow : b.toNat % 16 < 16 := Nat.mod_lt _ (by decide)
    have hsum : (b.toNat / 16).toUInt8 * 16 + (b.toNat % 16).toUInt8 = b := by
      apply UInt8.toNat_inj.1
      simp
      omega
    simp only [percentEncodeByte, hb, if_true, List.map_cons, List.map_nil, List.cons_append,
      List.nil_append]
    rw [show ('%').toNat.toUInt8 = 0x25 from rfl, percentDecodeBytes, hexOf_upperHex hhigh,
      hexOf_upperHex hlow]
    simp only [hsum]
  · have hne : b ≠ 0x25 := fun h => hb (h ▸ hpercent)
    have hchar : (Char.ofNat b.toNat).toNat.toUInt8 = b := by
      rw [toNat_ofNat_byte]
      exact UInt8.ofNat_toNat
    simp only [percentEncodeByte, hb, Bool.false_eq_true, if_false, List.map_cons, List.map_nil,
      List.cons_append, List.nil_append, hchar]
    exact percentDecodeBytes_cons hne rest

include hbeyond hpercent in
/-- Encoded bytes are read back. -/
theorem percentDecode_percentEncodeBytes (bytes : List UInt8) :
    percentDecode (percentEncodeBytes set bytes) = bytes := by
  rw [percentDecode, encodeUtf8_ofList_ascii fun c => ascii_percentEncodeBytes hbeyond]
  induction bytes with
  | nil => rfl
  | cons b bytes ih =>
    rw [percentEncodeBytes_cons, List.map_append,
      percentDecodeBytes_percentEncodeByte hpercent, ih]

end Decoding

end StatementLens.Url
