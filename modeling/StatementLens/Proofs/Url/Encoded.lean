import StatementLens.Proofs.Utf8

/-!
# Encoded texts

A text is encoded for a part of a URL if it holds no character that this part cannot hold. What percent
encoding writes is encoded (`encoded_percentEncode`), and what is encoded stays as it is
(`percentEncode_eq_self`). So encoding twice is encoding once.
-/

namespace StatementLens.Url

open Text

/-- What is to be shown of ASCII characters is shown by going through them. -/
@[elab_as_elim]
theorem forall_ascii {P : Char → Prop} (c : Char) (hc : c.toNat < 0x80) (h : ∀ n < 0x80, P (Char.ofNat n)) : P c := by
  have hp := h c.toNat hc
  rwa [Char.ofNat_toNat] at hp

/-- What is to be shown of the characters of a given text is shown by going through them. -/
theorem forall_mem_of_all {P : Char → Prop} [DecidablePred P] {cs : List Char}
    (h : (cs.all fun c => decide (P c)) = true) : ∀ c ∈ cs, P c :=
  fun c hc => of_decide_eq_true (List.all_eq_true.1 h c hc)

/-- What is encoded in some part of a URL: control characters and all beyond ASCII, but neither the percent
sign nor digits, so that encoded characters are not encoded again. -/
structure IsEncodeSet (set : UInt8 → Bool) : Prop where
  control : ∀ b, isControl b = true → set b = true
  percent : set 0x25 = false
  digit : ∀ n < 16, set (upperHex n).toNat.toUInt8 = false

theorem isEncodeSet_isControl : IsEncodeSet isControl :=
  ⟨fun _ h => h, by decide, by decide⟩

theorem isEncodeSet_fragmentSet : IsEncodeSet fragmentSet :=
  ⟨fun _ h => by simp [fragmentSet, h], by decide, by decide⟩

theorem isEncodeSet_pathSet : IsEncodeSet pathSet :=
  ⟨fun _ h => by simp [pathSet, fragmentSet, h], by decide, by decide⟩

theorem isEncodeSet_userinfoSet : IsEncodeSet userinfoSet :=
  ⟨fun _ h => by simp [userinfoSet, pathSet, fragmentSet, h], by decide, by decide⟩

theorem isEncodeSet_querySet : IsEncodeSet querySet :=
  ⟨fun _ h => by simp [querySet, h], by decide, by decide⟩

theorem isEncodeSet_specialQuerySet : IsEncodeSet specialQuerySet :=
  ⟨fun _ h => by simp [specialQuerySet, querySet, h], by decide, by decide⟩

theorem IsEncodeSet.ascii {set : UInt8 → Bool} (h : IsEncodeSet set) {b : UInt8} (hb : set b = false) :
    b.toNat < 0x80 := by
  refine toNat_lt_of_set_eq_false (fun b hle => h.control b ?_) hb
  have hmid : (0x7F : UInt8) ≤ b := UInt8.le_trans (by decide) hle
  simp [isControl, hmid]

/-- Whether no character of a text is in a set. -/
def Encoded (set : UInt8 → Bool) (cs : List Char) : Prop :=
  ∀ c ∈ cs, c.toNat < 0x80 ∧ set c.toNat.toUInt8 = false

section

variable {set : UInt8 → Bool} {cs ds : List Char}

theorem encoded_nil : Encoded set [] := by simp [Encoded]

/-- What is encoded by a set is encoded by a smaller one. -/
theorem Encoded.mono {other : UInt8 → Bool} (h : Encoded set cs) (hset : ∀ b, other b = true → set b = true) :
    Encoded other cs := by
  intro c hc
  obtain ⟨hascii, hplain⟩ := h c hc
  refine ⟨hascii, ?_⟩
  cases hin : other c.toNat.toUInt8 with
  | false => rfl
  | true =>
    rw [hset _ hin] at hplain
    cases hplain

theorem Encoded.control (h : Encoded set cs) (hset : IsEncodeSet set) : Encoded isControl cs :=
  h.mono hset.control

/-- A character of the set is not in an encoded text. -/
theorem Encoded.notMem (h : Encoded set cs) {c : Char} (hc : set c.toNat.toUInt8 = true) : c ∉ cs := by
  intro hmem
  rw [(h c hmem).2] at hc
  cases hc

/-- What is encoded is not encoded again. -/
theorem percentEncode_eq_self (h : Encoded set cs) : percentEncode set cs = cs := by
  unfold percentEncode
  rw [encodeUtf8_ofList_ascii fun c hc => (h c hc).1]
  induction cs with
  | nil => rfl
  | cons c cs ih =>
    obtain ⟨hascii, hplain⟩ := h c List.mem_cons_self
    have hc : Char.ofNat c.toNat.toUInt8.toNat = c := by
      have hbyte : c.toNat.toUInt8.toNat = c.toNat := by
        rw [Nat.toUInt8_eq, UInt8.toNat_ofNat']
        omega
      rw [hbyte, Char.ofNat_toNat]
    rw [List.map_cons, percentEncodeBytes_cons, ih fun d hd => h d (List.mem_cons_of_mem c hd),
      percentEncodeByte, if_neg (by rw [hplain]; decide), hc]
    rfl

/-- What percent encoding writes is encoded, also for a part that can hold more. -/
theorem encoded_percentEncodeBytes (hset : IsEncodeSet set) {wider : UInt8 → Bool}
    (hwider : ∀ b, set b = true → wider b = true) (bytes : List UInt8) :
    Encoded set (percentEncodeBytes wider bytes) := by
  intro c hc
  rcases mem_percentEncodeBytes hc with rfl | ⟨n, hn, rfl⟩ | ⟨b, hb, rfl⟩
  · exact ⟨by decide, hset.percent⟩
  · exact ⟨toNat_upperHex hn, hset.digit n hn⟩
  · have hin : set b = false := by
      cases hin : set b with
      | false => rfl
      | true =>
        rw [hwider b hin] at hb
        cases hb
    rw [toNat_ofNat_byte]
    refine ⟨hset.ascii hin, ?_⟩
    rw [Nat.toUInt8_eq, UInt8.ofNat_toNat]
    exact hin

/-- An encoded text is encoded. -/
theorem encoded_percentEncode (hset : IsEncodeSet set) (cs : List Char) :
    Encoded set (percentEncode set cs) :=
  encoded_percentEncodeBytes hset (fun _ h => h) _

/-- Parts of a text are encoded one by one. -/
theorem percentEncode_append (set : UInt8 → Bool) (cs ds : List Char) :
    percentEncode set (cs ++ ds) = percentEncode set cs ++ percentEncode set ds := by
  unfold percentEncode percentEncodeBytes
  rw [encodeUtf8_ofList, encodeUtf8_ofList, encodeUtf8_ofList, List.flatMap_append, List.flatMap_append]

/-- A byte of a character that is ASCII is the character. -/
theorem toNat_of_mem_utf8EncodeChar {c : Char} {b : UInt8} (h : b ∈ String.utf8EncodeChar c)
    (hb : b.toNat < 0x80) : c.toNat = b.toNat := by
  have hc : c.toNat = c.val.toNat := rfl
  unfold String.utf8EncodeChar at h
  rw [hc]
  dsimp only at h
  split at h
  · rw [List.mem_singleton] at h
    rw [h, UInt8.toNat_ofNat']
    omega
  · -- all bytes of a longer character are beyond ASCII
    exfalso
    split at h
    · simp only [List.mem_cons, List.not_mem_nil, or_false] at h
      rcases h with rfl | rfl <;> (rw [UInt8.toNat_ofNat'] at hb; omega)
    · split at h
      · simp only [List.mem_cons, List.not_mem_nil, or_false] at h
        rcases h with rfl | rfl | rfl <;> (rw [UInt8.toNat_ofNat'] at hb; omega)
      · simp only [List.mem_cons, List.not_mem_nil, or_false] at h
        rcases h with rfl | rfl | rfl | rfl <;> (rw [UInt8.toNat_ofNat'] at hb; omega)

/-- Characters that are written and are neither percent signs nor digits stand in the text. -/
theorem mem_of_mem_percentEncode (hset : IsEncodeSet set) {c : Char} (h : c ∈ percentEncode set cs)
    (hpercent : c ≠ '%') (hdigit : ∀ n < 16, c ≠ upperHex n) : c ∈ cs := by
  obtain ⟨b, hb, hc⟩ := List.mem_flatMap.1 h
  rw [encodeUtf8_ofList] at hb
  obtain ⟨d, hd, hbyte⟩ := List.mem_flatMap.1 hb
  by_cases hin : set b = true
  · -- an encoded byte is written with a percent sign and digits
    have hhigh : b.toNat / 16 < 16 := by have := b.toNat_lt; omega
    have hlow : b.toNat % 16 < 16 := Nat.mod_lt _ (by decide)
    simp only [hin, if_true, List.mem_cons, List.not_mem_nil, or_false] at hc
    rcases hc with hc | hc | hc
    · exact absurd hc hpercent
    · exact absurd hc (hdigit _ hhigh)
    · exact absurd hc (hdigit _ hlow)
  · simp only [hin, Bool.false_eq_true, if_false, List.mem_cons, List.not_mem_nil, or_false] at hc
    have hascii : b.toNat < 0x80 := hset.ascii (by simpa using hin)
    have hsame : d = c := by
      rw [hc, ← toNat_of_mem_utf8EncodeChar hbyte hascii, Char.ofNat_toNat]
    exact hsame ▸ hd

/-- Encoding brings nothing into a text but percent signs and digits. -/
theorem forall_mem_percentEncode (hset : IsEncodeSet set) {P : Char → Prop} (hpercent : P '%')
    (hdigit : ∀ n < 16, P (upperHex n)) (h : ∀ c ∈ cs, P c) : ∀ c ∈ percentEncode set cs, P c := by
  intro c hc
  by_cases hwritten : c = '%' ∨ ∃ n < 16, c = upperHex n
  · rcases hwritten with rfl | ⟨n, hn, rfl⟩
    · exact hpercent
    · exact hdigit n hn
  · exact h c (mem_of_mem_percentEncode hset hc (fun heq => hwritten (.inl heq))
      fun n hn heq => hwritten (.inr ⟨n, hn, heq⟩))

theorem percentEncode_eq_nil_iff : percentEncode set cs = [] ↔ cs = [] := by
  constructor
  · intro h
    cases cs with
    | nil => rfl
    | cons c cs =>
      obtain ⟨first, more, hbytes, -⟩ := decodeFirst_encode c
      unfold percentEncode at h
      rw [encodeUtf8_ofList, List.flatMap_cons, hbytes, List.cons_append, percentEncodeBytes_cons,
        List.append_eq_nil_iff] at h
      unfold percentEncodeByte at h
      split at h <;> exact absurd h.1 (List.cons_ne_nil _ _)
  · rintro rfl
    exact percentEncode_eq_self encoded_nil

end

end StatementLens.Url
