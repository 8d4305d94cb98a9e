import Mathlib.Data.List.TakeWhile
import Mathlib.Tactic.Common
import StatementLens.Proofs.Url.Percent

/-!
# Reading UTF-8 back

The bytes of a text are read back as the text. A character has one to four bytes: the first one tells how
many follow, and each of those contributes six bits (`decodeFirst_encode`).
-/

namespace StatementLens.Text

/-! ## Classes of bytes -/

theorem followers_eq (b : UInt8) :
    followers b = if b.toNat < 0x80 then some 0
      else if 0xC2 ≤ b.toNat ∧ b.toNat ≤ 0xDF then some 1
      else if 0xE0 ≤ b.toNat ∧ b.toNat ≤ 0xEF then some 2
      else if 0xF0 ≤ b.toNat ∧ b.toNat ≤ 0xF4 then some 3
      else none := by
  unfold followers
  simp only [UInt8.lt_iff_toNat_lt, UInt8.le_iff_toNat_le, Bool.and_eq_true, decide_eq_true_eq]
  rfl

theorem isContinuation_iff {b : UInt8} :
    isContinuation b = true ↔ 0x80 ≤ b.toNat ∧ b.toNat ≤ 0xBF := by
  unfold isContinuation
  rw [Bool.and_eq_true, decide_eq_true_eq, decide_eq_true_eq, UInt8.le_iff_toNat_le,
    UInt8.le_iff_toNat_le]
  rfl

/-- A byte that goes on with a character may come second, unless the two together are written with too many
bytes, or are half of a surrogate pair, or are beyond all characters. -/
theorem maySecond_of_isContinuation {first b : UInt8} (hb : isContinuation b = true)
    (hE0 : first.toNat = 0xE0 → 0xA0 ≤ b.toNat) (hED : first.toNat = 0xED → b.toNat ≤ 0x9F)
    (hF0 : first.toNat = 0xF0 → 0x90 ≤ b.toNat) (hF4 : first.toNat = 0xF4 → b.toNat ≤ 0x8F) :
    maySecond first b = true := by
  obtain ⟨hlow, hhigh⟩ := isContinuation_iff.1 hb
  unfold maySecond
  simp only [← UInt8.toNat_inj, UInt8.le_iff_toNat_le]
  split
  · next h => exact Bool.and_eq_true_iff.2 ⟨decide_eq_true (hE0 h), decide_eq_true hhigh⟩
  · split
    · next h => exact Bool.and_eq_true_iff.2 ⟨decide_eq_true hlow, decide_eq_true (hED h)⟩
    · split
      · next h => exact Bool.and_eq_true_iff.2 ⟨decide_eq_true (hF0 h), decide_eq_true hhigh⟩
      · split
        · next h => exact Bool.and_eq_true_iff.2 ⟨decide_eq_true hlow, decide_eq_true (hF4 h)⟩
        · exact hb

/-! ## One character -/

/-- The number that the bytes of a character write, given the bits of the first one. -/
def codeOf (lead : Nat) (more : List UInt8) : Nat :=
  more.foldl (fun acc b => acc * 64 + b.toNat % 64) lead

/-- Bytes that go on with a character are read up to the number that its first byte tells. -/
theorem decodeFirst_append {first second : UInt8} (more : List UInt8)
    (hfirst : followers first = some (more.length + 1)) (hsecond : maySecond first second = true)
    (hmore : ∀ b ∈ more, isContinuation b = true) (rest : List UInt8) :
    decodeFirst first (second :: more ++ rest)
      = (some (Char.ofNat (codeOf (leadBits first (more.length + 1)) (second :: more))),
        more.length + 1) := by
  have htaken : takeFollowers first (more.length + 1) (second :: more ++ rest) = second :: more := by
    have hall : more.takeWhile isContinuation = more := List.takeWhile_eq_self_iff.2 hmore
    rw [List.cons_append, takeFollowers, if_pos hsecond, List.take_left, hall]
  unfold decodeFirst
  rw [hfirst]
  simp only [htaken, List.length_cons, if_true]
  rfl

private theorem toNat_byte {n : Nat} (h : n < 256) : (UInt8.ofNat n).toNat = n := by
  rw [UInt8.toNat_ofNat']
  omega

private theorem isContinuation_byte (n : Nat) : isContinuation (UInt8.ofNat (n % 64 + 128)) = true := by
  rw [isContinuation_iff, toNat_byte (by omega)]
  omega

private theorem decodeFirst_two {v : Nat} (hlow : 0x7F < v) (hhigh : v ≤ 0x7FF) (rest : List UInt8) :
    decodeFirst (UInt8.ofNat (v / 64 % 32 + 192)) ([UInt8.ofNat (v % 64 + 128)] ++ rest)
      = (some (Char.ofNat v), 1) := by
  have hfirst : (UInt8.ofNat (v / 64 % 32 + 192)).toNat = v / 64 % 32 + 192 := toNat_byte (by omega)
  have hsecond : (UInt8.ofNat (v % 64 + 128)).toNat = v % 64 + 128 := toNat_byte (by omega)
  have hcount : followers (UInt8.ofNat (v / 64 % 32 + 192)) = some 1 := by
    rw [followers_eq, hfirst, if_neg (by omega), if_pos (by omega)]
  have hmay : maySecond (UInt8.ofNat (v / 64 % 32 + 192)) (UInt8.ofNat (v % 64 + 128)) = true := by
    apply maySecond_of_isContinuation (isContinuation_byte v)
    all_goals
      rw [hfirst, hsecond]
      omega
  have hcode : codeOf (leadBits (UInt8.ofNat (v / 64 % 32 + 192)) 1) [UInt8.ofNat (v % 64 + 128)] = v := by
    simp only [codeOf, leadBits, List.foldl_cons, List.foldl_nil, hfirst, hsecond]
    omega
  have hread := decodeFirst_append [] hcount hmay (by simp) rest
  rw [List.length_nil, Nat.zero_add, hcode] at hread
  exact hread

private theorem decodeFirst_three {v : Nat} (hlow : 0x7FF < v) (hhigh : v ≤ 0xFFFF)
    (hpair : v < 0xD800 ∨ 0xDFFF < v) (rest : List UInt8) :
    decodeFirst (UInt8.ofNat (v / 4096 % 16 + 224))
        ([UInt8.ofNat (v / 64 % 64 + 128), UInt8.ofNat (v % 64 + 128)] ++ rest)
      = (some (Char.ofNat v), 2) := by
  have hfirst : (UInt8.ofNat (v / 4096 % 16 + 224)).toNat = v / 4096 % 16 + 224 := toNat_byte (by omega)
  have hsecond : (UInt8.ofNat (v / 64 % 64 + 128)).toNat = v / 64 % 64 + 128 := toNat_byte (by omega)
  have hthird : (UInt8.ofNat (v % 64 + 128)).toNat = v % 64 + 128 := toNat_byte (by omega)
  have hcount : followers (UInt8.ofNat (v / 4096 % 16 + 224)) = some 2 := by
    rw [followers_eq, hfirst, if_neg (by omega), if_neg (by omega), if_pos (by omega)]
  have hmay : maySecond (UInt8.ofNat (v / 4096 % 16 + 224)) (UInt8.ofNat (v / 64 % 64 + 128)) = true := by
    apply maySecond_of_isContinuation (isContinuation_byte (v / 64))
    all_goals
      rw [hfirst, hsecond]
      omega
  have hcode : codeOf (leadBits (UInt8.ofNat (v / 4096 % 16 + 224)) 2)
      [UInt8.ofNat (v / 64 % 64 + 128), UInt8.ofNat (v % 64 + 128)] = v := by
    simp only [codeOf, leadBits, List.foldl_cons, List.foldl_nil, hfirst, hsecond, hthird]
    omega
  have hread := decodeFirst_append [UInt8.ofNat (v % 64 + 128)] hcount hmay
    (List.forall_mem_singleton.2 (isContinuation_byte v)) rest
  rw [List.length_singleton, hcode] at hread
  exact hread

private theorem decodeFirst_four {v : Nat} (hlow : 0xFFFF < v) (hhigh : v < 0x110000)
    (rest : List UInt8) :
    decodeFirst (UInt8.ofNat (v / 262144 % 8 + 240))
        ([UInt8.ofNat (v / 4096 % 64 + 128), UInt8.ofNat (v / 64 % 64 + 128),
          UInt8.ofNat (v % 64 + 128)] ++ rest)
      = (some (Char.ofNat v), 3) := by
  have hfirst : (UInt8.ofNat (v / 262144 % 8 + 240)).toNat = v / 262144 % 8 + 240 :=
    toNat_byte (by omega)
  have hsecond : (UInt8.ofNat (v / 4096 % 64 + 128)).toNat = v / 4096 % 64 + 128 :=
    toNat_byte (by omega)
  have hthird : (UInt8.ofNat (v / 64 % 64 + 128)).toNat = v / 64 % 64 + 128 := toNat_byte (by omega)
  have hfourth : (UInt8.ofNat (v % 64 + 128)).toNat = v % 64 + 128 := toNat_byte (by omega)
  have hcount : followers (UInt8.ofNat (v / 262144 % 8 + 240)) = some 3 := by
    rw [followers_eq, hfirst, if_neg (by omega), if_neg (by omega), if_neg (by omega),
      if_pos (by omega)]
  have hmay : maySecond (UInt8.ofNat (v / 262144 % 8 + 240)) (UInt8.ofNat (v / 4096 % 64 + 128))
      = true := by
    apply maySecond_of_isContinuation (isContinuation_byte (v / 4096))
    all_goals
      rw [hfirst, hsecond]
      omega
  have hcode : codeOf (leadBits (UInt8.ofNat (v / 262144 % 8 + 240)) 3)
      [UInt8.ofNat (v / 4096 % 64 + 128), UInt8.ofNat (v / 64 % 64 + 128),
        UInt8.ofNat (v % 64 + 128)] = v := by
    simp only [codeOf, leadBits, List.foldl_cons, List.foldl_nil, hfirst, hsecond, hthird, hfourth]
    omega
  have hread := decodeFirst_append
    [UInt8.ofNat (v / 64 % 64 + 128), UInt8.ofNat (v % 64 + 128)] hcount hmay
    (List.forall_mem_cons.2 ⟨isContinuation_byte (v / 64),
      List.forall_mem_singleton.2 (isContinuation_byte v)⟩) rest
  rw [show [UInt8.ofNat (v / 64 % 64 + 128), UInt8.ofNat (v % 64 + 128)].length = 2 from rfl,
    hcode] at hread
  exact hread

/-- A character is read back from its bytes. -/
theorem decodeFirst_encode (c : Char) :
    ∃ first more, String.utf8EncodeChar c = first :: more ∧
      ∀ rest, decodeFirst first (more ++ rest) = (some c, more.length) := by
  have hvalid : c.val.toNat < 0xD800 ∨ 0xDFFF < c.val.toNat ∧ c.val.toNat < 0x110000 := c.valid
  have hback : Char.ofNat c.val.toNat = c := Char.ofNat_toNat c
  unfold String.utf8EncodeChar
  generalize c.val.toNat = v at hvalid hback ⊢
  subst hback
  dsimp only
  split
  · next hv =>
    have hfirst : (UInt8.ofNat v).toNat = v := toNat_byte (by omega)
    have hcount : followers (UInt8.ofNat v) = some 0 := by
      rw [followers_eq, hfirst, if_pos (by omega)]
    refine ⟨_, _, rfl, fun rest => ?_⟩
    unfold decodeFirst
    rw [hcount]
    simp [takeFollowers, leadBits, hfirst]
  · split
    · exact ⟨_, _, rfl, fun rest => decodeFirst_two (by omega) (by omega) rest⟩
    · split
      · exact ⟨_, _, rfl, fun rest => decodeFirst_three (by omega) (by omega) (by omega) rest⟩
      · exact ⟨_, _, rfl, fun rest => decodeFirst_four (by omega) (by omega) rest⟩

/-! ## Texts -/

private theorem decodeChars_encode (done : List (Option Char)) (cs : List Char) :
    decodeChars done (cs.flatMap String.utf8EncodeChar) = done.reverse ++ cs.map some := by
  induction cs generalizing done with
  | nil => simp [decodeChars]
  | cons c cs ih =>
    obtain ⟨first, more, hbytes, hread⟩ := decodeFirst_encode c
    rw [List.flatMap_cons, hbytes, List.cons_append, decodeChars, hread]
    dsimp only
    rw [List.drop_left, ih, List.reverse_cons, List.append_assoc]
    rfl

/-- The bytes of a text are read back as the text, also where faults would be replaced. -/
theorem decodeUtf8Lossy_encodeUtf8 (s : String) : decodeUtf8Lossy (encodeUtf8 s) = s := by
  have hbytes := encodeUtf8_ofList s.toList
  rw [String.ofList_toList] at hbytes
  unfold decodeUtf8Lossy
  rw [hbytes, decodeChars_encode, List.reverse_nil, List.nil_append, List.map_map]
  have hsome : (fun c : Option Char => c.getD (Char.ofNat 0xFFFD)) ∘ some = id := rfl
  rw [hsome, List.map_id, String.ofList_toList]

theorem encodeUtf8_append (s t : String) : encodeUtf8 (s ++ t) = encodeUtf8 s ++ encodeUtf8 t := by
  have hlist : ∀ u : String, encodeUtf8 u = u.toList.flatMap String.utf8EncodeChar := by
    intro u
    rw [← encodeUtf8_ofList, String.ofList_toList]
  rw [hlist, hlist, hlist, String.toList_append, List.flatMap_append]

end StatementLens.Text
