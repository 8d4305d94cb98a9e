import Mathlib.Algebra.Group.Nat.Defs
import Mathlib.Tactic.Common
import StatementLens.Proofs.Url.Percent
import StatementLens.Url.Host

/-!
# Addresses of hosts

An IPv4 address is a number below `2 ^ 32`, and an IPv6 address consists of eight pieces below `2 ^ 16`. What
has been read from an address is read back from how it is written (`parseIpv4_writeIpv4`,
`parseIpv6_writeIpv6`).
-/

namespace StatementLens.Url

open Text

/-! ## Digits -/

/-- A hexadecimal digit added to the number in front of it. -/
private def hexStep (acc : Option Nat) (c : Char) : Option Nat := do
  let n ← acc
  let d ← hexOf c.toNat.toUInt8
  if c.toNat < 0x80 then some (16 * n + d.toNat) else none

/-- A hexadecimal number is read digit by digit, and there is at least one. -/
private theorem hexNumber_eq (cs : List Char) :
    hexNumber cs = if cs.isEmpty then none else cs.foldl hexStep (some 0) := rfl

/-- Hexadecimal digits come apart at the last one. -/
theorem toDigits_hex {n : Nat} (h : 16 ≤ n) :
    Nat.toDigits 16 n = Nat.toDigits 16 (n / 16) ++ [Nat.digitChar (n % 16)] := by
  have hlast : n % 16 < 16 := Nat.mod_lt n (by decide)
  have hsplit := Nat.toDigits_append_toDigits (b := 16) (n := n / 16) (d := n % 16) (by decide)
    (by omega) hlast
  rw [Nat.toDigits_of_lt_base hlast, show 16 * (n / 16) + n % 16 = n by omega] at hsplit
  exact hsplit.symm

/-- All digits of a number are hexadecimal. -/
theorem mem_toDigits_hex {n : Nat} {c : Char} (h : c ∈ Nat.toDigits 16 n) :
    ∃ d < 16, c = Nat.digitChar d := by
  induction n using Nat.strongRecOn with
  | ind n ih =>
    by_cases hn : n < 16
    · rw [Nat.toDigits_of_lt_base hn, List.mem_singleton] at h
      exact ⟨n, hn, h⟩
    · rw [toDigits_hex (by omega), List.mem_append, List.mem_singleton] at h
      rcases h with h | h
      · exact ih (n / 16) (by omega) h
      · exact ⟨n % 16, Nat.mod_lt n (by decide), h⟩

/-- One more digit counts once, and what is in front of it sixteen times. -/
private theorem hexStep_digitChar (n : Nat) {d : Nat} (h : d < 16) :
    hexStep (some n) (Nat.digitChar d) = some (16 * n + d) := by
  have hdigit : ∀ d < 16, hexOf (Nat.digitChar d).toNat.toUInt8 = some d.toUInt8 ∧
      (Nat.digitChar d).toNat < 0x80 := by decide
  obtain ⟨hvalue, hascii⟩ := hdigit d h
  simp [hexStep, hvalue, hascii]
  omega

/-- A number is read back from its hexadecimal digits. -/
theorem hexNumber_toDigits (n : Nat) : hexNumber (Nat.toDigits 16 n) = some n := by
  have hfold : (Nat.toDigits 16 n).foldl hexStep (some 0) = some n := by
    induction n using Nat.strongRecOn with
    | ind n ih =>
      by_cases hn : n < 16
      · rw [Nat.toDigits_of_lt_base hn, List.foldl_cons, hexStep_digitChar 0 hn]
        simp
      · rw [toDigits_hex (by omega), List.foldl_append, ih (n / 16) (by omega), List.foldl_cons,
          hexStep_digitChar _ (Nat.mod_lt n (by decide)), List.foldl_nil]
        congr 1
        omega
  rw [hexNumber_eq, if_neg (by simp), hfold]

theorem toNat_lt_of_hexOf {b d : UInt8} (h : hexOf b = some d) : d.toNat < 16 := by
  have hall : ∀ n < 256, ((hexOf n.toUInt8).all fun d => d.toNat < 16) = true := by decide +kernel
  have hb := hall b.toNat b.toNat_lt
  rw [Nat.toUInt8_eq, UInt8.ofNat_toNat, h] at hb
  simpa using hb

private theorem foldl_hexStep_none (cs : List Char) : cs.foldl hexStep none = none := by
  induction cs with
  | nil => rfl
  | cons c cs ih => exact ih

/-- Each digit makes a number at most sixteen times as great. -/
private theorem lt_of_foldl_hexStep {cs : List Char} {m n : Nat}
    (h : cs.foldl hexStep (some m) = some n) : n < (m + 1) * 16 ^ cs.length := by
  induction cs generalizing m with
  | nil =>
    cases h
    simp
  | cons c cs ih =>
    rw [List.foldl_cons] at h
    cases hstep : hexStep (some m) c with
    | none =>
      rw [hstep, foldl_hexStep_none] at h
      cases h
    | some k =>
      rw [hstep] at h
      obtain ⟨d, hd, hk⟩ : ∃ d : UInt8, d.toNat < 16 ∧ k = 16 * m + d.toNat := by
        simp only [hexStep, bind, Option.bind_some, Option.bind_eq_some_iff] at hstep
        obtain ⟨d, hd, hk⟩ := hstep
        split at hk
        · cases hk
          exact ⟨d, toNat_lt_of_hexOf hd, rfl⟩
        · cases hk
      -- one digit takes the number to less than sixteen times its successor
      calc n < (k + 1) * 16 ^ cs.length := ih h
        _ ≤ (16 * (m + 1)) * 16 ^ cs.length := Nat.mul_le_mul_right _ (by omega)
        _ = (m + 1) * 16 ^ (c :: cs).length := by
          rw [List.length_cons, Nat.pow_succ, Nat.mul_comm 16, Nat.mul_assoc, Nat.mul_comm 16]

/-- As many hexadecimal digits write a number below that power of sixteen. -/
theorem lt_of_hexNumber {cs : List Char} {n : Nat} (h : hexNumber cs = some n) : n < 16 ^ cs.length := by
  rw [hexNumber_eq] at h
  split at h
  · cases h
  · simpa using lt_of_foldl_hexStep h

/-! ## Lists of readings -/

/-- Each result comes from an item. -/
theorem exists_of_mem_mapM {α β : Type} {f : α → Option β} {xs : List α} {ys : List β}
    (h : xs.mapM f = some ys) {y : β} (hy : y ∈ ys) : ∃ x ∈ xs, f x = some y := by
  induction xs generalizing ys with
  | nil =>
    cases h
    cases hy
  | cons x xs ih =>
    rw [List.mapM_cons] at h
    simp only [bind, Option.bind_eq_some_iff, pure, Option.some.injEq] at h
    obtain ⟨z, hz, zs, hzs, rfl⟩ := h
    rcases List.mem_cons.1 hy with rfl | hy
    · exact ⟨x, List.mem_cons_self, hz⟩
    · obtain ⟨x', hx', hread⟩ := ih hzs hy
      exact ⟨x', List.mem_cons_of_mem x hx', hread⟩

/-- There are as many results as items. -/
theorem length_of_mapM {α β : Type} {f : α → Option β} {xs : List α} {ys : List β}
    (h : xs.mapM f = some ys) : ys.length = xs.length := by
  induction xs generalizing ys with
  | nil =>
    cases h
    rfl
  | cons x xs ih =>
    rw [List.mapM_cons] at h
    simp only [bind, Option.bind_eq_some_iff, pure, Option.some.injEq] at h
    obtain ⟨z, -, zs, hzs, rfl⟩ := h
    rw [List.length_cons, List.length_cons, ih hzs]

/-- Items that are read back one by one are read back as a list. -/
theorem mapM_map_eq_some {α β : Type} {f : α → Option β} {g : β → α} {ys : List β}
    (h : ∀ y ∈ ys, f (g y) = some y) : (ys.map g).mapM f = some ys := by
  induction ys with
  | nil => rfl
  | cons y ys ih =>
    rw [List.map_cons, List.mapM_cons, h y List.mem_cons_self,
      ih fun z hz => h z (List.mem_cons_of_mem y hz)]
    rfl

/-! ## IPv6 addresses -/

/-- Whether numbers are pieces of an address. -/
def ArePieces (pieces : List Nat) : Prop := ∀ n ∈ pieces, n < 65536

/-- A piece has sixteen bits. -/
theorem lt_of_ipv6Piece {cs : List Char} {n : Nat} (h : ipv6Piece cs = some n) : n < 65536 := by
  unfold ipv6Piece at h
  split at h
  · next hlength =>
    calc n < 16 ^ cs.length := lt_of_hexNumber h
      _ ≤ 16 ^ 4 := Nat.pow_le_pow_right (by decide) hlength
  · cases h

/-- A piece is read back from its digits. -/
theorem ipv6Piece_toDigits {n : Nat} (h : n < 65536) : ipv6Piece (Nat.toDigits 16 n) = some n := by
  unfold ipv6Piece
  rw [if_pos ((Nat.length_toDigits_le_iff (by decide) (by decide)).2 h), hexNumber_toDigits]

theorem le_of_dottedNumber {cs : List Char} {n : Nat} (h : dottedNumber cs = some n) : n ≤ 255 := by
  unfold dottedNumber at h
  split at h
  · cases h
  · dsimp only at h
    split at h
    · next hle =>
      cases h
      exact hle
    · cases h

/-- All that is read on one side of a double colon are pieces. -/
theorem arePieces_of_ipv6Side {cs : List Char} {isLast : Bool} {pieces : List Nat}
    (h : ipv6Side cs isLast = some pieces) : ArePieces pieces := by
  unfold ipv6Side at h
  split at h
  · cases h
    simp [ArePieces]
  · dsimp only at h
    split at h
    · simp only [bind, Option.bind_eq_some_iff] at h
      obtain ⟨front, hfront, ns, hns, h⟩ := h
      split at h
      · next a b c d =>
        cases h
        -- four numbers of a dotted tail make two pieces
        have hle : ∀ n ∈ [a, b, c, d], n ≤ 255 := by
          intro n hn
          obtain ⟨_, -, hread⟩ := exists_of_mem_mapM hns hn
          exact le_of_dottedNumber hread
        have ha := hle a (by simp)
        have hb := hle b (by simp)
        have hc := hle c (by simp)
        have hd := hle d (by simp)
        intro n hn
        simp only [List.mem_append, List.mem_cons, List.not_mem_nil, or_false] at hn
        rcases hn with hn | rfl | rfl
        · obtain ⟨_, -, hread⟩ := exists_of_mem_mapM hfront hn
          exact lt_of_ipv6Piece hread
        · omega
        · omega
      · cases h
    · intro n hn
      obtain ⟨_, -, hread⟩ := exists_of_mem_mapM h hn
      exact lt_of_ipv6Piece hread

/-- An address has eight pieces. -/
theorem of_parseIpv6 {cs : List Char} {pieces : List Nat} (h : parseIpv6 cs = some pieces) :
    pieces.length = 8 ∧ ArePieces pieces := by
  unfold parseIpv6 at h
  split at h
  · simp only [bind, Option.bind_eq_some_iff] at h
    obtain ⟨all, hall, h⟩ := h
    split at h
    · next hlength =>
      cases h
      exact ⟨hlength, arePieces_of_ipv6Side hall⟩
    · cases h
  · simp only [bind, Option.bind_eq_some_iff] at h
    obtain ⟨front, hfront, back, hback, h⟩ := h
    split at h
    · next hlength =>
      cases h
      refine ⟨?_, ?_⟩
      · simp only [List.length_append, List.length_replicate]
        omega
      · intro n hn
        simp only [List.mem_append, List.mem_replicate] at hn
        rcases hn with (hn | ⟨-, rfl⟩) | hn
        · exact arePieces_of_ipv6Side hfront n hn
        · decide
        · exact arePieces_of_ipv6Side hback n hn
    · cases h

/-- Pieces are joined by colons. -/
theorem joinPieces_eq (pieces : List Nat) :
    joinPieces pieces = [':'].intercalate (pieces.map fun n => Nat.toDigits 16 n) := rfl

theorem joinPieces_cons (n m : Nat) (rest : List Nat) :
    joinPieces (n :: m :: rest) = Nat.toDigits 16 n ++ ':' :: joinPieces (m :: rest) := by
  simp [joinPieces]

theorem notMem_toDigits_hex {c : Char} (hc : ∀ d < 16, Nat.digitChar d ≠ c) (n : Nat) :
    c ∉ Nat.toDigits 16 n := by
  intro h
  obtain ⟨d, hd, rfl⟩ := mem_toDigits_hex h
  exact hc d hd rfl

theorem joinPieces_eq_nil_iff {pieces : List Nat} : joinPieces pieces = [] ↔ pieces = [] := by
  match pieces with
  | [] => simp [joinPieces]
  | [n] => simp [joinPieces]
  | n :: m :: rest => simp [joinPieces_cons]

/-- At the colons they come apart again. -/
theorem splitOn_joinPieces {pieces : List Nat} (h : pieces ≠ []) :
    splitOn (· = ':') (joinPieces pieces) = pieces.map fun n => Nat.toDigits 16 n := by
  rw [splitOn_eq_splitOn, joinPieces_eq]
  apply List.splitOn_intercalate
  · intro l hl
    obtain ⟨n, -, rfl⟩ := List.mem_map.1 hl
    exact notMem_toDigits_hex (by decide) n
  · simpa using h

/-- Pieces are read back from how they are written. -/
theorem ipv6Side_joinPieces {pieces : List Nat} (h : ArePieces pieces) (isLast : Bool) :
    ipv6Side (joinPieces pieces) isLast = some pieces := by
  unfold ipv6Side
  by_cases hne : pieces = []
  · subst hne
    rfl
  · rw [if_neg (by simpa [joinPieces_eq_nil_iff] using hne), splitOn_joinPieces hne]
    have hdot : (((pieces.map fun n => Nat.toDigits 16 n).getLast?.getD []).contains '.') = false := by
      rw [List.getLast?_map]
      cases pieces.getLast? with
      | none => rfl
      | some n => simpa using notMem_toDigits_hex (c := '.') (by decide) n
    simp only [hdot, Bool.and_false, Bool.false_eq_true, if_false]
    exact mapM_map_eq_some fun n hn => ipv6Piece_toDigits (h n hn)

/-- Only a colon can begin a double colon. -/
theorem cutDoubleColon_cons {c : Char} (hc : c ≠ ':') (cs : List Char) :
    cutDoubleColon (c :: cs) = (cutDoubleColon cs).map fun r => (c :: r.1, r.2) := by
  rw [cutDoubleColon]
  rintro rest rfl
  exact absurd rfl hc

/-- What holds no colon stays in front. -/
theorem cutDoubleColon_append {ds : List Char} (h : ':' ∉ ds) (cs : List Char) :
    cutDoubleColon (ds ++ cs) = (cutDoubleColon cs).map fun r => (ds ++ r.1, r.2) := by
  induction ds with
  | nil => simp
  | cons d ds ih =>
    have hd : d ≠ ':' := by
      rintro rfl
      exact h List.mem_cons_self
    rw [List.cons_append, cutDoubleColon_cons hd, ih fun hmem => h (List.mem_cons_of_mem d hmem),
      Option.map_map]
    rfl

/-- A single colon stays in front. -/
theorem cutDoubleColon_colon {cs : List Char} (h : cs.head? ≠ some ':') :
    cutDoubleColon (':' :: cs) = (cutDoubleColon cs).map fun r => (':' :: r.1, r.2) := by
  rw [cutDoubleColon]
  rintro rest - rfl
  exact h rfl

/-- Joined pieces do not begin with a colon. -/
theorem head?_joinPieces_ne (n : Nat) (rest : List Nat) (cs : List Char) :
    (joinPieces (n :: rest) ++ cs).head? ≠ some ':' := by
  have hdigits : ∃ d ds, Nat.toDigits 16 n = d :: ds := List.exists_cons_of_ne_nil Nat.toDigits_ne_nil
  obtain ⟨d, ds, hd⟩ := hdigits
  have hne : d ≠ ':' := by
    rintro rfl
    exact notMem_toDigits_hex (c := ':') (by decide) n (hd ▸ List.mem_cons_self)
  cases rest with
  | nil => simpa [joinPieces, hd] using hne
  | cons m rest => simpa [joinPieces_cons, hd] using hne

/-- Pieces hold no double colon. -/
theorem cutDoubleColon_joinPieces (pieces : List Nat) (cs : List Char) :
    cutDoubleColon (joinPieces pieces) = none ∧
      cutDoubleColon (joinPieces pieces ++ ':' :: ':' :: cs) = some (joinPieces pieces, cs) := by
  have hdigits := notMem_toDigits_hex (c := ':') (by decide)
  induction pieces with
  | nil => exact ⟨rfl, rfl⟩
  | cons n rest ih =>
    cases rest with
    | nil =>
      have hone : joinPieces [n] = Nat.toDigits 16 n ++ [] := by simp [joinPieces]
      rw [hone, List.append_assoc, cutDoubleColon_append (hdigits n), cutDoubleColon_append (hdigits n)]
      exact ⟨rfl, rfl⟩
    | cons m rest =>
      have hhead := head?_joinPieces_ne m rest
      rw [joinPieces_cons, List.append_assoc, cutDoubleColon_append (hdigits n),
        cutDoubleColon_append (hdigits n), List.cons_append,
        cutDoubleColon_colon (by simpa using hhead []), cutDoubleColon_colon (hhead _), ih.1, ih.2]
      exact ⟨rfl, rfl⟩

/-- The zeros that are left out stand where they are said to. -/
theorem of_longestZeros {pieces : List Nat} {start n : Nat} (h : longestZeros pieces = some (start, n)) :
    2 ≤ n ∧ pieces = pieces.take start ++ List.replicate n 0 ++ pieces.drop (start + n) := by
  -- what is kept is always a run of zeros of the right length; that it is the longest does not matter here
  have hinv : ∀ best : Nat × Nat, longestZeros pieces = some best →
      2 ≤ best.2 ∧ zeroRun (pieces.drop best.1) = best.2 := by
    unfold longestZeros
    apply List.foldlRecOn (motive := fun found => ∀ best : Nat × Nat, found = some best →
      2 ≤ best.2 ∧ zeroRun (pieces.drop best.1) = best.2)
    · intro best hbest
      cases hbest
    · intro found hfound i _ best hbest
      dsimp only at hbest
      split at hbest
      · next hlong =>
        cases hbest
        exact ⟨by simpa using (Bool.and_eq_true_iff.1 hlong).1, rfl⟩
      · exact hfound best hbest
  obtain ⟨htwo, hrun⟩ := hinv _ h
  refine ⟨htwo, ?_⟩
  have hzeros : (pieces.drop start).takeWhile (· = 0) = List.replicate n 0 := by
    rw [List.eq_replicate_iff]
    refine ⟨hrun, fun m hm => ?_⟩
    simpa using List.all_eq_true.1 List.all_takeWhile m hm
  have hsplit := List.takeWhile_append_dropWhile (p := (· = 0)) (l := pieces.drop start)
  have hrest : (pieces.drop start).dropWhile (· = 0) = pieces.drop (start + n) := by
    rw [hzeros] at hsplit
    have hdrop := congrArg (List.drop n) hsplit
    rw [List.drop_left' (List.length_replicate ..), List.drop_drop] at hdrop
    exact hdrop
  rw [hzeros, hrest] at hsplit
  rw [List.append_assoc, hsplit, List.take_append_drop]

/-- An address is read back from how it is written. -/
theorem parseIpv6_writeIpv6 {pieces : List Nat} (hlength : pieces.length = 8) (h : ArePieces pieces) :
    parseIpv6 (writeIpv6 pieces) = some pieces := by
  unfold writeIpv6
  cases hzeros : longestZeros pieces with
  | none =>
    unfold parseIpv6
    rw [(cutDoubleColon_joinPieces pieces []).1]
    simp [ipv6Side_joinPieces h, hlength]
  | some best =>
    obtain ⟨start, n⟩ := best
    obtain ⟨htwo, hsplit⟩ := of_longestZeros hzeros
    have hfront : ArePieces (pieces.take start) := fun m hm => h m (List.mem_of_mem_take hm)
    have hback : ArePieces (pieces.drop (start + n)) := fun m hm => h m (List.mem_of_mem_drop hm)
    -- the pieces around the zeros say how many zeros to put back
    have hlengths : (pieces.take start).length + n + (pieces.drop (start + n)).length = 8 := by
      rw [← hlength]
      conv_rhs => rw [hsplit]
      simp only [List.length_append, List.length_replicate]
    unfold parseIpv6
    dsimp only
    rw [List.append_assoc, show [':', ':'] ++ joinPieces (pieces.drop (start + n))
      = ':' :: ':' :: joinPieces (pieces.drop (start + n)) from rfl, (cutDoubleColon_joinPieces _ _).2]
    simp only [ipv6Side_joinPieces hfront, ipv6Side_joinPieces hback, bind, Option.bind_some]
    rw [if_pos (by omega), show 8 - (pieces.take start).length - (pieces.drop (start + n)).length = n by omega,
      ← hsplit]

/-! ## IPv4 addresses -/

/-- The numbers of an address in their places. -/
def octet (n i : Nat) : Nat := n / Nat.pow 256 i % 256

/-- An address is its four octets, joined by dots. -/
theorem writeIpv4_eq (n : Nat) :
    writeIpv4 n = ['.'].intercalate ([octet n 3, octet n 2, octet n 1, octet n 0].map (Nat.toDigits 10)) := rfl

/-- An octet is read back from its digits. -/
theorem ipv4Number_toDigits {n : Nat} (h : n < 256) : ipv4Number (Nat.toDigits 10 n) = some n := by
  revert n
  decide +kernel

/-- At the dots an address comes apart into its octets. -/
theorem ipv4Labels_writeIpv4 (n : Nat) :
    ipv4Labels (writeIpv4 n) = [octet n 3, octet n 2, octet n 1, octet n 0].map (Nat.toDigits 10) := by
  have hsplit : splitOn (· = '.') (writeIpv4 n)
      = [octet n 3, octet n 2, octet n 1, octet n 0].map (Nat.toDigits 10) := by
    rw [splitOn_eq_splitOn, writeIpv4_eq]
    apply List.splitOn_intercalate
    · intro l hl hdot
      obtain ⟨m, -, rfl⟩ := List.mem_map.1 hl
      exact absurd (Nat.isDigit_of_mem_toDigits (by decide) (by decide) hdot) (by decide)
    · simp
  unfold ipv4Labels
  rw [hsplit]
  simp

/-- An address is read back from how it is written. -/
theorem parseIpv4_writeIpv4 {n : Nat} (h : n < 2 ^ 32) : parseIpv4 (writeIpv4 n) = some n := by
  have hnumbers : ([octet n 3, octet n 2, octet n 1, octet n 0].map (Nat.toDigits 10)).mapM ipv4Number
      = some [octet n 3, octet n 2, octet n 1, octet n 0] := by
    apply mapM_map_eq_some
    intro m hm
    apply ipv4Number_toDigits
    simp only [List.mem_cons, List.not_mem_nil, or_false, octet] at hm
    rcases hm with rfl | rfl | rfl | rfl <;> exact Nat.mod_lt _ (by decide)
  unfold parseIpv4
  rw [ipv4Labels_writeIpv4]
  dsimp only
  rw [if_neg (by simp), hnumbers]
  simp [octet]
  omega

/-- The last number fills the places that the numbers in front of it leave. The weights of places are not
computed here, or else products with them would be. -/
private theorem places_lt {ns : List Nat} {last : Nat} {weight : Nat → Nat} (hthree : weight 3 = 16777216)
    (htwo : weight 2 = 65536) (hone : weight 1 = 256) (hlast : ns.getLast? = some last)
    (hlength : ns.length ≤ 4) (hfront : ∀ n ∈ ns.dropLast, n ≤ 255) (hbound : last < 256 ^ (5 - ns.length)) :
    (ns.dropLast.zip [3, 2, 1]).foldl (fun sum place => sum + place.1 * weight place.2) last < 2 ^ 32 := by
  -- one case for each number of parts, as the last part fills the bytes that the others leave
  rcases ns with _ | ⟨a, _ | ⟨b, _ | ⟨c, _ | ⟨d, _ | ⟨e, rest⟩⟩⟩⟩⟩
  · cases hlast
  · cases hlast
    exact hbound
  · cases hlast
    have ha : a ≤ 255 := hfront a (by simp)
    have hb : b < 16777216 := hbound
    show b + a * weight 3 < 2 ^ 32
    rw [hthree]
    omega
  · cases hlast
    have ha : a ≤ 255 := hfront a (by simp)
    have hb : b ≤ 255 := hfront b (by simp)
    have hc : c < 65536 := hbound
    show c + a * weight 3 + b * weight 2 < 2 ^ 32
    rw [hthree, htwo]
    omega
  · cases hlast
    have ha : a ≤ 255 := hfront a (by simp)
    have hb : b ≤ 255 := hfront b (by simp)
    have hc : c ≤ 255 := hfront c (by simp)
    have hd : d < 256 := hbound
    show d + a * weight 3 + b * weight 2 + c * weight 1 < 2 ^ 32
    rw [hthree, htwo, hone]
    omega
  · simp only [List.length_cons] at hlength
    omega

/-- What is read is a number below `2 ^ 32`. -/
theorem lt_of_parseIpv4 {cs : List Char} {n : Nat} (h : parseIpv4 cs = some n) : n < 2 ^ 32 := by
  unfold parseIpv4 at h
  simp only [bind, pure] at h
  split at h
  · cases h
  next hcount =>
  simp only [Option.bind_eq_some_iff] at h
  obtain ⟨ns, hns, last, hlast, h⟩ := h
  split at h
  · cases h
  next hbounds =>
  have hlength : ns.length ≤ 4 := by
    have := length_of_mapM hns
    omega
  simp only [Bool.or_eq_true, List.any_eq_true, decide_eq_true_eq, not_or, not_exists, not_and, Nat.not_lt,
    Nat.not_le] at hbounds
  cases h
  exact places_lt rfl rfl rfl hlast hlength hbounds.1 hbounds.2

end StatementLens.Url
