import StatementLens.Proofs.Lowercase
import StatementLens.Proofs.Url.Addresses
import StatementLens.Proofs.Url.Encoded
import StatementLens.Url.Basic

/-!
# Hosts in normal form

Reading a host brings it into a normal form, which is an address, a domain in lower case or an encoded text.
Reading the normal form again changes nothing, and no character of it divides the parts of a URL
(`isHost_of_parseHost`, `isHost_of_parseOpaqueHost`).
-/

namespace StatementLens.Url

open Text

/-! ## Domains -/

/-- Whether a character is ASCII and no capital. -/
def IsLabelChar (c : Char) : Prop := c.toNat < 0x80 ∧ c.toLower = c

instance (c : Char) : Decidable (IsLabelChar c) := inferInstanceAs (Decidable (_ ∧ _))

/-- Whether a character stands in domains in normal form. -/
def IsDomainChar (c : Char) : Prop := IsLabelChar c ∧ isForbiddenDomainChar c = false

instance (c : Char) : Decidable (IsDomainChar c) := inferInstanceAs (Decidable (_ ∧ _))

theorem isLabelChar_labelDigit {d : Nat} (h : d < 36) : IsLabelChar (labelDigit d) := by
  revert d
  decide

/-- Encoded numbers are made of letters and digits. -/
theorem isLabelChar_labelNumber (fuel q k bias : Nat) : ∀ c ∈ labelNumber fuel q k bias, IsLabelChar c := by
  induction fuel generalizing q k with
  | zero => simp [labelNumber]
  | succ fuel ih =>
    intro c hc
    rw [labelNumber] at hc
    -- all that matters of the threshold is its range, which keeps every digit below 36
    generalize hthreshold : (if k ≤ bias then 1 else if bias + 26 ≤ k then 26 else k - bias) = t at hc
    have ht : 1 ≤ t ∧ t ≤ 26 := by
      rw [← hthreshold]
      split
      · omega
      · split <;> omega
    split at hc
    · rw [List.mem_singleton.1 hc]
      exact isLabelChar_labelDigit (by omega)
    · rcases List.mem_cons.1 hc with rfl | hc
      · apply isLabelChar_labelDigit
        have hlt : (q - t) % (36 - t) < 36 - t := Nat.mod_lt _ (by omega)
        omega
      · exact ih _ _ c hc

/-- So is what is put out for a code point. -/
theorem isLabelChar_encodeCodePoint (label : List Char) (basic m : Nat) {st : LabelState}
    (h : ∀ c ∈ st.output, IsLabelChar c) :
    ∀ c ∈ (encodeCodePoint label basic m st).output, IsLabelChar c := by
  unfold encodeCodePoint
  apply List.foldlRecOn (motive := fun st : LabelState => ∀ c ∈ st.output, IsLabelChar c)
  · exact h
  · intro st hst d _
    split
    · exact hst
    · split
      · intro c hc
        rcases List.mem_append.1 hc with hc | hc
        · exact hst c hc
        · exact isLabelChar_labelNumber _ _ _ _ c hc
      · exact hst

/-- The encoding of a label in lower case is ASCII in lower case. -/
theorem isLabelChar_encodeLabel {label : List Char} (h : ∀ c ∈ label, c.toLower = c) :
    ∀ c ∈ encodeLabel label, IsLabelChar c := by
  have hbasic : ∀ c ∈ label.filter (fun c => c.toNat < 0x80), IsLabelChar c := by
    intro c hc
    obtain ⟨hmem, hascii⟩ := List.mem_filter.1 hc
    exact ⟨by simpa using hascii, h c hmem⟩
  unfold encodeLabel
  refine List.forall_mem_append.2 ⟨forall_mem_of_all (by decide), ?_⟩
  apply List.foldlRecOn (motive := fun r : LabelState × Nat => ∀ c ∈ r.1.output, IsLabelChar c)
  · refine List.forall_mem_append.2 ⟨hbasic, fun c hc => ?_⟩
    split at hc
    · cases hc
    · rw [List.mem_singleton.1 hc]
      decide
  · intro r hr m _
    exact isLabelChar_encodeCodePoint _ _ _ hr

theorem mem_intercalate {sep c : Char} {pieces : List (List Char)} (h : c ∈ [sep].intercalate pieces) :
    c = sep ∨ ∃ piece ∈ pieces, c ∈ piece := by
  induction pieces with
  | nil => cases h
  | cons piece rest ih =>
    cases rest with
    | nil => exact .inr ⟨piece, List.mem_cons_self, by simpa using h⟩
    | cons next rest =>
      have hsplit : [sep].intercalate (piece :: next :: rest)
          = piece ++ sep :: [sep].intercalate (next :: rest) := by simp [List.intercalate]
      rw [hsplit, List.mem_append, List.mem_cons] at h
      rcases h with h | rfl | h
      · exact .inr ⟨piece, List.mem_cons_self, h⟩
      · exact .inl rfl
      · rcases ih h with rfl | ⟨other, hother, hc⟩
        · exact .inl rfl
        · exact .inr ⟨other, List.mem_cons_of_mem piece hother, hc⟩

/-- What a domain is read as. -/
theorem isDomainChar_of_domainToAscii {cs domain : List Char} (h : domainToAscii cs = .ok domain) :
    ∀ c ∈ domain, IsDomainChar c := by
  -- lower case survives the split and the change of the ideographic full stop to a dot
  have hlabels : ∀ label ∈ splitOn (· = '.') ((lowercase cs).map fun c => if c.toNat = 0x3002 then '.' else c),
      ∀ c ∈ label, c.toLower = c := by
    intro label hlabel c hc
    obtain ⟨d, hd, rfl⟩ := List.mem_map.1 (of_mem_splitOn hlabel hc).1
    split
    · decide
    · exact toLower_of_mem_lowercase hd
  unfold domainToAscii at h
  dsimp only at h
  split at h
  · cases h
  next hgood =>
  cases h
  intro c hc
  refine ⟨?_, ?_⟩
  · rcases mem_intercalate hc with rfl | ⟨piece, hpiece, hc⟩
    · decide
    · obtain ⟨label, hlabel, rfl⟩ := List.mem_map.1 hpiece
      split at hc
      · next hall =>
        exact ⟨by simpa using List.all_eq_true.1 hall c hc, hlabels label hlabel c hc⟩
      · exact isLabelChar_encodeLabel (hlabels label hlabel) c hc
  · cases hforbidden : isForbiddenDomainChar c with
    | false => rfl
    | true => exact absurd (List.any_eq_true.2 ⟨c, hc, hforbidden⟩) fun hany => hgood (by rw [hany]; rfl)

/-- A domain that is in its normal form stays. -/
theorem domainToAscii_eq_self {domain : List Char} (h : ∀ c ∈ domain, IsDomainChar c) :
    domainToAscii domain = .ok domain := by
  have hlower : lowercase domain = domain := lowercase_eq_self fun c hc => (h c hc).1
  have hmapped : (domain.map fun c => if c.toNat = 0x3002 then '.' else c) = domain := by
    refine (List.map_congr_left fun c hc => if_neg ?_).trans (List.map_id domain)
    have hascii := (h c hc).1.1
    omega
  have hlabels : ((splitOn (· = '.') domain).map fun label =>
      if label.all fun c => c.toNat < 0x80 then label else encodeLabel label) = splitOn (· = '.') domain := by
    refine (List.map_congr_left fun label hlabel => if_pos ?_).trans (List.map_id _)
    refine List.all_eq_true.2 fun c hc => ?_
    simpa using (h c (of_mem_splitOn hlabel hc).1).1.1
  have hjoined : (List.intersperse ['.'] (splitOn (· = '.') domain)).flatten = domain := by
    rw [splitOn_eq_splitOn]
    exact List.intercalate_splitOn '.'
  have hforbidden : domain.any isForbiddenDomainChar = false := by
    rw [List.any_eq_false]
    intro c hc
    simp [(h c hc).2]
  have hreplaced : domain.any (fun c => c.toNat = 0xFFFD) = false := by
    rw [List.any_eq_false]
    intro c hc
    have := (h c hc).1.1
    simp
    omega
  unfold domainToAscii
  simp only [hlower, hmapped, hlabels, hjoined, hforbidden, hreplaced, Bool.or_self, Bool.false_eq_true, if_false]

theorem percentDecodeBytes_eq_self {bytes : List UInt8} (h : 0x25 ∉ bytes) : percentDecodeBytes bytes = bytes := by
  induction bytes with
  | nil => rfl
  | cons b bytes ih =>
    have hb : b ≠ 0x25 := fun heq => h (heq ▸ List.mem_cons_self)
    rw [percentDecodeBytes_cons hb, ih fun hmem => h (List.mem_cons_of_mem b hmem)]

/-- Nothing is encoded in a domain in normal form. -/
theorem decode_domain {domain : List Char} (h : ∀ c ∈ domain, IsDomainChar c) :
    (decodeUtf8Lossy (percentDecode domain)).toList = domain := by
  have hpercent : 0x25 ∉ encodeUtf8 (String.ofList domain) := by
    rw [encodeUtf8_ofList_ascii fun c hc => (h c hc).1.1]
    intro hmem
    obtain ⟨c, hc, hbyte⟩ := List.mem_map.1 hmem
    have hascii := (h c hc).1.1
    have hnat := congrArg UInt8.toNat hbyte
    rw [Nat.toUInt8_eq, UInt8.toNat_ofNat'] at hnat
    have hsame : c = '%' := by
      rw [← Char.ofNat_toNat c, show c.toNat = 0x25 by simp at hnat; omega]
    have hforbidden := (h c hc).2
    rw [hsame] at hforbidden
    exact absurd hforbidden (by decide)
  unfold percentDecode
  rw [percentDecodeBytes_eq_self hpercent, decodeUtf8Lossy_encodeUtf8, String.toList_ofList]

/-! ## Hosts -/

/-- Whether a host is in the normal form of a reader of hosts: reading it again leaves it as it is, and it can
be told apart from what may stand around it in a URL. -/
structure IsHost (read : List Char → Except ParseError (List Char)) (host : List Char) : Prop where
  again : read host = .ok host
  text : ∀ c ∈ host, 0x20 < c.toNat ∧ c ∉ ['/', '\\', '?', '#', '@', '|']
  cut : cutPort false host = (host, none)
  cutColon : ∀ port, cutPort false (host ++ ':' :: port) = (host, some port)

/-- What holds neither a colon nor brackets stays in front of a port. -/
theorem cutPort_append {host : List Char} (h : ∀ c ∈ host, c ∉ [':', '[', ']']) (rest : List Char) :
    cutPort false (host ++ rest) = (host ++ (cutPort false rest).1, (cutPort false rest).2) := by
  induction host with
  | nil => rfl
  | cons c host ih =>
    have hc := h c List.mem_cons_self
    simp only [List.mem_cons, List.not_mem_nil, or_false, not_or] at hc
    rw [List.cons_append, cutPort, if_neg (by simp [hc.1])]
    simp only [hc.2.1, hc.2.2, if_false, ih fun d hd => h d (List.mem_cons_of_mem c hd)]
    rfl

/-- Colons in brackets stay in front of a port. -/
theorem cutPort_bracketed {inner : List Char} (h : ∀ c ∈ inner, c ∉ ['[', ']']) (rest : List Char) :
    cutPort false ('[' :: (inner ++ ']' :: rest))
      = ('[' :: (inner ++ ']' :: (cutPort false rest).1), (cutPort false rest).2) := by
  have hinside : cutPort true (inner ++ ']' :: rest)
      = (inner ++ ']' :: (cutPort false rest).1, (cutPort false rest).2) := by
    induction inner with
    | nil =>
      rw [List.nil_append, cutPort, if_neg (by simp)]
      simp
    | cons c inner ih =>
      have hc := h c List.mem_cons_self
      simp only [List.mem_cons, List.not_mem_nil, or_false, not_or] at hc
      rw [List.cons_append, cutPort, if_neg (by simp)]
      simp only [hc.1, hc.2, if_false, ih fun d hd => h d (List.mem_cons_of_mem c hd)]
      rfl
  rw [cutPort, if_neg (by simp)]
  simp only [if_true, hinside]

/-- A text without colons and brackets that is read again is a host. -/
theorem isHost_of_plain {read : List Char → Except ParseError (List Char)} {host : List Char}
    (hagain : read host = .ok host)
    (htext : ∀ c ∈ host, 0x20 < c.toNat ∧ c ∉ ['/', '\\', '?', '#', '@', '|', ':', '[', ']']) :
    IsHost read host := by
  have hplain : ∀ c ∈ host, c ∉ [':', '[', ']'] := fun c hc hmem =>
    (htext c hc).2 (List.mem_append_right ['/', '\\', '?', '#', '@', '|'] hmem)
  refine ⟨hagain, fun c hc => ⟨(htext c hc).1, fun hmem => ?_⟩, ?_, fun port => ?_⟩
  · exact (htext c hc).2 (List.mem_append_left [':', '[', ']'] hmem)
  · simpa [cutPort] using cutPort_append hplain []
  · simpa [cutPort] using cutPort_append hplain (':' :: port)

theorem mem_joinPieces {pieces : List Nat} {c : Char} (h : c ∈ joinPieces pieces) :
    c = ':' ∨ ∃ d < 16, c = Nat.digitChar d := by
  rw [joinPieces_eq] at h
  rcases mem_intercalate h with rfl | ⟨piece, hpiece, hc⟩
  · exact .inl rfl
  · obtain ⟨n, -, rfl⟩ := List.mem_map.1 hpiece
    exact .inr (mem_toDigits_hex hc)

/-- An address is written with colons and hexadecimal digits. -/
theorem mem_writeIpv6 {pieces : List Nat} {c : Char} (h : c ∈ writeIpv6 pieces) :
    c = ':' ∨ ∃ d < 16, c = Nat.digitChar d := by
  unfold writeIpv6 at h
  split at h
  · exact mem_joinPieces h
  · simp only [List.mem_append, List.mem_cons, List.not_mem_nil, or_false] at h
    rcases h with (h | rfl | rfl) | h
    · exact mem_joinPieces h
    · exact .inl rfl
    · exact .inl rfl
    · exact mem_joinPieces h

/-- An address in brackets is read back. -/
theorem parseBracketed_writeIpv6 {pieces : List Nat} (hlength : pieces.length = 8) (h : ArePieces pieces) :
    parseBracketed (writeIpv6 pieces ++ [']']) = .ok ('[' :: (writeIpv6 pieces ++ [']'])) := by
  unfold parseBracketed
  rw [if_neg (by simp), List.dropLast_concat, parseIpv6_writeIpv6 hlength h]
  rfl

/-- An address in brackets is a host. -/
theorem isHost_of_parseBracketed {read : List Char → Except ParseError (List Char)}
    (hread : ∀ rest, read ('[' :: rest) = parseBracketed rest) {cs host : List Char}
    (h : parseBracketed cs = .ok host) : IsHost read host ∧ host ≠ [] := by
  unfold parseBracketed at h
  split at h
  · cases h
  split at h
  case h_2 => cases h
  case h_1 pieces hpieces =>
    cases h
    obtain ⟨hlength, hbounds⟩ := of_parseIpv6 hpieces
    have htext : ∀ c ∈ writeIpv6 pieces, 0x20 < c.toNat ∧ c ∉ ['/', '\\', '?', '#', '@', '|', '[', ']'] := by
      intro c hc
      rcases mem_writeIpv6 hc with rfl | ⟨d, hd, rfl⟩
      · decide
      · have hdigit : ∀ d < 16, 0x20 < (Nat.digitChar d).toNat
            ∧ Nat.digitChar d ∉ ['/', '\\', '?', '#', '@', '|', '[', ']'] := by decide
        exact hdigit d hd
    have hbrackets : ∀ c ∈ writeIpv6 pieces, c ∉ ['[', ']'] := fun c hc hmem =>
      (htext c hc).2 (List.mem_append_right ['/', '\\', '?', '#', '@', '|'] hmem)
    refine ⟨⟨?_, ?_, ?_, ?_⟩, List.cons_ne_nil _ _⟩
    · exact (hread _).trans (parseBracketed_writeIpv6 hlength hbounds)
    · refine List.forall_mem_cons.2 ⟨by decide, List.forall_mem_append.2 ⟨fun c hc => ?_, ?_⟩⟩
      · exact ⟨(htext c hc).1, fun hmem => (htext c hc).2 (List.mem_append_left ['[', ']'] hmem)⟩
      · exact List.forall_mem_singleton.2 (by decide)
    · exact cutPort_bracketed hbrackets []
    · intro port
      have hcut := cutPort_bracketed hbrackets (':' :: port)
      simpa [cutPort] using hcut

theorem text_of_isDomainChar {c : Char} (h : IsDomainChar c) :
    0x20 < c.toNat ∧ c ∉ ['/', '\\', '?', '#', '@', '|', ':', '[', ']'] := by
  obtain ⟨⟨hascii, -⟩, hallowed⟩ := h
  revert hallowed
  exact forall_ascii c hascii (by decide +kernel)

theorem isDomainChar_of_isDigit {c : Char} (h : c.isDigit = true) : IsDomainChar c := by
  have hascii : c.toNat < 0x80 := Nat.lt_of_le_of_lt (Char.isDigit_iff_toNat.1 h).2 (by decide)
  revert h
  exact forall_ascii c hascii (by decide +kernel)

/-- An address is written with the characters of domains. -/
theorem isDomainChar_writeIpv4 (n : Nat) : ∀ c ∈ writeIpv4 n, IsDomainChar c := by
  intro c hc
  rw [writeIpv4_eq] at hc
  rcases mem_intercalate hc with rfl | ⟨piece, hpiece, hc⟩
  · decide
  · obtain ⟨m, -, rfl⟩ := List.mem_map.1 hpiece
    exact isDomainChar_of_isDigit (Nat.isDigit_of_mem_toDigits (by decide) (by decide) hc)

/-- It ends in a number, so it is not taken for a domain. -/
theorem endsInNumber_writeIpv4 (n : Nat) : endsInNumber (writeIpv4 n) = true := by
  have hne : (Nat.toDigits 10 (octet n 0)).isEmpty = false := by simp
  have hdigits : (Nat.toDigits 10 (octet n 0)).all Char.isDigit = true :=
    List.all_eq_true.2 fun c hc => Nat.isDigit_of_mem_toDigits (by decide) (by decide) hc
  unfold endsInNumber
  rw [ipv4Labels_writeIpv4]
  simp only [List.map_cons, List.map_nil, List.getLast?_cons_cons, List.getLast?_singleton]
  rw [hne, hdigits]
  rfl

/-- How a domain in normal form is read. -/
theorem parseHost_domain {domain : List Char} (h : ∀ c ∈ domain, IsDomainChar c) (hne : domain ≠ []) :
    parseHost domain = if endsInNumber domain then
      (parseIpv4 domain).elim (.error .invalidIpv4) (fun n => .ok (writeIpv4 n)) else .ok domain := by
  unfold parseHost
  split
  case h_1 =>
    exact absurd (text_of_isDomainChar (h '[' List.mem_cons_self)).2 (by decide)
  case h_2 =>
    have hempty : domain.isEmpty = false := by simpa using hne
    rw [decode_domain h, domainToAscii_eq_self h]
    simp only [bind, Except.bind, hempty, Bool.false_eq_true, if_false]
    cases parseIpv4 domain <;> rfl

/-- Hosts of special URLs are hosts in normal form. -/
theorem isHost_of_parseHost {cs host : List Char} (h : parseHost cs = .ok host) :
    IsHost parseHost host ∧ host ≠ [] := by
  unfold parseHost at h
  split at h
  case h_1 rest => exact isHost_of_parseBracketed (fun _ => rfl) h
  case h_2 =>
    cases hdomain : domainToAscii (decodeUtf8Lossy (percentDecode cs)).toList with
    | error e =>
      rw [hdomain] at h
      cases h
    | ok domain =>
      rw [hdomain] at h
      have hchars := isDomainChar_of_domainToAscii hdomain
      have hplain {host : List Char} (hhost : ∀ c ∈ host, IsDomainChar c) (hagain : parseHost host = .ok host) :
          IsHost parseHost host := isHost_of_plain hagain fun c hc => text_of_isDomainChar (hhost c hc)
      simp only [bind, Except.bind] at h
      split at h
      · cases h
      next hempty =>
      have hne : domain ≠ [] := by simpa using hempty
      split at h
      next hnumber =>
        split at h
        case h_2 => cases h
        case h_1 n hn =>
          cases h
          -- an address is written as a domain that ends in a number, so it is read as an address again
          have haddress : writeIpv4 n ≠ [] := by
            intro hnil
            have hends := endsInNumber_writeIpv4 n
            rw [hnil] at hends
            exact absurd hends (by decide)
          refine ⟨hplain (isDomainChar_writeIpv4 n) ?_, haddress⟩
          rw [parseHost_domain (isDomainChar_writeIpv4 n) haddress, if_pos (endsInNumber_writeIpv4 n),
            parseIpv4_writeIpv4 (lt_of_parseIpv4 hn)]
          rfl
      next hname =>
        cases h
        refine ⟨hplain hchars ?_, hne⟩
        rw [parseHost_domain hchars hne, if_neg hname]

/-- Hosts of other URLs are hosts in normal form. -/
theorem isHost_of_parseOpaqueHost {cs host : List Char} (h : parseOpaqueHost cs = .ok host) :
    IsHost parseOpaqueHost host := by
  unfold parseOpaqueHost at h
  split at h
  case h_1 rest => exact (isHost_of_parseBracketed (fun _ => rfl) h).1
  case h_2 =>
    split at h
    · cases h
    next hallowed =>
    cases h
    have hnot : ∀ c ∈ percentEncode isControl cs, isForbiddenHostChar c = false :=
      forall_mem_percentEncode isEncodeSet_isControl (by decide) (by decide) (by simpa using hallowed)
    have hencoded := encoded_percentEncode isEncodeSet_isControl cs
    apply isHost_of_plain
    · unfold parseOpaqueHost
      split
      case h_1 heq => exact absurd (hnot '[' (heq ▸ List.mem_cons_self)) (by decide)
      case h_2 => rw [if_neg (by simpa using hnot), percentEncode_eq_self hencoded]
    · intro c hc
      obtain ⟨hascii, hcontrol⟩ := hencoded c hc
      have hallowed := hnot c hc
      -- without the list the statement is about one ASCII character
      clear hc
      revert hcontrol hallowed
      exact forall_ascii c hascii (by decide +kernel)

end StatementLens.Url
