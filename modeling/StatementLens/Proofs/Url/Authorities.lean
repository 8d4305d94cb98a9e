import StatementLens.Proofs.Spans
import StatementLens.Proofs.Url.Hosts

/-!
# Authorities in normal form

The authority of a URL consists of a user name and a password, a host and a port. Its parts are read into normal
form (`isAuthority_of_readAuthority`), and those in normal form are read as they are (`readAuthority_eq`).
-/

namespace StatementLens.Url

open Text

/-! ## User names -/

/-- Whether a user name and a password in front of a host are in normal form. -/
def IsUserinfo (user : List Char) : Prop :=
  user = [] ∨ ∃ name password, Encoded userinfoSet name ∧ Encoded userinfoSet password ∧
    (name ≠ [] ∨ password ≠ []) ∧
      user = name ++ (if password.isEmpty then [] else ':' :: password) ++ ['@']

/-- What is read as a user name is encoded. -/
theorem isUserinfo_readUserinfo (cs : List Char) : IsUserinfo (readUserinfo cs) := by
  have hencoded (text : List Char) := encoded_percentEncode isEncodeSet_userinfoSet text
  have hempty (text : List Char) : (percentEncode userinfoSet text).isEmpty = text.isEmpty := by
    rw [Bool.eq_iff_iff, List.isEmpty_iff, List.isEmpty_iff, percentEncode_eq_nil_iff]
  unfold readUserinfo
  generalize cs.span (· ≠ ':') = cut
  obtain ⟨name, rest⟩ := cut
  dsimp only
  by_cases htext : (percentEncode userinfoSet name
      ++ (if (rest.drop 1).isEmpty then [] else ':' :: percentEncode userinfoSet (rest.drop 1))).isEmpty = true
  · rw [if_pos htext]
    exact .inl rfl
  · rw [if_neg htext]
    refine .inr ⟨_, _, hencoded name, hencoded (rest.drop 1), ?_, by rw [hempty]⟩
    -- with both parts empty nothing would be written
    by_contra hboth
    rw [not_or, not_not, not_not] at hboth
    apply htext
    rw [hboth.1, if_pos (by rw [← hempty, hboth.2]; rfl)]
    rfl

/-- A user name and a password are read back. -/
theorem readUserinfo_eq {name password : List Char} (hname : Encoded userinfoSet name)
    (hpassword : Encoded userinfoSet password) (hne : name ≠ [] ∨ password ≠ []) :
    readUserinfo (name ++ (if password.isEmpty then [] else ':' :: password))
      = name ++ (if password.isEmpty then [] else ':' :: password) ++ ['@'] := by
  have hcolon : ∀ c ∈ name, (decide (c ≠ ':')) = true := fun c hc => by
    simpa using fun heq : c = ':' => hname.notMem (c := ':') (by decide) (heq ▸ hc)
  have hstop : StopsAt (fun c => decide (c ≠ ':')) (if password.isEmpty then [] else ':' :: password) := by
    split
    · exact stopsAt_nil _
    · simp
  unfold readUserinfo
  rw [span_append hcolon hstop]
  cases password with
  | nil =>
    have hne : name ≠ [] := hne.resolve_right (by simp)
    simp [percentEncode_eq_self hname, hne]
  | cons c password => simp [percentEncode_eq_self hname, percentEncode_eq_self hpassword]

/-- Without an at sign there is no user name. -/
theorem cutUserinfo_eq_none {cs : List Char} (h : '@' ∉ cs) : cutUserinfo cs = (none, cs) := by
  have hall : ∀ c ∈ cs.reverse, (decide (c ≠ '@')) = true := fun c hc => by
    simpa using fun heq : c = '@' => h (heq ▸ List.mem_reverse.1 hc)
  simp only [cutUserinfo, List.dropWhile_eq_nil_iff.2 hall]

/-- The last at sign ends the user name. -/
theorem cutUserinfo_eq_some {behind : List Char} (h : '@' ∉ behind) (text : List Char) :
    cutUserinfo (text ++ '@' :: behind) = (some text, behind) := by
  have hall : ∀ c ∈ behind.reverse, (decide (c ≠ '@')) = true := fun c hc => by
    simpa using fun heq : c = '@' => h (heq ▸ List.mem_reverse.1 hc)
  have hback : (text ++ '@' :: behind).reverse = behind.reverse ++ '@' :: text.reverse := by simp
  simp only [cutUserinfo, hback, List.dropWhile_append_of_pos hall, List.takeWhile_append_of_pos hall]
  simp

/-! ## Ports -/

/-- Whether a port behind a host is in normal form. -/
def IsPort (scheme port : List Char) : Prop :=
  port = [] ∨ ∃ n ≤ 65535, defaultPort scheme ≠ some n ∧ port = ':' :: Nat.toDigits 10 n

/-- What is read as a port is one, and not that of the scheme. -/
theorem isPort_of_readPort {scheme cs port : List Char} (h : readPort scheme cs = .ok port) : IsPort scheme port := by
  unfold readPort at h
  split at h
  · cases h
  dsimp only at h
  split at h
  · cases h
  next hle =>
  split at h
  · cases h
    exact .inl rfl
  next hother =>
  cases h
  refine .inr ⟨_, by omega, ?_, rfl⟩
  intro hdefault
  exact hother (by simp [hdefault])

/-- A port is read back from its digits. -/
theorem readPort_toDigits {scheme : List Char} {n : Nat} (hle : n ≤ 65535) (hother : defaultPort scheme ≠ some n) :
    readPort scheme (Nat.toDigits 10 n) = .ok (':' :: Nat.toDigits 10 n) := by
  have hdigits : (Nat.toDigits 10 n).all Char.isDigit = true :=
    List.all_eq_true.2 fun c hc => Nat.isDigit_of_mem_toDigits (by decide) (by decide) hc
  have hvalue : (Nat.toDigits 10 n).foldl (fun n c => 10 * n + (c.toNat - 48)) 0 = n :=
    Nat.ofDigitChars_toDigits (by decide) (by decide)
  unfold readPort
  rw [hdigits]
  simp only [hvalue]
  rw [if_neg (by simp), if_neg (by omega), if_neg (by simp [hother])]

/-! ## Authorities -/

/-- What reads the hosts of URLs of a kind of schemes. -/
def readHost (kind : SchemeKind) : List Char → Except ParseError (List Char) :=
  if kind = .other then parseOpaqueHost else parseHost

/-- How an authority is read, given its parts. -/
theorem readAuthority_of_cut {kind : SchemeKind} {scheme cs authority rest behind hostText : List Char}
    {userinfo portText : Option (List Char)}
    (hspan : cs.span (fun c => !endsAuthority kind c) = (authority, rest))
    (hcut : cutUserinfo authority = (userinfo, behind)) (hcutPort : cutPort false behind = (hostText, portText)) :
    readAuthority kind scheme cs =
      let user := (userinfo.map readUserinfo).getD []
      if userinfo.isSome && behind.isEmpty && (user ≠ [] || !rest.isEmpty) then .error .emptyHost
      else if kind = .special && hostText.isEmpty then .error .emptyHost
      else (readHost kind hostText).bind fun host =>
        if host.isEmpty && (portText.isSome || user ≠ []) then .error .emptyHost
        else (portText.elim (.ok []) (readPort scheme)).bind fun port =>
          .ok (readAfterAuthority kind scheme (user ++ host ++ port) host rest) := by
  unfold readAuthority readHost
  simp only [hspan, hcut, hcutPort]
  by_cases hkind : kind = .other
  · cases portText <;> simp only [if_pos hkind] <;> rfl
  · cases portText <;> simp only [if_neg hkind] <;> rfl

/-- Whether the parts of an authority are in normal form. -/
structure IsAuthority (kind : SchemeKind) (scheme user host port : List Char) : Prop where
  isUserinfo : IsUserinfo user
  isHost : IsHost (readHost kind) host
  isPort : IsPort scheme port
  ne_nil : kind ≠ .other → host ≠ []
  bare : host = [] → user = [] ∧ port = []

section

variable {kind : SchemeKind} {scheme user host port : List Char}

theorem endsAuthority_eq_false (kind : SchemeKind) {c : Char} (h : c ∉ ['/', '\\', '?', '#']) :
    endsAuthority kind c = false := by
  simp only [List.mem_cons, List.not_mem_nil, or_false, not_or] at h
  simp [endsAuthority, isSlash, endsPath, h]

theorem text_of_encoded_userinfo {text : List Char} (h : Encoded userinfoSet text) :
    ∀ c ∈ text, 0x20 < c.toNat ∧ c ∉ ['/', '\\', '?', '#'] := by
  intro c hc
  obtain ⟨hascii, hset⟩ := h c hc
  clear hc
  revert hset
  exact forall_ascii c hascii (by decide +kernel)

theorem text_of_isUserinfo (h : IsUserinfo user) : ∀ c ∈ user, 0x20 < c.toNat ∧ c ∉ ['/', '\\', '?', '#'] := by
  rcases h with rfl | ⟨name, password, hname, hpassword, -, rfl⟩
  · simp
  · have hcolon : ∀ c ∈ (if password.isEmpty then [] else ':' :: password),
        0x20 < c.toNat ∧ c ∉ ['/', '\\', '?', '#'] := by
      split
      · simp
      · exact List.forall_mem_cons.2 ⟨by decide, text_of_encoded_userinfo hpassword⟩
    exact List.forall_mem_append.2
      ⟨List.forall_mem_append.2 ⟨text_of_encoded_userinfo hname, hcolon⟩, List.forall_mem_singleton.2 (by decide)⟩

theorem text_of_isPort (h : IsPort scheme port) : ∀ c ∈ port, 0x20 < c.toNat ∧ c ∉ ['/', '\\', '?', '#', '@'] := by
  rcases h with rfl | ⟨n, -, -, rfl⟩
  · simp
  · refine List.forall_mem_cons.2 ⟨by decide, fun c hc => ?_⟩
    have hdigit := Nat.isDigit_of_mem_toDigits (by decide) (by decide) hc
    have hascii : c.toNat < 0x80 := Nat.lt_of_le_of_lt (Char.isDigit_iff_toNat.1 hdigit).2 (by decide)
    clear hc
    revert hdigit
    exact forall_ascii c hascii (by decide +kernel)

/-- No character of an authority in normal form ends it. -/
theorem IsAuthority.text (h : IsAuthority kind scheme user host port) :
    ∀ c ∈ user ++ host ++ port, 0x20 < c.toNat ∧ endsAuthority kind c = false := by
  intro c hc
  have hplain : 0x20 < c.toNat ∧ c ∉ ['/', '\\', '?', '#'] := by
    rcases List.mem_append.1 hc with hc | hc
    · rcases List.mem_append.1 hc with hc | hc
      · exact text_of_isUserinfo h.isUserinfo c hc
      · obtain ⟨hspace, hc⟩ := h.isHost.text c hc
        exact ⟨hspace, fun hmem => hc (List.mem_append_left ['@', '|'] hmem)⟩
    · obtain ⟨hspace, hc⟩ := text_of_isPort h.isPort c hc
      exact ⟨hspace, fun hmem => hc (List.mem_append_left ['@'] hmem)⟩
  exact ⟨hplain.1, endsAuthority_eq_false kind hplain.2⟩

theorem exists_cutUserinfo (h : IsUserinfo user) {behind : List Char} (hbehind : '@' ∉ behind) :
    ∃ userinfo, cutUserinfo (user ++ behind) = (userinfo, behind) ∧ (userinfo.map readUserinfo).getD [] = user
      ∧ (userinfo.isSome = true → user ≠ []) := by
  rcases h with rfl | ⟨name, password, hname, hpassword, hne, rfl⟩
  · exact ⟨none, cutUserinfo_eq_none hbehind, rfl, by simp⟩
  · refine ⟨some (name ++ (if password.isEmpty then [] else ':' :: password)), ?_, ?_, by simp⟩
    · rw [List.append_assoc]
      exact cutUserinfo_eq_some hbehind _
    · exact readUserinfo_eq hname hpassword hne

theorem exists_cutPort {read : List Char → Except ParseError (List Char)} (hhost : IsHost read host)
    (hport : IsPort scheme port) :
    ∃ portText, cutPort false (host ++ port) = (host, portText)
      ∧ portText.elim (.ok []) (readPort scheme) = .ok port ∧ (portText.isSome = true → port ≠ []) := by
  rcases hport with rfl | ⟨n, hle, hother, rfl⟩
  · exact ⟨none, by rw [List.append_nil, hhost.cut], rfl, by simp⟩
  · exact ⟨some _, hhost.cutColon _, readPort_toDigits hle hother, by simp⟩

/-- An authority in normal form is read as it is. -/
theorem readAuthority_eq (h : IsAuthority kind scheme user host port) {rest : List Char}
    (hrest : StopsAt (fun c => !endsAuthority kind c) rest) :
    readAuthority kind scheme (user ++ host ++ port ++ rest)
      = .ok (readAfterAuthority kind scheme (user ++ host ++ port) host rest) := by
  have htext : ∀ c ∈ user ++ host ++ port, (!endsAuthority kind c) = true := fun c hc => by simp [(h.text c hc).2]
  have hat : '@' ∉ host ++ port := by
    rintro hmem
    rcases List.mem_append.1 hmem with hmem | hmem
    · exact absurd (h.isHost.text '@' hmem).2 (by decide)
    · exact absurd (text_of_isPort h.isPort '@' hmem).2 (by decide)
  obtain ⟨userinfo, hcut, huser, hsome⟩ := exists_cutUserinfo h.isUserinfo hat
  rw [← List.append_assoc] at hcut
  obtain ⟨portText, hcutPort, hport, hportSome⟩ := exists_cutPort h.isHost h.isPort
  -- a user name or a port stands beside a host only
  have huserHost : userinfo.isSome = true → host ≠ [] := fun hs hnil => hsome hs (h.bare hnil).1
  rw [readAuthority_of_cut (span_append htext hrest) hcut hcutPort]
  simp only [huser]
  rw [if_neg, if_neg, h.isHost.again, Except.bind, if_neg, hport, Except.bind]
  · simp only [Bool.and_eq_true, Bool.or_eq_true, List.isEmpty_iff, decide_eq_true_eq]
    rintro ⟨hnil, hp | hu⟩
    · exact hportSome hp (h.bare hnil).2
    · exact hu (h.bare hnil).1
  · simp only [Bool.and_eq_true, List.isEmpty_iff, decide_eq_true_eq]
    rintro ⟨hkind, hnil⟩
    exact h.ne_nil (by simp [hkind]) hnil
  · simp only [Bool.and_eq_true, List.isEmpty_iff, List.append_eq_nil_iff]
    rintro ⟨⟨hs, hnil, -⟩, -⟩
    exact huserHost hs hnil

theorem isHost_of_readHost {cs : List Char} (h : readHost kind cs = .ok host) :
    IsHost (readHost kind) host ∧ (kind ≠ .other → host ≠ []) := by
  unfold readHost at h ⊢
  split at h
  · next hkind =>
    rw [if_pos hkind]
    exact ⟨isHost_of_parseOpaqueHost h, fun hne => absurd hkind hne⟩
  · next hkind =>
    rw [if_neg hkind]
    obtain ⟨hhost, hne⟩ := isHost_of_parseHost h
    exact ⟨hhost, fun _ => hne⟩

/-- Authorities are read into normal form. -/
theorem isAuthority_of_readAuthority {cs : List Char} {u : Url} (h : readAuthority kind scheme cs = .ok u) :
    ∃ user host port rest, IsAuthority kind scheme user host port ∧ StopsAt (fun c => !endsAuthority kind c) rest ∧
      u = readAfterAuthority kind scheme (user ++ host ++ port) host rest := by
  obtain ⟨authority, rest, -, -, hrest, hspan⟩ := exists_span (fun c => !endsAuthority kind c) cs
  rcases hcut : cutUserinfo authority with ⟨userinfo, behind⟩
  rcases hcutPort : cutPort false behind with ⟨hostText, portText⟩
  rw [readAuthority_of_cut hspan hcut hcutPort] at h
  dsimp only at h
  split at h
  · cases h
  split at h
  · cases h
  cases hhost : readHost kind hostText with
  | error e =>
    rw [hhost] at h
    cases h
  | ok host =>
    rw [hhost, Except.bind] at h
    split at h
    · cases h
    next hbare =>
    cases hport : portText.elim (.ok []) (readPort scheme) with
    | error e =>
      rw [hport] at h
      cases h
    | ok port =>
      rw [hport, Except.bind] at h
      cases h
      -- each part is what its own reader gives; the last one is the refusal of a port or user without a host
      obtain ⟨hisHost, hne⟩ := isHost_of_readHost hhost
      refine ⟨_, host, port, rest, ⟨?_, hisHost, ?_, hne, ?_⟩, hrest, rfl⟩
      · cases userinfo with
        | none => exact .inl rfl
        | some text => exact isUserinfo_readUserinfo text
      · cases portText with
        | none =>
          cases hport
          exact .inl rfl
        | some text => exact isPort_of_readPort hport
      · rintro rfl
        simp only [List.isEmpty_nil, Bool.true_and, Bool.or_eq_true, decide_eq_true_eq, not_or, not_not] at hbare
        refine ⟨hbare.2, ?_⟩
        cases portText with
        | none =>
          cases hport
          rfl
        | some text => exact absurd rfl hbare.1

end

end StatementLens.Url
