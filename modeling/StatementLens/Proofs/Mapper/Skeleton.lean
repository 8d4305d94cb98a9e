import StatementLens.Java.Token
import StatementLens.Mapper.Lens
import StatementLens.Proofs.Xml.Insertion

/-!
# Skeletons

The skeleton of a statement is an entry with white space around it, if its name is an identifier.
-/

namespace StatementLens

open Text

/-- A name that a method can have. -/
def IsIdentifier (name : String) : Prop :=
  ∃ c rest, name.toList = c :: rest ∧ Java.isWordStart c = true ∧ ∀ d ∈ rest, Java.isWordPart d = true

instance (name : String) : Decidable (IsIdentifier name) :=
  match h : name.toList with
  | [] => isFalse (by simp [IsIdentifier, h])
  | c :: rest =>
    decidable_of_iff (Java.isWordStart c = true ∧ rest.all Java.isWordPart = true) (by
      simp [IsIdentifier, h])

/-! ## The characters of identifiers -/

/-- Whether a character stands for itself between quotes. -/
def isPlainXml (c : Char) : Bool := Xml.isXmlChar c && c ≠ '"' && c ≠ '<' && Xml.isPlain c

private theorem isPlainXml_of_le {c : Char} (hle : 0x80 ≤ c.toNat) (h₁ : c.toNat ≠ 0xFFFE)
    (h₂ : c.toNat ≠ 0xFFFF) : isPlainXml c = true := by
  have hne : ∀ d : Char, d.toNat < 0x80 → c ≠ d := by
    rintro d hd rfl
    omega
  have hchar : Xml.isXmlChar c = true := by
    unfold Xml.isXmlChar
    rw [if_neg (by omega)]
    simp [h₁, h₂]
  simp [isPlainXml, hchar, Xml.isPlain, hne '"' (by decide), hne '<' (by decide), hne '&' (by decide),
    hne '\t' (by decide), hne '\n' (by decide), hne '\r' (by decide)]

private theorem isPlainXml_ascii : ∀ n : Fin 0x80,
    ((Char.ofNat n).isAlphanum || Char.ofNat n = '_' || Char.ofNat n = '$') = true →
      isPlainXml (Char.ofNat n) = true := by
  decide

private theorem isPlainXml_of_lt {c : Char} (hlt : c.toNat < 0x80)
    (h : (c.isAlphanum || c = '_' || c = '$') = true) : isPlainXml c = true := by
  have hc := isPlainXml_ascii ⟨c.toNat, hlt⟩
  rw [Char.ofNat_toNat] at hc
  exact hc h

/-- The two code points beyond ASCII that are no characters of XML stand in no identifier. -/
private theorem isPlainXml_of_inBoundaries {bounds : Array Nat} {c : Char} (hle : 0x80 ≤ c.toNat)
    (h : inBoundaries bounds c.toNat = true) (h₁ : inBoundaries bounds 0xFFFE = false)
    (h₂ : inBoundaries bounds 0xFFFF = false) : isPlainXml c = true := by
  refine isPlainXml_of_le hle (fun heq => ?_) (fun heq => ?_)
  · rw [heq, h₁] at h
    cases h
  · rw [heq, h₂] at h
    cases h

theorem isPlainXml_of_isWordStart {c : Char} (h : Java.isWordStart c = true) : isPlainXml c = true := by
  simp only [Java.isWordStart, Bool.or_eq_true, decide_eq_true_eq] at h
  rcases h with (hstart | rfl) | rfl
  · unfold isIdentifierStart at hstart
    by_cases hlt : c.toNat < 0x80
    · rw [if_pos hlt] at hstart
      exact isPlainXml_of_lt hlt (by simp [Char.isAlphanum, hstart])
    -- the kernel looks the two code points up in the table
    · rw [if_neg hlt] at hstart
      exact isPlainXml_of_inBoundaries (by omega) hstart (by decide +kernel) (by decide +kernel)
  · decide
  · decide

theorem isPlainXml_of_isWordPart {c : Char} (h : Java.isWordPart c = true) : isPlainXml c = true := by
  simp only [Java.isWordPart, Bool.or_eq_true, decide_eq_true_eq] at h
  rcases h with (hpart | rfl) | rfl
  · unfold isIdentifierContinue at hpart
    by_cases hlt : c.toNat < 0x80
    · rw [if_pos hlt] at hpart
      exact isPlainXml_of_lt hlt (by rw [hpart, Bool.true_or])
    · rw [if_neg hlt] at hpart
      exact isPlainXml_of_inBoundaries (by omega) hpart (by decide +kernel) (by decide +kernel)
  · decide
  · decide

theorem IsIdentifier.isPlainXml {name : String} (h : IsIdentifier name) :
    ∀ c ∈ name.toList, isPlainXml c = true := by
  obtain ⟨c, rest, hname, hstart, hrest⟩ := h
  intro d hd
  rw [hname] at hd
  rcases List.mem_cons.1 hd with rfl | hd
  · exact isPlainXml_of_isWordStart hstart
  · exact isPlainXml_of_isWordPart (hrest d hd)

/-! ## Skeletons as entries -/

/-- The entry of a statement. -/
def StatementKind.entry (kind : StatementKind) (name : String) (h : IsIdentifier name) : Xml.Entry where
  name := kind.elementName.toList
  id := name.toList
  isValid := by cases kind <;> decide
  isName := List.all_eq_true.1 (by cases kind <;> decide)
  isLocal := by cases kind <;> rfl
  isId := by
    intro c hc
    simpa [isPlainXml, and_assoc] using h.isPlainXml c hc

theorem skeleton_toList (kind : StatementKind) {name : String} (h : IsIdentifier name) :
    (skeleton kind name).toList
      = Xml.Entry.lead ++ ((kind.entry name h).text ++ Xml.Entry.trail) := by
  have hlead : "\n    <".toList = Xml.Entry.lead ++ ['<'] := rfl
  have hid : " id=\"".toList = ' ' :: "id=\"".toList := rfl
  have hbody : "\">\n          \n    </".toList
      = "\"".toList ++ (['>'] ++ (Xml.Entry.body ++ ['<', '/'])) := rfl
  have htrail : ">\n\n".toList = ['>'] ++ Xml.Entry.trail := rfl
  unfold skeleton Xml.Entry.text Xml.Entry.opening Xml.Entry.closing Xml.Entry.idText StatementKind.entry
  simp only [String.toList_append, hlead, hid, hbody, htrail, List.append_assoc, List.cons_append,
    List.nil_append]

end StatementLens
