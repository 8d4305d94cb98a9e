import StatementLens.Mapper.Basic
import StatementLens.Proofs.Bytes
import StatementLens.Proofs.Lowercase

/-!
# Keywords in the names of methods

The kind of a statement is inferred from the lower-case form of a name, but only the ASCII letters of the
name count. A keyword is found in the lower-case form if it stands in the name in any ASCII case
(`contains_lowercase_iff`).
-/

namespace StatementLens.StatementKind

open Text

/-- Whether the name of a kind stands in a text in any ASCII case. -/
def StandsIn (kind : StatementKind) (text : List Char) : Prop :=
  ∃ piece, piece <:+: text ∧ piece.map Char.toLower = kind.elementName.toList.map Char.toLower

theorem standsIn_iff {kind : StatementKind} {text : List Char} :
    kind.StandsIn text ↔ kind.elementName.toList.map Char.toLower <:+: text.map Char.toLower := by
  rw [List.infix_map_iff]
  exact exists_congr fun piece => and_congr_right fun _ => eq_comm

instance (kind : StatementKind) (text : List Char) : Decidable (kind.StandsIn text) :=
  decidable_of_iff _ standsIn_iff.symm

theorem standsIn_congr {text other : List Char} (h : other.map Char.toLower = text.map Char.toLower)
    (kind : StatementKind) : kind.StandsIn other ↔ kind.StandsIn text := by
  rw [standsIn_iff, standsIn_iff, h]

theorem isSteady_elementName (kind : StatementKind) : IsSteady kind.elementName.toList := by
  cases kind <;> exact ⟨List.forall_iff_forall_mem.1 (by decide), by decide, by decide⟩

/-- A keyword is found in a lower-case form of a text if it stands in the text in any ASCII case. -/
theorem contains_lowercase_iff {text lower : List Char} (h : IsLowercase text lower)
    (kind : StatementKind) :
    contains kind.elementName.toList lower = true ↔ kind.StandsIn text := by
  have hlower : kind.elementName.toList.map Char.toLower = kind.elementName.toList := by
    cases kind <;> decide
  have hne : kind.elementName.toList ≠ [] := by
    cases kind <;> decide
  rw [contains_iff, infix_lowercase_iff h kind.isSteady_elementName hne, standsIn_iff, hlower]

/-- The kind inferred from a name is the first of the keywords that stands in it in any ASCII case, whatever
else the lower-case form does to the name. So it does not depend on the case of ASCII letters, and the
forms that capital sigmas are given make no difference. -/
theorem infer_eq_first_keyword (name : String) :
    infer name = ([select, insert, delete, update].find? fun kind => kind.StandsIn name.toList).getD sql ∧
    (∀ lower, IsLowercase name.toList lower →
      ([select, insert, delete, update].find? fun kind =>
        contains kind.elementName.toList lower).getD sql = infer name) ∧
    ∀ other : String, other.toList.map Char.toLower = name.toList.map Char.toLower →
      infer other = infer name := by
  -- in each lower-case form the same keywords are found
  have hfind : ∀ {text lower : List Char}, IsLowercase text lower →
      keywords.find? (fun kind => contains kind.elementName.toList lower)
        = keywords.find? fun kind => kind.StandsIn text := by
    intro text lower hlower
    congr 1
    funext kind
    rw [Bool.eq_iff_iff, contains_lowercase_iff hlower, decide_eq_true_iff]
  have hinfer : ∀ s : String,
      infer s = (keywords.find? fun kind => kind.StandsIn s.toList).getD sql := by
    intro s
    exact congrArg (·.getD sql) (hfind (isLowercase_lowercase s.toList))
  refine ⟨hinfer name, ?_, ?_⟩
  · intro lower hlower
    rw [hinfer name, ← hfind hlower]
    rfl
  · intro other hother
    rw [hinfer other, hinfer name]
    simp only [standsIn_congr hother]

theorem infer_eq_first_keyword_dottedCapital :
    infer "İnsertUpDATEΣ" = .update ∧
    ([select, insert, delete, update].find? fun kind =>
      contains kind.elementName.toList (lowercase "İnsertUpDATE".toList ++ ['ς'])).getD sql = update ∧
    "İNSERTuPdateΣ".toList.map Char.toLower = "İnsertUpDATEΣ".toList.map Char.toLower ∧
    infer "İNSERTuPdateΣ" = .update := by
  have hlower : IsLowercase "İnsertUpDATEΣ".toList (lowercase "İnsertUpDATE".toList ++ ['ς']) :=
    .cons 'İ' (.cons 'n' (.cons 's' (.cons 'e' (.cons 'r' (.cons 't' (.cons 'U' (.cons 'p' (.cons 'D'
      (.cons 'A' (.cons 'T' (.cons 'E' (.finalSigma .nil))))))))))))
  have hcase : "İNSERTuPdateΣ".toList.map Char.toLower = "İnsertUpDATEΣ".toList.map Char.toLower := by
    decide
  obtain ⟨hinfer, hforms, hother⟩ := infer_eq_first_keyword "İnsertUpDATEΣ"
  have hupdate : infer "İnsertUpDATEΣ" = .update := hinfer.trans (by decide +kernel)
  exact ⟨hupdate, (hforms _ hlower).trans hupdate, hcase, (hother _ hcase).trans hupdate⟩

end StatementLens.StatementKind
