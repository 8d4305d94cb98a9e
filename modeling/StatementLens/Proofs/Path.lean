import Mathlib.Data.List.Basic
import Mathlib.Data.List.TakeWhile
import Mathlib.Tactic.Common
import StatementLens.Proofs.Url.File

/-!
# Names at the ends of paths

A name that is joined to a path becomes its last component, however the path is spelled
(`components_join`), so a row of names joined one after the other can be read off the components. The
extension of a path is what follows the last dot of its last name, unless the dot begins the name.
-/

namespace StatementLens.Path

/-- Whether bytes can be the name of an entry of a folder. -/
def IsName (name : FileName) : Prop :=
  slash ∉ name ∧ name ≠ [] ∧ name ≠ [dot] ∧ name ≠ [dot, dot]

instance (name : FileName) : Decidable (IsName name) := inferInstanceAs (Decidable (_ ∧ _))

theorem isInner_normal_iff {name : FileName} : IsInner (.normal name) ↔ IsName name := by
  have hread : innerComponent name = some (.normal name)
      ↔ name ≠ [] ∧ name ≠ [dot] ∧ name ≠ [dot, dot] := by
    unfold innerComponent
    split
    · simp_all
      tauto
    · split <;> simp_all
  show innerComponent name = some (.normal name) ∧ slash ∉ name ↔ _
  rw [hread, and_comm]
  rfl

/-! ## Components -/

theorem innerComponents_append (front behind : List UInt8) :
    innerComponents (front ++ slash :: behind) = innerComponents front ++ innerComponents behind := by
  rw [innerComponents_eq, List.splitOn_append_cons_self, List.filterMap_append, ← innerComponents_eq,
    ← innerComponents_eq]

/-- What stands behind a slash of a path gives the last components. -/
theorem components_append (front behind : List UInt8) :
    components ⟨front ++ slash :: behind⟩
      = components ⟨front ++ [slash]⟩ ++ innerComponents behind := by
  have habsolute : isAbsolute ⟨front ++ slash :: behind⟩ = isAbsolute ⟨front ++ [slash]⟩ := by
    cases front <;> rfl
  -- a slash cannot change the first piece, which alone tells whether a path starts with a dot
  have hhead : (pieces (front ++ slash :: behind)).head? = (pieces (front ++ [slash])).head? := by
    have hne : front.splitOn slash ≠ [] := List.splitOn_ne_nil _ _
    rw [pieces, pieces, Text.splitBytes_eq_splitOn, Text.splitBytes_eq_splitOn,
      List.splitOn_append_cons_self, List.splitOn_append_cons_self,
      List.head?_append_of_ne_nil _ hne, List.head?_append_of_ne_nil _ hne]
  have hinner := innerComponents_append front behind
  have hfront := innerComponents_append_slash front
  unfold innerComponents at hinner hfront
  unfold components
  simp only [habsolute, hhead, hinner, hfront]
  split
  · rfl
  · split <;> rfl

/-- A slash at the end of a path makes no difference. -/
theorem components_append_slash {bytes : List UInt8} (h : bytes ≠ []) :
    components ⟨bytes ++ [slash]⟩ = components ⟨bytes⟩ := by
  have habsolute : isAbsolute ⟨bytes ++ [slash]⟩ = isAbsolute ⟨bytes⟩ := by
    unfold isAbsolute
    rw [List.head?_append_of_ne_nil _ h]
  have hhead : (pieces (bytes ++ [slash])).head? = (pieces bytes).head? := by
    rw [pieces, pieces, Text.splitBytes_eq_splitOn, Text.splitBytes_eq_splitOn,
      List.splitOn_append_cons_self, List.head?_append_of_ne_nil _ (List.splitOn_ne_nil _ _)]
  have hinner := innerComponents_append_slash bytes
  unfold innerComponents at hinner
  unfold components
  simp only [habsolute, hhead, hinner]

theorem isAbsolute_name {name : FileName} (h : IsName name) : isAbsolute ⟨name⟩ = false := by
  have hhead : name.head? ≠ some slash := fun hslash => h.1 (List.mem_of_head? hslash)
  exact decide_eq_false hhead

theorem innerComponents_name {name : FileName} (h : IsName name) :
    innerComponents name = [.normal name] :=
  innerComponents_eq_singleton (isInner_normal_iff.2 h)

/-- A path that is a name is its only component. -/
theorem components_name {name : FileName} (h : IsName name) : components ⟨name⟩ = [.normal name] := by
  have hpieces : pieces name = [name] := by
    rw [pieces, Text.splitBytes_eq_splitOn, List.splitOn_eq_singleton h.1]
  have hdot : (pieces name).head? ≠ some [dot] := by
    rw [hpieces]
    exact fun hname => h.2.2.1 (Option.some.inj hname)
  have hinner := innerComponents_name h
  unfold innerComponents at hinner
  unfold components
  simp only [isAbsolute_name h, Bool.false_eq_true, if_false, if_neg hdot, hinner]

/-- A name that is joined to a path becomes its last component. -/
theorem components_join (p : Path) {name : FileName} (h : IsName name) :
    (p.join ⟨name⟩).components = p.components ++ [.normal name] := by
  have hrelative := isAbsolute_name h
  unfold join
  simp only [hrelative, Bool.false_eq_true, if_false]
  split
  case isTrue hend =>
    rcases Bool.or_eq_true_iff.1 hend with hempty | hslash
    · have hp : p.bytes = [] := List.isEmpty_iff.1 hempty
      have hnone : p.components = [] := by
        rw [show p = ⟨[]⟩ from congrArg Path.mk hp]
        rfl
      rw [hp, hnone]
      exact components_name h
    · -- the slash at the end of the path is the one in front of the name
      have hlast : p.bytes.getLast? = some slash := of_decide_eq_true hslash
      obtain ⟨front, hfront⟩ := List.getLast?_eq_some_iff.1 hlast
      rw [show p = ⟨front ++ [slash]⟩ from congrArg Path.mk hfront, List.append_assoc]
      exact (components_append front name).trans (by rw [innerComponents_name h])
  case isFalse hend =>
    have hne : p.bytes ≠ [] := by
      intro hp
      rw [hp] at hend
      exact hend rfl
    rw [components_append, components_append_slash hne, innerComponents_name h]

/-- The path that a row of names leads to from another one. -/
def joinNames (p : Path) (names : List FileName) : Path :=
  names.foldl (fun q name => q.join ⟨name⟩) p

@[simp] theorem joinNames_nil (p : Path) : p.joinNames [] = p := rfl

@[simp] theorem joinNames_cons (p : Path) (name : FileName) (names : List FileName) :
    p.joinNames (name :: names) = (p.join ⟨name⟩).joinNames names := rfl

theorem components_joinNames (p : Path) {names : List FileName} (h : ∀ name ∈ names, IsName name) :
    (p.joinNames names).components = p.components ++ names.map .normal := by
  induction names generalizing p with
  | nil => simp
  | cons name names ih =>
    have hname : IsName name := h name List.mem_cons_self
    have hnames : ∀ n ∈ names, IsName n := fun n hn => h n (List.mem_cons_of_mem _ hn)
    rw [joinNames_cons, ih _ hnames, components_join p hname, List.append_assoc]
    rfl

/-! ## Extensions -/

/-- Whether a name has an extension: what follows a dot of it, which is not at its start. -/
def HasExtension (name ext : FileName) : Prop := ∃ stem, stem ≠ [] ∧ name = stem ++ dot :: ext

private theorem all_ne_dot {name : FileName} (h : dot ∉ name) :
    ∀ b ∈ name.reverse, decide (b ≠ dot) = true := by
  intro b hb
  refine decide_eq_true fun hdot => h ?_
  rw [← hdot]
  exact List.mem_reverse.1 hb

theorem extensionOf_append (stem : FileName) {ext : FileName} (hext : dot ∉ ext) :
    extensionOf (stem ++ dot :: ext) = if stem = [] then none else some ext := by
  have hall := all_ne_dot hext
  have hback : (stem ++ dot :: ext).reverse = ext.reverse ++ dot :: stem.reverse := by simp
  have htake : (ext.reverse ++ dot :: stem.reverse).takeWhile (· ≠ dot) = ext.reverse := by
    rw [List.takeWhile_append_of_pos hall, List.takeWhile_cons_of_neg (by simp), List.append_nil]
  have hdrop : (ext.reverse ++ dot :: stem.reverse).dropWhile (· ≠ dot) = dot :: stem.reverse := by
    rw [List.dropWhile_append_of_pos hall, List.dropWhile_cons_of_neg (by simp)]
  unfold extensionOf
  simp only [hback, htake, hdrop, List.reverse_reverse]
  by_cases hstem : stem = []
  · rw [if_pos hstem, hstem]
    rfl
  · obtain ⟨b, rest, hrest⟩ := List.exists_cons_of_ne_nil (List.reverse_ne_nil_iff.2 hstem)
    rw [if_neg hstem, hrest]

theorem extensionOf_eq_none {name : FileName} (h : dot ∉ name) : extensionOf name = none := by
  have hdrop : name.reverse.dropWhile (· ≠ dot) = [] := List.dropWhile_eq_nil_iff.2 (all_ne_dot h)
  unfold extensionOf
  simp only [hdrop]

theorem extensionOf_eq_some_iff {name ext : FileName} (hext : dot ∉ ext) :
    extensionOf name = some ext ↔ HasExtension name ext := by
  constructor
  · intro h
    have hmem : dot ∈ name := by
      by_contra hdot
      rw [extensionOf_eq_none hdot] at h
      cases h
    -- the last dot of the name is the first one of the reversed name
    obtain ⟨back, front, hback, hlast⟩ := List.eq_append_cons_of_mem (List.mem_reverse.2 hmem)
    have hname : name = front.reverse ++ dot :: back.reverse := by
      rw [← List.reverse_reverse name, hback]
      simp
    rw [hname, extensionOf_append _ (mt List.mem_reverse.1 hlast)] at h
    by_cases hstem : front.reverse = []
    · rw [if_pos hstem] at h
      cases h
    · rw [if_neg hstem] at h
      exact ⟨front.reverse, hstem, by rw [hname, Option.some.inj h]⟩
  · rintro ⟨stem, hstem, rfl⟩
    rw [extensionOf_append stem hext, if_neg hstem]

theorem fileName?_eq_some_iff {p : Path} {name : FileName} :
    p.fileName? = some name ↔ p.components.getLast? = some (.normal name) := by
  unfold fileName?
  split
  case h_1 last hlast => simp [hlast]
  case h_2 hother =>
    constructor
    · intro h
      cases h
    · intro h
      exact absurd h (hother name)

/-- A path has the extension of the name that is its last component. -/
theorem extension?_eq_some_iff {p : Path} {ext : FileName} (hext : dot ∉ ext) :
    p.extension? = some ext
      ↔ ∃ name, p.components.getLast? = some (.normal name) ∧ HasExtension name ext := by
  unfold extension?
  rw [Option.bind_eq_some_iff]
  simp only [fileName?_eq_some_iff, extensionOf_eq_some_iff hext]

end StatementLens.Path
