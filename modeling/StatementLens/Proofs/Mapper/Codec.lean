import StatementLens.Config.Basic
import StatementLens.Mapper.Codec
import StatementLens.Proofs.Json.Records
import StatementLens.Proofs.Json.Text

/-!
# Mappers, lenses and configurations survive JSON

What is written for a value is read back, as it stands and from its text (`Survives`). Objects are read by
what they have under the keys of their type (`ReadsByKey`). Only the object form of a kind of statements has
no keys of its own: its one key is the name of the kind.
-/

namespace StatementLens

namespace Json

variable {α β ε : Type}

/-- Whether a value that fits is read back from what is written for it: from the value itself, from its
text, and from anything that has all that was written. -/
structure Survives (write : α → Json) (read : Json → Except ε α) (Fits : α → Prop) : Prop where
  from_value : ∀ a, Fits a → read (write a) = .ok a
  from_text : ∀ a, Fits a → ∃ j, parse (write a).write.toList = .ok j ∧ read j = .ok a
  from_within : ∀ a, Fits a → ∀ j, Within (write a) j → read j = .ok a

/-- A value survives if it is readable and is read from every value that has all that was written. -/
theorem survives_of_within {write : α → Json} {read : Json → Except ε α} {Fits : α → Prop}
    (hreadable : ∀ a, Fits a → Readable maxDepth (write a))
    (hread : ∀ a, Fits a → ∀ j, Within (write a) j → read j = .ok a) : Survives write read Fits where
  from_value a ha := hread a ha _ (within_self _ (hreadable a ha))
  from_text a ha := by
    obtain ⟨j, hparse, hwithin⟩ := exists_parse_write (hreadable a ha)
    exact ⟨j, hparse, hread a ha j hwithin⟩
  from_within := hread

/-! ## Parts of values -/

theorem decodeString_str (t : String) : decodeString (.str t) = .ok t := rfl

/-- A number that fits into its bits is read as it is. -/
theorem decodeUnsigned_of_fits {bits n : Nat} (h : n < widthCount bits) : decodeUnsigned bits (.nat n) = .ok n := by
  have hfits : fitsUnsigned bits n = true := by
    rw [fitsUnsigned, Bool.and_eq_true]
    exact ⟨decide_eq_true (Int.natCast_nonneg n), decide_eq_true (Int.ofNat_lt.2 h)⟩
  simp [decodeUnsigned, nat, hfits]

/-- Numbers of at most 64 bits are readable. -/
theorem readable_nat {bits n depth : Nat} (hbits : bits ≤ 64) (h : n < widthCount bits) : Readable depth (.nat n) :=
  ⟨Int.natCast_nonneg n, Int.ofNat_lt.2 (Nat.lt_of_lt_of_le h (Nat.pow_le_pow_right (by decide) hbits))⟩

/-- A list is read item by item. -/
theorem decodeList_of_within {write : α → Json} {d : Decoder α} {as : List α} {j : Json}
    (hread : ∀ a ∈ as, ∀ j, Within (write a) j → d j = .ok a) (h : Within (.arr (as.map write)) j) :
    decodeList d j = .ok as := by
  obtain ⟨items, rfl, hitems⟩ := h
  show items.mapM d = .ok as
  induction as generalizing items with
  | nil =>
    obtain rfl := hitems
    rfl
  | cons a as ih =>
    obtain ⟨k, rest, rfl, hk, hrest⟩ := hitems
    obtain ⟨ha, has⟩ := List.forall_mem_cons.1 hread
    rw [List.mapM_cons, ha k hk, ih has rest hrest]
    rfl

/-- A list is readable if its items are, one level down. -/
theorem readable_arr {write : α → Json} {as : List α} {depth : Nat} (hdepth : 1 < depth)
    (h : ∀ a ∈ as, Readable (depth - 1) (write a)) : Readable depth (.arr (as.map write)) :=
  ⟨hdepth, readableItems_iff.2 (List.forall_mem_map.2 h)⟩

/-- A list of texts is read as it is. -/
theorem decodeStrings_of_within {ts : List String} {j : Json} (h : Within (.arr (ts.map .str)) j) :
    decodeList decodeString j = .ok ts :=
  decodeList_of_within (fun _ _ _ hj => by rw [← show Json.str _ = _ from hj]; rfl) h

end Json

open Json (Readable ReadsByKey Record Survives Within)

/-! ## Positions -/

/-- Whether the numbers of a position have 32 bits. -/
def Position.Fits (p : Position) : Prop :=
  p.line < Json.widthCount 32 ∧ p.character < Json.widthCount 32

/-- A position is built from what stands under its keys only. -/
theorem Position.isRegular_record : Position.record.IsRegular :=
  ((Record.isRegular_required _ _).map _).andAlso (Record.isRegular_required _ _)

/-- A position is read wherever its fields are found. -/
theorem Position.decode_of_within {p : Position} (hp : p.Fits) {j : Json} (h : Within p.toJson j)
    (origin : Json.Origin) : Position.decode origin j = .ok p := by
  obtain ⟨row, rfl, hrow, ⟨_, hline, rfl⟩, ⟨_, hcharacter, rfl⟩, -⟩ := h
  exact (Position.isRegular_record.ofFields_eq_ok_iff hrow).2
    (((Record.builds_required hrow hline (Json.decodeUnsigned_of_fits hp.1)).map Position.mk).andAlso
      (Record.builds_required hrow hcharacter (Json.decodeUnsigned_of_fits hp.2)))

/-- Positions are readable from a depth of two on. -/
theorem Position.readable_toJson {p : Position} (hp : p.Fits) {depth : Nat} (hdepth : 1 < depth) :
    Readable depth p.toJson :=
  ⟨hdepth, show ["line", "character"].Nodup by decide, Json.readable_nat (by decide) hp.1,
    Json.readable_nat (by decide) hp.2, trivial⟩

/-- Whether both ends of a range fit. -/
def Range.Fits (r : Range) : Prop := r.start.Fits ∧ r.stop.Fits

theorem Range.isRegular_record (d : Json.Decoder Position) : (Range.record d).IsRegular :=
  ((Record.isRegular_required _ _).map _).andAlso (Record.isRegular_required _ _)

/-- A range is read wherever its ends are found. -/
theorem Range.decode_of_within {r : Range} (hr : r.Fits) {j : Json} (h : Within r.toJson j)
    (origin : Json.Origin) : Range.decode origin j = .ok r := by
  obtain ⟨row, rfl, hrow, ⟨_, hstart, hstart'⟩, ⟨_, hstop, hstop'⟩, -⟩ := h
  exact ((Range.isRegular_record _).ofFields_eq_ok_iff hrow).2
    (((Record.builds_required hrow hstart (Position.decode_of_within hr.1 hstart' origin)).map Range.mk).andAlso
      (Record.builds_required hrow hstop (Position.decode_of_within hr.2 hstop' origin)))

/-- Ranges take one more level than positions. -/
theorem Range.readable_toJson {r : Range} (hr : r.Fits) {depth : Nat} (hdepth : 2 < depth) :
    Readable depth r.toJson :=
  ⟨by omega, show ["start", "end"].Nodup by decide, Position.readable_toJson hr.1 (by omega),
    Position.readable_toJson hr.2 (by omega), trivial⟩

/-! ## Mappers -/

/-- A kind is read from its name. -/
theorem StatementKind.decode_of_within {kind : StatementKind} {j : Json} (h : Within kind.toJson j) :
    StatementKind.decode j = .ok kind := by
  obtain rfl : kind.toJson = j := h
  cases kind <;> rfl

/-- An object is read as a kind if the name of the kind is its only key. -/
theorem StatementKind.decode_obj_eq_ok_iff {row : List (String × Json)} {kind : StatementKind} :
    StatementKind.decode (.obj row) = .ok kind ↔ row = [(kind.elementName, .null)] := by
  constructor
  · intro h
    unfold StatementKind.decode at h
    split at h
    case h_1 hobj => cases hobj
    case h_2 name content hobj =>
      obtain ⟨found, hname, h⟩ := Xml.bind_eq_ok.1 h
      unfold StatementKind.decodeName at hname
      split at hname
      case h_1 kind' hkind =>
        cases hname
        have helement : found.elementName = name := by simpa using List.find?_some hkind
        split at h
        · cases h
          cases hobj
          rw [helement]
        · cases h
      case h_2 => cases hname
    case h_3 => cases h
    case h_4 hother => exact absurd rfl (hother row)
  · rintro rfl
    cases kind <;> rfl

/-- Whether the place of a method fits. -/
def JavaMethod.Fits (m : JavaMethod) : Prop := m.position.Fits

theorem JavaMethod.isRegular_record : JavaMethod.record.IsRegular :=
  ((Record.isRegular_required _ _).map _).andAlso (Record.isRegular_required _ _)

/-- A method is read wherever its fields are found. -/
theorem JavaMethod.decode_of_within {m : JavaMethod} (hm : m.Fits) {j : Json} (h : Within m.toJson j) :
    JavaMethod.decode j = .ok m := by
  obtain ⟨row, rfl, hrow, ⟨_, hname, rfl⟩, ⟨_, hposition, hposition'⟩, -⟩ := h
  exact (JavaMethod.isRegular_record.ofFields_eq_ok_iff hrow).2
    (((Record.builds_required hrow hname (Json.decodeString_str _)).map JavaMethod.mk).andAlso
      (Record.builds_required hrow hposition (Position.decode_of_within hm hposition' .direct)))

/-- Methods are as deep as ranges. -/
theorem JavaMethod.readable_toJson {m : JavaMethod} (hm : m.Fits) {depth : Nat} (hdepth : 2 < depth) :
    Readable depth m.toJson :=
  ⟨by omega, show ["name", "start_position"].Nodup by decide, trivial,
    Position.readable_toJson hm (by omega), trivial⟩

/-- Whether the places of all methods fit. -/
def JavaMapper.Fits (m : JavaMapper) : Prop := ∀ method ∈ m.methods, method.Fits

theorem JavaMapper.isRegular_record : JavaMapper.record.IsRegular :=
  ((((Record.isRegular_required _ _).map _).andAlso (Record.isRegular_optional _ _)).andAlso
    (Record.isRegular_required _ _)).andAlso (Record.isRegular_required _ _)

/-- A package is read, or its absence. -/
theorem decodePackage_of_within {package : Option String} {j : Json}
    (h : Within (Json.ofOption (package.map .str)) j) :
    Json.decodeOption Json.decodeString j = .ok package := by
  cases package with
  | none =>
    obtain rfl : Json.null = j := h
    rfl
  | some t =>
    obtain rfl : Json.str t = j := h
    rfl

/-- A Java mapper is read wherever its fields are found. -/
theorem JavaMapper.decode_of_within {m : JavaMapper} (hm : m.Fits) {j : Json} (h : Within m.toJson j) :
    JavaMapper.decode j = .ok m := by
  obtain ⟨row, rfl, hrow, ⟨_, huri, rfl⟩, ⟨_, hpackage, hpackage'⟩, ⟨_, hname, rfl⟩,
    ⟨_, hmethods, hmethods'⟩, -⟩ := h
  exact (JavaMapper.isRegular_record.ofFields_eq_ok_iff hrow).2
    (((((Record.builds_required hrow huri (Json.decodeString_str _)).map JavaMapper.mk).andAlso
      (Record.builds_withDefault hrow hpackage (decodePackage_of_within hpackage'))).andAlso
      (Record.builds_required hrow hname (Json.decodeString_str _))).andAlso
      (Record.builds_required hrow hmethods
        (Json.decodeList_of_within (fun method hmethod _ => JavaMethod.decode_of_within (hm method hmethod))
          hmethods')))

/-- A package is a text or nothing. -/
theorem readable_package (package : Option String) (depth : Nat) :
    Readable depth (Json.ofOption (package.map .str)) := by
  cases package <;> trivial

/-- A Java mapper is two levels deeper than its methods. -/
theorem JavaMapper.readable_toJson {m : JavaMapper} (hm : m.Fits) {depth : Nat} (hdepth : 4 < depth) :
    Readable depth m.toJson :=
  ⟨by omega, show ["uri", "package", "name", "methods"].Nodup by decide, trivial, readable_package _ _, trivial,
    Json.readable_arr (by omega) fun method hmethod => JavaMethod.readable_toJson (hm method hmethod) (by omega),
    trivial⟩

/-- Whether both ends of a statement fit. -/
def Statement.Fits (s : Statement) : Prop := s.start.Fits ∧ s.stop.Fits

theorem Statement.isRegular_record : Statement.record.IsRegular :=
  ((((Record.isRegular_required _ _).map _).andAlso (Record.isRegular_required _ _)).andAlso
    (Record.isRegular_required _ _)).andAlso (Record.isRegular_required _ _)

/-- A statement is read wherever its fields are found. -/
theorem Statement.decode_of_within {s : Statement} (hs : s.Fits) {j : Json} (h : Within s.toJson j) :
    Statement.decode j = .ok s := by
  obtain ⟨row, rfl, hrow, ⟨_, hname, rfl⟩, ⟨_, hkind, hkind'⟩, ⟨_, hstart, hstart'⟩,
    ⟨_, hstop, hstop'⟩, -⟩ := h
  exact (Statement.isRegular_record.ofFields_eq_ok_iff hrow).2
    (((((Record.builds_required hrow hname (Json.decodeString_str _)).map Statement.mk).andAlso
      (Record.builds_required hrow hkind (StatementKind.decode_of_within hkind'))).andAlso
      (Record.builds_required hrow hstart (Position.decode_of_within hs.1 hstart' .direct))).andAlso
      (Record.builds_required hrow hstop (Position.decode_of_within hs.2 hstop' .direct)))

/-- Statements are as deep as methods. -/
theorem Statement.readable_toJson {s : Statement} (hs : s.Fits) {depth : Nat} (hdepth : 2 < depth) :
    Readable depth s.toJson :=
  ⟨by omega, show ["name", "kind", "start_position", "end_position"].Nodup by decide, trivial, trivial,
    Position.readable_toJson hs.1 (by omega), Position.readable_toJson hs.2 (by omega), trivial⟩

/-- Whether the places of all statements and of new ones fit. -/
def XmlMapper.Fits (m : XmlMapper) : Prop :=
  (∀ statement ∈ m.statements, statement.Fits) ∧ m.insertPosition.Fits

theorem XmlMapper.isRegular_record : XmlMapper.record.IsRegular :=
  ((((Record.isRegular_required _ _).map _).andAlso (Record.isRegular_required _ _)).andAlso
    (Record.isRegular_required _ _)).andAlso (Record.isRegular_required _ _)

/-- An XML mapper is read wherever its fields are found. -/
theorem XmlMapper.decode_of_within {m : XmlMapper} (hm : m.Fits) {j : Json} (h : Within m.toJson j) :
    XmlMapper.decode j = .ok m := by
  obtain ⟨row, rfl, hrow, ⟨_, huri, rfl⟩, ⟨_, hnamespace, rfl⟩, ⟨_, hmethods, hmethods'⟩,
    ⟨_, hposition, hposition'⟩, -⟩ := h
  exact (XmlMapper.isRegular_record.ofFields_eq_ok_iff hrow).2
    (((((Record.builds_required hrow huri (Json.decodeString_str _)).map XmlMapper.mk).andAlso
      (Record.builds_required hrow hnamespace (Json.decodeString_str _))).andAlso
      (Record.builds_required hrow hmethods
        (Json.decodeList_of_within (fun s hs _ => Statement.decode_of_within (hm.1 s hs)) hmethods'))).andAlso
      (Record.builds_required hrow hposition (Position.decode_of_within hm.2 hposition' .direct)))

/-- An XML mapper is two levels deeper than its statements. -/
theorem XmlMapper.readable_toJson {m : XmlMapper} (hm : m.Fits) {depth : Nat} (hdepth : 4 < depth) :
    Readable depth m.toJson :=
  ⟨by omega, show ["uri", "namespace", "methods", "available_insert_position"].Nodup by decide, trivial, trivial,
    Json.readable_arr (by omega) fun s hs => Statement.readable_toJson (hm.1 s hs) (by omega),
    Position.readable_toJson hm.2 (by omega), trivial⟩

/-! ## Lenses -/

namespace Action

/-- Whether the places of an action fit. -/
def Fits : Action → Prop
  | .navigate _ selection => selection.Fits
  | .generate _ position _ => position.Fits

theorem Kind.isRegular_record (kind : Kind) : kind.record.IsRegular := by
  cases kind with
  | navigate => exact ((Record.isRegular_required _ _).map _).andAlso (Record.isRegular_required _ _)
  | generate =>
    exact (((Record.isRegular_required _ _).map _).andAlso (Record.isRegular_required _ _)).andAlso
      (Record.isRegular_required _ _)

/-- The fields of an object besides its kind. -/
def besidesKind (row : List (String × Json)) : List (String × Json) :=
  row.filter fun field => field.1 ≠ "kind"

/-- A field with another key is among those besides the kind. -/
theorem mem_besidesKind {row : List (String × Json)} {key : String} {j : Json} (h : (key, j) ∈ row)
    (hkey : key ≠ "kind") : (key, j) ∈ besidesKind row :=
  List.mem_filter.2 ⟨h, decide_eq_true hkey⟩

/-- Without the kind, no key is there twice either. -/
theorem nodup_besidesKind {row : List (String × Json)} (h : (row.map Prod.fst).Nodup) :
    ((besidesKind row).map Prod.fst).Nodup :=
  h.sublist (List.filter_sublist.map Prod.fst)

/-- The kind is read first, and then the fields that go with it. -/
theorem decode_obj (row : List (String × Json)) :
    Action.decode (.obj row) = ((row.lookup "kind").elim (.error (.missingField "kind")) Kind.decode).bind
      fun kind => kind.record.ofFields (besidesKind row) := by
  unfold Action.decode
  cases htag : row.lookup "kind" with
  | none =>
    simp only [htag]
    rfl
  | some tag =>
    simp only [htag]
    rfl

/-- An action is read wherever its kind and its fields are found. -/
theorem decode_of_within {a : Action} (ha : a.Fits) {j : Json} (h : Within a.toJson j) :
    Action.decode j = .ok a := by
  cases a with
  | navigate uri selection =>
    obtain ⟨row, rfl, hrow, ⟨_, hkind, rfl⟩, ⟨_, huri, rfl⟩, ⟨_, hselection, hselection'⟩, -⟩ := h
    have hrest := nodup_besidesKind hrow
    rw [decode_obj, (lookup_eq_some_iff_mem hrow).2 hkind]
    exact ((Kind.isRegular_record .navigate).ofFields_eq_ok_iff hrest).2
      (((Record.builds_required hrest (mem_besidesKind huri (by decide)) (Json.decodeString_str _)).map
        Action.navigate).andAlso
        (Record.builds_required hrest (mem_besidesKind hselection (by decide))
          (Range.decode_of_within ha hselection' .setAside)))
  | generate uri position skeleton =>
    obtain ⟨row, rfl, hrow, ⟨_, hkind, rfl⟩, ⟨_, huri, rfl⟩, ⟨_, hposition, hposition'⟩,
      ⟨_, hskeleton, rfl⟩, -⟩ := h
    have hrest := nodup_besidesKind hrow
    rw [decode_obj, (lookup_eq_some_iff_mem hrow).2 hkind]
    exact ((Kind.isRegular_record .generate).ofFields_eq_ok_iff hrest).2
      ((((Record.builds_required hrest (mem_besidesKind huri (by decide)) (Json.decodeString_str _)).map
        Action.generate).andAlso
        (Record.builds_required hrest (mem_besidesKind hposition (by decide))
          (Position.decode_of_within ha hposition' .setAside))).andAlso
        (Record.builds_required hrest (mem_besidesKind hskeleton (by decide)) (Json.decodeString_str _)))

/-- Actions are one level deeper than ranges. -/
theorem readable_toJson {a : Action} (ha : a.Fits) {depth : Nat} (hdepth : 3 < depth) :
    Readable depth a.toJson := by
  cases a with
  | navigate uri selection =>
    exact ⟨by omega, show ["kind", "uri", "selection"].Nodup by decide, trivial, trivial,
      Range.readable_toJson ha (by omega), trivial⟩
  | generate uri position skeleton =>
    exact ⟨by omega, show ["kind", "uri", "position", "skeleton"].Nodup by decide, trivial, trivial,
      Position.readable_toJson ha (by omega), trivial, trivial⟩

/-- The fields that go with a kind are found by their keys. -/
theorem Kind.readsByKey (kind : Kind) :
    ReadsByKey (kind.record.decode kind.title .direct) kind.record.keys :=
  kind.isRegular_record.readsByKey fun _ => rfl

/-- Fields that no action of the kind has are not looked at. -/
theorem Kind.ofFields_filter (kind : Kind) {keys : List String} (hkeys : ∀ key ∈ kind.record.keys, key ∈ keys)
    (row : List (String × Json)) :
    kind.record.ofFields (besidesKind (row.filter fun field => field.1 ∈ keys))
      = kind.record.ofFields (besidesKind row) := by
  have hswap : besidesKind (row.filter fun field => field.1 ∈ keys)
      = (besidesKind row).filter fun field => field.1 ∈ keys := List.filter_comm ..
  rw [hswap]
  exact ((kind.readsByKey.mono hkeys).unknown (besidesKind row)).symm

/-- Only the kind and the fields that go with it matter for an action. -/
theorem decode_filter {keys : List String} (hkind : "kind" ∈ keys) {row : List (String × Json)}
    (hkeys : ∀ tag kind, row.lookup "kind" = some tag → Kind.decode tag = .ok kind →
      ∀ key ∈ kind.record.keys, key ∈ keys) :
    Action.decode (.obj (row.filter fun field => field.1 ∈ keys)) = Action.decode (.obj row) := by
  rw [decode_obj, decode_obj,
    lookup_filter_key (p := fun key => decide (key ∈ keys)) (decide_eq_true hkind) row]
  cases htag : row.lookup "kind" with
  | none => rfl
  | some tag =>
    rw [Option.elim_some]
    cases hread : Kind.decode tag with
    | error e => rfl
    | ok kind => exact kind.ofFields_filter (hkeys tag kind htag hread) row

/-- The keys of actions of any kind. -/
def keys : List String := ["kind", "uri", "selection", "position", "skeleton"]

theorem readsByKey : ReadsByKey Action.decode keys where
  unknown row := by
    refine (decode_filter (by decide) fun tag kind _ _ => ?_).symm
    cases kind <;> decide
  order {row row'} hrow hperm := by
    rw [decode_obj, decode_obj, lookup_perm hrow hperm]
    cases (row'.lookup "kind").elim (.error (.missingField "kind")) Kind.decode with
    | error e => rfl
    | ok kind => exact kind.readsByKey.order (nodup_besidesKind hrow) (hperm.filter _)

end Action

/-- Whether the range and the action of a lens fit. -/
def Lens.Fits (l : Lens) : Prop := l.range.Fits ∧ l.action.Fits

theorem Lens.isRegular_record : Lens.record.IsRegular :=
  ((Record.isRegular_required _ _).map _).andAlso (Record.isRegular_required _ _)

/-- A lens is read wherever its range and its action are found. -/
theorem Lens.decode_of_within {l : Lens} (hl : l.Fits) {j : Json} (h : Within l.toJson j) :
    Lens.decode j = .ok l := by
  obtain ⟨row, rfl, hrow, ⟨_, hrange, hrange'⟩, ⟨_, haction, haction'⟩, -⟩ := h
  exact (Lens.isRegular_record.ofFields_eq_ok_iff hrow).2
    (((Record.builds_required hrow hrange (Range.decode_of_within hl.1 hrange' .direct)).map Lens.mk).andAlso
      (Record.builds_required hrow haction (Action.decode_of_within hl.2 haction')))

/-- Lenses are one level deeper than actions. -/
theorem Lens.readable_toJson {l : Lens} (hl : l.Fits) {depth : Nat} (hdepth : 4 < depth) : Readable depth l.toJson :=
  ⟨by omega, show ["range", "command"].Nodup by decide, Range.readable_toJson hl.1 (by omega),
    Action.readable_toJson hl.2 (by omega), trivial⟩

/-! ## Configurations -/

namespace Config

/-- Whether the bound on sizes has 64 bits. -/
def Fits (config : Config) : Prop := config.maxXmlFileSize < Json.widthCount 64

theorem isRegular_record : Config.record.IsRegular :=
  ((((Record.isRegular_withDefault _ _ _).map _).andAlso (Record.isRegular_withDefault _ _ _)).andAlso
    (Record.isRegular_withDefault _ _ _)).andAlso (Record.isRegular_withDefault _ _ _)

theorem decode_of_within {config : Config} (hconfig : config.Fits) {j : Json} (h : Within config.toJson j) :
    Config.decode j = .ok config := by
  obtain ⟨row, rfl, hrow, ⟨_, hroots, hroots'⟩, ⟨_, hbases, hbases'⟩, ⟨_, hdirs, hdirs'⟩,
    ⟨_, hsize, rfl⟩, -⟩ := h
  exact (isRegular_record.ofFields_eq_ok_iff hrow).2
    (((((Record.builds_withDefault hrow hroots (Json.decodeStrings_of_within hroots')).map Config.mk).andAlso
      (Record.builds_withDefault hrow hbases (Json.decodeStrings_of_within hbases'))).andAlso
      (Record.builds_withDefault hrow hdirs (Json.decodeStrings_of_within hdirs'))).andAlso
      (Record.builds_withDefault hrow hsize (Json.decodeUnsigned_of_fits hconfig)))

theorem readable_strings (ts : List String) {depth : Nat} (hdepth : 1 < depth) : Readable depth (.arr (ts.map .str)) :=
  Json.readable_arr hdepth fun _ _ => trivial

theorem readable_toJson {config : Config} (hconfig : config.Fits) {depth : Nat} (hdepth : 2 < depth) :
    Readable depth config.toJson :=
  ⟨by omega, show ["sourceRoots", "baseInterfaces", "excludeDirs", "maxXmlFileSize"].Nodup by decide,
    readable_strings _ (by omega), readable_strings _ (by omega), readable_strings _ (by omega),
    Json.readable_nat (by decide) hconfig, trivial⟩

/-- The part of the options of an editor that holds the configuration. -/
def partOf (options : Json) : Json := (options.get? "mapperlens").getD options

/-- Only the part for the program matters in the options of an editor. -/
theorem ofOptions_congr {options options' : Json} (h : partOf options = partOf options') :
    ofOptions options = ofOptions options' := by
  unfold ofOptions
  rw [show (options.get? "mapperlens").getD options = (options'.get? "mapperlens").getD options' from h]

/-- Objects are read as configurations. -/
theorem ofOptions_of_obj {options : Json} {row : List (String × Json)} (h : partOf options = .obj row) :
    ofOptions options = (Config.decode (.obj row)).mapError fun e => .invalidArgument e.message := by
  unfold ofOptions
  rw [show (options.get? "mapperlens").getD options = .obj row from h]

/-- A configuration is read from the options that hold it. -/
theorem ofOptions_of_within {config : Config} (hconfig : config.Fits) {options : Json}
    (h : Within config.toJson (partOf options)) : ofOptions options = .ok config := by
  obtain ⟨row, hrow, -⟩ := id h
  rw [ofOptions_of_obj hrow, Json.mapError_eq_ok_iff, ← hrow]
  exact decode_of_within hconfig h

/-- Without the key of the program, all options are for it. -/
theorem partOf_eq_self {options : Json} (h : options.get? "mapperlens" = none) : partOf options = options := by
  unfold partOf
  rw [h, Option.getD_none]

/-- The keys of a configuration. -/
def keys : List String := ["sourceRoots", "baseInterfaces", "excludeDirs", "maxXmlFileSize"]

theorem readsByKey : ReadsByKey Config.decode keys := isRegular_record.readsByKey fun _ => rfl

/-- A configuration under the key of the program is read by its own keys. -/
theorem readsByKey_nested : ReadsByKey (fun j => ofOptions (.obj [("mapperlens", j)])) keys :=
  readsByKey.mapError (fun e => .invalidArgument e.message) fun _ => ofOptions_of_obj rfl

/-- Without the key of the program, the options of an editor are read as if they were under it. -/
theorem ofOptions_bare {row : List (String × Json)} (h : row.lookup "mapperlens" = none) :
    ofOptions (.obj row) = ofOptions (.obj [("mapperlens", .obj row)]) :=
  ofOptions_congr (partOf_eq_self h)

/-- With the key of the program, what is beside it does not matter. -/
theorem ofOptions_under {row : List (String × Json)} {j : Json} (h : row.lookup "mapperlens" = some j) :
    ofOptions (.obj row) = ofOptions (.obj [("mapperlens", j)]) := by
  refine ofOptions_congr ?_
  simp only [partOf, Json.get?, h]
  rfl

/-- The options of an editor are read by the key of the program and those of a configuration. -/
theorem readsByKey_options : ReadsByKey ofOptions ("mapperlens" :: keys) where
  unknown row := by
    have hlookup : (row.filter fun field => field.1 ∈ "mapperlens" :: keys).lookup "mapperlens"
        = row.lookup "mapperlens" :=
      lookup_filter_key (p := fun key => decide (key ∈ "mapperlens" :: keys)) (by decide) row
    cases hpart : row.lookup "mapperlens" with
    | some j => rw [ofOptions_under hpart, ofOptions_under (hlookup.trans hpart)]
    | none =>
      rw [ofOptions_bare hpart, ofOptions_bare (hlookup.trans hpart)]
      exact (readsByKey_nested.mono fun _ => List.mem_cons_of_mem _).unknown row
  order {row row'} hrow hperm := by
    have hlookup : row'.lookup "mapperlens" = row.lookup "mapperlens" := (lookup_perm hrow hperm).symm
    cases hpart : row.lookup "mapperlens" with
    | some j => rw [ofOptions_under hpart, ofOptions_under (hlookup.trans hpart)]
    | none =>
      rw [ofOptions_bare hpart, ofOptions_bare (hlookup.trans hpart)]
      exact readsByKey_nested.order hrow hperm

/-- A configuration is read from an object field by field. -/
theorem decode_obj_eq_ok_iff {row : List (String × Json)} (hrow : (row.map Prod.fst).Nodup) {config : Config} :
    Config.decode (.obj row) = .ok config ↔
      Record.FieldReads row "sourceRoots" decodeStrings standard.sourceRoots config.sourceRoots ∧
      Record.FieldReads row "baseInterfaces" decodeStrings standard.baseInterfaces config.baseInterfaces ∧
      Record.FieldReads row "excludeDirs" decodeStrings standard.excludeDirs config.excludeDirs ∧
      Record.FieldReads row "maxXmlFileSize" (Json.decodeUnsigned 64) standard.maxXmlFileSize
        config.maxXmlFileSize := by
  show Config.record.ofFields row = .ok config ↔ _
  rw [isRegular_record.ofFields_eq_ok_iff hrow]
  unfold Config.record
  simp only [Record.build_andAlso_eq_ok_iff, Record.build_map_eq_ok_iff, Record.build_withDefault_eq_ok_iff]
  constructor
  · rintro ⟨_, ⟨_, ⟨_, ⟨_, hroots, rfl⟩, _, hbases, rfl⟩, _, hdirs, rfl⟩, _, hsize, rfl⟩
    exact ⟨hroots, hbases, hdirs, hsize⟩
  · rintro ⟨hroots, hbases, hdirs, hsize⟩
    exact ⟨_, ⟨_, ⟨_, ⟨_, hroots, rfl⟩, _, hbases, rfl⟩, _, hdirs, rfl⟩, _, hsize, rfl⟩

/-- A configuration is read back from its text among the options of an editor, which have no other keys. -/
theorem exists_parse_options {config : Config} (hconfig : config.Fits) :
    ∃ j, Json.parse config.toJson.write.toList = .ok j ∧ ofOptions j = .ok config := by
  have hreadable : Readable Json.maxDepth config.toJson := readable_toJson hconfig (by decide)
  obtain ⟨row, hparse, hrow⟩ := Json.exists_parse_write_obj hreadable
  have hkeys : row.map Prod.fst = keys := hrow.keys_eq
  have hnodup : (row.map Prod.fst).Nodup := hkeys ▸ hreadable.2.1
  have hbare : (Json.ofFields row).get? "mapperlens" = none := by
    rw [Json.get?_ofFields hnodup, List.lookup_eq_none_iff]
    intro field hfield
    have hkey : field.1 ∈ keys := hkeys ▸ List.mem_map_of_mem hfield
    refine bne_iff_ne.2 fun heq => ?_
    rw [← heq] at hkey
    exact absurd hkey (by decide)
  refine ⟨Json.ofFields row, hparse, ofOptions_of_within hconfig ?_⟩
  rw [partOf_eq_self hbare]
  exact Json.within_ofFields hreadable.2.1 hrow

end Config

/-! ## All of them -/

/-- Positions, ranges, methods, mappers, statements, actions, lenses and configurations are read back from
what is written for them, and their objects are read by the keys of their types. Absent fields of a
configuration have the values of the standard one. A kind of statements is read back as well, but from an
object only if the name of the kind is its one key. -/
theorem models_survive_json :
    (Survives Position.toJson (Position.decode .direct) Position.Fits ∧
      ReadsByKey (Position.decode .direct) ["line", "character"]) ∧
    (Survives Range.toJson (Range.decode .direct) Range.Fits ∧
      ReadsByKey (Range.decode .direct) ["start", "end"]) ∧
    (Survives JavaMethod.toJson JavaMethod.decode JavaMethod.Fits ∧
      ReadsByKey JavaMethod.decode ["name", "start_position"]) ∧
    (Survives JavaMapper.toJson JavaMapper.decode JavaMapper.Fits ∧
      ReadsByKey JavaMapper.decode ["uri", "package", "name", "methods"]) ∧
    (Survives Statement.toJson Statement.decode Statement.Fits ∧
      ReadsByKey Statement.decode ["name", "kind", "start_position", "end_position"]) ∧
    (Survives XmlMapper.toJson XmlMapper.decode XmlMapper.Fits ∧
      ReadsByKey XmlMapper.decode ["uri", "namespace", "methods", "available_insert_position"]) ∧
    (Survives Action.toJson Action.decode Action.Fits ∧
      ReadsByKey Action.decode ["kind", "uri", "selection", "position", "skeleton"]) ∧
    (Survives Lens.toJson Lens.decode Lens.Fits ∧ ReadsByKey Lens.decode ["range", "command"]) ∧
    (Survives StatementKind.toJson StatementKind.decode (fun _ => True) ∧
      ∀ row kind, StatementKind.decode (.obj row) = .ok kind ↔ row = [(kind.elementName, .null)]) ∧
    ((∀ config : Config, config.Fits →
        Config.ofOptions config.toJson = .ok config ∧
        (∃ j, Json.parse config.toJson.write.toList = .ok j ∧ Config.ofOptions j = .ok config) ∧
        ∀ j, Within config.toJson j → j.get? "mapperlens" = none → Config.ofOptions j = .ok config) ∧
      Survives (fun config => .obj [("mapperlens", config.toJson)]) Config.ofOptions Config.Fits ∧
      ReadsByKey Config.ofOptions
        ["mapperlens", "sourceRoots", "baseInterfaces", "excludeDirs", "maxXmlFileSize"] ∧
      ReadsByKey (fun j => Config.ofOptions (.obj [("mapperlens", j)]))
        ["sourceRoots", "baseInterfaces", "excludeDirs", "maxXmlFileSize"] ∧
      ∀ (options : Json) (row : List (String × Json)) (config : Config),
        (options.get? "mapperlens").getD options = .obj row → (row.map Prod.fst).Nodup →
        (Config.ofOptions options = .ok config ↔
          Record.FieldReads row "sourceRoots" Config.decodeStrings Config.standard.sourceRoots
            config.sourceRoots ∧
          Record.FieldReads row "baseInterfaces" Config.decodeStrings Config.standard.baseInterfaces
            config.baseInterfaces ∧
          Record.FieldReads row "excludeDirs" Config.decodeStrings Config.standard.excludeDirs
            config.excludeDirs ∧
          Record.FieldReads row "maxXmlFileSize" (Json.decodeUnsigned 64) Config.standard.maxXmlFileSize
            config.maxXmlFileSize)) ∧
    ∀ row row' : List (String × Json), (row.map Prod.fst).Nodup → row.Perm row' →
      Json.ofFields row = Json.ofFields row' := by
  refine ⟨⟨?_, Position.isRegular_record.readsByKey fun _ => rfl⟩,
    ⟨?_, (Range.isRegular_record _).readsByKey fun _ => rfl⟩,
    ⟨?_, JavaMethod.isRegular_record.readsByKey fun _ => rfl⟩,
    ⟨?_, JavaMapper.isRegular_record.readsByKey fun _ => rfl⟩,
    ⟨?_, Statement.isRegular_record.readsByKey fun _ => rfl⟩,
    ⟨?_, XmlMapper.isRegular_record.readsByKey fun _ => rfl⟩, ⟨?_, Action.readsByKey⟩,
    ⟨?_, Lens.isRegular_record.readsByKey fun _ => rfl⟩,
    ⟨?_, fun _ _ => StatementKind.decode_obj_eq_ok_iff⟩,
    ⟨?_, ?_, Config.readsByKey_options, Config.readsByKey_nested, ?_⟩, fun _ _ => Json.ofFields_perm⟩
  · exact Json.survives_of_within (fun _ h => Position.readable_toJson h (by decide))
      fun _ h _ hj => Position.decode_of_within h hj .direct
  · exact Json.survives_of_within (fun _ h => Range.readable_toJson h (by decide))
      fun _ h _ hj => Range.decode_of_within h hj .direct
  · exact Json.survives_of_within (fun _ h => JavaMethod.readable_toJson h (by decide))
      fun _ h _ => JavaMethod.decode_of_within h
  · exact Json.survives_of_within (fun _ h => JavaMapper.readable_toJson h (by decide))
      fun _ h _ => JavaMapper.decode_of_within h
  · exact Json.survives_of_within (fun _ h => Statement.readable_toJson h (by decide))
      fun _ h _ => Statement.decode_of_within h
  · exact Json.survives_of_within (fun _ h => XmlMapper.readable_toJson h (by decide))
      fun _ h _ => XmlMapper.decode_of_within h
  · exact Json.survives_of_within (fun _ h => Action.readable_toJson h (by decide))
      fun _ h _ => Action.decode_of_within h
  · exact Json.survives_of_within (fun _ h => Lens.readable_toJson h (by decide))
      fun _ h _ => Lens.decode_of_within h
  · exact Json.survives_of_within (fun _ _ => trivial) fun _ _ _ => StatementKind.decode_of_within
  · intro config hconfig
    have hself : Within config.toJson config.toJson :=
      Json.within_self _ (Config.readable_toJson hconfig Nat.le.refl)
    refine ⟨Config.ofOptions_of_within hconfig hself, Config.exists_parse_options hconfig, ?_⟩
    intro j hj hbare
    exact Config.ofOptions_of_within hconfig ((Config.partOf_eq_self hbare).symm ▸ hj)
  · refine Json.survives_of_within (fun config hconfig => ?_) fun config hconfig j hj => ?_
    · exact ⟨by decide, List.nodup_singleton _, Config.readable_toJson hconfig (by decide), trivial⟩
    · obtain ⟨row, rfl, hrow, ⟨k, hk, hwithin⟩, -⟩ := hj
      rw [Config.ofOptions_under ((lookup_eq_some_iff_mem hrow).2 hk)]
      exact Config.ofOptions_of_within hconfig hwithin
  · intro options row config hpart hrow
    rw [Config.ofOptions_of_obj hpart, Json.mapError_eq_ok_iff]
    exact Config.decode_obj_eq_ok_iff hrow

/-- A lens with the largest numbers, and with characters that are escaped in a text. -/
def crowdedLens : Lens :=
  ⟨⟨⟨0, 4294967295⟩, ⟨1, 2⟩⟩, .generate "file:///M.xml" ⟨3, 4⟩ "\n\"\t\x01\\é"⟩

/-- The lens is read from its fields in another order and among others, and a configuration has the standard
values where it says nothing. -/
theorem models_survive_json_crowdedLens :
    crowdedLens.Fits ∧
    Lens.decode (.obj [("command", .obj [("uri", .str "file:///M.xml"), ("selection", .null),
        ("skeleton", .str "\n\"\t\x01\\é"), ("position", (Position.mk 3 4).toJson),
        ("kind", .str "generate")]),
      ("line", .arr []), ("range", crowdedLens.range.toJson)]) = .ok crowdedLens ∧
    Config.ofOptions (.obj [("mapperlens", .obj [("maxXmlFileSize", .nat 18446744073709551615)])])
      = .ok { Config.standard with maxXmlFileSize := 18446744073709551615 } := by
  have hrange : crowdedLens.range.Fits := ⟨⟨by decide, by decide⟩, by decide, by decide⟩
  have hposition : (Position.mk 3 4).Fits := ⟨by decide, by decide⟩
  have hfits : crowdedLens.Fits := ⟨hrange, hposition⟩
  obtain ⟨-, -, -, -, -, -, -, ⟨hlens, -⟩, -, ⟨-, -, -, -, hconfig⟩, -⟩ := models_survive_json
  refine ⟨hfits, hlens.from_within crowdedLens hfits _ ?_,
    (hconfig _ [("maxXmlFileSize", .nat 18446744073709551615)] _ rfl (List.nodup_singleton _)).2 ?_⟩
  · refine ⟨_, rfl, show ["command", "line", "range"].Nodup by decide,
      ⟨_, .tail _ (.tail _ (.head _)), Json.within_self _ (Range.readable_toJson hrange (Nat.le_refl 3))⟩,
      ⟨_, .head _, ?_⟩, trivial⟩
    exact ⟨_, rfl, show ["uri", "selection", "skeleton", "position", "kind"].Nodup by decide,
      ⟨_, .tail _ (.tail _ (.tail _ (.tail _ (.head _)))), rfl⟩, ⟨_, .head _, rfl⟩,
      ⟨_, .tail _ (.tail _ (.tail _ (.head _))),
        Json.within_self _ (Position.readable_toJson hposition (Nat.le_refl 2))⟩,
      ⟨_, .tail _ (.tail _ (.head _)), rfl⟩, trivial⟩
  · exact ⟨.inl ⟨rfl, rfl⟩, .inl ⟨rfl, rfl⟩, .inl ⟨rfl, rfl⟩, .inr ⟨_, rfl, rfl⟩⟩

/-- An object that names a kind is not read any more if there is another field. -/
theorem StatementKind.unread_with_other_field :
    StatementKind.decode (.obj [("select", .null)]) = .ok .select ∧
      ∀ kind, StatementKind.decode (.obj [("select", .null), ("x", .nat 1)]) ≠ .ok kind := by
  refine ⟨rfl, fun kind hkind => ?_⟩
  have hlength := congrArg List.length (StatementKind.decode_obj_eq_ok_iff.1 hkind)
  simp at hlength

end StatementLens
