import DocumentRepository.Proofs.Bind
import DocumentRepository.Proofs.Declaration.SerdeOption
import DocumentRepository.Proofs.Text.Rename

/-! # Names of fields and keys of documents

What `serde` is told of a struct decides which fields are written and under which keys. An entity names its fields from
the same attributes, and the names are the keys as far as the renaming rules agree.
-/
namespace DocumentRepository.Declaration
open Text OptionReader

/-! ## Structs -/

structure SerdeStruct where
  options : List SerdeTypeOption
  fields : List (String × List SerdeFieldOption)

namespace SerdeStruct

def rule (s : SerdeStruct) : Option RenameRule := lastGiven SerdeTypeOption.rule? s.options

def writtenFields (s : SerdeStruct) : List (String × List SerdeFieldOption) :=
  s.fields.filter fun f => !f.2.any SerdeFieldOption.leavesOut

/-- The keys of the written fields, for a way to apply rules: the name that a field is given comes first. Of names given
twice, which `serde` does not take, the last one counts. -/
def keysBy (apply : RenameRule → String → String) (s : SerdeStruct) : List String :=
  s.writtenFields.map fun f =>
    (lastGiven SerdeFieldOption.rename? f.2).getD ((s.rule.map fun rule => apply rule f.1).getD f.1)

def keys (s : SerdeStruct) : List String := s.keysBy RenameRule.serde

def ruledNames (s : SerdeStruct) : List String :=
  (s.writtenFields.filter fun f => (lastGiven SerdeFieldOption.rename? f.2).isNone).map (·.1)

/-- A field with its options; the mark of a raw name does not count. -/
def DescribesField (told : String × List SerdeFieldOption) (f : StructField) : Prop :=
  told.1 = plainName f.name ∧ HoldOptions "serde" SerdeFieldOption.name SerdeFieldOption.value f.attributes told.2

structure Describes (s : SerdeStruct) (d : TypeDeclaration) : Prop where
  options : HoldOptions "serde" SerdeTypeOption.name SerdeTypeOption.value d.attributes s.options
  fields : ∃ fields, d.body = .named fields ∧ List.Forall₂ DescribesField s.fields fields

end SerdeStruct

open SerdeStruct

theorem keys_withId (fields : List (String × DeclaredField)) :
    (withId fields).map (·.key) = fields.map (·.2.key) := by
  have hmark : ∀ fields : List (String × DeclaredField), (markId fields).map (·.key) = fields.map (·.2.key) := by
    intro fields
    induction fields with
    | nil => rfl
    | cons f rest ih =>
      unfold markId
      split
      · rw [List.map_cons, List.map_map]
        rfl
      · rw [List.map_cons, ih]
        rfl
  unfold withId
  split
  · rw [List.map_map]
    rfl
  · exact hmark fields

theorem documentKey_eq (rule : Option RenameRule) (rename : Option String) (isSkipped : Bool) (name : String) :
    documentKey rule ⟨rename, isSkipped⟩ name =
      rename.getD ((rule.map fun r => r.apply (plainName name)).getD (plainName name)) := by
  cases rename <;> cases rule <;> rfl

theorem keys_declareFields {rule : Option RenameRule} {told : List (String × List SerdeFieldOption)}
    {fields : List StructField} (hfields : List.Forall₂ DescribesField told fields)
    {declared : List (String × DeclaredField)} (hdeclared : declareFields rule fields = .ok declared) :
    declared.map (·.2.key) = (told.filter fun f => !f.2.any SerdeFieldOption.leavesOut).map fun f =>
      (lastGiven SerdeFieldOption.rename? f.2).getD ((rule.map fun r => r.apply f.1).getD f.1) := by
  induction hfields generalizing declared with
  | nil => cases hdeclared; rfl
  | @cons t f told fields ht hfields ih =>
    obtain ⟨hname, hold⟩ := ht
    have hserde := reads_fieldOptions.readNamed_eq hold ⟨none, false⟩
    rw [foldl_effect, Option.or_none, Bool.or_false] at hserde
    obtain ⟨serde, hread, hdeclared⟩ := bind_eq_ok_iff.mp hdeclared
    obtain rfl := Except.ok.inj (hserde.symm.trans hread)
    cases hskip : t.2.any SerdeFieldOption.leavesOut with
    | true =>
      rw [if_pos hskip] at hdeclared
      rw [List.filter_cons_of_neg (by simp [hskip])]
      exact ih hdeclared
    | false =>
      rw [if_neg (by simp [hskip])] at hdeclared
      obtain ⟨options, -, hdeclared⟩ := bind_eq_ok_iff.mp hdeclared
      obtain ⟨others, hothers, hdeclared⟩ := bind_eq_ok_iff.mp hdeclared
      obtain rfl := Except.ok.inj hdeclared
      rw [List.filter_cons_of_pos (by simp [hskip]), List.map_cons, List.map_cons, ih hothers, documentKey_eq, hname]

/-! ## Declarations with the attributes of `serde` -/

def serdeAttribute (inside : List Token) : Attribute :=
  ⟨false, some "serde", .list inside, [.ident "serde", .group .round inside]⟩

theorem holdOptions_serdeAttribute {ω : Type} (name : ω → String) (value : ω → List Token) (os : List ω) :
    HoldOptions "serde" name value [serdeAttribute (commaOptions name value false os)] os :=
  ⟨[(false, os)], rfl, List.flatMap_singleton _ _⟩

def toField (type : TypeSource) (told : String × List SerdeFieldOption) : StructField :=
  ⟨[serdeAttribute (commaOptions SerdeFieldOption.name SerdeFieldOption.value false told.2)], told.1, type⟩

def SerdeStruct.toType (s : SerdeStruct) (name : String) (type : TypeSource) : TypeDeclaration where
  attributes := [serdeAttribute (commaOptions SerdeTypeOption.name SerdeTypeOption.value false s.options)]
  name := name
  generics := default
  body := .named (s.fields.map (toField type))

theorem describesField_toField {told : String × List SerdeFieldOption} (hplain : plainName told.1 = told.1)
    (type : TypeSource) : DescribesField told (toField type told) :=
  ⟨hplain.symm, holdOptions_serdeAttribute _ _ _⟩

theorem exists_declareFields (rule : Option RenameRule) (type : TypeSource)
    (told : List (String × List SerdeFieldOption)) :
    ∃ declared, declareFields rule (told.map (toField type)) = .ok declared := by
  induction told with
  | nil => exact ⟨[], rfl⟩
  | cons t rest ih =>
    obtain ⟨others, hothers⟩ := ih
    have hserde : readNamed "serde" SerdeField.step ⟨none, false⟩ (toField type t).attributes =
        .ok (t.2.foldl SerdeFieldOption.effect ⟨none, false⟩) :=
      reads_fieldOptions.readNamed_eq (holdOptions_serdeAttribute _ _ _) _
    have hentity : readNamed "entity" FieldOptions.step ⟨false, false, false, false⟩ (toField type t).attributes =
        .ok ⟨false, false, false, false⟩ :=
      rfl
    rw [List.map_cons, declareFields, hserde, hentity, hothers]
    dsimp only [bind, Except.bind]
    split
    · exact ⟨_, rfl⟩
    · exact ⟨_, rfl⟩

namespace SerdeStruct

theorem describes_toType {s : SerdeStruct} (hplain : ∀ told ∈ s.fields, plainName told.1 = told.1) (name : String)
    (type : TypeSource) : s.Describes (s.toType name type) where
  options := holdOptions_serdeAttribute _ _ _
  fields := by
    refine ⟨s.fields.map (toField type), rfl, ?_⟩
    rw [List.forall₂_map_right_iff]
    exact List.forall₂_same.mpr fun told htold => describesField_toField (hplain told htold) type

theorem exists_ofType_toType (s : SerdeStruct) (name : String) (type : TypeSource) :
    ∃ e, DeclaredEntity.ofType (s.toType name type) = .ok e := by
  have hentity : readNamed "entity" EntityOptions.step ⟨none, [], false, false⟩ (s.toType name type).attributes =
      .ok ⟨none, [], false, false⟩ :=
    rfl
  have hrule : readNamed "serde" renameAllStep none (s.toType name type).attributes =
      .ok (s.options.foldl (fun rule o => o.rule?.or rule) none) :=
    reads_typeOptions.readNamed_eq (holdOptions_serdeAttribute _ _ _) none
  obtain ⟨declared, hdeclared⟩ := exists_declareFields (s.options.foldl (fun rule o => o.rule?.or rule) none) type s.fields
  have hbody : (s.toType name type).body = .named (s.fields.map (toField type)) := rfl
  rw [DeclaredEntity.ofType, hentity, hrule, hbody]
  dsimp only [bind, Except.bind]
  rw [hdeclared]
  exact ⟨_, rfl⟩

variable {s : SerdeStruct} {d : TypeDeclaration} {e : DeclaredEntity}

/-- Fields are named as `serde` would name them, but for the rules. -/
theorem Describes.names_eq (hs : s.Describes d) (he : DeclaredEntity.ofType d = .ok e) :
    e.toDeclaration.fields.map (·.name) = s.keysBy RenameRule.apply := by
  obtain ⟨fields, hbody, hfields⟩ := hs.fields
  have hrule := reads_typeOptions.readNamed_eq hs.options none
  rw [foldl_lastGiven, Option.or_none] at hrule
  obtain ⟨options, -, he⟩ := bind_eq_ok_iff.mp he
  rw [hbody] at he
  obtain ⟨_, ⟨⟩, he⟩ := bind_eq_ok_iff.mp he
  obtain ⟨rule, hread, he⟩ := bind_eq_ok_iff.mp he
  obtain rfl := Except.ok.inj (hrule.symm.trans hread)
  obtain ⟨declared, hdeclared, he⟩ := bind_eq_ok_iff.mp he
  obtain rfl := Except.ok.inj he
  calc (DeclaredEntity.toDeclaration _).fields.map (·.name)
    _ = (withId declared).map (·.key) := by
      unfold DeclaredEntity.toDeclaration
      rw [List.map_map]
      rfl
    _ = declared.map (·.2.key) := keys_withId declared
    _ = s.keysBy RenameRule.apply := keys_declareFields hfields hdeclared

theorem keysBy_eq_iff {f g : RenameRule → String → String} :
    s.keysBy f = s.keysBy g ↔ ∀ rule ∈ s.rule, ∀ name ∈ s.ruledNames, f rule name = g rule name := by
  unfold keysBy ruledNames
  rw [List.map_eq_map_iff]
  cases s.rule with
  | none => simp
  | some rule =>
    constructor
    · intro hall rule' hrule name hname
      obtain rfl := Option.mem_some.mp hrule
      obtain ⟨t, ht, rfl⟩ := List.mem_map.mp hname
      obtain ⟨hwritten, hrename⟩ := List.mem_filter.mp ht
      have hkey := hall t hwritten
      rwa [Option.isNone_iff_eq_none.mp hrename] at hkey
    · intro hall t ht
      cases hrename : lastGiven SerdeFieldOption.rename? t.2 with
      | some text => rfl
      | none =>
        exact hall rule rfl t.1 (List.mem_map_of_mem (List.mem_filter.mpr ⟨ht, by rw [hrename]; rfl⟩))

/-- Fields are named by their keys exactly if the rule is the rule of `serde` for every name that no other name stands
in for. In ASCII it is told which names these are. -/
theorem Describes.names_are_keys_iff (hs : s.Describes d) (he : DeclaredEntity.ofType d = .ok e) :
    e.toDeclaration.fields.map (·.name) = s.keys ↔
      ∀ rule ∈ s.rule, ∀ name ∈ s.ruledNames,
        (AsciiName name → rule.Agrees name) ∧ (¬AsciiName name → rule.apply name = rule.serde name) := by
  rw [hs.names_eq he, keys, keysBy_eq_iff]
  refine forall₂_congr fun rule _ => forall₂_congr fun name _ => ?_
  by_cases h : AsciiName name
  · rw [h.apply_eq_serde_iff]
    exact ⟨fun hagrees => ⟨fun _ => hagrees, fun hnot => absurd h hnot⟩, fun hall => hall.1 h⟩
  · exact ⟨fun heq => ⟨fun hascii => absurd hascii h, fun _ => heq⟩, fun hall => hall.2 h⟩

def profile : SerdeStruct where
  options := [.renameAll (.both "\"camelCase\"" .camelCase)]
  fields := [("id", []), ("display_name", []),
    ("email_address", [.rename (.both "\"mail\"" "mail"), .default]), ("session_token", [.skip])]

theorem names_are_keys_profile : ∃ d e, profile.Describes d ∧ DeclaredEntity.ofType d = .ok e ∧
    e.toDeclaration.fields.map (·.name) = ["id", "displayName", "mail"] := by
  have hplain : ∀ told ∈ profile.fields, plainName told.1 = told.1 := by decide
  have hdescribes := describes_toType hplain "Profile" default
  obtain ⟨e, he⟩ := exists_ofType_toType profile "Profile" default
  refine ⟨_, e, hdescribes, he, ?_⟩
  have hkeys : profile.keys = ["id", "displayName", "mail"] := by decide
  rw [← hkeys]
  refine (hdescribes.names_are_keys_iff he).mpr fun rule _ name hname => ?_
  have hnames : profile.ruledNames = ["id", "display_name"] := by decide
  rw [hnames] at hname
  have hsmall : isSmallName name = true ∧ [] ∉ pieces name := by
    rcases List.mem_cons.mp hname with rfl | hname
    · exact ⟨by decide, by decide⟩
    · obtain rfl := List.mem_singleton.mp hname
      exact ⟨by decide, by decide⟩
  obtain ⟨hascii, hagrees⟩ := agrees_of_isSmallName hsmall.1 hsmall.2 rule
  exact ⟨fun _ => hagrees, fun hnot => absurd hascii hnot⟩

/-- Snake case takes the underscore of `type_` away, which `serde` keeps. -/
theorem snake_case_drops_underscore : ∃ (s : SerdeStruct) (d : TypeDeclaration) (e : DeclaredEntity),
    s.Describes d ∧ DeclaredEntity.ofType d = .ok e ∧
      e.toDeclaration.fields.map (·.name) = ["id", "type"] ∧ s.keys = ["id", "type_"] := by
  let order : SerdeStruct := ⟨[.renameAll (.both "\"snake_case\"" .snakeCase)], [("id", []), ("type_", [])]⟩
  have hplain : ∀ told ∈ order.fields, plainName told.1 = told.1 := by decide
  have hdescribes := describes_toType hplain "Order" default
  obtain ⟨e, he⟩ := exists_ofType_toType order "Order" default
  have hid : RenameRule.snakeCase.apply "id" = "id" := by
    have h : AsciiName "id" := asciiName_of_isSmallName (by decide) (by decide)
    rw [← String.toList_inj, h.snakeCase_of_small (not_isUpper_of_isSmallName (by decide))]
    decide
  have htype : RenameRule.snakeCase.apply "type_" = "type" := by
    have h : AsciiName "type_" := asciiName_of_isSmallName (by decide) (by decide)
    rw [← String.toList_inj, h.snakeCase_of_small (not_isUpper_of_isSmallName (by decide))]
    decide
  have hkeys : order.keys = ["id", "type_"] := by decide
  have hruled : ∀ apply, order.keysBy apply = [apply .snakeCase "id", apply .snakeCase "type_"] := fun _ => rfl
  have hnames : order.keysBy RenameRule.apply = ["id", "type"] := by rw [hruled, hid, htype]
  exact ⟨order, _, e, hdescribes, he, (hdescribes.names_eq he).trans hnames, hkeys⟩

end SerdeStruct

end DocumentRepository.Declaration
