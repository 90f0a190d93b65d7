import DocumentRepository.Declaration.Entity
import DocumentRepository.Proofs.Declaration.Options

/-! # Options of `serde`

Some options say under which key a field is written, or that it is not written. Entities read them as they stand in
the attributes of a struct and of its fields: what they find is what the options say.
-/
namespace DocumentRepository.Declaration
open Text OptionReader

/-! ## The options -/

section NameText

variable {α : Type}

structure HalfText (α : Type) where
  forWriting : Bool
  source : String
  value : α

inductive NameText (α : Type) where
  | both (source : String) (value : α)
  | halves (trailing : Bool) (first : HalfText α) (rest : List (HalfText α))

def HalfText.name (h : HalfText α) : String := if h.forWriting then "serialize" else "deserialize"

def HalfText.written? (h : HalfText α) : Option α := if h.forWriting then some h.value else none

def lastGiven {ω β : Type} (given? : ω → Option β) (os : List ω) : Option β := (os.filterMap given?).getLast?

def NameText.written? : NameText α → Option α
  | .both _ value => some value
  | .halves _ first rest => lastGiven HalfText.written? (first :: rest)

variable (spell : α → String)

def HalfText.tokens (h : HalfText α) : List Token := [equalsMark, .text h.source (spell h.value)]

def NameText.tokens : NameText α → List Token
  | .both source value => [equalsMark, .text source (spell value)]
  | .halves trailing first rest => [.group .round (commaOptions HalfText.name (HalfText.tokens spell) trailing (first :: rest))]

end NameText

/-- What is told of a field. The last three say nothing of what is written. -/
inductive SerdeFieldOption where
  | rename (text : NameText String)
  | skip
  | skipSerializing
  | skipDeserializing
  | default
  | otherName (source value : String)

namespace SerdeFieldOption

def name : SerdeFieldOption → String
  | .rename _ => "rename"
  | .skip => "skip"
  | .skipSerializing => "skip_serializing"
  | .skipDeserializing => "skip_deserializing"
  | .default => "default"
  | .otherName .. => "alias"

def value : SerdeFieldOption → List Token
  | .rename text => text.tokens id
  | .otherName source value => [equalsMark, .text source value]
  | _ => []

def rename? : SerdeFieldOption → Option String
  | .rename text => text.written?
  | _ => none

def leavesOut : SerdeFieldOption → Bool
  | .skip | .skipSerializing => true
  | _ => false

def effect (f : SerdeField) (o : SerdeFieldOption) : SerdeField := ⟨o.rename?.or f.rename, o.leavesOut || f.isSkipped⟩

end SerdeFieldOption

inductive SerdeTypeOption where
  | renameAll (text : NameText RenameRule)
  | denyUnknownFields
  | default

namespace SerdeTypeOption

def name : SerdeTypeOption → String
  | .renameAll _ => "rename_all"
  | .denyUnknownFields => "deny_unknown_fields"
  | .default => "default"

def value : SerdeTypeOption → List Token
  | .renameAll text => text.tokens RenameRule.name
  | _ => []

def rule? : SerdeTypeOption → Option RenameRule
  | .renameAll text => text.written?
  | _ => none

end SerdeTypeOption

/-! ## Reading the options -/

theorem lastGiven_cons {ω β : Type} (given? : ω → Option β) (o : ω) (rest : List ω) :
    lastGiven given? (o :: rest) = (lastGiven given? rest).or (given? o) := by
  unfold lastGiven
  cases h : given? o with
  | none => rw [List.filterMap_cons_none h, Option.or_none]
  | some b =>
    rw [List.filterMap_cons_some h, List.getLast?_cons]
    cases (rest.filterMap given?).getLast? <;> rfl

theorem foldl_lastGiven {ω β : Type} (given? : ω → Option β) (os : List ω) (before : Option β) :
    os.foldl (fun found o => (given? o).or found) before = (lastGiven given? os).or before := by
  induction os generalizing before with
  | nil => rfl
  | cons o rest ih => rw [List.foldl_cons, ih, lastGiven_cons, Option.or_assoc]

theorem lastGiven_map {ω β γ : Type} (given? : ω → Option β) (f : β → γ) (os : List ω) :
    lastGiven (fun o => (given? o).map f) os = (lastGiven given? os).map f := by
  unfold lastGiven
  rw [← List.map_filterMap, List.getLast?_map]

def halfStep (found : Option String) (name : Option String) : OptionReader (Option String) := do
  if name = some "serialize" then return some (← ofReader .textValue)
  else
    ofReader .anyOption
    return found

theorem reads_halves {α : Type} (spell : α → String) :
    Reads halfStep HalfText.name (HalfText.tokens spell) fun found h => (h.written?.map spell).or found where
  path _ _ _ := rfl
  value found h rest written hrest := by
    obtain ⟨forWriting, source, value⟩ := h
    rcases hrest with rfl | ⟨more, rfl⟩ <;> cases forWriting <;> exact ⟨_, rfl⟩

theorem writtenName_tokens {α : Type} (spell : α → String) (text : NameText α) (rest written : List Token) :
    ∃ written', writtenName ⟨text.tokens spell ++ rest, written⟩ = .ok (text.written?.map spell, ⟨rest, written'⟩) := by
  cases text with
  | both source value => exact ⟨_, rfl⟩
  | halves trailing first more =>
    refine ⟨written, ?_⟩
    have hread := (reads_halves spell).innerOptions_eq trailing (List.cons_ne_nil first more) none rest written
    rw [foldl_lastGiven, Option.or_none, lastGiven_map] at hread
    exact hread

theorem marks_tokens {α : Type} (spell : α → String) (text : NameText α) (rest : List Token) :
    Tokens.marks (text.tokens spell ++ rest) "::" = false := by
  cases text <;> rfl

theorem reads_fieldOptions : Reads SerdeField.step SerdeFieldOption.name SerdeFieldOption.value SerdeFieldOption.effect where
  path o rest hrest := by
    cases o with
    | rename text => exact marks_tokens id text rest
    | otherName source value => rfl
    | skip | skipSerializing | skipDeserializing | default => exact marks_path_of_endsOption hrest
  value f o rest written hrest := by
    cases o with
    | rename text =>
      obtain ⟨written', htext⟩ := writtenName_tokens id text rest written
      refine ⟨written', ?_⟩
      refine (bind_of_ok htext _).trans ?_
      dsimp only [SerdeFieldOption.effect, SerdeFieldOption.rename?]
      cases text.written? <;> rfl
    | skip | skipSerializing => exact ⟨written, rfl⟩
    | skipDeserializing | default => rcases hrest with rfl | ⟨more, rfl⟩ <;> exact ⟨_, rfl⟩
    | otherName source value => rcases hrest with rfl | ⟨more, rfl⟩ <;> exact ⟨_, rfl⟩

theorem reads_typeOptions :
    Reads renameAllStep SerdeTypeOption.name SerdeTypeOption.value fun rule o => o.rule?.or rule where
  path o rest hrest := by
    cases o with
    | renameAll text => exact marks_tokens RenameRule.name text rest
    | denyUnknownFields | default => exact marks_path_of_endsOption hrest
  value rule o rest written hrest := by
    cases o with
    | renameAll text =>
      obtain ⟨written', htext⟩ := writtenName_tokens RenameRule.name text rest written
      refine ⟨written', ?_⟩
      refine (bind_of_ok htext _).trans ?_
      dsimp only [SerdeTypeOption.rule?]
      cases text.written? with
      | none => rfl
      | some given => cases given <;> rfl
    | denyUnknownFields | default => rcases hrest with rfl | ⟨more, rfl⟩ <;> exact ⟨_, rfl⟩

theorem foldl_effect (os : List SerdeFieldOption) (f : SerdeField) :
    os.foldl SerdeFieldOption.effect f =
      ⟨(lastGiven SerdeFieldOption.rename? os).or f.rename, os.any SerdeFieldOption.leavesOut || f.isSkipped⟩ := by
  induction os generalizing f with
  | nil => rfl
  | cons o rest ih =>
    rw [List.foldl_cons, ih, lastGiven_cons, List.any_cons, Option.or_assoc, Bool.or_comm o.leavesOut, Bool.or_assoc]
    rfl

end DocumentRepository.Declaration
