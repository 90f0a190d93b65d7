import DocumentRepository.Document
import DocumentRepository.Pattern.Basic

/-! # Filters

A filter is a condition on one document. Field names are dotted paths into it. A condition on a
single value holds of a list when it holds of some item, and a missing field counts as null
where null can be meant. -/
namespace DocumentRepository

inductive Comparison where
  | greater
  | less
  | atLeast
  | atMost
  deriving DecidableEq, Repr, Inhabited

def Comparison.holds : Comparison → Ordering → Bool
  | .greater, o => o.isGT
  | .less, o => o.isLT
  | .atLeast, o => o.isGE
  | .atMost, o => o.isLE

inductive Filter where
  | all
  | eq (field : String) (value : Value)
  | compare (field : String) (op : Comparison) (value : Value)
  | pattern (field : String) (pattern : Pattern)
  | exists (field : String)
  | isIn (field : String) (values : List Value)
  | notIn (field : String) (values : List Value)
  | not (inner : Filter)
  | and (parts : List Filter)
  | or (parts : List Filter)

namespace Filter

/-- Equality with a value, or of some item with it if only the stored value is a list. -/
def eqHolds (found : Option Value) (value : Value) : Bool :=
  match found with
  | some (.list items) =>
    if value.isList then (Value.list items).looseEqual value else items.any (·.looseEqual value)
  | some v => v.looseEqual value
  | none => value.isNull

def compareHolds (found : Option Value) (op : Comparison) (value : Value) : Bool :=
  ((found.bind (·.compare? value)).map op.holds).getD false

def patternHolds (found : Option Value) (p : Pattern) : Bool :=
  match found with
  | some (.text s) => p.occursIn s
  | some (.list items) => (items.filterMap Value.text?).any p.occursIn
  | _ => false

/-- Whether a stored value, or an item of a stored list, is among the values. -/
def inHolds (found : Option Value) (values : List Value) : Bool :=
  match found with
  | some (.list items) => items.any fun item => values.any (·.looseEqual item)
  | some v => values.any (·.looseEqual v)
  | none => values.any Value.isNull

mutual

def holds (d : Document) : Filter → Bool
  | .all => true
  | .eq field value => eqHolds (d.get? field) value
  | .compare field op value => compareHolds (d.get? field) op value
  | .pattern field p => patternHolds (d.get? field) p
  | .exists field => (d.get? field).isSome
  | .isIn field values => inHolds (d.get? field) values
  | .notIn field values => !inHolds (d.get? field) values
  | .not inner => !inner.holds d
  | .and parts => allHold d parts
  | .or parts => someHolds d parts

def allHold (d : Document) : List Filter → Bool
  | [] => true
  | f :: rest => f.holds d && allHold d rest

def someHolds (d : Document) : List Filter → Bool
  | [] => false
  | f :: rest => f.holds d || someHolds d rest

end

theorem allHold_eq_all (d : Document) (fs : List Filter) : allHold d fs = fs.all (·.holds d) := by
  induction fs with
  | nil => rfl
  | cons f rest ih => simp [allHold, ih]

theorem someHolds_eq_any (d : Document) (fs : List Filter) : someHolds d fs = fs.any (·.holds d) := by
  induction fs with
  | nil => rfl
  | cons f rest ih => simp [someHolds, ih]

mutual

/-- Equality of filters, part by part; patterns are equal when their texts are. -/
def equal : Filter → Filter → Bool
  | .all, .all => true
  | .eq f v, .eq g w => f == g && v.equal w
  | .compare f o v, .compare g p w => f == g && o == p && v.equal w
  | .pattern f p, .pattern g q => f == g && p.equal q
  | .exists f, .exists g => f == g
  | .isIn f vs, .isIn g ws => f == g && Value.equalItems vs ws
  | .notIn f vs, .notIn g ws => f == g && Value.equalItems vs ws
  | .not a, .not b => equal a b
  | .and as, .and bs => equalParts as bs
  | .or as, .or bs => equalParts as bs
  | _, _ => false

def equalParts : List Filter → List Filter → Bool
  | [], [] => true
  | a :: as, b :: bs => equal a b && equalParts as bs
  | _, _ => false

end

def negateIf (negated : Bool) (f : Filter) : Filter := if negated then .not f else f

theorem holds_negateIf (d : Document) (negated : Bool) (f : Filter) :
    (f.negateIf negated).holds d = (negated != f.holds d) := by
  cases negated <;> cases h : f.holds d <;> simp [negateIf, holds, h]

end Filter
end DocumentRepository
