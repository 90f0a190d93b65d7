import DocumentRepository.Value.Basic

/-! # The equalities of values

Neither equality is an equivalence: a NaN is not equal to itself, and two different integers can
both equal one double. Both are symmetric, at every depth of lists and maps, and a value without
NaN is equal to itself.
-/
namespace DocumentRepository.Value

mutual

theorem equal_comm (a b : Value) : a.equal b = b.equal a := by
  cases a <;> cases b
  case list.list as bs => exact equalItems_comm as bs
  case map.map as bs => exact equalFields_comm as bs
  case float.float x y => exact Double.equal_comm x y
  case bool.bool => exact Bool.beq_comm
  case int.int => exact Bool.beq_comm
  case text.text => exact Bool.beq_comm
  all_goals rfl

theorem equalItems_comm (as bs : List Value) : equalItems as bs = equalItems bs as := by
  cases as <;> cases bs
  case cons.cons a as b bs => rw [equalItems, equalItems, equal_comm a b, equalItems_comm as bs]
  all_goals rfl

theorem equalFields_comm (as bs : List (String × Value)) : equalFields as bs = equalFields bs as := by
  cases as <;> cases bs
  case cons.cons a as b bs =>
    rw [equalFields, equalFields, equal_comm a.2 b.2, equalFields_comm as bs, Bool.beq_comm]
  all_goals rfl

end

mutual

theorem looseEqual_comm (a b : Value) : a.looseEqual b = b.looseEqual a := by
  cases a <;> cases b
  case list.list as bs => exact looseEqualItems_comm as bs
  case map.map as bs => exact equalFields_comm as bs
  case float.float x y => exact Double.equal_comm x y
  case int.float i x => exact Double.equal_comm (Double.ofInt i.toInt) x
  case float.int x i => exact Double.equal_comm x (Double.ofInt i.toInt)
  case bool.bool => exact Bool.beq_comm
  case int.int => exact Bool.beq_comm
  case text.text => exact Bool.beq_comm
  all_goals rfl

theorem looseEqualItems_comm (as bs : List Value) : looseEqualItems as bs = looseEqualItems bs as := by
  cases as <;> cases bs
  case cons.cons a as b bs =>
    rw [looseEqualItems, looseEqualItems, looseEqual_comm a b, looseEqualItems_comm as bs]
  all_goals rfl

end

mutual

def hasNoNaN : Value → Bool
  | .float x => !x.isNaN
  | .list items => itemsHaveNoNaN items
  | .map fields => fieldsHaveNoNaN fields
  | _ => true

def itemsHaveNoNaN : List Value → Bool
  | [] => true
  | v :: rest => v.hasNoNaN && itemsHaveNoNaN rest

def fieldsHaveNoNaN : List (String × Value) → Bool
  | [] => true
  | (_, v) :: rest => v.hasNoNaN && fieldsHaveNoNaN rest

end

mutual

theorem equal_self {v : Value} (h : v.hasNoNaN = true) : v.equal v = true := by
  cases v with
  | float x => simpa [equal, Double.equal, hasNoNaN] using h
  | list items => exact equalItems_self h
  | map fields => exact equalFields_self h
  | _ => simp [equal]

theorem equalItems_self {vs : List Value} (h : itemsHaveNoNaN vs = true) : equalItems vs vs = true := by
  cases vs with
  | nil => rfl
  | cons v rest =>
    obtain ⟨hv, hrest⟩ := Bool.and_eq_true_iff.mp h
    rw [equalItems, equal_self hv, equalItems_self hrest]
    rfl

theorem equalFields_self {fields : List (String × Value)} (h : fieldsHaveNoNaN fields = true) :
    equalFields fields fields = true := by
  cases fields with
  | nil => rfl
  | cons entry rest =>
    obtain ⟨hv, hrest⟩ := Bool.and_eq_true_iff.mp h
    rw [equalFields, equal_self hv, equalFields_self hrest, BEq.rfl]
    rfl

end

mutual

/-- A value without NaN is equal to itself. -/
theorem looseEqual_self {v : Value} (h : v.hasNoNaN = true) : v.looseEqual v = true := by
  cases v with
  | int i => exact BEq.rfl
  | float x => exact equal_self h
  | list items => exact looseEqualItems_self h
  | map fields => exact equalFields_self h
  | _ => simp [looseEqual, equal]

theorem looseEqualItems_self {vs : List Value} (h : itemsHaveNoNaN vs = true) : looseEqualItems vs vs = true := by
  cases vs with
  | nil => rfl
  | cons v rest =>
    obtain ⟨hv, hrest⟩ := Bool.and_eq_true_iff.mp h
    rw [looseEqualItems, looseEqual_self hv, looseEqualItems_self hrest]
    rfl

end

/-- Only null is loosely equal to null. -/
theorem looseEqual_null (v : Value) : v.looseEqual .null = v.isNull := by cases v <;> rfl

end DocumentRepository.Value
