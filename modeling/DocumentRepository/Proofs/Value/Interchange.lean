import DocumentRepository.Value.Basic

/-! # Equal values can stand for each other

Equality of values is finer than all that a filter asks of them. Two values that are equal are loosely equal to the same
values and compare with every value alike: numbers that are equal have one place in the order of numbers, also the two
zeros, and a NaN is not equal to anything.
-/
namespace DocumentRepository

namespace Double

variable {x y : Double}

theorem equal_congr (h : x.equal y = true) (z : Double) : z.equal x = z.equal y := by
  obtain ⟨hx, hy, hrank⟩ := equal_iff.mp h
  rw [equal, equal, hx, hy, hrank]

theorem compare?_congr (h : x.equal y = true) (z : Double) : z.compare? x = z.compare? y := by
  obtain ⟨hx, hy, hrank⟩ := equal_iff.mp h
  rw [compare?, compare?, hx, hy, hrank]

end Double

namespace Value

variable {a b : Value} {as bs : List Value}

mutual

theorem equal_congr {a b : Value} (h : a.equal b = true) (v : Value) : v.equal a = v.equal b := by
  cases a <;> cases b
  case null.null => rfl
  case bool.bool => rw [eq_of_beq h]
  case int.int => rw [eq_of_beq h]
  case text.text => rw [eq_of_beq h]
  case float.float =>
    cases v with
    | float z => exact Double.equal_congr h z
    | _ => rfl
  case list.list =>
    cases v with
    | list vs => exact equalItems_congr h vs
    | _ => rfl
  case map.map =>
    cases v with
    | map vs => exact equalFields_congr h vs
    | _ => rfl
  all_goals cases h
termination_by structural a

theorem equalItems_congr {as bs : List Value} (h : equalItems as bs = true) (vs : List Value) :
    equalItems vs as = equalItems vs bs := by
  cases as <;> cases bs
  case nil.nil => rfl
  case cons.cons a as b bs =>
    obtain ⟨hhead, hrest⟩ := Bool.and_eq_true_iff.mp h
    cases vs with
    | nil => rfl
    | cons v vs => rw [equalItems, equalItems, equal_congr hhead, equalItems_congr hrest]
  all_goals cases h
termination_by structural as

theorem equalFields_congr {as bs : List (String × Value)} (h : equalFields as bs = true) (vs : List (String × Value)) :
    equalFields vs as = equalFields vs bs := by
  cases as <;> cases bs
  case nil.nil => rfl
  case cons.cons a as b bs =>
    obtain ⟨hhead, hrest⟩ := Bool.and_eq_true_iff.mp h
    obtain ⟨hname, hvalue⟩ := Bool.and_eq_true_iff.mp hhead
    cases vs with
    | nil => rfl
    | cons v vs =>
      rw [equalFields, equalFields, equal_congr (a := a.2) (b := b.2) hvalue, equalFields_congr hrest, eq_of_beq hname]
  all_goals cases h
termination_by structural as

end

mutual

theorem looseEqual_congr {a b : Value} (h : a.equal b = true) (v : Value) : v.looseEqual a = v.looseEqual b := by
  cases a <;> cases b
  case null.null => rfl
  case bool.bool => rw [eq_of_beq h]
  case int.int => rw [eq_of_beq h]
  case text.text => rw [eq_of_beq h]
  case float.float =>
    cases v with
    | int i => exact Double.equal_congr h (Double.ofInt i.toInt)
    | float z => exact Double.equal_congr h z
    | _ => rfl
  case list.list =>
    cases v with
    | list vs => exact looseEqualItems_congr h vs
    | _ => rfl
  case map.map =>
    cases v with
    | map vs => exact equalFields_congr h vs
    | _ => rfl
  all_goals cases h

theorem looseEqualItems_congr {as bs : List Value} (h : equalItems as bs = true) (vs : List Value) :
    looseEqualItems vs as = looseEqualItems vs bs := by
  cases as <;> cases bs
  case nil.nil => rfl
  case cons.cons a as b bs =>
    obtain ⟨hhead, hrest⟩ := Bool.and_eq_true_iff.mp h
    cases vs with
    | nil => rfl
    | cons v vs => rw [looseEqualItems, looseEqualItems, looseEqual_congr hhead, looseEqualItems_congr hrest]
  all_goals cases h

end

theorem compare?_congr (h : a.equal b = true) (v : Value) : v.compare? a = v.compare? b := by
  cases a <;> cases b
  case null.null => rfl
  case bool.bool => rw [eq_of_beq h]
  case int.int => rw [eq_of_beq h]
  case text.text => rw [eq_of_beq h]
  case float.float =>
    cases v with
    | int i => exact Double.compare?_congr h (Double.ofInt i.toInt)
    | float z => exact Double.compare?_congr h z
    | _ => rfl
  case list.list => cases v <;> rfl
  case map.map => cases v <;> rfl
  all_goals cases h

theorem isNull_congr (h : a.equal b = true) : a.isNull = b.isNull := by
  cases a <;> cases b <;> first | rfl | cases h

theorem isList_congr (h : a.equal b = true) : a.isList = b.isList := by
  cases a <;> cases b <;> first | rfl | cases h

/-- A test that equal values pass or fail together is passed by some item of both lists or of neither. -/
theorem any_congr {test : Value → Bool} (htest : ∀ {a b : Value}, a.equal b = true → test a = test b)
    (h : equalItems as bs = true) : as.any test = bs.any test := by
  induction as generalizing bs with
  | nil =>
    cases bs with
    | nil => rfl
    | cons b bs => cases h
  | cons a as ih =>
    cases bs with
    | nil => cases h
    | cons b bs =>
      obtain ⟨hhead, hrest⟩ := Bool.and_eq_true_iff.mp h
      rw [List.any_cons, List.any_cons, htest hhead, ih hrest]

end Value

end DocumentRepository
