import DocumentRepository.Value.Type

/-! # Types within types

A type is within another if every value that fits it fits the other. That is so of the integers within the doubles, of
texts and uuids, of maps and objects, and of lists whose items are such.
-/
namespace DocumentRepository

namespace ValueType

def within : ValueType → ValueType → Bool
  | .bool, .bool => true
  | .int, .int => true
  | .int, .float => true
  | .float, .float => true
  | .text, .text => true
  | .text, .uuid => true
  | .uuid, .text => true
  | .uuid, .uuid => true
  | .list a, .list b => a.within b
  | .map, .map => true
  | .map, .object => true
  | .object, .map => true
  | .object, .object => true
  | _, _ => false

variable {a b : ValueType}

theorem fits_of_within (h : a.within b = true) {v : Value} (hv : v.fits a = true) : v.fits b = true := by
  induction a generalizing b v with
  | list a ih =>
    cases b with
    | list b =>
      cases v with
      | list items =>
        simp only [Value.fits, Value.fitsItems_eq_all, List.all_eq_true] at hv ⊢
        exact fun v hmem => ih h (hv v hmem)
      | null => rfl
      | _ => cases hv
    | _ => cases h
  | _ => cases b <;> cases h <;> cases v <;> first | rfl | cases hv

/-- A value that fits no type but those around. -/
theorem exists_of_not_within (h : a.within b = false) : ∃ v : Value, v.fits a = true ∧ v.fits b = false := by
  induction a generalizing b with
  | bool => exact ⟨.bool true, rfl, by cases b <;> first | rfl | cases h⟩
  | int => exact ⟨.int 0, rfl, by cases b <;> first | rfl | cases h⟩
  | float => exact ⟨.float (Double.ofInt 0), rfl, by cases b <;> first | rfl | cases h⟩
  | text => exact ⟨.text "", rfl, by cases b <;> first | rfl | cases h⟩
  | uuid => exact ⟨.text "", rfl, by cases b <;> first | rfl | cases h⟩
  | list a ih =>
    cases b with
    | list b =>
      obtain ⟨v, hv, hnot⟩ := ih h
      refine ⟨.list [v], ?_, ?_⟩
      · simp [Value.fits, Value.fitsItems, hv]
      · simp [Value.fits, Value.fitsItems, hnot]
    | _ => exact ⟨.list [], rfl, rfl⟩
  | map => exact ⟨.map [], rfl, by cases b <;> first | rfl | cases h⟩
  | object => exact ⟨.map [], rfl, by cases b <;> first | rfl | cases h⟩

theorem within_iff : a.within b = true ↔ ∀ v : Value, v.fits a = true → v.fits b = true := by
  constructor
  · exact fun h v hv => fits_of_within h hv
  · intro h
    cases hab : a.within b with
    | true => rfl
    | false =>
      obtain ⟨v, hv, hnot⟩ := exists_of_not_within hab
      cases (h v hv).symm.trans hnot

end ValueType

end DocumentRepository
