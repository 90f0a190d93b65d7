import DocumentRepository.Document

/-! # Values through JSON

JSON has no numbers beside the finite ones, so a double that is none becomes null on the way through it, wherever it
stands in lists and maps. All else comes back as it went in: an integer as an integer, also beside doubles that are
whole, items in their order and entries under their names.
-/
namespace DocumentRepository

/-- The integer of a signed word is in the range of signed words. -/
theorem word?_toInt (i : Int64) : word? i.toInt = some i := by
  rw [word?, if_pos ⟨Int64.le_toInt i, Int64.toInt_le i⟩, Int64.ofInt_toInt]

namespace Value

mutual

/-- The value with null in the place of every double that is infinite or a NaN. -/
def nullNonFinite : Value → Value
  | .float x => if x.isFinite then .float x else .null
  | .list items => .list (nullNonFiniteItems items)
  | .map fields => .map (nullNonFiniteFields fields)
  | v => v

def nullNonFiniteItems : List Value → List Value
  | [] => []
  | v :: rest => nullNonFinite v :: nullNonFiniteItems rest

def nullNonFiniteFields : List (String × Value) → List (String × Value)
  | [] => []
  | (k, v) :: rest => (k, nullNonFinite v) :: nullNonFiniteFields rest

end

mutual

def isFinite : Value → Bool
  | .float x => x.isFinite
  | .list items => itemsAreFinite items
  | .map fields => fieldsAreFinite fields
  | _ => true

def itemsAreFinite : List Value → Bool
  | [] => true
  | v :: rest => v.isFinite && itemsAreFinite rest

def fieldsAreFinite : List (String × Value) → Bool
  | [] => true
  | (_, v) :: rest => v.isFinite && fieldsAreFinite rest

end

mutual

theorem ofJson_toJson (v : Value) : ofJson v.toJson = v.nullNonFinite := by
  cases v with
  | int i => simp [toJson, ofJson, word?_toInt, nullNonFinite]
  | float x =>
    rw [toJson, nullNonFinite]
    split <;> rfl
  | list items => rw [toJson, ofJson, nullNonFinite, ofJsonItems_toJsonItems]
  | map fields => rw [toJson, ofJson, nullNonFinite, ofJsonFields_toJsonFields]
  | _ => rfl

theorem ofJsonItems_toJsonItems (items : List Value) : ofJsonItems (toJsonItems items) = nullNonFiniteItems items := by
  cases items with
  | nil => rfl
  | cons v rest => rw [toJsonItems, ofJsonItems, nullNonFiniteItems, ofJson_toJson v, ofJsonItems_toJsonItems rest]

theorem ofJsonFields_toJsonFields (fields : List (String × Value)) :
    ofJsonFields (toJsonFields fields) = nullNonFiniteFields fields := by
  cases fields with
  | nil => rfl
  | cons entry rest =>
    rw [toJsonFields, ofJsonFields, nullNonFiniteFields, ofJson_toJson entry.2, ofJsonFields_toJsonFields rest]

end

mutual

/-- What is left of a value is finite. -/
theorem isFinite_nullNonFinite (v : Value) : v.nullNonFinite.isFinite = true := by
  cases v with
  | float x =>
    rw [nullNonFinite]
    split
    · assumption
    · rfl
  | list items => rw [nullNonFinite, isFinite, itemsAreFinite_nullNonFiniteItems]
  | map fields => rw [nullNonFinite, isFinite, fieldsAreFinite_nullNonFiniteFields]
  | _ => rfl

theorem itemsAreFinite_nullNonFiniteItems (items : List Value) : itemsAreFinite (nullNonFiniteItems items) = true := by
  cases items with
  | nil => rfl
  | cons v rest =>
    rw [nullNonFiniteItems, itemsAreFinite, isFinite_nullNonFinite v, itemsAreFinite_nullNonFiniteItems rest, Bool.and_self]

theorem fieldsAreFinite_nullNonFiniteFields (fields : List (String × Value)) :
    fieldsAreFinite (nullNonFiniteFields fields) = true := by
  cases fields with
  | nil => rfl
  | cons entry rest =>
    rw [nullNonFiniteFields, fieldsAreFinite, isFinite_nullNonFinite entry.2, fieldsAreFinite_nullNonFiniteFields rest,
      Bool.and_self]

end

mutual

theorem nullNonFinite_eq_self {v : Value} (h : v.isFinite = true) : v.nullNonFinite = v := by
  cases v with
  | float x =>
    rw [nullNonFinite]
    exact if_pos h
  | list items => rw [nullNonFinite, nullNonFiniteItems_eq_self h]
  | map fields => rw [nullNonFinite, nullNonFiniteFields_eq_self h]
  | _ => rfl

theorem nullNonFiniteItems_eq_self {items : List Value} (h : itemsAreFinite items = true) :
    nullNonFiniteItems items = items := by
  cases items with
  | nil => rfl
  | cons v rest =>
    obtain ⟨hv, hrest⟩ := Bool.and_eq_true_iff.mp h
    rw [nullNonFiniteItems, nullNonFinite_eq_self hv, nullNonFiniteItems_eq_self hrest]

theorem nullNonFiniteFields_eq_self {fields : List (String × Value)} (h : fieldsAreFinite fields = true) :
    nullNonFiniteFields fields = fields := by
  cases fields with
  | nil => rfl
  | cons entry rest =>
    obtain ⟨hv, hrest⟩ := Bool.and_eq_true_iff.mp h
    rw [nullNonFiniteFields, nullNonFinite_eq_self hv, nullNonFiniteFields_eq_self hrest]

end

theorem nullNonFinite_eq_self_iff {v : Value} : v.nullNonFinite = v ↔ v.isFinite = true :=
  ⟨fun h => h ▸ isFinite_nullNonFinite v, nullNonFinite_eq_self⟩

end Value

theorem Document.ofEntity_eq_ok_iff {entity : Json} {d : Document} :
    Document.ofEntity entity = .ok d ↔ Value.ofJson entity = d.toValue := by
  rw [Document.ofEntity, Document.toValue]
  cases Value.ofJson entity with
  | map fields =>
    obtain ⟨found⟩ := d
    simp
  | _ => simp

/-- A value comes back from JSON with null for each of its doubles that is not finite and with nothing else changed. So
it comes back as it was just if it has no such double, and a second time through changes nothing. A document is made of
it just if it comes back as a map, and then it is made of that map, also when the value that came back is the entity. -/
theorem Value.through_json (v : Value) :
    ofJson v.toJson = v.nullNonFinite ∧ (ofJson v.toJson = v ↔ v.isFinite = true) ∧
      ofJson (ofJson v.toJson).toJson = ofJson v.toJson ∧
      ∀ d : Document, (Document.ofEntity v.toJson = .ok d ↔ ofJson v.toJson = d.toValue) ∧
        (Document.ofEntity (ofJson v.toJson).toJson = .ok d ↔ ofJson v.toJson = d.toValue) := by
  have hagain : ofJson (ofJson v.toJson).toJson = ofJson v.toJson := by
    rw [ofJson_toJson v, ofJson_toJson, nullNonFinite_eq_self (isFinite_nullNonFinite v)]
  refine ⟨ofJson_toJson v, ?_, hagain, fun d => ⟨Document.ofEntity_eq_ok_iff, ?_⟩⟩
  · rw [ofJson_toJson, nullNonFinite_eq_self_iff]
  · rw [Document.ofEntity_eq_ok_iff, hagain]

/-- A whole double stays a double beside an integer, and a NaN in a list is null afterwards. -/
example : Value.ofJson (Value.toJson (.map [("a", .int 2), ("b", .float (Double.ofInt 2)), ("c", .list [.float .nan, .int 2])])) =
    .map [("a", .int 2), ("b", .float (Double.ofInt 2)), ("c", .list [.null, .int 2])] := by rfl

end DocumentRepository
