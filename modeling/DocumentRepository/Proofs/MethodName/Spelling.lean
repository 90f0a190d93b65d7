import DocumentRepository.MethodName.Chain

/-! # How a term is spelled

A segment spells a term if it is the token of a field, then perhaps `Not`, then perhaps a keyword. A segment
is read just if it spells some term, and what is read is one of the terms that it spells: the keywords are
tried one after another, and none that is tried in vain hides a later one.
-/
namespace DocumentRepository.MethodName

open Text (dropBack? dropBack?_eq_some_iff)

def negation (negated : Bool) : String := if negated then "Not" else ""

structure Spelling where
  token : String
  field : Field
  negated : Bool
  keyword : String
  operator : FilterOperator

namespace Spelling

/-- What follows the token. -/
def ending (w : Spelling) : String := negation w.negated ++ w.keyword

def text (w : Spelling) : String := w.token ++ w.ending

def term (w : Spelling) : Term := ⟨w.field.name, w.field.type, w.operator, w.negated⟩

/-- The token is not empty and names the field, and the keyword is one of the operator, or none for an equality. -/
structure Valid (schema : Schema) (w : Spelling) : Prop where
  token_ne : w.token ≠ ""
  field_eq : schema.field? w.token = some w.field
  keyword_mem : (w.keyword, w.operator) ∈ ("", .equals) :: FilterOperator.keywords

theorem toList_text (w : Spelling) : w.text.toList = w.token.toList ++ w.ending.toList := String.toList_append

theorem Valid.toList_token_ne {schema : Schema} {w : Spelling} (h : w.Valid schema) : w.token.toList ≠ [] :=
  fun hnil => h.token_ne (String.toList_eq_nil_iff.mp hnil)

theorem Valid.toList_text_ne {schema : Schema} {w : Spelling} (h : w.Valid schema) : w.text.toList ≠ [] := by
  rw [toList_text]
  exact List.append_ne_nil_of_left_ne_nil h.toList_token_ne _

end Spelling

variable {schema : Schema} {operator : FilterOperator} {front segment : List Char} {t : Term}

/-- What is read is the token itself, or the token before `Not`. -/
theorem readField?_eq_some (h : readField? schema operator front = some t) :
    ∃ token f negated, token ≠ "" ∧ schema.field? token = some f ∧
      front = token.toList ++ (negation negated).toList ∧ t = ⟨f.name, f.type, operator, negated⟩ := by
  unfold readField? at h
  split at h
  · cases h
  · rename_i hne
    split at h
    · rename_i f hf
      cases h
      refine ⟨String.ofList front, f, false, ?_, hf, by simp [negation], rfl⟩
      rintro hnil
      exact hne (by simpa using hnil)
    · split at h
      · rename_i c cs hback
        obtain ⟨f, hf, rfl⟩ := Option.map_eq_some_iff.mp h
        exact ⟨String.ofList (c :: cs), f, true, by simp, hf, by simpa [negation] using dropBack?_eq_some_iff.mp hback, rfl⟩
      · cases h

theorem isSome_readField? {token : String} {f : Field} (hne : token ≠ "") (hf : schema.field? token = some f)
    (negated : Bool) : (readField? schema operator (token.toList ++ (negation negated).toList)).isSome = true := by
  have hlist : token.toList ≠ [] := fun hnil => hne (String.toList_eq_nil_iff.mp hnil)
  obtain ⟨c, cs, hcs⟩ := List.exists_cons_of_ne_nil hlist
  have hfield : schema.field? (String.ofList (c :: cs)) = some f := by rw [← hcs, String.ofList_toList, hf]
  unfold readField?
  cases negated with
  | false =>
    have hplain : token.toList ++ (negation false).toList = c :: cs := by rw [hcs]; exact List.append_nil _
    rw [hplain, if_neg (by simp), hfield]
    rfl
  | true =>
    have hback : dropBack? "Not".toList (c :: cs ++ "Not".toList) = some (c :: cs) := dropBack?_eq_some_iff.mpr rfl
    have hnegated : (negation true).toList = "Not".toList := rfl
    rw [hcs, hnegated, if_neg (by simp)]
    split
    · rfl
    · rw [hback]
      change ((schema.field? (String.ofList (c :: cs))).map _).isSome = true
      rw [hfield]
      rfl

theorem readTerm?_eq_some (h : readTerm? schema segment = some t) :
    ∃ w : Spelling, w.Valid schema ∧ w.text.toList = segment ∧ w.term = t := by
  unfold readTerm? at h
  split at h
  · rename_i term hfound
    cases h
    obtain ⟨⟨keyword, operator⟩, hmem, hread⟩ := List.exists_of_findSome?_eq_some hfound
    obtain ⟨front, hfront, hread⟩ := Option.bind_eq_some_iff.mp hread
    obtain ⟨token, f, negated, hne, hf, rfl, rfl⟩ := readField?_eq_some hread
    refine ⟨⟨token, f, negated, keyword, operator⟩, ⟨hne, hf, List.mem_cons_of_mem _ hmem⟩, ?_, rfl⟩
    rw [dropBack?_eq_some_iff.mp hfront]
    simp [Spelling.text, Spelling.ending]
  · obtain ⟨token, f, negated, hne, hf, rfl, rfl⟩ := readField?_eq_some h
    exact ⟨⟨token, f, negated, "", .equals⟩, ⟨hne, hf, List.mem_cons_self⟩, by simp [Spelling.text, Spelling.ending], rfl⟩

def readWith? (schema : Schema) (segment : List Char) (entry : String × FilterOperator) : Option Term :=
  (dropBack? entry.1.toList segment).bind (readField? schema entry.2)

theorem readTerm?_eq (schema : Schema) (segment : List Char) :
    readTerm? schema segment =
      (FilterOperator.keywords.findSome? (readWith? schema segment)).or (readField? schema .equals segment) := by
  unfold readTerm?
  split
  · rename_i term hfound
    have hread : FilterOperator.keywords.findSome? (readWith? schema segment) = some term := hfound
    rw [hread, Option.some_or]
  · rename_i hfound
    have hread : FilterOperator.keywords.findSome? (readWith? schema segment) = none := hfound
    rw [hread, Option.none_or]

theorem isSome_readWith? {w : Spelling} (hw : w.Valid schema) :
    (readWith? schema w.text.toList (w.keyword, w.operator)).isSome = true := by
  have hback : dropBack? w.keyword.toList w.text.toList =
      some (w.token.toList ++ (negation w.negated).toList) :=
    dropBack?_eq_some_iff.mpr (by simp [Spelling.text, Spelling.ending])
  rw [readWith?, hback]
  exact isSome_readField? hw.token_ne hw.field_eq w.negated

theorem isSome_readTerm? {w : Spelling} (hw : w.Valid schema) : (readTerm? schema w.text.toList).isSome = true := by
  rw [readTerm?_eq, Option.isSome_or, Bool.or_eq_true]
  have hread := isSome_readWith? hw
  rcases List.mem_cons.mp hw.keyword_mem with hequals | hmem
  · right
    obtain ⟨hkeyword, hoperator⟩ := Prod.mk.inj hequals
    simpa [readWith?, hkeyword, hoperator, dropBack?_eq_some_iff.mpr (List.append_nil w.text.toList).symm] using hread
  · exact Or.inl (List.findSome?_isSome_iff.mpr ⟨_, hmem, hread⟩)

theorem readTerm?_eq_none_iff :
    readTerm? schema segment = none ↔ ¬∃ w : Spelling, w.Valid schema ∧ w.text.toList = segment := by
  constructor
  · rintro h ⟨w, hw, rfl⟩
    have := isSome_readTerm? hw
    rw [h] at this
    cases this
  · intro h
    cases hread : readTerm? schema segment with
    | none => rfl
    | some t =>
      obtain ⟨w, hw, htext, -⟩ := readTerm?_eq_some hread
      exact absurd ⟨w, hw, htext⟩ h

variable {method : String}

theorem readTerm_eq_ok_iff : readTerm schema method segment = .ok t ↔ readTerm? schema segment = some t := by
  unfold readTerm
  by_cases hempty : segment = []
  · have hnone : readTerm? schema segment = none :=
      readTerm?_eq_none_iff.mpr fun ⟨w, hw, htext⟩ => hw.toList_text_ne (htext.trans hempty)
    rw [hnone]
    simp [hempty]
  · rw [if_neg (by simpa using hempty)]
    cases readTerm? schema segment <;> simp

theorem readTerm_eq_error_iff {e : NameError} :
    readTerm schema method segment = .error e ↔
      (¬∃ w : Spelling, w.Valid schema ∧ w.text.toList = segment) ∧
        e = if segment = [] then .emptySegment method "" else .unknownField method (String.ofList segment) schema.entity := by
  rw [← readTerm?_eq_none_iff]
  unfold readTerm
  by_cases hempty : segment = []
  · have hnone : readTerm? schema segment = none :=
      readTerm?_eq_none_iff.mpr fun ⟨w, hw, htext⟩ => hw.toList_text_ne (htext.trans hempty)
    rw [hnone]
    simp [hempty, eq_comm]
  · rw [if_neg (by simpa using hempty), if_neg hempty]
    cases readTerm? schema segment <;> simp [eq_comm]

end DocumentRepository.MethodName
