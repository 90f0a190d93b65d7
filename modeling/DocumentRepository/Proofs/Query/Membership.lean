import DocumentRepository.Proofs.Query.Meaning
import DocumentRepository.Value.Type

/-! # Membership and equality

A membership filter compares its members with the items of a stored list, an equality filter compares a list with the
stored list as a whole. So membership is not equality with some member where both the stored value and the members are
lists: it misses a member that is equal to the whole, and it meets one that is equal to an item.
-/
namespace DocumentRepository

def ValueType.item? : ValueType → Option ValueType
  | .list item => some item
  | _ => none

namespace Value

variable {stored v a b : Value} {vs : List Value} {type item : ValueType}

/-- Whether some of the values are equal to items of a stored list that are lists themselves, and none to another item
or to the list as a whole. -/
def isOnlyItem (stored : Value) (vs : List Value) : Bool :=
  (stored.items.any fun item => vs.any (·.looseEqual item)) && !vs.any (·.looseEqual stored) &&
    stored.items.all fun item => item.isList || !vs.any (·.looseEqual item)

theorem isList_eq_of_looseEqual (h : a.looseEqual b = true) : a.isList = b.isList := by
  cases a <;> cases b <;> first | rfl | cases h

theorem isAmong_iff : stored.isAmong vs = true ↔
    ∃ v ∈ vs, v.looseEqual stored = true ∨ ∃ item ∈ stored.items, v.looseEqual item = true := by
  simp only [isAmong, List.any_eq_true, Bool.or_eq_true]

theorem means_iff : stored.means v = true ↔
    v.looseEqual stored = true ∨ v.isList = false ∧ ∃ item ∈ stored.items, v.looseEqual item = true := by
  simp only [means, Bool.or_eq_true, Bool.and_eq_true, Bool.not_eq_true', List.any_eq_true, looseEqual_comm v]

theorem isAmong_of_means (hv : v ∈ vs) (h : stored.means v = true) : stored.isAmong vs = true :=
  isAmong_iff.mpr ⟨v, hv, (means_iff.mp h).imp_right And.right⟩

/-- What is among the values as an item only is what no single one of them means. -/
theorem isOnlyItem_iff : stored.isOnlyItem vs = true ↔ stored.isAmong vs = true ∧ ¬∃ v ∈ vs, stored.means v = true := by
  have hparts : stored.isOnlyItem vs = true ↔ (∃ item ∈ stored.items, ∃ v ∈ vs, v.looseEqual item = true) ∧
      (¬∃ v ∈ vs, v.looseEqual stored = true) ∧
        ∀ item ∈ stored.items, item.isList = true ∨ ¬∃ v ∈ vs, v.looseEqual item = true := by
    simp only [isOnlyItem, Bool.and_eq_true, Bool.not_eq_true', Bool.eq_false_iff, List.any_eq_true, List.all_eq_true,
      Bool.or_eq_true, ne_eq, and_assoc]
  rw [hparts]
  constructor
  · rintro ⟨⟨item, hitem, v, hv, hequal⟩, hwhole, hlists⟩
    refine ⟨isAmong_iff.mpr ⟨v, hv, .inr ⟨item, hitem, hequal⟩⟩, ?_⟩
    rintro ⟨w, hw, hmeans⟩
    rcases means_iff.mp hmeans with hequal | ⟨hlist, item, hitem, hequal⟩
    · exact hwhole ⟨w, hw, hequal⟩
    · rcases hlists item hitem with hitemlist | hnone
      · cases (hlist.symm.trans (isList_eq_of_looseEqual hequal)).trans hitemlist
      · exact hnone ⟨w, hw, hequal⟩
  · rintro ⟨hamong, hmeans⟩
    have hwhole : ¬∃ v ∈ vs, v.looseEqual stored = true := by
      rintro ⟨v, hv, hequal⟩
      exact hmeans ⟨v, hv, means_iff.mpr (.inl hequal)⟩
    obtain ⟨v, hv, hequal | ⟨item, hitem, hequal⟩⟩ := isAmong_iff.mp hamong
    · exact absurd ⟨v, hv, hequal⟩ hwhole
    · refine ⟨⟨item, hitem, v, hv, hequal⟩, hwhole, fun item hitem => ?_⟩
      cases hlist : item.isList with
      | true => exact .inl rfl
      | false =>
        refine .inr ?_
        rintro ⟨w, hw, hequal⟩
        exact hmeans ⟨w, hw, means_iff.mpr (.inr ⟨(isList_eq_of_looseEqual hequal).trans hlist, item, hitem, hequal⟩)⟩

example : (Value.list [.list []]).isOnlyItem [.list []] = true := rfl

/-- What is among the values as a whole only is what one of them means. -/
theorem exists_means_of_isOnlyWhole (h : stored.isOnlyWhole vs = true) : ∃ v ∈ vs, stored.means v = true := by
  simp only [isOnlyWhole, Bool.and_eq_true, List.any_eq_true] at h
  obtain ⟨⟨-, v, hv, hequal⟩, -⟩ := h
  exact ⟨v, hv, means_iff.mpr (.inl hequal)⟩

/-- The items of a value are of the type of the items, and there are none where the type is that of no list. -/
theorem fits_of_mem_items (h : stored.fits type = true) (hv : v ∈ stored.items) :
    ∃ item, type.item? = some item ∧ v.fits item = true := by
  cases stored with
  | list items =>
    cases type with
    | list item =>
      simp only [fits, fitsItems_eq_all, List.all_eq_true] at h
      exact ⟨item, rfl, h v hv⟩
    | _ => cases h
  | _ => cases hv

theorem isList_of_fits (h : v.fits type = true) (htype : type.item? = none) : v.isList = false := by
  cases v with
  | list items => cases type <;> first | cases h | cases htype
  | _ => rfl

theorem isOnlyWhole_of_fits (h : stored.fits type = true) (htype : type.item? = none) : stored.isOnlyWhole vs = false := by
  rw [isOnlyWhole, isList_of_fits h htype, Bool.false_and, Bool.false_and]

/-- Only the items of lists of lists are lists. -/
theorem isOnlyItem_of_fits (h : stored.fits type = true) (htype : ∀ item, type.item? = some item → item.item? = none) :
    stored.isOnlyItem vs = false := by
  have hitems : ∀ v ∈ stored.items, v.isList = false := by
    intro v hv
    obtain ⟨item, hitem, hv⟩ := fits_of_mem_items h hv
    exact isList_of_fits hv (htype item hitem)
  rw [Bool.eq_false_iff]
  intro honly
  obtain ⟨hamong, hmeans⟩ := isOnlyItem_iff.mp honly
  obtain ⟨v, hv, hequal | ⟨item, hitem, hequal⟩⟩ := isAmong_iff.mp hamong
  · exact hmeans ⟨v, hv, means_iff.mpr (.inl hequal)⟩
  · have hlist : v.isList = false := (isList_eq_of_looseEqual hequal).trans (hitems item hitem)
    exact hmeans ⟨v, hv, means_iff.mpr (.inr ⟨hlist, item, hitem, hequal⟩)⟩

end Value

namespace Filter

variable {field : String} {vs : List Value} {d : Document} {type : ValueType}

/-- Membership says of a document that it is equal to some member, and non-membership that it is equal to none. -/
def MembershipIsEquality (field : String) (vs : List Value) (d : Document) : Prop :=
  ((isIn field vs).holds d = true ↔ ∃ v ∈ vs, (eq field v).holds d = true) ∧
    ((notIn field vs).holds d = true ↔ ¬∃ v ∈ vs, (eq field v).holds d = true)

theorem membershipIsEquality_iff : MembershipIsEquality field vs d ↔
    ((d.get? field).getD .null).isOnlyWhole vs = false ∧ ((d.get? field).getD .null).isOnlyItem vs = false := by
  simp only [MembershipIsEquality, holds, eqHolds_eq_means, inHolds_eq_isAmong, Bool.not_eq_true']
  generalize (d.get? field).getD .null = stored
  by_cases hmeans : ∃ v ∈ vs, stored.means v = true
  · obtain ⟨v, hv, hm⟩ := id hmeans
    have honly : stored.isOnlyItem vs = false := Bool.eq_false_iff.mpr fun h => (Value.isOnlyItem_iff.mp h).2 hmeans
    simp [hmeans, honly, Value.isAmong_of_means hv hm]
  · have hwhole : stored.isOnlyWhole vs = false := Bool.eq_false_iff.mpr (mt Value.exists_means_of_isOnlyWhole hmeans)
    have honly : stored.isOnlyItem vs = stored.isAmong vs := by
      rw [Bool.eq_iff_iff, Value.isOnlyItem_iff]
      exact and_iff_left hmeans
    simp [hmeans, hwhole, honly]

/-- Membership is equality with some member on the fields that hold no lists. On a list it fails just where it is equal to
a member as a whole only, or where items that are lists are equal to members only; those are in lists of lists. -/
theorem membership_is_equality_iff (type : ValueType) :
    ((∀ (field : String) (vs : List Value) (d : Document), (∀ v ∈ vs, v.fits type = true) →
        (∀ v, d.get? field = some v → v.fits type = true) → MembershipIsEquality field vs d) ↔ type.item? = none) ∧
      ∀ (field : String) (vs : List Value) (d : Document), (∀ v, d.get? field = some v → v.fits type = true) →
        (MembershipIsEquality field vs d ↔
          ((d.get? field).getD .null).isOnlyWhole vs = false ∧ ((d.get? field).getD .null).isOnlyItem vs = false) ∧
        ((∀ item, type.item? = some item → item.item? = none) → ((d.get? field).getD .null).isOnlyItem vs = false) := by
  have hstored {field : String} {d : Document} (hd : ∀ v, d.get? field = some v → v.fits type = true) :
      ((d.get? field).getD .null).fits type = true := by
    cases hfound : d.get? field with
    | none => rfl
    | some v => exact hd v hfound
  refine ⟨⟨fun hall => ?_, fun htype field vs d _ hd => ?_⟩, fun field vs d hd => ⟨membershipIsEquality_iff, ?_⟩⟩
  · cases type with
    | list item =>
      -- The empty list is equal to a stored empty list, which has no items.
      have hempty : (Value.list []).fits (.list item) = true := rfl
      have hmisses := hall "lines" [.list []] ⟨[("lines", .list [])]⟩ (List.forall_mem_singleton.mpr hempty) ?_
      · exact absurd (membershipIsEquality_iff.mp hmisses).1 (by decide +kernel)
      · intro v hv
        cases hv
        exact hempty
    | _ => rfl
  · refine membershipIsEquality_iff.mpr ⟨Value.isOnlyWhole_of_fits (hstored hd) htype, ?_⟩
    exact Value.isOnlyItem_of_fits (hstored hd) fun item hitem => by cases htype.symm.trans hitem
  · exact Value.isOnlyItem_of_fits (hstored hd)

/-- The lines of an order are a member of the given lists, and no item of them is. -/
theorem membership_misses_whole_list :
    ¬∀ (type : ValueType) (field : String) (vs : List Value) (d : Document), (∀ v ∈ vs, v.fits type = true) →
      (∀ v, d.get? field = some v → v.fits type = true) →
        ((isIn field vs).holds d = true ↔ ∃ v ∈ vs, (eq field v).holds d = true) ∧
          ((notIn field vs).holds d = true ↔ ¬∃ v ∈ vs, (eq field v).holds d = true) := by
  intro hall
  have hlines : (Value.list [.int 1, .int 2]).fits (.list .int) = true := rfl
  obtain ⟨hin, -⟩ := hall (.list .int) "lines" [.list [.int 1, .int 2]] ⟨[("lines", .list [.int 1, .int 2])]⟩
    (List.forall_mem_singleton.mpr hlines) fun v hv => by cases hv; exact hlines
  exact absurd (hin.mpr ⟨_, List.mem_singleton_self _, by decide +kernel⟩) (by decide +kernel)

end Filter

end DocumentRepository
