import DocumentRepository.Proofs.Coherent
import DocumentRepository.Proofs.Number.Order
import DocumentRepository.Value.Basic

/-! # The order of sorted values

Values stand in a row but for their numbers. Two integers are compared exactly, an integer and a double as doubles, and
a NaN ties with every number, so two numbers in order may both tie with one double. Where no double does that to two of
the numbers at hand, the order is that of places in a row: first the kind, then the place among the doubles, then what
is left to tell two integers apart, and so on through the items of lists.
-/
namespace DocumentRepository

theorem compare_eq_of_mono {i j p q : Int} (hle : i ≤ j → p ≤ q) (hge : j ≤ i → q ≤ p) (hne : compare p q ≠ .eq) :
    compare i j = compare p q := by
  cases h : compare p q with
  | lt =>
    rw [Int.compare_eq_lt] at h ⊢
    omega
  | gt =>
    rw [Int.compare_eq_gt] at h ⊢
    omega
  | eq => exact absurd h hne

namespace Double

variable {x y : Double}

theorem compare?_swap (x y : Double) : y.compare? x = (x.compare? y).map Ordering.swap := by
  unfold compare?
  rw [Bool.or_comm]
  split
  · rfl
  · exact congrArg some Std.OrientedOrd.eq_swap

theorem compare?_of_numbers (hx : x.isNaN = false) (hy : y.isNaN = false) : x.compare? y = some (compare x.rank y.rank) := by
  simp [compare?, hx, hy]

end Double

namespace Value

variable {a b c x y z : Value} {f : Double}

/-- The order of two values of one kind, lists aside. What cannot be compared counts as equal. -/
def orderInKind (a b : Value) : Ordering := (a.compare? b).getD .eq

theorem sortOrder_eq (h : (a.isList && b.isList) = false) :
    a.sortOrder b = (compare a.rank b.rank).then (a.orderInKind b) := by
  cases a <;> cases b <;> first | rfl | cases h

theorem sortOrderItems_cons (a b : Value) (as bs : List Value) :
    sortOrderItems (a :: as) (b :: bs) = (a.sortOrder b).then (sortOrderItems as bs) := by
  rw [sortOrderItems]
  cases a.sortOrder b <;> rfl

theorem orderInKind_self (a : Value) : a.orderInKind a = .eq := by
  cases a
  case bool b => cases b <;> rfl
  case int i => exact Std.ReflOrd.compare_self
  case text s => exact Std.ReflOrd.compare_self
  case float x =>
    cases hx : x.isNaN with
    | true => simp [orderInKind, compare?, Double.compare?, hx]
    | false => simp [orderInKind, compare?, Double.compare?_of_numbers hx hx]
  all_goals rfl

theorem compareBool_coherent (a b c : Bool) : Coherent (compareBool a b) (compareBool b c) (compareBool a c) := by
  cases a <;> cases b <;> cases c <;> trivial

theorem compare?_swap (a b : Value) : b.compare? a = (a.compare? b).map Ordering.swap := by
  cases a <;> cases b
  case bool.bool a b => cases a <;> cases b <;> rfl
  case int.int => exact congrArg some Std.OrientedOrd.eq_swap
  case text.text => exact congrArg some Std.OrientedOrd.eq_swap
  case int.float i x => exact Double.compare?_swap (Double.ofInt i.toInt) x
  case float.int x i => exact Double.compare?_swap x (Double.ofInt i.toInt)
  case float.float x y => exact Double.compare?_swap x y
  all_goals rfl

theorem orderInKind_swap (a b : Value) : b.orderInKind a = (a.orderInKind b).swap := by
  rw [orderInKind, orderInKind, compare?_swap]
  cases a.compare? b <;> rfl

theorem sortOrder_swap_of_not_lists (h : (a.isList && b.isList) = false) : b.sortOrder a = (a.sortOrder b).swap := by
  have h' : (b.isList && a.isList) = false := by rwa [Bool.and_comm]
  rw [sortOrder_eq h, sortOrder_eq h', Ordering.swap_then, ← orderInKind_swap, ← Std.OrientedOrd.eq_swap]

mutual

theorem sortOrder_self (a : Value) : a.sortOrder a = .eq := by
  cases a
  case list items => exact sortOrderItems_self items
  all_goals rw [sortOrder_eq rfl, orderInKind_self, Std.ReflOrd.compare_self]; rfl

theorem sortOrderItems_self (items : List Value) : sortOrderItems items items = .eq := by
  cases items
  case nil => rfl
  case cons v rest => rw [sortOrderItems_cons, sortOrder_self v, sortOrderItems_self rest]; rfl

end

mutual

theorem sortOrder_swap (a b : Value) : b.sortOrder a = (a.sortOrder b).swap := by
  cases a <;> cases b
  case list.list as bs => exact sortOrderItems_swap as bs
  all_goals exact sortOrder_swap_of_not_lists rfl

theorem sortOrderItems_swap (as bs : List Value) : sortOrderItems bs as = (sortOrderItems as bs).swap := by
  cases as <;> cases bs
  case cons.cons a as b bs =>
    rw [sortOrderItems_cons, sortOrderItems_cons, sortOrder_swap a b, sortOrderItems_swap as bs, Ordering.swap_then]
  all_goals rfl

end

def isNumber (v : Value) : Bool := v.double?.isSome

mutual

/-- The numbers in a value, at any depth of lists. Maps are not looked into, as all maps are equal in the order. -/
def numbers : Value → List Value
  | .int i => [.int i]
  | .float x => [.float x]
  | .list items => numbersOfItems items
  | _ => []

def numbersOfItems : List Value → List Value
  | [] => []
  | v :: rest => v.numbers ++ numbersOfItems rest

end

theorem numbers_of_isNumber (h : x.isNumber = true) : x.numbers = [x] := by
  cases x <;> first | rfl | cases h

theorem rank_of_isNumber (h : x.isNumber = true) : x.rank = 1 ∧ x.isList = false := by
  cases x <;> first | exact ⟨rfl, rfl⟩ | cases h

theorem sortOrder_of_numbers (hx : x.isNumber = true) (hy : y.isNumber = true) : x.sortOrder y = x.orderInKind y := by
  obtain ⟨hxrank, hxlist⟩ := rank_of_isNumber hx
  rw [sortOrder_eq (by rw [hxlist]; rfl), hxrank, (rank_of_isNumber hy).1]
  rfl

def HasPlace : Value → Prop
  | .int _ => True
  | .float x => x.isNaN = false
  | _ => False

def place : Value → Int
  | .int i => (Double.ofInt i.toInt).rank
  | .float x => x.rank
  | _ => 0

theorem hasPlace_or_nan (h : x.isNumber = true) : x.HasPlace ∨ ∃ f : Double, f.isNaN = true ∧ x = .float f := by
  cases x with
  | int i => exact Or.inl trivial
  | float f =>
    cases hf : f.isNaN with
    | true => exact Or.inr ⟨f, hf, rfl⟩
    | false => exact Or.inl hf
  | _ => cases h

theorem orderInKind_nan (hf : f.isNaN = true) (x : Value) : x.orderInKind (.float f) = .eq := by
  cases x <;> simp [orderInKind, compare?, Double.compare?, hf]

theorem orderInKind_float (hx : x.HasPlace) (hf : f.isNaN = false) : x.orderInKind (.float f) = compare x.place f.rank := by
  cases x with
  | int i => simp [orderInKind, compare?, Double.compare?_of_numbers (Double.isNaN_ofInt _) hf, place]
  | float x => simp [orderInKind, compare?, Double.compare?_of_numbers hx hf, place]
  | _ => cases hx

theorem orderInKind_nan_left (hf : f.isNaN = true) (x : Value) : orderInKind (.float f) x = .eq := by
  rw [orderInKind_swap, orderInKind_nan hf]
  rfl

/-- Of two numbers in order none is a NaN. -/
theorem hasPlace_of_ne_eq (hx : x.isNumber = true) (hz : z.isNumber = true) (h : x.orderInKind z ≠ .eq) :
    x.HasPlace ∧ z.HasPlace := by
  rcases hasPlace_or_nan hx with hxplace | ⟨f, hf, rfl⟩
  · rcases hasPlace_or_nan hz with hzplace | ⟨f, hf, rfl⟩
    · exact ⟨hxplace, hzplace⟩
    · exact absurd (orderInKind_nan hf x) h
  · exact absurd (orderInKind_nan_left hf z) h

/-- Two integers at different places among the doubles stand in the order of these. -/
theorem orderInKind_eq_place_then (hx : x.HasPlace) (hy : y.HasPlace) :
    x.orderInKind y = (compare x.place y.place).then (x.orderInKind y) := by
  refine eq_then_self fun hne => ?_
  cases y with
  | float f => exact orderInKind_float hx hy
  | int j =>
    cases x with
    | float f =>
      rw [orderInKind_swap, orderInKind_float (x := .int j) trivial hx]
      exact Std.OrientedOrd.eq_swap.symm
    | int i =>
      exact compare_eq_of_mono Double.rank_ofInt_mono Double.rank_ofInt_mono hne
    | _ => cases hx
  | _ => cases hy

end Value

/-- A double hides that one number is less than another: it is a NaN, or it is equal to both of them, two integers. -/
structure Double.Hides (f : Double) (x z : Value) : Prop where
  numbers : x.isNumber = true ∧ z.isNumber = true
  less : x.sortOrder z = .lt
  equal : f.isNaN = true ∨ ∃ i j : Int64, x = .int i ∧ z = .int j ∧
    (Double.ofInt i.toInt).equal f = true ∧ (Double.ofInt j.toInt).equal f = true

namespace Value

variable {N : Value → Prop} {a b c x y z : Value} {f : Double}

/-- No double of a set of values hides the order of two numbers of it. -/
def Clear (N : Value → Prop) : Prop := ∀ f x z, N (.float f) → N x → N z → ¬f.Hides x z

/-- A double hides the order of two numbers if it ties with both. -/
theorem hides_iff (hx : x.isNumber = true) (hz : z.isNumber = true) :
    f.Hides x z ↔ x.orderInKind (.float f) = .eq ∧ z.orderInKind (.float f) = .eq ∧ x.sortOrder z = .lt := by
  constructor
  · rintro ⟨-, hless, hnan | ⟨i, j, rfl, rfl, hi, hj⟩⟩
    · exact ⟨orderInKind_nan hnan x, orderInKind_nan hnan z, hless⟩
    · obtain ⟨-, hf, hi⟩ := Double.equal_iff.mp hi
      obtain ⟨-, -, hj⟩ := Double.equal_iff.mp hj
      refine ⟨?_, ?_, hless⟩
      · rw [orderInKind_float (x := .int i) trivial hf, Int.compare_eq_eq]
        exact hi
      · rw [orderInKind_float (x := .int j) trivial hf, Int.compare_eq_eq]
        exact hj
  · rintro ⟨hxf, hzf, hless⟩
    refine ⟨⟨hx, hz⟩, hless, ?_⟩
    cases hf : f.isNaN with
    | true => exact Or.inl rfl
    | false =>
      rw [sortOrder_of_numbers hx hz] at hless
      obtain ⟨hxplace, hzplace⟩ := hasPlace_of_ne_eq hx hz (by simp [hless])
      rw [orderInKind_float hxplace hf, Int.compare_eq_eq] at hxf
      rw [orderInKind_float hzplace hf, Int.compare_eq_eq] at hzf
      -- A double at the place of the other number would tie with it.
      cases z with
      | float g =>
        rw [orderInKind_float hxplace hzplace, Int.compare_eq_lt] at hless
        exact absurd (hxf.trans hzf.symm) hless.ne
      | int j =>
        cases x with
        | float g =>
          rw [orderInKind_swap, orderInKind_float hzplace hxplace, ← Std.OrientedOrd.eq_swap, Int.compare_eq_lt] at hless
          exact absurd (hxf.trans hzf.symm) hless.ne
        | int i =>
          exact Or.inr ⟨i, j, rfl, rfl, Double.equal_iff.mpr ⟨Double.isNaN_ofInt _, hf, hxf⟩,
            Double.equal_iff.mpr ⟨Double.isNaN_ofInt _, hf, hzf⟩⟩
        | _ => cases hx
      | _ => cases hz

/-- Numbers of a clear set that tie with a double of it tie. -/
theorem Clear.tie (hN : Clear N) (hf : N (.float f)) (hx : N x ∧ x.isNumber = true) (hz : N z ∧ z.isNumber = true)
    (hxf : x.orderInKind (.float f) = .eq) (hzf : z.orderInKind (.float f) = .eq) : x.orderInKind z = .eq := by
  cases h : x.orderInKind z with
  | eq => rfl
  | lt =>
    refine absurd ((hides_iff hx.2 hz.2).mpr ⟨hxf, hzf, ?_⟩) (hN f x z hf hx.1 hz.1)
    rw [sortOrder_of_numbers hx.2 hz.2, h]
  | gt =>
    refine absurd ((hides_iff hz.2 hx.2).mpr ⟨hzf, hxf, ?_⟩) (hN f z x hf hz.1 hx.1)
    rw [sortOrder_of_numbers hz.2 hx.2, orderInKind_swap, h]
    rfl

theorem Clear.coherent_numbers (hN : Clear N) (hx : N x ∧ x.isNumber = true) (hy : N y ∧ y.isNumber = true)
    (hz : N z ∧ z.isNumber = true) : Coherent (x.orderInKind y) (y.orderInKind z) (x.orderInKind z) := by
  by_cases htie : ∃ f, N (.float f) ∧ x.orderInKind (.float f) = .eq ∧ y.orderInKind (.float f) = .eq ∧
      z.orderInKind (.float f) = .eq
  · obtain ⟨f, hf, hxf, hyf, hzf⟩ := htie
    rw [hN.tie hf hx hy hxf hyf, hN.tie hf hy hz hyf hzf, hN.tie hf hx hz hxf hzf]
    rfl
  · -- A NaN would tie with all three, and so would a double of them if all were at one place.
    have hplace {v : Value} (hv : N v ∧ v.isNumber = true) : v.HasPlace := by
      rcases hasPlace_or_nan hv.2 with h | ⟨f, hf, rfl⟩
      · exact h
      · exact absurd ⟨f, hv.1, orderInKind_nan hf x, orderInKind_nan hf y, orderInKind_nan hf z⟩ htie
    rw [orderInKind_eq_place_then (hplace hx) (hplace hy), orderInKind_eq_place_then (hplace hy) (hplace hz),
      orderInKind_eq_place_then (hplace hx) (hplace hz)]
    refine (Coherent.of_compare x.place y.place z.place).andThen fun hxy hyz => ?_
    rw [Int.compare_eq_eq] at hxy hyz
    have hint {v : Value} (hv : N v ∧ v.isNumber = true) (h : v.place = y.place) : ∃ i, v = .int i := by
      cases v with
      | int i => exact ⟨i, rfl⟩
      | float f =>
        have hf := hplace hv
        refine absurd ⟨f, hv.1, ?_, ?_, ?_⟩ htie
        · rw [orderInKind_float (hplace hx) hf, Int.compare_eq_eq, hxy, ← h]; rfl
        · rw [orderInKind_float (hplace hy) hf, Int.compare_eq_eq, ← h]; rfl
        · rw [orderInKind_float (hplace hz) hf, Int.compare_eq_eq, ← hyz, ← h]; rfl
      | _ => cases hv.2
    obtain ⟨i, rfl⟩ := hint hx hxy
    obtain ⟨j, rfl⟩ := hint hy rfl
    obtain ⟨k, rfl⟩ := hint hz hyz.symm
    exact Coherent.of_compare i.toInt j.toInt k.toInt

theorem isNumber_iff_rank : x.isNumber = true ↔ x.rank = 1 := by
  cases x <;> simp [isNumber, double?, rank]

theorem Clear.coherent_inKind (hN : Clear N) (ha : ∀ n ∈ a.numbers, N n) (hb : ∀ n ∈ b.numbers, N n)
    (hc : ∀ n ∈ c.numbers, N n) (hab : a.rank = b.rank) (hbc : b.rank = c.rank) :
    Coherent (a.orderInKind b) (b.orderInKind c) (a.orderInKind c) := by
  have hmem {v : Value} (h : ∀ n ∈ v.numbers, N n) (hv : v.isNumber = true) : N v ∧ v.isNumber = true :=
    ⟨h v (numbers_of_isNumber hv ▸ List.mem_singleton_self v), hv⟩
  by_cases hnumber : b.isNumber = true
  · have hrank := isNumber_iff_rank.mp hnumber
    exact hN.coherent_numbers (hmem ha (isNumber_iff_rank.mpr (hab.trans hrank))) (hmem hb hnumber)
      (hmem hc (isNumber_iff_rank.mpr (hbc.symm.trans hrank)))
  · cases b with
    | int j => exact absurd rfl hnumber
    | float y => exact absurd rfl hnumber
    | text t =>
      cases a <;> cases hab
      cases c <;> cases hbc
      exact Coherent.of_compare (α := String) _ t _
    | bool q =>
      cases a <;> cases hab
      cases c <;> cases hbc
      exact compareBool_coherent _ q _
    | _ =>
      cases a <;> cases hab
      cases c <;> cases hbc
      rfl

/-- Values of different kinds stand in the order of their kinds. -/
theorem sortOrder_eq_rank_then (a b : Value) : a.sortOrder b = (compare a.rank b.rank).then (a.sortOrder b) := by
  refine eq_then_self fun hne => ?_
  have hlists : (a.isList && b.isList) = false := by
    cases a <;> cases b <;> first | rfl | exact absurd rfl hne
  rw [sortOrder_eq hlists]
  cases h : compare a.rank b.rank with
  | eq => exact absurd h hne
  | lt => rfl
  | gt => rfl

mutual

/-- On values whose numbers are of a clear set the order is that of places in a row. -/
theorem coherent_sortOrder (hN : Clear N) (a b c : Value) (ha : ∀ n ∈ a.numbers, N n) (hb : ∀ n ∈ b.numbers, N n)
    (hc : ∀ n ∈ c.numbers, N n) : Coherent (a.sortOrder b) (b.sortOrder c) (a.sortOrder c) := by
  rw [sortOrder_eq_rank_then a b, sortOrder_eq_rank_then b c, sortOrder_eq_rank_then a c]
  refine (Coherent.of_compare a.rank b.rank c.rank).andThen fun hab hbc => ?_
  rw [Nat.compare_eq_eq] at hab hbc
  cases a
  case list as =>
    cases b <;> cases hab
    cases c <;> cases hbc
    exact coherent_sortOrderItems hN as _ _ ha hb hc
  all_goals
    have hlist : b.isList = false := by cases b <;> first | rfl | cases hab
    rw [sortOrder_eq rfl, sortOrder_eq (by rw [hlist]; rfl), sortOrder_eq rfl, hab, hbc, Std.ReflOrd.compare_self]
    exact hN.coherent_inKind ha hb hc hab hbc

theorem coherent_sortOrderItems (hN : Clear N) (as bs cs : List Value) (ha : ∀ n ∈ numbersOfItems as, N n)
    (hb : ∀ n ∈ numbersOfItems bs, N n) (hc : ∀ n ∈ numbersOfItems cs, N n) :
    Coherent (sortOrderItems as bs) (sortOrderItems bs cs) (sortOrderItems as cs) := by
  cases as <;> cases bs <;> cases cs
  case cons.cons.cons a as b bs c cs =>
    simp only [numbersOfItems, List.forall_mem_append] at ha hb hc
    rw [sortOrderItems_cons, sortOrderItems_cons, sortOrderItems_cons]
    refine (coherent_sortOrder hN a b c ha.1 hb.1 hc.1).andThen fun _ _ => ?_
    exact coherent_sortOrderItems hN as bs cs ha.2 hb.2 hc.2
  case nil.cons.cons b bs c cs => cases h : sortOrderItems (b :: bs) (c :: cs) <;> trivial
  case cons.cons.nil a as b bs => cases h : sortOrderItems (a :: as) (b :: bs) <;> trivial
  all_goals trivial

end

/-- Whether a number is kept apart from all others by the order: a double that is no NaN, or an integer of 53 bits. -/
def IsExact : Value → Prop
  | .int i => i.toInt.natAbs ≤ 2 ^ 53
  | .float x => x.isNaN = false
  | _ => True

theorem clear_of_exact (h : ∀ v, N v → v.IsExact) : Clear N := by
  rintro f x z hf hx hz ⟨-, hless, hnan | ⟨i, j, rfl, rfl, hi, hj⟩⟩
  · have hnumber : f.isNaN = false := h _ hf
    exact absurd hnan (by simp [hnumber])
  · have hplaces := Double.rank_ofInt_strictMono (Int.compare_eq_lt.mp hless) (h _ hx) (h _ hz)
    rw [(Double.equal_iff.mp hi).2.2, (Double.equal_iff.mp hj).2.2] at hplaces
    exact absurd hplaces (Int.lt_irrefl _)

/-- The order of sorted values is reflexive and turns round with its arguments. On the values whose numbers are of a set
it is transitive just if no double of the set hides the order of two of its numbers; it does so on all values
without NaN and without integers of more than 53 bits. -/
theorem sortOrder_preorder_iff (N : Value → Prop) :
    (∀ a : Value, a.sortOrder a = .eq) ∧ (∀ a b : Value, b.sortOrder a = (a.sortOrder b).swap) ∧
      ((∀ a b c : Value, (∀ n ∈ a.numbers, N n) → (∀ n ∈ b.numbers, N n) → (∀ n ∈ c.numbers, N n) →
          (a.sortOrder b).isLE → (b.sortOrder c).isLE → (a.sortOrder c).isLE) ↔
        ∀ f x z, N (.float f) → N x → N z → ¬f.Hides x z) ∧
      ∀ a b c : Value, (∀ n ∈ a.numbers, n.IsExact) → (∀ n ∈ b.numbers, n.IsExact) → (∀ n ∈ c.numbers, n.IsExact) →
        (a.sortOrder b).isLE → (b.sortOrder c).isLE → (a.sortOrder c).isLE := by
  refine ⟨sortOrder_self, sortOrder_swap, ⟨?_, ?_⟩, ?_⟩
  · intro htrans f x z hf hx hz hhides
    obtain ⟨hxnum, hznum⟩ := hhides.numbers
    obtain ⟨hxf, hzf, hless⟩ := (hides_iff hxnum hznum).mp hhides
    have hone {v : Value} (hv : v.isNumber = true) (h : N v) : ∀ n ∈ v.numbers, N n := by
      rw [numbers_of_isNumber hv]
      exact List.forall_mem_singleton.mpr h
    -- The greater number is not above the double, and the double not above the less one.
    have hzx : (z.sortOrder x).isLE := by
      refine htrans z (.float f) x (hone hznum hz) (hone rfl hf) (hone hxnum hx) ?_ ?_
      · rw [sortOrder_of_numbers hznum rfl, hzf]
        rfl
      · rw [sortOrder_of_numbers rfl hxnum, orderInKind_swap, hxf]
        rfl
    rw [sortOrder_swap x z, hless] at hzx
    cases hzx
  · intro hclear a b c ha hb hc
    exact (coherent_sortOrder hclear a b c ha hb hc).isLE_trans
  · intro a b c ha hb hc
    exact (coherent_sortOrder (clear_of_exact fun _ h => h) a b c ha hb hc).isLE_trans

/-- Two integers of 54 bits are equal to one double in the order, and not to each other. -/
theorem sortOrder_not_transitive :
    ¬((∀ a : Value, a.sortOrder a = .eq) ∧ (∀ a b : Value, b.sortOrder a = (a.sortOrder b).swap) ∧
      ∀ a b c : Value, (a.sortOrder b).isLE → (b.sortOrder c).isLE → (a.sortOrder c).isLE) := by
  rintro ⟨-, -, htrans⟩
  have hle := htrans (.int 9007199254740993) (.float (Double.ofInt 9007199254740992)) (.int 9007199254740992)
    (by decide +kernel) (by decide +kernel)
  exact absurd hle (by decide +kernel)

end Value

end DocumentRepository
