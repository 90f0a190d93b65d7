import DocumentRepository.Proofs.Query.Slice
import DocumentRepository.Proofs.Value.Equality

/-! # What a chain of terms means

A term of a method name says something about the value of a document at its field and about its
own arguments. The filter of a call says the same of every document, term by term, with one
exception: the filter of `In` looks at the items of a stored list only, so it misses a member
that is equal to the list as a whole.
-/
namespace DocumentRepository

namespace Value

def items : Value → List Value
  | .list vs => vs
  | _ => []

/-- Whether a stored value is equal to another or, if only the stored one is a list, has an item that is. -/
def means (stored v : Value) : Bool := stored.looseEqual v || (!v.isList && stored.items.any (·.looseEqual v))

/-- Whether one of some values is equal to a stored value or to an item of it. -/
def isAmong (stored : Value) (vs : List Value) : Bool :=
  vs.any fun v => v.looseEqual stored || stored.items.any fun item => v.looseEqual item

def isInOrder (stored v : Value) (order : Ordering → Bool) : Bool := (stored.compare? v).any order

/-- Whether a pattern matches a stored text, or a text among the items of a stored list. -/
def isMatchedBy (stored : Value) (p : Pattern) : Bool :=
  (stored :: stored.items).any fun v => v.text?.any p.occursIn

/-- Whether one of some values is equal to a stored list as a whole, and none to an item of it. -/
def isOnlyWhole (stored : Value) (vs : List Value) : Bool :=
  stored.isList && vs.any (·.looseEqual stored) && !stored.items.any fun item => vs.any (·.looseEqual item)

end Value

namespace Term

def patternOf? (operator : FilterOperator) (arg : Argument) : Option Pattern :=
  match operator, arg with
  | .regex, .pattern p => some p
  | .regex, .value (.text source) => Pattern.read? source
  | .equalsIgnoreCase, .value v => Pattern.read? ("(?i)^" ++ v.display ++ "$")
  | .contains, .value v => Pattern.readCaseless? (".*" ++ v.display ++ ".*")
  | _, _ => none

/-- What a term says of a document, its negation left aside. -/
def meaning (t : Term) (own : List Argument) (d : Document) : Bool :=
  match t.operator, own with
  | .equals, [.value v] => ((d.get? t.field).getD .null).means v
  | .equalsIgnoreCase, [arg] => (patternOf? .equalsIgnoreCase arg).any fun p => (d.get? t.field).any (·.isMatchedBy p)
  | .contains, [arg] => (patternOf? .contains arg).any fun p => (d.get? t.field).any (·.isMatchedBy p)
  | .regex, [arg] => (patternOf? .regex arg).any fun p => (d.get? t.field).any (·.isMatchedBy p)
  | .greaterThan, [.value v] => (d.get? t.field).any (·.isInOrder v Ordering.isGT)
  | .lessThan, [.value v] => (d.get? t.field).any (·.isInOrder v Ordering.isLT)
  | .greaterEquals, [.value v] => (d.get? t.field).any (·.isInOrder v Ordering.isGE)
  | .lessEquals, [.value v] => (d.get? t.field).any (·.isInOrder v Ordering.isLE)
  | .between, [.value low, .value high] =>
    (d.get? t.field).any (·.isInOrder low Ordering.isGT) && (d.get? t.field).any (·.isInOrder high Ordering.isLT)
  | .betweenEquals, [.value low, .value high] =>
    (d.get? t.field).any (·.isInOrder low Ordering.isGE) && (d.get? t.field).any (·.isInOrder high Ordering.isLE)
  | .exists, [] => (d.get? t.field).isSome
  | .in, [.value (.list vs)] => ((d.get? t.field).getD .null).isAmong vs
  | .notIn, [.value (.list vs)] => !((d.get? t.field).getD .null).isAmong vs
  | .hasKey, [.value key] => (d.get? (t.field ++ "." ++ key.display)).isSome
  | _, _ => false

/-- Whether a membership term meets a stored list that is a member only as a whole. -/
def isBlind (t : Term) (own : List Argument) (d : Document) : Bool :=
  match t.operator, own with
  | .in, [.value (.list vs)] => ((d.get? t.field).getD .null).isOnlyWhole vs
  | .notIn, [.value (.list vs)] => ((d.get? t.field).getD .null).isOnlyWhole vs
  | _, _ => false

end Term

def Combinator.join : Combinator → List Bool → Bool
  | .and, truths => truths.all id
  | .or, truths => truths.any id

@[simp] theorem Combinator.join_singleton (combinator : Combinator) (truth : Bool) : combinator.join [truth] = truth := by
  cases combinator <;> simp [join]

namespace Chain

/-- The terms, each with its own arguments: as many as its operator wants, behind those of all terms before it. -/
def readings (c : Chain) (args : List Argument) : List (Term × List Argument) :=
  List.ofFn fun k : Fin c.terms.length => (c.terms[k], Term.ownPart c.terms args k k.isLt)

def meaning (c : Chain) (args : List Argument) (d : Document) : Bool :=
  c.combinator.join ((c.readings args).map fun (t, own) => t.negated ^^ t.meaning own d)

end Chain

namespace Filter

variable {found : Option Value} {v : Value} {vs : List Value} {p : Pattern}

theorem eqHolds_eq_means : eqHolds found v = (found.getD .null).means v := by
  cases found with
  | none => simp [eqHolds, Value.means, Value.items, Value.looseEqual_comm .null v, Value.looseEqual_null]
  | some stored =>
    cases stored with
    | list items =>
      cases v with
      | list ws => simp [eqHolds, Value.means, Value.isList]
      | _ => simp [eqHolds, Value.means, Value.items, Value.isList, Value.looseEqual, Value.equal]
    | _ => simp [eqHolds, Value.means, Value.items]

theorem compareHolds_eq_isInOrder {op : Comparison} : compareHolds found op v = found.any (·.isInOrder v op.holds) := by
  cases found with
  | none => rfl
  | some stored => cases h : stored.compare? v <;> simp [compareHolds, Value.isInOrder, h]

theorem patternHolds_eq_isMatchedBy : patternHolds found p = found.any (·.isMatchedBy p) := by
  cases found with
  | none => rfl
  | some stored =>
    cases stored with
    | list items =>
      have hitems : (items.filterMap Value.text?).any p.occursIn = items.any fun v => v.text?.any p.occursIn := by
        rw [List.any_filterMap]
        refine congrArg items.any (funext fun v => ?_)
        cases v.text? <;> rfl
      have hlist : (Value.list items).text?.any p.occursIn = false := rfl
      simp only [patternHolds, Option.any_some, Value.isMatchedBy, Value.items, List.any_cons, hlist, hitems, Bool.false_or]
    | _ => simp [patternHolds, Value.isMatchedBy, Value.items, Value.text?]

/-- The filter of a membership term differs from the term's meaning exactly where it is blind. -/
theorem inHolds_eq_isAmong :
    inHolds found vs = ((found.getD .null).isAmong vs ^^ (found.getD .null).isOnlyWhole vs) := by
  cases found with
  | none => simp [inHolds, Value.isAmong, Value.isOnlyWhole, Value.items, Value.isList, Value.looseEqual_null]
  | some stored =>
    cases stored with
    | list items =>
      have hsplit : (Value.list items).isAmong vs =
          (vs.any (·.looseEqual (.list items)) || items.any fun item => vs.any (·.looseEqual item)) := by
        rw [Bool.eq_iff_iff]
        simp only [Value.isAmong, Value.items, List.any_eq_true, Bool.or_eq_true]
        constructor
        · rintro ⟨v, hv, hw | ⟨item, hi, he⟩⟩
          · exact Or.inl ⟨v, hv, hw⟩
          · exact Or.inr ⟨item, hi, v, hv, he⟩
        · rintro (⟨v, hv, hw⟩ | ⟨item, hi, v, hv, he⟩)
          · exact ⟨v, hv, Or.inl hw⟩
          · exact ⟨v, hv, Or.inr ⟨item, hi, he⟩⟩
      have hwhole : (Value.list items).isOnlyWhole vs =
          (vs.any (·.looseEqual (.list items)) && !items.any fun item => vs.any (·.looseEqual item)) := by
        simp [Value.isOnlyWhole, Value.isList, Value.items]
      simp only [Option.getD_some, hsplit, hwhole, inHolds]
      cases vs.any (·.looseEqual (.list items)) <;>
        cases items.any fun item => vs.any (·.looseEqual item) <;> rfl
    | _ => simp [inHolds, Value.isAmong, Value.isOnlyWhole, Value.items, Value.isList]

end Filter

namespace Term

variable {t : Term} {s : Site} {nth : Nat} {arg : Argument} {own : List Argument} {op : Comparison} {f : Filter}
  {v : Value} {vs : List Value} {p : Pattern} {source : String}

theorem valueArg_eq_ok_iff : t.valueArg s nth arg = .ok v ↔ arg = .value v := by
  cases arg <;> simp [valueArg]

theorem compareArg_eq_ok (h : t.compareArg s op nth arg = .ok f) : ∃ v, arg = .value v ∧ f = .compare t.field op v := by
  obtain ⟨v, hv, h⟩ := bind_eq_ok_iff.mp h
  cases h
  exact ⟨v, valueArg_eq_ok_iff.mp hv, rfl⟩

theorem listArg_eq_ok (h : t.listArg s arg = .ok vs) : arg = .value (.list vs) := by
  obtain ⟨v, hv, h⟩ := bind_eq_ok_iff.mp h
  cases v with
  | list items => cases h; exact valueArg_eq_ok_iff.mp hv
  | _ => cases h

theorem readPattern_eq_ok {caseless : Bool} (h : readPattern s caseless source = .ok p) :
    (if caseless then Pattern.readCaseless? source else Pattern.read? source) = some p := by
  unfold readPattern at h
  split at h
  · rename_i q hq
    cases h
    exact hq
  · cases h

theorem patternArg_eq_ok (h : patternArg s arg = .ok p) : patternOf? .regex arg = some p := by
  unfold patternArg at h
  split at h
  · cases h; rfl
  · exact readPattern_eq_ok h
  · cases h

theorem holds_eq_means (h : (do return Filter.eq t.field (← t.valueArg s 0 arg)) = .ok f) (d : Document) :
    ∃ v, arg = .value v ∧ f.holds d = ((d.get? t.field).getD .null).means v := by
  obtain ⟨v, hv, h⟩ := bind_eq_ok_iff.mp h
  cases h
  exact ⟨v, valueArg_eq_ok_iff.mp hv, Filter.eqHolds_eq_means⟩

theorem holds_compareArg (h : t.compareArg s op nth arg = .ok f) (d : Document) :
    ∃ v, arg = .value v ∧ f.holds d = (d.get? t.field).any (·.isInOrder v op.holds) := by
  obtain ⟨v, hv, rfl⟩ := compareArg_eq_ok h
  exact ⟨v, hv, Filter.compareHolds_eq_isInOrder⟩

theorem holds_filterOfOne (hone : t.operator.arity = 1) (h : t.filterOfOne s arg = .ok f) (d : Document) :
    f.holds d = (t.meaning [arg] d ^^ t.isBlind [arg] d) := by
  unfold filterOfOne at h
  cases hop : t.operator <;> simp only [hop] at h hone
  case «exists» | between | betweenEquals => cases hone
  case equals =>
    obtain ⟨v, rfl, hf⟩ := holds_eq_means h d
    simp [hf, meaning, isBlind, hop]
  case equalsIgnoreCase =>
    obtain ⟨v, hv, h⟩ := bind_eq_ok_iff.mp h
    obtain ⟨p, hp, h⟩ := bind_eq_ok_iff.mp h
    cases h
    obtain rfl := valueArg_eq_ok_iff.mp hv
    have hpattern : patternOf? .equalsIgnoreCase (.value v) = some p := readPattern_eq_ok hp
    simp [Filter.holds, Filter.patternHolds_eq_isMatchedBy, meaning, isBlind, hop, hpattern]
  case contains =>
    obtain ⟨v, hv, h⟩ := bind_eq_ok_iff.mp h
    obtain ⟨p, hp, h⟩ := bind_eq_ok_iff.mp h
    cases h
    obtain rfl := valueArg_eq_ok_iff.mp hv
    have hpattern : patternOf? .contains (.value v) = some p := readPattern_eq_ok hp
    simp [Filter.holds, Filter.patternHolds_eq_isMatchedBy, meaning, isBlind, hop, hpattern]
  case regex =>
    obtain ⟨p, hp, h⟩ := bind_eq_ok_iff.mp h
    cases h
    simp [Filter.holds, Filter.patternHolds_eq_isMatchedBy, meaning, isBlind, hop, patternArg_eq_ok hp]
  case greaterThan | lessThan | greaterEquals | lessEquals =>
    obtain ⟨v, rfl, hf⟩ := holds_compareArg h d
    simp only [hf, meaning, isBlind, hop, Bool.xor_false]
    rfl
  case «in» | notIn =>
    obtain ⟨vs, hvs, h⟩ := bind_eq_ok_iff.mp h
    cases h
    obtain rfl := listArg_eq_ok hvs
    simp [Filter.holds, Filter.inHolds_eq_isAmong, meaning, isBlind, hop]
  case hasKey =>
    obtain ⟨v, hv, h⟩ := bind_eq_ok_iff.mp h
    cases h
    obtain rfl := valueArg_eq_ok_iff.mp hv
    simp [Filter.holds, meaning, isBlind, hop]

theorem holds_filterOfTwo {low high : Comparison} {a b : Argument} (h : t.filterOfTwo s low high a b = .ok f)
    (d : Document) :
    ∃ u v, a = .value u ∧ b = .value v ∧
      f.holds d = ((d.get? t.field).any (·.isInOrder u low.holds) && (d.get? t.field).any (·.isInOrder v high.holds)) := by
  obtain ⟨g, hg, h⟩ := bind_eq_ok_iff.mp h
  obtain ⟨g', hg', h⟩ := bind_eq_ok_iff.mp h
  cases h
  obtain ⟨u, rfl, hu⟩ := holds_compareArg hg d
  obtain ⟨v, rfl, hv⟩ := holds_compareArg hg' d
  exact ⟨u, v, rfl, rfl, by simp [Filter.holds, Filter.allHold, hu, hv]⟩

/-- The filter of a term says what the term means, except where a membership term is blind. -/
theorem holds_filterOf (hlen : own.length = t.operator.arity) (h : t.filterOf s own = .ok f) (d : Document) :
    f.holds d = (t.meaning own d ^^ t.isBlind own d) := by
  unfold filterOf at h
  split at h
  · rename_i hop
    rw [hop] at hlen
    obtain rfl := List.length_eq_zero_iff.mp hlen
    cases h
    simp [Filter.holds, meaning, isBlind, hop]
  · rename_i a b hop
    obtain ⟨u, v, rfl, rfl, hf⟩ := holds_filterOfTwo h d
    simp only [hf, meaning, isBlind, hop, Bool.xor_false]
    rfl
  · rename_i a b hop
    obtain ⟨u, v, rfl, rfl, hf⟩ := holds_filterOfTwo h d
    simp only [hf, meaning, isBlind, hop, Bool.xor_false]
    rfl
  · exact holds_filterOfOne hlen.symm h d
  · cases h

end Term

variable {schema : Schema} {name : String} {p : ParsedName} {spec : MethodSpec} {args : List Argument}
  {fs : List Filter} {F : Filter}

theorem Filter.holds_joined (combinator : Combinator) (hne : fs ≠ []) (d : Document) :
    (Filter.joined combinator fs).holds d = combinator.join (fs.map (·.holds d)) := by
  cases fs with
  | nil => exact absurd rfl hne
  | cons f rest =>
    cases rest with
    | nil => simp [joined]
    | cons g rest =>
      cases combinator with
      | and => simp [joined, holds, allHold_eq_all, Combinator.join]
      | or => simp [joined, holds, someHolds_eq_any, Combinator.join]

theorem MethodSpec.filter_eq_ok_iff :
    spec.filter args = .ok F ↔
      spec.chain.arity ≤ args.length ∧
        ∃ fs, termFilters spec.method 0 spec.chain.terms args = .ok fs ∧ F = Filter.joined spec.chain.combinator fs := by
  unfold MethodSpec.filter
  by_cases hfew : args.length < spec.chain.arity
  · simp [hfew, Nat.not_le.mpr hfew]
  · rw [if_neg hfew, bind_eq_ok_iff]
    constructor
    · rintro ⟨fs, hfs, h⟩
      cases h
      exact ⟨Nat.le_of_not_lt hfew, fs, hfs, rfl⟩
    · rintro ⟨-, fs, hfs, rfl⟩
      exact ⟨fs, hfs, rfl⟩

theorem Chain.map_holds_termFilters {c : Chain} {method : String} (hargs : c.arity ≤ args.length)
    (h : termFilters method 0 c.terms args = .ok fs) (d : Document) :
    fs.map (·.holds d) = (c.readings args).map fun (t, own) => t.negated ^^ (t.meaning own d ^^ t.isBlind own d) := by
  obtain ⟨hlen, hall⟩ := termFilters_eq_ok h
  refine List.ext_getElem (by simp [readings, hlen]) ?_
  intro k hk hk'
  rw [List.length_map] at hk
  obtain ⟨f, hf, hfk⟩ := hall k (hlen ▸ hk) hk
  have hholds := Term.holds_filterOf (Term.length_ownPart c hargs (hlen ▸ hk)) hf d
  simp [readings, hfk, Filter.holds_negateIf, hholds]

namespace MethodName

theorem cutSegments_ne_nil (token : List Char) (k : Nat) (cs : List Char) : cutSegments token k cs ≠ [] := by
  fun_induction cutSegments token k cs with
  | case1 => simp
  | case2 k c cs ih => exact ih
  | case3 => simp
  | case4 => exact Text.consHead_ne_nil _ _

theorem terms_ne_nil (h : parse schema name = .ok p) : p.chain.terms ≠ [] := by
  unfold parse at h
  split at h
  · cases h
  · split at h
    · cases h
    · rename_i combinator _
      obtain ⟨terms, hterms, h⟩ := bind_eq_ok_iff.mp h
      cases h
      have hlen := (mapM_eq_ok_iff.mp hterms).length_eq
      intro hnil
      rw [show terms = [] from hnil, List.length_nil, List.length_eq_zero_iff] at hlen
      exact cutSegments_ne_nil _ _ _ hlen

end MethodName

/-- The filter of a call says of every document what the chain of the method's name means, term by
term on its own arguments, except that a membership term is turned round where it is blind. -/
theorem MethodSpec.filter_says_meaning (hp : MethodName.parse schema name = .ok p) (hspec : spec.chain = p.chain)
    (hF : spec.filter args = .ok F) (d : Document) :
    F.holds d = p.chain.combinator.join
        ((p.chain.readings args).map fun (t, own) => t.negated ^^ (t.meaning own d ^^ t.isBlind own d)) ∧
      ((∀ r ∈ p.chain.readings args, r.1.isBlind r.2 d = false) → F.holds d = p.chain.meaning args d) ∧
      ∀ t own, p.chain.readings args = [(t, own)] → (F.holds d = p.chain.meaning args d ↔ t.isBlind own d = false) := by
  obtain ⟨hargs, fs, hfs, rfl⟩ := filter_eq_ok_iff.mp hF
  rw [hspec] at hargs hfs
  have hne : fs ≠ [] := by
    intro hnil
    have hlen := (termFilters_eq_ok hfs).1
    rw [hnil, List.length_nil] at hlen
    exact MethodName.terms_ne_nil hp (List.length_eq_zero_iff.mp hlen.symm)
  have hholds : (Filter.joined spec.chain.combinator fs).holds d = p.chain.combinator.join
      ((p.chain.readings args).map fun (t, own) => t.negated ^^ (t.meaning own d ^^ t.isBlind own d)) := by
    rw [hspec, Filter.holds_joined _ hne, Chain.map_holds_termFilters hargs hfs]
  refine ⟨hholds, ?_, ?_⟩
  · intro hsees
    rw [hholds, Chain.meaning]
    refine congrArg _ (List.map_congr_left fun r hr => ?_)
    simp [hsees r hr]
  · intro t own hone
    rw [hholds, Chain.meaning, hone, List.map_singleton, List.map_singleton, Combinator.join_singleton,
      Combinator.join_singleton]
    have hturned : ∀ negated meant blind : Bool, (negated ^^ (meant ^^ blind)) = (negated ^^ meant) ↔ blind = false := by
      decide
    exact hturned _ _ _

def orderSchema : Schema where
  entity := "Order"
  collection := "orders"
  fields := [⟨"id", .int, true, false, false⟩, ⟨"amount", .int, false, false, false⟩,
    ⟨"lines", .list .int, false, false, false⟩]
  id := ⟨"id", .int, true, false, false⟩
  indexes := []
  dropsEntities := false
  dropsIndexes := false
  keys_nodup := by decide +kernel
  id_mem := List.mem_cons_self

def amountOrLines : ParsedName :=
  ⟨.count, none, ⟨.or, [⟨"amount", .int, .between, true⟩, ⟨"lines", .list .int, .in, false⟩]⟩⟩

/-- The filter of `countByAmountNotBetweenOrLinesIn` with the bounds one and nine and the lists `[3]` and `[4]`. -/
def amountOrLinesFilter : Filter :=
  .or [.not (.and [.compare "amount" .greater (.int 1), .compare "amount" .less (.int 9)]),
    .isIn "lines" [.list [.int 3], .list [.int 4]]]

/-- The bounds belong to the first term and the list behind them to the second. -/
theorem MethodSpec.filter_says_meaning_orders :
    MethodName.parse orderSchema "countByAmountNotBetweenOrLinesIn" = .ok amountOrLines ∧
      (MethodSpec.ofParsed "countByAmountNotBetweenOrLinesIn" amountOrLines).filter
          [.value (.int 1), .value (.int 9), .value (.list [.list [.int 3], .list [.int 4]])] = .ok amountOrLinesFilter ∧
      amountOrLinesFilter.holds ⟨[("amount", .int 12), ("lines", .list [.int 1, .int 2])]⟩ =
        amountOrLines.chain.meaning
          [.value (.int 1), .value (.int 9), .value (.list [.list [.int 3], .list [.int 4]])]
          ⟨[("amount", .int 12), ("lines", .list [.int 1, .int 2])]⟩ := by
  have hp : MethodName.parse orderSchema "countByAmountNotBetweenOrLinesIn" = .ok amountOrLines := rfl
  have hF : (MethodSpec.ofParsed "countByAmountNotBetweenOrLinesIn" amountOrLines).filter
      [.value (.int 1), .value (.int 9), .value (.list [.list [.int 3], .list [.int 4]])] = .ok amountOrLinesFilter := rfl
  exact ⟨hp, hF, (filter_says_meaning hp rfl hF _).2.1 (by decide +kernel)⟩

def linesIn : ParsedName := ⟨.count, none, ⟨.and, [⟨"lines", .list .int, .in, false⟩]⟩⟩

/-- The lines of an order may be a member of the given lists, and the filter does not see it. -/
theorem MethodSpec.filter_misses_whole_list :
    ¬∀ (schema : Schema) (name : String) (p : ParsedName) (args : List Argument) (F : Filter) (d : Document),
        MethodName.parse schema name = .ok p → (ofParsed name p).filter args = .ok F →
          F.holds d = p.chain.meaning args d := by
  intro h
  have hholds := h orderSchema "countByLinesIn" linesIn [.value (.list [.list [.int 1, .int 2]])]
    (.isIn "lines" [.list [.int 1, .int 2]]) ⟨[("id", .int 1), ("lines", .list [.int 1, .int 2])]⟩ rfl rfl
  have hmissed : Filter.holds ⟨[("id", .int 1), ("lines", .list [.int 1, .int 2])]⟩
      (.isIn "lines" [.list [.int 1, .int 2]]) = false := by decide +kernel
  have hmeant : linesIn.chain.meaning [.value (.list [.list [.int 1, .int 2]])]
      ⟨[("id", .int 1), ("lines", .list [.int 1, .int 2])]⟩ = true := by decide +kernel
  rw [hmissed, hmeant] at hholds
  cases hholds

end DocumentRepository
