import DocumentRepository.Proofs.Pattern.Room
import DocumentRepository.Proofs.Query.Meaning

/-! # Texts without regard to case

The argument of `Contains` and of `IgnoreCase` is printed into a pattern. As long as it has no operators of patterns,
the filter says of the texts at a field that a part of one, or one as a whole, agrees with it but for case. Lists are
searched for texts among their items.
-/
namespace DocumentRepository
open Text Pattern

variable {spec : MethodSpec} {t : Term} {v : Value} {s : Term.Site} {source : String} {limit : Nat} {node : Node}
  {F : Filter} {meets : List Char → Prop}

/-- The texts at a field: a stored text, or the texts among the items of a stored list. -/
def Value.texts (stored : Value) : List String := (stored :: stored.items).filterMap Value.text?

def Document.textsAt (d : Document) (field : String) : List String := ((d.get? field).getD .null).texts

theorem Filter.holds_pattern (d : Document) (field : String) (p : Pattern) :
    (Filter.pattern field p).holds d = (d.textsAt field).any p.occursIn := by
  rw [holds, patternHolds_eq_isMatchedBy, Document.textsAt]
  cases d.get? field with
  | none => rfl
  | some stored => exact List.any_filterMap.symm

namespace Term

def nodeFilter (t : Term) (s : Site) (source : String) (node : Node) : Except RepositoryError Filter :=
  if node.fits then .ok (.pattern t.field ⟨source, node⟩) else .error (.invalidPattern s.method source)

theorem filterOf_contains (hop : t.operator = .contains) (hv : ∀ c ∈ v.display.toList, c ∉ operators) :
    t.filterOf s [.value v] = t.nodeFilter s (partSource v.display) (Node.part v.display.toList) := by
  have hone : t.filterOf s [.value v] =
      (readPattern s true (partSource v.display) >>= fun p => pure (.pattern t.field p)) := by
    simp only [filterOf, filterOfOne, hop]
    rfl
  rw [hone, readPattern, if_pos rfl, readCaseless?, readNode?_partSource hv, nodeFilter]
  split_ifs <;> rfl

theorem filterOf_ignoreCase (hop : t.operator = .equalsIgnoreCase) (hv : ∀ c ∈ v.display.toList, c ∉ operators) :
    t.filterOf s [.value v] = t.nodeFilter s (wholeSource v.display) (Node.whole v.display.toList) := by
  have hone : t.filterOf s [.value v] =
      (readPattern s false (wholeSource v.display) >>= fun p => pure (.pattern t.field p)) := by
    simp only [filterOf, filterOfOne, hop]
    rfl
  rw [hone, readPattern, if_neg Bool.false_ne_true, read?, readNode?_wholeSource hv, nodeFilter]
  split_ifs <;> rfl

end Term

namespace MethodSpec

structure Finds (spec : MethodSpec) (t : Term) (v : Value) (source : String) (limit : Nat) (meets : List Char → Prop) :
    Prop where
  /-- There is a filter, unless the argument is long. -/
  compiles : v.display.length ≤ limit → ∃ F, spec.filter [.value v] = .ok F
  /-- Without a filter, the error names the pattern. -/
  refuses : ∀ e, spec.filter [.value v] = .error e → e = .invalidPattern spec.method source
  /-- The filter holds of a document just if some text at the field meets a condition; a negated one, if none does. -/
  finds : ∀ F, spec.filter [.value v] = .ok F →
    ∀ d, F.holds d = true ↔ (t.negated = false ↔ ∃ text ∈ d.textsAt t.field, meets text.toList)

theorem Finds.holds_iff (h : spec.Finds t v source limit meets) (hnegated : t.negated = false)
    (hF : spec.filter [.value v] = .ok F) (d : Document) :
    F.holds d = true ↔ ∃ text ∈ d.textsAt t.field, meets text.toList := by
  rw [h.finds F hF d, hnegated]
  simp

theorem finds_of_node (hterms : spec.chain.terms = [t]) (harity : t.operator.arity = 1)
    (hfilter : t.filterOf ⟨spec.method, 0⟩ [.value v] = t.nodeFilter ⟨spec.method, 0⟩ source node)
    (hfits : v.display.toList.length ≤ limit → node.fits = true)
    (hmeets : ∀ text, node.occursIn text = true ↔ meets text) : spec.Finds t v source limit meets := by
  have hspec : spec.filter [.value v] =
      (t.nodeFilter ⟨spec.method, 0⟩ source node).map (Filter.negateIf t.negated) := by
    rw [filter_singleton hterms (by rw [harity]; rfl), hfilter]
  rw [Term.nodeFilter] at hspec
  constructor
  case compiles =>
    intro hlen
    rw [hspec, if_pos (hfits hlen)]
    exact ⟨_, rfl⟩
  case refuses =>
    intro e he
    rw [hspec] at he
    split_ifs at he
    · cases he
    · cases he
      rfl
  case finds =>
    intro F hF d
    rw [hspec] at hF
    split_ifs at hF
    · cases hF
      have hfound : (d.textsAt t.field).any (Pattern.occursIn ⟨source, node⟩) = true ↔
          ∃ text ∈ d.textsAt t.field, meets text.toList := by
        simp only [List.any_eq_true, Pattern.occursIn, hmeets]
      rw [Filter.holds_negateIf, Filter.holds_pattern, ← hfound]
      cases t.negated <;> simp
    · cases hF

/-- `Contains` finds the texts that have a part which agrees with the argument but for case, and `IgnoreCase` the
texts that agree with it as a whole. -/
theorem caseless_terms_find_texts (spec : MethodSpec) (hterms : spec.chain.terms = [t]) (v : Value)
    (hv : ∀ c ∈ v.display.toList, IsPlain c) :
    (t.operator = .contains → spec.Finds t v (Term.partSource v.display) Node.plainLength
      fun text => ∃ found, found <:+: text ∧ Alike found v.display.toList) ∧
    (t.operator = .equalsIgnoreCase → spec.Finds t v (Term.wholeSource v.display) Node.plainLength
      fun text => Alike text v.display.toList) := by
  have hnone : ∀ c ∈ v.display.toList, c ∉ operators := fun c hc => (hv c hc).notMem_operators
  constructor
  · intro hop
    exact finds_of_node hterms (by rw [hop]; rfl) (Term.filterOf_contains hop hnone) (Node.fits_part hv)
      fun _ => Node.occursIn_part
  · intro hop
    exact finds_of_node hterms (by rw [hop]; rfl) (Term.filterOf_ignoreCase hop hnone) (Node.fits_whole hv)
      fun _ => Node.occursIn_whole

end MethodSpec

def customerSchema : Schema where
  entity := "Customer"
  collection := "customers"
  fields := [⟨"id", .int, true, false, false⟩, ⟨"name", .text, false, false, false⟩, ⟨"age", .int, false, false, false⟩,
    ⟨"notes", .list .text, false, false, false⟩]
  id := ⟨"id", .int, true, false, false⟩
  indexes := []
  dropsEntities := false
  dropsIndexes := false
  keys_nodup := by decide +kernel
  id_mem := List.mem_cons_self

def counting (field : String) (type : ValueType) (operator : FilterOperator) : ParsedName :=
  ⟨.count, none, ⟨.and, [⟨field, type, operator, false⟩]⟩⟩

/-- A name is searched across its lines, and of some notes each is looked at as a whole. The Kelvin sign is a `k`. -/
theorem MethodSpec.caseless_terms_find_texts_customers :
    MethodName.parse customerSchema "countByNameContains" = .ok (counting "name" .text .contains) ∧
      MethodName.parse customerSchema "countByNotesIgn" = .ok (counting "notes" (.list .text) .equalsIgnoreCase) ∧
      (∃ F, (ofParsed "countByNameContains" (counting "name" .text .contains)).filter [.value (.text "o b")] = .ok F ∧
        F.holds ⟨[("name", .text "the\nfoO Bar")]⟩ = true ∧ F.holds ⟨[("name", .null)]⟩ = false) ∧
      ∃ F, (ofParsed "countByNotesIgn" (counting "notes" (.list .text) .equalsIgnoreCase)).filter [.value (.text "k1")] =
          .ok F ∧
        F.holds ⟨[("notes", .list [.int 2, .text "\u212A1"])]⟩ = true ∧
        F.holds ⟨[("notes", .list [.text "k1\n"])]⟩ = false := by
  have hname := (caseless_terms_find_texts (ofParsed "countByNameContains" (counting "name" .text .contains)) rfl (.text "o b")
    (List.all_iff_forall_prop.mp (by decide))).1 rfl
  have hnotes := (caseless_terms_find_texts (ofParsed "countByNotesIgn" (counting "notes" (.list .text) .equalsIgnoreCase)) rfl
    (.text "k1") (List.all_iff_forall_prop.mp (by decide))).2 rfl
  obtain ⟨F, hF⟩ := hname.compiles (by decide +kernel)
  obtain ⟨G, hG⟩ := hnotes.compiles (by decide +kernel)
  have hnameHolds := hname.holds_iff rfl hF
  have hnotesHolds := hnotes.holds_iff rfl hG
  refine ⟨rfl, rfl, ⟨F, hF, ?_, ?_⟩, G, hG, ?_, ?_⟩
  · exact (hnameHolds _).mpr ⟨_, List.mem_cons_self, "O B".toList, by decide +kernel, by decide +kernel⟩
  · rw [← Bool.not_eq_true, hnameHolds]
    rintro ⟨text, htext, -⟩
    exact absurd htext List.not_mem_nil
  · exact (hnotesHolds _).mpr (by decide +kernel)
  · rw [← Bool.not_eq_true, hnotesHolds]
    decide +kernel

end DocumentRepository
