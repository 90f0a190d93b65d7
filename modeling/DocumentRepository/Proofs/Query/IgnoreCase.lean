import DocumentRepository.Proofs.Query.CaselessText
import DocumentRepository.Query.Spec

/-! # Equality with and without regard to case

A term of equality compares values, and one without regard to case looks at texts only. So a text that is equal is
also found without regard to case, while a number or a truth value never is.
-/
namespace DocumentRepository
open Text Pattern

variable {spec : MethodSpec} {field : String} {T : ValueType} {v stored : Value} {s : String} {F : Filter} {d : Document}

namespace Value

/-- A value that a stored value means is a text among those stored, if it is a text. -/
theorem mem_texts_of_means (h : stored.means (.text s) = true) : s ∈ stored.texts := by
  have hequal {v : Value} (hv : v.looseEqual (.text s) = true) : v.text? = some s := by
    cases v with
    | text s' => simpa [looseEqual, equal, text?] using hv
    | _ => cases hv
  refine List.mem_filterMap.mpr ?_
  rcases Bool.or_eq_true_iff.mp h with h | h
  · exact ⟨stored, List.mem_cons_self, hequal h⟩
  · obtain ⟨item, hitem, heq⟩ := List.any_eq_true.mp (Bool.and_eq_true_iff.mp h).2
    exact ⟨item, List.mem_cons_of_mem _ hitem, hequal heq⟩

/-- Lists and maps are printed with brackets or braces. -/
theorem scalar_of_display (hv : ∀ c ∈ v.display.toList, c ∉ operators) : (∀ items, v ≠ .list items) ∧ ∀ fields, v ≠ .map fields := by
  constructor
  · rintro items rfl
    exact hv '[' (by simp [display, toJson, Json.compact]) (by decide)
  · rintro fields rfl
    exact hv '\x7b' (by simp [display, toJson, Json.compact]) (by decide)

theorem texts_eq_nil (hscalar : v.text? = none) (hnull : v.isNull = false) (hlist : ∀ items, v ≠ .list items)
    (hmap : ∀ fields, v ≠ .map fields) (hv : v.fits T = true) (hstored : stored.fits T = true) : stored.texts = [] := by
  cases v with
  | null => cases hnull
  | text s => cases hscalar
  | list items => exact absurd rfl (hlist items)
  | map fields => exact absurd rfl (hmap fields)
  | _ => cases T <;> cases hv <;> cases stored <;> first | rfl | cases hstored

end Value

namespace MethodSpec

theorem filter_equals (hterms : spec.chain.terms = [⟨field, T, .equals, false⟩]) (v : Value) :
    spec.filter [.value v] = .ok (.eq field v) := by
  rw [filter_singleton hterms rfl]
  rfl

/-- A text that is equal is also found without regard to case, whatever the type of the field. Without regard to case
null stands for the text of that name, and numbers and truth values are not found at all. -/
theorem ignoreCase_of_equals (spec spec' : MethodSpec) (hequals : spec.chain.terms = [⟨field, T, .equals, false⟩])
    (hignore : spec'.chain.terms = [⟨field, T, .equalsIgnoreCase, false⟩]) (v : Value) (hfits : v.fits T = true)
    (hv : ∀ c ∈ v.display.toList, c ∉ operators) :
    ∃ F, spec.filter [.value v] = .ok F ∧ (v.display.length ≤ Node.shortLength → ∃ G, spec'.filter [.value v] = .ok G) ∧
      ∀ G, spec'.filter [.value v] = .ok G → ∀ d, ((d.get? field).getD .null).fits T = true →
        (v.text?.isSome = true → F.holds d = true → G.holds d = true) ∧
        (v.isNull = true → (G.holds d = true ↔ ∃ text ∈ d.textsAt field, Alike text.toList "null".toList)) ∧
        (v.text? = none → v.isNull = false → G.holds d = false) := by
  have hfinds : spec'.Finds ⟨field, T, .equalsIgnoreCase, false⟩ v (Term.wholeSource v.display) Node.shortLength
      fun text => Alike text v.display.toList :=
    finds_of_node hignore rfl (Term.filterOf_ignoreCase rfl hv) Node.fits_whole_of_short fun _ => Node.occursIn_whole
  refine ⟨_, filter_equals hequals v, hfinds.compiles, fun G hG d hd => ?_⟩
  have hG' := hfinds.holds_iff rfl hG d
  refine ⟨fun htext hF => ?_, fun hnull => ?_, fun htext hnull => ?_⟩
  · obtain ⟨s, hs⟩ := Option.isSome_iff_exists.mp htext
    cases v with
    | text s' =>
      rw [Filter.holds, Filter.eqHolds_eq_means] at hF
      exact hG'.mpr ⟨s', Value.mem_texts_of_means hF, Alike.refl _⟩
    | _ => cases hs
  · cases v with
    | null => exact hG'
    | _ => cases hnull
  · obtain ⟨hlist, hmap⟩ := Value.scalar_of_display hv
    have hnone : d.textsAt field = [] := Value.texts_eq_nil htext hnull hlist hmap hfits hd
    rw [← Bool.not_eq_true, hG', hnone]
    simp

/-- A name that is equal is found, and an age that is equal is not. -/
theorem ignoreCase_of_equals_customers :
    (∃ F G, (ofParsed "countByName" (counting "name" .text .equals)).filter [.value (.text "Ann Lee")] = .ok F ∧
      (ofParsed "countByNameIgnoreCase" (counting "name" .text .equalsIgnoreCase)).filter [.value (.text "Ann Lee")] = .ok G ∧
      F.holds ⟨[("name", .text "Ann Lee")]⟩ = true ∧ G.holds ⟨[("name", .text "Ann Lee")]⟩ = true) ∧
    ∃ G, (ofParsed "countByAgeIgnoreCase" (counting "age" .int .equalsIgnoreCase)).filter [.value (.int 5)] = .ok G ∧
      G.holds ⟨[("age", .int 5)]⟩ = false := by
  obtain ⟨F, hF, hcompiles, hname⟩ := ignoreCase_of_equals (ofParsed "countByName" (counting "name" .text .equals))
    (ofParsed "countByNameIgnoreCase" (counting "name" .text .equalsIgnoreCase)) rfl rfl (.text "Ann Lee") rfl
    (List.all_iff_forall_prop.mp (by decide))
  obtain ⟨G, hG⟩ := hcompiles (by decide)
  obtain ⟨_, -, hcompiles', hage⟩ := ignoreCase_of_equals (ofParsed "countByAge" (counting "age" .int .equals))
    (ofParsed "countByAgeIgnoreCase" (counting "age" .int .equalsIgnoreCase)) rfl rfl (.int 5) rfl
    (List.all_iff_forall_prop.mp (by decide +kernel))
  obtain ⟨G', hG'⟩ := hcompiles' (by decide +kernel)
  have hequal : F.holds ⟨[("name", .text "Ann Lee")]⟩ = true := by
    obtain rfl := Except.ok.inj ((filter_equals rfl _).symm.trans hF)
    decide +kernel
  exact ⟨⟨F, G, hF, hG, hequal, (hname G hG _ (by decide +kernel)).1 rfl hequal⟩, G', hG',
    (hage G' hG' _ (by decide +kernel)).2.2 rfl rfl⟩

def countMethod (name : String) (type : ValueType) : Method where
  name := name
  params := [.value type]
  returns := .integer
  asynchronous := false
  transform := none
  sortBy := []
  limit := none
  skip := none

/-- Both terms are accepted on numbers. A number that is equal is not found without regard to case. -/
theorem ignoreCase_misses_equal_number :
    ¬∀ (schema : Schema) (m m' : Method) (spec spec' : MethodSpec) (field : String) (T : ValueType) (v stored : Value)
        (F G : Filter) (d : Document),
      compile schema m = .ok spec → compile schema m' = .ok spec' →
        spec.chain.terms = [⟨field, T, .equals, false⟩] → spec'.chain.terms = [⟨field, T, .equalsIgnoreCase, false⟩] →
        v.fits T = true → (∀ c ∈ v.display.toList, c ∉ operators) →
        spec.filter [.value v] = .ok F → spec'.filter [.value v] = .ok G →
        d.get? field = some stored → stored.fits T = true → F.holds d = true → G.holds d = true := by
  intro hall
  have hfound := hall customerSchema (countMethod "countByAge" .int) (countMethod "countByAgeIgnoreCase" .int)
    (ofParsed "countByAge" (counting "age" .int .equals))
    (ofParsed "countByAgeIgnoreCase" (counting "age" .int .equalsIgnoreCase)) "age" .int (.int 5) (.int 5)
    (.eq "age" (.int 5)) (.pattern "age" ⟨"(?i)^5$", Node.whole ['5']⟩) ⟨[("id", .int 1), ("age", .int 5)]⟩
    rfl rfl rfl rfl rfl (List.all_iff_forall_prop.mp (by decide +kernel)) rfl rfl rfl rfl (by decide +kernel)
  exact absurd hfound (by decide +kernel)

end MethodSpec
end DocumentRepository
