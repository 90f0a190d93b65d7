import DocumentRepository.Proofs.MethodName.Grammar
import DocumentRepository.Proofs.Query.Accepted

/-! # The filter part of a method

What a method filters by depends on the text behind its prefix alone. Its own name shows in the errors only, and
arguments behind those of the terms are left aside. So methods that differ in their prefixes have one chain, and on
the same arguments one filter, or errors that differ in nothing but the name of the method.
-/
namespace DocumentRepository

def RepositoryError.ofMethod (method : String) : RepositoryError → RepositoryError
  | .parameterCount _ expected actual => .parameterCount method expected actual
  | .unsupported _ contract => .unsupported method contract
  | .invalidArgument _ index expected actual => .invalidArgument method index expected actual
  | .invalidRegexArgument _ index actual => .invalidRegexArgument method index actual
  | .invalidPattern _ pattern => .invalidPattern method pattern
  | .unknownField _ field => .unknownField method field
  | e => e

namespace Term

variable {t : Term} {s : Site} {method : String} {nth : Nat} {arg a b : Argument} {own : List Argument}

theorem valueArg_ofMethod : t.valueArg ⟨method, s.index⟩ nth arg = (t.valueArg s nth arg).mapError (.ofMethod method) := by
  cases arg <;> rfl

theorem compareArg_ofMethod {op : Comparison} :
    t.compareArg ⟨method, s.index⟩ op nth arg = (t.compareArg s op nth arg).mapError (.ofMethod method) := by
  rw [compareArg, compareArg, mapError_bind, valueArg_ofMethod]
  rfl

theorem listArg_ofMethod : t.listArg ⟨method, s.index⟩ arg = (t.listArg s arg).mapError (.ofMethod method) := by
  rw [listArg, listArg, mapError_bind, valueArg_ofMethod]
  refine bind_congr fun v => ?_
  cases v <;> rfl

theorem readPattern_ofMethod {caseless : Bool} {source : String} :
    readPattern ⟨method, s.index⟩ caseless source = (readPattern s caseless source).mapError (.ofMethod method) := by
  unfold readPattern
  split <;> rfl

theorem patternArg_ofMethod : patternArg ⟨method, s.index⟩ arg = (patternArg s arg).mapError (.ofMethod method) := by
  cases arg with
  | value v =>
    cases v with
    | text source => exact readPattern_ofMethod
    | _ => rfl
  | _ => rfl

theorem filterOfOne_ofMethod : t.filterOfOne ⟨method, s.index⟩ arg = (t.filterOfOne s arg).mapError (.ofMethod method) := by
  unfold filterOfOne
  cases t.operator <;>
    simp only [compareArg_ofMethod, valueArg_ofMethod, listArg_ofMethod, patternArg_ofMethod, readPattern_ofMethod,
      mapError_bind] <;>
    rfl

theorem filterOfTwo_ofMethod {low high : Comparison} :
    t.filterOfTwo ⟨method, s.index⟩ low high a b = (t.filterOfTwo s low high a b).mapError (.ofMethod method) := by
  simp only [filterOfTwo, compareArg_ofMethod, mapError_bind]
  rfl

theorem filterOf_ofMethod (t : Term) (s : Site) (method : String) (own : List Argument) :
    t.filterOf ⟨method, s.index⟩ own = (t.filterOf s own).mapError (.ofMethod method) := by
  unfold filterOf
  split
  · rfl
  · exact filterOfTwo_ofMethod
  · exact filterOfTwo_ofMethod
  · exact filterOfOne_ofMethod
  · rfl

end Term

section Filters

variable {method method' : String} {index : Nat} {terms : List Term} {args extra : List Argument}

theorem termFilters_ofMethod :
    termFilters method' index terms args = (termFilters method index terms args).mapError (.ofMethod method') := by
  induction terms generalizing index args with
  | nil => rfl
  | cons t rest ih =>
    have hfirst := t.filterOf_ofMethod ⟨method, index⟩ method' (args.take t.operator.arity)
    simp only [termFilters, mapError_bind, ← hfirst, ← ih]
    rfl

theorem termFilters_append (hargs : terms.foldr (fun t n => t.operator.arity + n) 0 ≤ args.length) :
    termFilters method index terms (args ++ extra) = termFilters method index terms args := by
  induction terms generalizing index args with
  | nil => rfl
  | cons t rest ih =>
    rw [List.foldr_cons] at hargs
    have hfirst : t.operator.arity ≤ args.length := by omega
    have hrest : rest.foldr (fun t n => t.operator.arity + n) 0 ≤ (args.drop t.operator.arity).length := by
      rw [List.length_drop]
      omega
    rw [termFilters, termFilters, List.take_append_of_le_length hfirst, List.drop_append_of_le_length hfirst, ih hrest]

end Filters

namespace MethodSpec

variable {spec other : MethodSpec} {args extra : List Argument}

theorem filter_eq_map (hargs : spec.chain.arity ≤ args.length) :
    spec.filter args = (termFilters spec.method 0 spec.chain.terms args).map (Filter.joined spec.chain.combinator) := by
  unfold MethodSpec.filter
  rw [if_neg (Nat.not_lt.mpr hargs)]
  cases termFilters spec.method 0 spec.chain.terms args <;> rfl

/-- What stands behind the arguments of the terms does not matter. -/
theorem filter_append (hargs : spec.chain.arity ≤ args.length) : spec.filter (args ++ extra) = spec.filter args := by
  have hmore : spec.chain.arity ≤ (args ++ extra).length := by
    rw [List.length_append]
    omega
  rw [filter_eq_map hmore, filter_eq_map hargs, termFilters_append hargs]

/-- Methods with one chain have one filter, or fail alike. -/
theorem filter_ofMethod (hchain : other.chain = spec.chain) (hargs : spec.chain.arity ≤ args.length) :
    other.filter args = (spec.filter args).mapError (.ofMethod other.method) := by
  rw [filter_eq_map hargs, filter_eq_map (hchain ▸ hargs), hchain, termFilters_ofMethod]
  cases termFilters spec.method 0 spec.chain.terms args <;> rfl

end MethodSpec

namespace MethodName

variable {schema : Schema} {name name' : String} {p q : OperationPrefix} {rest : List Char} {parsed parsed' : ParsedName}

theorem parse_eq_ok (hp : splitOperation? name.toList = some (p, rest)) (h : parse schema name = .ok parsed) :
    combinatorOf? rest = some parsed.chain.combinator ∧
      List.Forall₂ (fun s t => readTerm? schema s = some t)
        (cutSegments parsed.chain.combinator.token.toList 0 rest) parsed.chain.terms := by
  unfold parse at h
  rw [hp] at h
  dsimp only at h
  split at h
  · cases h
  · rename_i c hc
    obtain ⟨terms, hterms, h⟩ := bind_eq_ok_iff.mp h
    cases h
    exact ⟨hc, (mapM_eq_ok_iff.mp hterms).imp fun _ _ => readTerm_eq_ok_iff.mp⟩

/-- The chain is that of the text behind the prefix. -/
theorem chain_eq_of_rest (hp : splitOperation? name.toList = some (p, rest)) (hq : splitOperation? name'.toList = some (q, rest))
    (h : parse schema name = .ok parsed) (h' : parse schema name' = .ok parsed') : parsed.chain = parsed'.chain := by
  obtain ⟨hcombinator, hterms⟩ := parse_eq_ok hp h
  obtain ⟨hcombinator', hterms'⟩ := parse_eq_ok hq h'
  obtain ⟨_, _, combinator, terms⟩ := parsed
  obtain ⟨_, _, combinator', terms'⟩ := parsed'
  obtain rfl : combinator = combinator' := Option.some.inj (hcombinator.symm.trans hcombinator')
  have hsame : terms = terms' := by
    -- Both read the segments of one text, and reading a segment does not ask for the prefix.
    refine List.ext_getElem (hterms.length_eq.symm.trans hterms'.length_eq) fun i hi hi' => ?_
    have hsegment : i < (cutSegments combinator.token.toList 0 rest).length := by
      rw [hterms.length_eq]
      exact hi
    exact Option.some.inj ((hterms.get hsegment hi).symm.trans (hterms'.get hsegment hi'))
  rw [hsame]

end MethodName

/-- A method on a filter part: behind the parameters of the filter it takes the directive that its operation needs. -/
structure Variant (schema : Schema) (part : String) (params : List ParamType) (text : String) (m : Method) (spec : MethodSpec) :
    Prop where
  params_filter : ∀ type ∈ params, type.isDirective = false
  name_eq : m.effectiveName = text ++ part
  params_eq : m.params = params ++ ((MethodSpec.requiredDirective spec.operation).map Prod.fst).toList
  compiled : MethodSpec.compile schema m = .ok spec

namespace MethodSpec

variable {m : Method} {params : List ParamType} {operation : Operation} {arity : Nat} {trailing : Option Trailing}

theorem trailing_of_requiredDirective {type : ParamType} {directive : Trailing}
    (hrequired : requiredDirective operation = some (type, directive)) (h : checkCount m operation arity = .ok trailing) :
    trailing = some directive := by
  unfold checkCount at h
  extract_lets last sorts expected at h
  split at h
  · cases h
  · simp only [hrequired] at h
    split at h
    · exact (Except.ok.inj h).symm
    · cases h

/-- Behind parameters of a filter there is no directive but that of the operation. -/
theorem checkCount_of_required (hparams : ∀ type ∈ params, type.isDirective = false)
    (hm : m.params = params ++ ((requiredDirective operation).map Prod.fst).toList)
    (h : checkCount m operation arity = .ok trailing) :
    trailing = (requiredDirective operation).map Prod.snd ∧ arity = params.length := by
  have htrailing : trailing = (requiredDirective operation).map Prod.snd := by
    cases hrequired : requiredDirective operation with
    | some required => exact trailing_of_requiredDirective hrequired h
    | none =>
      have hlast : (m.params.getLast?.map ParamType.isDirective).getD false = false := by
        rw [hm, hrequired, Option.map_none, Option.toList_none, List.append_nil]
        cases hend : params.getLast? with
        | none => rfl
        | some type => exact hparams type (List.mem_of_getLast? hend)
      unfold checkCount at h
      extract_lets last sorts expected at h
      split at h
      · cases h
      · have hsorts : ¬sorts := by simp [sorts, last, hlast]
        simp only [hrequired, if_neg hsorts] at h
        exact (Except.ok.inj h).symm
  refine ⟨htrailing, ?_⟩
  have hlength := (checkCount_eq_ok h).1
  rw [htrailing, hm] at hlength
  cases hrequired : requiredDirective operation <;> simpa [hrequired, eq_comm] using hlength

end MethodSpec

namespace Variant

variable {schema : Schema} {part text : String} {params : List ParamType} {m m' : Method} {spec other : MethodSpec}

section Prefix

variable {p q : OperationPrefix} (hp : p ∈ operationPrefixes)

include hp

theorem split (h : Variant schema part params p.text m spec) :
    MethodName.splitOperation? m.effectiveName.toList = some (p, part.toList) := by
  refine MethodName.splitOperation?_eq_some_iff.mpr ⟨hp, ?_⟩
  rw [h.name_eq, String.toList_append]

theorem operation_eq (h : Variant schema part params p.text m spec) : spec.operation = p.operation := by
  obtain ⟨p', rest, parsed, hsplit, -, hoperation, -⟩ := MethodSpec.compile_eq_ok h.compiled
  cases (h.split hp).symm.trans hsplit
  exact hoperation

/-- A find of the first match or of all is just that. -/
theorem cardinality_eq (h : Variant schema part params p.text m spec) (hfind : p.operation = .find) {cardinality : Cardinality}
    (hcardinality : p.cardinality = some cardinality) : spec.cardinality = cardinality := by
  obtain ⟨p', rest, parsed, hsplit, -, -, -, hreturn, -⟩ := MethodSpec.compile_eq_ok h.compiled
  cases (h.split hp).symm.trans hsplit
  simp only [MethodSpec.checkReturn, hfind, hcardinality] at hreturn
  split at hreturn
  · split at hreturn
    · cases hreturn
    case isFalse hmany =>
      cases cardinality with
      | first => exact (Except.ok.inj hreturn).symm
      | many => exact absurd rfl hmany
  · split at hreturn
    · split at hreturn
      · cases hreturn
      case isFalse hfirst =>
        cases cardinality with
        | first => exact absurd rfl hfirst
        | many => exact (Except.ok.inj hreturn).symm
    · cases hreturn

theorem chain_eq (hq : q ∈ operationPrefixes) (h : Variant schema part params p.text m spec)
    (h' : Variant schema part params q.text m' other) : other.chain = spec.chain := by
  obtain ⟨p', rest, parsed, hsplit, hparse, -, hchain, -⟩ := MethodSpec.compile_eq_ok h.compiled
  obtain ⟨q', rest', parsed', hsplit', hparse', -, hchain', -⟩ := MethodSpec.compile_eq_ok h'.compiled
  rw [hchain, hchain']
  exact MethodName.chain_eq_of_rest (h'.split hq) (h.split hp) hparse' hparse

end Prefix

theorem trailing_eq (h : Variant schema part params text m spec) :
    spec.trailing = (MethodSpec.requiredDirective spec.operation).map Prod.snd ∧ spec.chain.arity = params.length := by
  obtain ⟨p', rest, parsed, -, -, -, -, -, hcount, -⟩ := MethodSpec.compile_eq_ok h.compiled
  exact MethodSpec.checkCount_of_required h.params_filter h.params_eq hcount

theorem unsorted (h : Variant schema part params text m spec) (hplain : m.hasSortAnnotations = false) :
    spec.sort = [] ∧ spec.skip = none ∧ spec.limit = none := by
  obtain ⟨p', rest, parsed, -, -, -, -, -, -, -, hsort, -, hlimit, hskip⟩ := MethodSpec.compile_eq_ok h.compiled
  obtain ⟨⟨hkeys, hlimit'⟩, hskip'⟩ : (m.sortBy = [] ∧ m.limit = none) ∧ m.skip = none := by
    simpa [Method.hasSortAnnotations] using hplain
  refine ⟨?_, hskip.trans hskip', hlimit.trans hlimit'⟩
  unfold MethodSpec.checkSort at hsort
  rw [hplain, hkeys] at hsort
  simpa [pure, Except.pure, eq_comm] using hsort

end Variant

end DocumentRepository
