import DocumentRepository.Filter
import DocumentRepository.Proofs.Value.Equality
import DocumentRepository.Proofs.Value.Interchange

/-! # Equal filters

Filters are equal when they are built alike from equal parts. Equal values can stand for each other in every condition, so
equal filters hold of the same documents as long as that is so of their patterns. Patterns are compared by their texts
alone: two that were read from one text are the same if both were read with regard to case, or both without, and else
they can occur in different texts.
-/
namespace DocumentRepository

namespace Pattern

variable {p q : Pattern} {caseless : Bool}

/-- Two patterns occur in the same texts. -/
def FindsAlike (p q : Pattern) : Prop := ∀ text, p.occursIn text = q.occursIn text

def ReadWith (caseless : Bool) (p : Pattern) : Prop :=
  ∃ source, (if caseless then readCaseless? source else read? source) = some p

theorem readWith_iff : p.ReadWith caseless ↔ readNode? caseless p.source = some p.node := by
  have hread (source : String) : (if caseless then readCaseless? source else read? source) =
      (readNode? caseless source).map (⟨source, ·⟩) := by cases caseless <;> rfl
  constructor
  · rintro ⟨source, h⟩
    rw [hread] at h
    obtain ⟨node, hnode, rfl⟩ := Option.map_eq_some_iff.mp h
    exact hnode
  · intro h
    exact ⟨p.source, by rw [hread, h, Option.map_some]⟩

theorem findsAlike_of_readWith (hp : p.ReadWith caseless) (hq : q.ReadWith caseless) (h : p.equal q = true) :
    p.FindsAlike q := by
  have hsource : p.source = q.source := (equal_iff p q).mp h
  have hnode : p.node = q.node :=
    Option.some.inj ((readWith_iff.mp hp).symm.trans (hsource ▸ readWith_iff.mp hq))
  intro text
  rw [occursIn, occursIn, hnode]

end Pattern

namespace Filter

mutual

def patterns : Filter → List Pattern
  | .pattern _ p => [p]
  | .not inner => inner.patterns
  | .and parts => patternsOf parts
  | .or parts => patternsOf parts
  | _ => []

def patternsOf : List Filter → List Pattern
  | [] => []
  | f :: rest => f.patterns ++ patternsOf rest

end

/-- The patterns of two filters stand in a relation, place by place. -/
def PatternsRelate (R : Pattern → Pattern → Prop) (f g : Filter) : Prop :=
  ∀ p q, (p, q) ∈ f.patterns.zip g.patterns → R p q

variable {f g : Filter} {found : Option Value} {v w : Value} {vs ws : List Value} {op : Comparison}

theorem eqHolds_congr (h : v.equal w = true) : eqHolds found v = eqHolds found w := by
  cases found with
  | none => exact Value.isNull_congr h
  | some stored =>
    cases stored with
    | list items =>
      rw [eqHolds, eqHolds, Value.isList_congr h, Value.looseEqual_congr h]
      simp only [Value.looseEqual_congr h]
    | _ => exact Value.looseEqual_congr h _

theorem compareHolds_congr (h : v.equal w = true) : compareHolds found op v = compareHolds found op w := by
  cases found with
  | none => rfl
  | some stored => rw [compareHolds, compareHolds, Option.bind_some, Option.bind_some, Value.compare?_congr h]

theorem inHolds_congr (h : Value.equalItems vs ws = true) : inHolds found vs = inHolds found ws := by
  have hany (stored : Value) : vs.any (·.looseEqual stored) = ws.any (·.looseEqual stored) := by
    refine Value.any_congr (fun {a b} hab => ?_) h
    rw [Value.looseEqual_comm a, Value.looseEqual_comm b, Value.looseEqual_congr hab]
  cases found with
  | none => exact Value.any_congr Value.isNull_congr h
  | some stored =>
    cases stored with
    | list items => simp only [inHolds, hany]
    | _ => exact hany _

theorem patternHolds_congr {p q : Pattern} (h : p.FindsAlike q) : patternHolds found p = patternHolds found q := by
  have hoccurs : p.occursIn = q.occursIn := funext h
  unfold patternHolds
  rw [hoccurs]

mutual

/-- Equal filters have as many patterns. -/
theorem length_patterns {f g : Filter} (h : f.equal g = true) : f.patterns.length = g.patterns.length := by
  cases f <;> cases g
  case not.not f g => exact length_patterns (f := f) (g := g) h
  case and.and => exact length_patternsOf h
  case or.or => exact length_patternsOf h
  all_goals first | rfl | cases h

theorem length_patternsOf {fs gs : List Filter} (h : equalParts fs gs = true) :
    (patternsOf fs).length = (patternsOf gs).length := by
  cases fs <;> cases gs
  case nil.nil => rfl
  case cons.cons f fs g gs =>
    obtain ⟨hhead, hrest⟩ := Bool.and_eq_true_iff.mp h
    rw [patternsOf, patternsOf, List.length_append, List.length_append, length_patterns hhead, length_patternsOf hrest]
  all_goals cases h

end

mutual

/-- Equal filters hold of the same documents if their patterns, which are equal place by place, find alike. -/
theorem holds_congr {f g : Filter} (h : f.equal g = true)
    (hp : PatternsRelate (fun p q => p.equal q = true → p.FindsAlike q) f g) (d : Document) : f.holds d = g.holds d := by
  cases f <;> cases g
  case all.all => rfl
  case eq.eq =>
    obtain ⟨hfield, hvalue⟩ := Bool.and_eq_true_iff.mp h
    rw [holds, holds, eq_of_beq hfield, eqHolds_congr hvalue]
  case compare.compare =>
    obtain ⟨hhead, hvalue⟩ := Bool.and_eq_true_iff.mp h
    obtain ⟨hfield, hop⟩ := Bool.and_eq_true_iff.mp hhead
    rw [holds, holds, eq_of_beq hfield, eq_of_beq hop, compareHolds_congr hvalue]
  case pattern.pattern =>
    obtain ⟨hfield, hpattern⟩ := Bool.and_eq_true_iff.mp h
    rw [holds, holds, eq_of_beq hfield, patternHolds_congr (hp _ _ (List.mem_singleton_self _) hpattern)]
  case exists.exists => rw [eq_of_beq h]
  case isIn.isIn =>
    obtain ⟨hfield, hvalues⟩ := Bool.and_eq_true_iff.mp h
    rw [holds, holds, eq_of_beq hfield, inHolds_congr hvalues]
  case notIn.notIn =>
    obtain ⟨hfield, hvalues⟩ := Bool.and_eq_true_iff.mp h
    rw [holds, holds, eq_of_beq hfield, inHolds_congr hvalues]
  case not.not f g => exact congrArg (! ·) (holds_congr (f := f) (g := g) h hp d)
  case and.and => exact (holds_congr_parts h hp d).1
  case or.or => exact (holds_congr_parts h hp d).2
  all_goals cases h

theorem holds_congr_parts {fs gs : List Filter} (h : equalParts fs gs = true)
    (hp : ∀ p q, (p, q) ∈ (patternsOf fs).zip (patternsOf gs) → p.equal q = true → p.FindsAlike q) (d : Document) :
    allHold d fs = allHold d gs ∧ someHolds d fs = someHolds d gs := by
  cases fs <;> cases gs
  case nil.nil => exact ⟨rfl, rfl⟩
  case cons.cons f fs g gs =>
    obtain ⟨hhead, hrest⟩ := Bool.and_eq_true_iff.mp h
    rw [patternsOf, patternsOf, List.zip_append (length_patterns hhead)] at hp
    have hfirst := holds_congr hhead (fun p q hpq => hp p q (List.mem_append_left _ hpq)) d
    have hothers := holds_congr_parts hrest (fun p q hpq => hp p q (List.mem_append_right _ hpq)) d
    rw [allHold, allHold, someHolds, someHolds, hfirst, hothers.1, hothers.2]
    exact ⟨rfl, rfl⟩
  all_goals cases h

end

theorem equal_pattern {field : String} {p q : Pattern} (h : p.equal q = true) :
    (pattern field p).equal (pattern field q) = true := by
  rw [equal, h, BEq.rfl, Bool.and_self]

theorem holds_pattern_text (p : Pattern) (text : String) :
    (pattern "name" p).holds ⟨[("name", .text text)]⟩ = p.occursIn text := rfl

/-- Whatever is known of the patterns that two filters have at one place, it makes equal filters hold of the same
documents just if it makes equal patterns occur in the same texts. That they were read alike does. -/
theorem equal_filters_alike (known : Pattern → Pattern → Prop) :
    ((∀ F G : Filter, F.equal G = true → PatternsRelate known F G → ∀ d, F.holds d = G.holds d) ↔
      ∀ p q : Pattern, p.equal q = true → known p q → p.FindsAlike q) ∧
    ∀ F G : Filter, F.equal G = true →
      PatternsRelate (fun p q => ∃ caseless, p.ReadWith caseless ∧ q.ReadWith caseless) F G → ∀ d, F.holds d = G.holds d := by
  refine ⟨⟨fun hall p q hpq hknown text => ?_, fun hall F G h hknown => ?_⟩, fun F G h hread => ?_⟩
  · have hrelate : PatternsRelate known (pattern "name" p) (pattern "name" q) := by
      intro p' q' hmem
      cases List.mem_singleton.mp hmem
      exact hknown
    have hsame := hall _ _ (equal_pattern hpq) hrelate ⟨[("name", .text text)]⟩
    rwa [holds_pattern_text, holds_pattern_text] at hsame
  · exact holds_congr h fun p q hmem hpq => hall p q hpq (hknown p q hmem)
  · refine holds_congr h fun p q hmem hpq => ?_
    obtain ⟨caseless, hp, hq⟩ := hread p q hmem
    exact Pattern.findsAlike_of_readWith hp hq hpq

section Example

theorem exists_readWith (caseless : Bool) :
    ∃ p : Pattern, p.source = "a" ∧ p.ReadWith caseless ∧ p.occursIn "A" = caseless := by
  have hread : ((if caseless then Pattern.readCaseless? "a" else Pattern.read? "a").map fun p => (p.source, p.occursIn "A")) =
      some ("a", caseless) := by
    cases caseless <;> decide +kernel
  obtain ⟨p, hp, heq⟩ := Option.map_eq_some_iff.mp hread
  obtain ⟨hsource, hoccurs⟩ := Prod.mk.inj heq
  exact ⟨p, hsource, ⟨"a", hp⟩, hoccurs⟩

/-- The two zeros are equal, and so are filters that differ in them only. -/
theorem equal_filters_alike_zeros :
    ∃ p : Pattern, p.ReadWith true ∧
      (and [pattern "name" p, eq "balance" (.float (Double.zero false))]).equal
        (and [pattern "name" p, eq "balance" (.float (Double.zero true))]) = true ∧
      ∀ d, (and [pattern "name" p, eq "balance" (.float (Double.zero false))]).holds d =
        (and [pattern "name" p, eq "balance" (.float (Double.zero true))]).holds d := by
  obtain ⟨p, -, hread, -⟩ := exists_readWith true
  have hpattern : p.equal p = true := (Pattern.equal_iff p p).mpr rfl
  have hequal : (and [pattern "name" p, eq "balance" (.float (Double.zero false))]).equal
      (and [pattern "name" p, eq "balance" (.float (Double.zero true))]) = true := by
    simp only [equal, equalParts, hpattern]
    decide
  refine ⟨p, hread, hequal, (equal_filters_alike fun _ _ => True).2 _ _ hequal fun p' q' hmem => ?_⟩
  cases List.mem_singleton.mp hmem
  exact ⟨true, hread, hread⟩

/-- Two patterns of one text, one read with regard to case and one without, are equal and do not occur in the same texts. -/
theorem equal_filters_differ_in_case :
    ¬∀ F G : Filter, (∀ p ∈ F.patterns ++ G.patterns, ∃ caseless, p.ReadWith caseless) → F.equal G = true →
      ∀ d, F.holds d = G.holds d := by
  intro hall
  obtain ⟨p, hp, hpread, hpoccurs⟩ := exists_readWith false
  obtain ⟨q, hq, hqread, hqoccurs⟩ := exists_readWith true
  have hpq : p.equal q = true := (Pattern.equal_iff p q).mpr (hp.trans hq.symm)
  have hread : ∀ p' ∈ (pattern "name" p).patterns ++ (pattern "name" q).patterns, ∃ caseless, p'.ReadWith caseless :=
    List.forall_mem_cons.mpr ⟨⟨false, hpread⟩, List.forall_mem_singleton.mpr ⟨true, hqread⟩⟩
  have hsame := hall _ _ hread (equal_pattern hpq) ⟨[("name", .text "A")]⟩
  rw [holds_pattern_text, holds_pattern_text, hpoccurs, hqoccurs] at hsame
  cases hsame

end Example

end Filter
end DocumentRepository
