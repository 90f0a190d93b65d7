import DocumentRepository.Pattern.Basic

/-! # What a search finds

A node matches between two positions of a text. This is said of each kind of node by what its parts match, without
sets of positions, and a search finds a match just when there is one. Matches never go back, and one that has a
character ends in the text, so no repetition needs more steps than the text has positions.
-/
namespace DocumentRepository.Pattern

variable {R : Nat → Nat → Prop} {step : Nat → Nat} {text : List Char} {i j k ps : Nat}

/-! ## Steps in a row -/

inductive Steps (R : Nat → Nat → Prop) : Nat → Nat → Nat → Prop where
  | none (i : Nat) : Steps R 0 i i
  | more {k i m j : Nat} (first : R i m) (rest : Steps R k m j) : Steps R (k + 1) i j

namespace Steps

@[simp] theorem zero_iff : Steps R 0 i j ↔ i = j := by
  constructor
  · rintro ⟨⟩
    rfl
  · rintro rfl
    exact .none i

theorem succ_iff : Steps R (k + 1) i j ↔ ∃ m, R i m ∧ Steps R k m j := by
  constructor
  · rintro ⟨⟩
    exact ⟨_, ‹_›, ‹_›⟩
  · rintro ⟨m, hfirst, hrest⟩
    exact .more hfirst hrest

theorem add_iff {n : Nat} : Steps R (k + n) i j ↔ ∃ m, Steps R k i m ∧ Steps R n m j := by
  induction k generalizing i with
  | zero => simp
  | succ k ih =>
    rw [Nat.add_right_comm, succ_iff]
    simp only [succ_iff, ih]
    constructor
    · rintro ⟨l, hl, m, hm, hj⟩
      exact ⟨m, ⟨l, hl, hm⟩, hj⟩
    · rintro ⟨m, ⟨l, hl, hm⟩, hj⟩
      exact ⟨l, hl, m, hm, hj⟩

/-- Steps that never go back do not lead back. -/
theorem le (hR : ∀ i j, R i j → i ≤ j) (h : Steps R k i j) : i ≤ j := by
  induction h with
  | none => exact Nat.le_refl _
  | more hfirst _ ih => exact Nat.le_trans (hR _ _ hfirst) ih

/-- Steps that stay where they are can be left out. -/
theorem shorten (hR : ∀ i j, R i j → i ≤ j) (h : Steps R k i j) : ∃ n, n ≤ j - i ∧ Steps R n i j := by
  induction h with
  | none i => exact ⟨0, Nat.zero_le _, .none i⟩
  | @more k i m j hfirst hrest ih =>
    obtain ⟨n, hn, hshort⟩ := ih
    have him : i ≤ m := hR _ _ hfirst
    have hmj : m ≤ j := hrest.le hR
    rcases Nat.eq_or_lt_of_le him with rfl | hlt
    · exact ⟨n, hn, hshort⟩
    · exact ⟨n + 1, by omega, .more hfirst hshort⟩

/-- If each step that goes on stays within a bound, several of them do. -/
theorem le_bound {n : Nat} (hR : ∀ i j, R i j → i ≤ j) (hbound : ∀ i j, R i j → i < j → j ≤ n) (h : Steps R k i j)
    (hlt : i < j) : j ≤ n := by
  induction h with
  | none => exact absurd hlt (Nat.lt_irrefl _)
  | @more k i m j hfirst hrest ih =>
    rcases Nat.eq_or_lt_of_le (hrest.le hR) with rfl | hmj
    · exact hbound _ _ hfirst hlt
    · exact ih hmj

end Steps

/-! ## Sets of positions -/

theorem testBit_mask_map {α : Type} (xs : List α) (p : α → Bool) (i : Nat) :
    (mask (xs.map p)).testBit i = true ↔ ∃ x, xs[i]? = some x ∧ p x = true := by
  rw [testBit_mask, List.getD_eq_getElem?_getD, List.getElem?_map]
  cases xs[i]? <;> simp

theorem ne_zero_iff_testBit : ps ≠ 0 ↔ ∃ i, ps.testBit i = true := by
  refine ⟨Nat.exists_testBit_of_ne_zero, ?_⟩
  rintro ⟨i, hi⟩ rfl
  simp at hi

def Follows (step : Nat → Nat) (R : Nat → Nat → Prop) : Prop :=
  ∀ ps j, (step ps).testBit j = true ↔ ∃ i, ps.testBit i = true ∧ R i j

/-- From a set that a step does not change, no number of steps leads to another set. -/
theorem Follows.steps_of_fixed (hstep : Follows step R) (hfixed : step ps = ps) :
    ps.testBit j = true ↔ ∃ i, ps.testBit i = true ∧ Steps R k i j := by
  induction k generalizing j with
  | zero => simp
  | succ k ih =>
    rw [ih]
    constructor
    · rintro ⟨m, hm, hrest⟩
      rw [← hfixed, hstep] at hm
      obtain ⟨i, hi, hfirst⟩ := hm
      exact ⟨i, hi, .more hfirst hrest⟩
    · rintro ⟨i, hi, hsteps⟩
      obtain ⟨m, hfirst, hrest⟩ := Steps.succ_iff.mp hsteps
      refine ⟨m, ?_, hrest⟩
      rw [← hfixed, hstep]
      exact ⟨i, hi, hfirst⟩

theorem Follows.testBit_walk (hstep : Follows step R) (k ps j : Nat) :
    (walk step k ps).testBit j = true ↔ ∃ i, ps.testBit i = true ∧ Steps R k i j := by
  induction k generalizing ps with
  | zero => simp [walk]
  | succ k ih =>
    rw [walk]
    split
    -- where the walk stops early, the steps it leaves out stay in the set
    case isTrue hfixed => exact hstep.steps_of_fixed hfixed
    case isFalse =>
      simp only [ih, hstep ps, Steps.succ_iff]
      constructor
      · rintro ⟨m, ⟨i, hi, hfirst⟩, hrest⟩
        exact ⟨i, hi, m, hfirst, hrest⟩
      · rintro ⟨i, hi, m, hfirst, hrest⟩
        exact ⟨m, ⟨i, hi, hfirst⟩, hrest⟩

/-- A set that holds all it leads to holds all that any number of steps leads to. -/
theorem Follows.testBit_of_closed (hstep : Follows step R) (hclosed : ps ||| step ps = ps) (hi : ps.testBit i = true)
    (h : Steps R k i j) : ps.testBit j = true := by
  induction h with
  | none => exact hi
  | @more k i m j hfirst hrest ih =>
    refine ih ?_
    rw [← hclosed, Nat.testBit_or, (hstep ps m).mpr ⟨i, hi, hfirst⟩, Bool.or_true]

theorem Follows.testBit_spread (hstep : Follows step R) (k ps j : Nat) :
    (spread step k ps).testBit j = true ↔ ∃ i, ps.testBit i = true ∧ ∃ n, n ≤ k ∧ Steps R n i j := by
  induction k generalizing ps with
  | zero => simp [spread]
  | succ k ih =>
    rw [spread]
    split
    case isTrue hclosed =>
      constructor
      · exact fun hj => ⟨j, hj, 0, Nat.zero_le _, .none j⟩
      · rintro ⟨i, hi, n, -, hsteps⟩
        exact hstep.testBit_of_closed hclosed hi hsteps
    case isFalse =>
      simp only [ih, Nat.testBit_or, Bool.or_eq_true, hstep ps]
      constructor
      · rintro ⟨m, hm | ⟨i, hi, hfirst⟩, n, hn, hrest⟩
        · exact ⟨m, hm, n, Nat.le_succ_of_le hn, hrest⟩
        · exact ⟨i, hi, n + 1, Nat.succ_le_succ hn, .more hfirst hrest⟩
      · rintro ⟨i, hi, n, hn, hsteps⟩
        cases hsteps with
        | none => exact ⟨_, .inl hi, 0, Nat.zero_le _, .none _⟩
        | more hfirst hrest => exact ⟨_, .inr ⟨i, hi, hfirst⟩, _, Nat.le_of_succ_le_succ hn, hrest⟩

/-! ## Places -/

def placeAt (text : List Char) (i : Nat) : Place := ⟨if i = 0 then none else text[i - 1]?, text[i]?⟩

theorem getElem?_placesFrom (before : Option Char) (text : List Char) (i : Nat) :
    (placesFrom before text)[i]? =
      if i ≤ text.length then some ⟨if i = 0 then before else text[i - 1]?, text[i]?⟩ else none := by
  induction text generalizing before i with
  | nil => cases i <;> simp [placesFrom]
  | cons c rest ih =>
    cases i with
    | zero => simp [placesFrom]
    | succ i =>
      rw [placesFrom, List.getElem?_cons_succ, ih]
      cases i <;> simp

theorem getElem?_places (text : List Char) (i : Nat) :
    (places text)[i]? = if i ≤ text.length then some (placeAt text i) else none :=
  getElem?_placesFrom none text i

theorem holds_textStart (hi : i ≤ text.length) : Look.textStart.holds (placeAt text i) = true ↔ i = 0 := by
  simp only [Look.holds, placeAt, Option.isNone_iff_eq_none]
  split
  case isTrue h => simp [h]
  case isFalse h => simp only [List.getElem?_eq_none_iff, h, iff_false]; omega

theorem holds_textEnd (hi : i ≤ text.length) : Look.textEnd.holds (placeAt text i) = true ↔ i = text.length := by
  simp only [Look.holds, placeAt, Option.isNone_iff_eq_none, List.getElem?_eq_none_iff]
  omega

/-! ## Matches -/

namespace Node

/-- A node matches what stands between two positions of a text. -/
def Spans (text : List Char) : Node → Nat → Nat → Prop
  | empty, i, j => i = j
  | set s, i, j => j = i + 1 ∧ ∃ c, text[i]? = some c ∧ s.contains c.toNat = true
  | look l, i, j => i = j ∧ i ≤ text.length ∧ l.holds (placeAt text i) = true
  | seq a b, i, j => ∃ m, a.Spans text i m ∧ b.Spans text m j
  | alt a b, i, j => a.Spans text i j ∨ b.Spans text i j
  | times a least most, i, j => ∃ extra, (∀ m ∈ most, extra ≤ m - least) ∧ Steps (a.Spans text) (least + extra) i j
  | group a, i, j => a.Spans text i j

theorem Spans.le {node : Node} (h : node.Spans text i j) : i ≤ j := by
  induction node generalizing i j with
  | empty => exact Nat.le_of_eq h
  | set s => exact h.1 ▸ Nat.le_succ i
  | look l => exact Nat.le_of_eq h.1
  | seq a b iha ihb =>
    obtain ⟨m, ha, hb⟩ := h
    exact Nat.le_trans (iha ha) (ihb hb)
  | alt a b iha ihb => exact h.elim iha ihb
  | times a least most ih =>
    obtain ⟨extra, -, hsteps⟩ := h
    exact hsteps.le fun _ _ => ih
  | group a ih => exact ih h

/-- A match that has a character ends in the text. -/
theorem Spans.le_length {node : Node} (h : node.Spans text i j) (hlt : i < j) : j ≤ text.length := by
  induction node generalizing i j with
  | empty => exact absurd h (Nat.ne_of_lt hlt)
  | set s =>
    obtain ⟨rfl, c, hc, -⟩ := h
    exact (List.getElem?_eq_some_iff.mp hc).1
  | look l => exact absurd h.1 (Nat.ne_of_lt hlt)
  | seq a b iha ihb =>
    obtain ⟨m, ha, hb⟩ := h
    rcases Nat.eq_or_lt_of_le hb.le with rfl | hmj
    · exact iha ha hlt
    · exact ihb hb hmj
  | alt a b iha ihb => exact h.elim (iha · hlt) (ihb · hlt)
  | times a least most ih =>
    obtain ⟨extra, -, hsteps⟩ := h
    exact hsteps.le_bound (fun _ _ => Spans.le) (fun _ _ => ih) hlt
  | group a ih => exact ih h hlt

/-- Repetitions beyond the number of positions lead nowhere else. -/
theorem steps_bounded {a : Node} (h : Steps (a.Spans text) k i j) :
    ∃ n, n ≤ text.length + 1 ∧ Steps (a.Spans text) n i j := by
  obtain ⟨n, hn, hshort⟩ := h.shorten fun _ _ => Spans.le
  refine ⟨n, ?_, hshort⟩
  rcases Nat.eq_or_lt_of_le (h.le fun _ _ => Spans.le) with rfl | hlt
  · omega
  · have := h.le_bound (fun _ _ => Spans.le) (fun _ _ => Spans.le_length) hlt
    omega

theorem follows_times {a : Node} (ha : Follows (a.ends text) (a.Spans text)) (least : Nat) (most : Option Nat) :
    Follows ((times a least most).ends text) ((times a least most).Spans text) := by
  intro ps j
  simp only [ends, ha.testBit_spread, ha.testBit_walk, Spans, Steps.add_iff]
  constructor
  · rintro ⟨m, ⟨i, hi, hleast⟩, n, hn, hextra⟩
    refine ⟨i, hi, n, ?_, m, hleast, hextra⟩
    rintro most rfl
    exact hn
  · rintro ⟨i, hi, extra, hmost, m, hleast, hextra⟩
    refine ⟨m, ⟨i, hi, hleast⟩, ?_⟩
    cases most with
    -- the search bounds what has no bound by the number of positions
    | none => exact steps_bounded hextra
    | some most => exact ⟨extra, hmost most rfl, hextra⟩

/-- The set of positions that a node leads to is the set of the ends of its matches. -/
theorem follows_spans (node : Node) : Follows (node.ends text) (node.Spans text) := by
  induction node with
  | empty => simp [Follows, ends, Spans]
  | set s =>
    intro ps j
    cases j with
    | zero => simp [ends, Spans]
    | succ j =>
      have hshift : (ends text (set s) ps).testBit (j + 1) = (ps &&& mask (text.map fun c => s.contains c.toNat)).testBit j := by
        simp [ends]
      rw [hshift, Nat.testBit_and, Bool.and_eq_true, testBit_mask_map]
      constructor
      · exact fun ⟨hj, hc⟩ => ⟨j, hj, rfl, hc⟩
      · rintro ⟨i, hi, hij, hc⟩
        cases hij
        exact ⟨hi, hc⟩
  | look l =>
    intro ps j
    simp only [ends, Nat.testBit_and, Bool.and_eq_true, testBit_mask_map, getElem?_places, Spans]
    constructor
    · rintro ⟨hj, p, hp, hl⟩
      obtain ⟨hle, hplace⟩ := Option.ite_none_right_eq_some.mp hp
      cases hplace
      exact ⟨j, hj, rfl, hle, hl⟩
    · rintro ⟨i, hi, rfl, hle, hl⟩
      exact ⟨hi, placeAt text i, if_pos hle, hl⟩
  | seq a b iha ihb =>
    intro ps j
    simp only [ends, ihb _ j, iha ps, Spans]
    constructor
    · rintro ⟨m, ⟨i, hi, ha⟩, hb⟩
      exact ⟨i, hi, m, ha, hb⟩
    · rintro ⟨i, hi, m, ha, hb⟩
      exact ⟨m, ⟨i, hi, ha⟩, hb⟩
  | alt a b iha ihb =>
    intro ps j
    simp only [ends, Nat.testBit_or, Bool.or_eq_true, iha ps j, ihb ps j, Spans]
    constructor
    · rintro (⟨i, hi, ha⟩ | ⟨i, hi, hb⟩)
      · exact ⟨i, hi, .inl ha⟩
      · exact ⟨i, hi, .inr hb⟩
    · rintro ⟨i, hi, ha | hb⟩
      · exact .inl ⟨i, hi, ha⟩
      · exact .inr ⟨i, hi, hb⟩
  | times a least most ih => exact follows_times ih least most
  | group a ih => exact ih

/-- A search finds something just when the node matches between two positions. -/
theorem occursIn_iff (node : Node) (text : List Char) :
    node.occursIn text = true ↔ ∃ i j, i ≤ text.length ∧ node.Spans text i j := by
  have hall (i : Nat) : (1 <<< (text.length + 1) - 1).testBit i = true ↔ i ≤ text.length := by
    rw [Nat.one_shiftLeft, Nat.testBit_two_pow_sub_one, decide_eq_true_iff, Nat.lt_succ_iff]
  rw [occursIn, bne_iff_ne, ne_zero_iff_testBit]
  simp only [node.follows_spans _ _, hall]
  exact exists_comm

/-! ## Nodes in a row -/

theorem spans_ofList_cons (a : Node) (rest : List Node) :
    (ofList (a :: rest)).Spans text i j ↔ ∃ m, a.Spans text i m ∧ (ofList rest).Spans text m j := by
  cases rest with
  | nil => simp [ofList, Spans]
  | cons b rest => rfl

theorem spans_ofList_append (as bs : List Node) :
    (ofList (as ++ bs)).Spans text i j ↔ ∃ m, (ofList as).Spans text i m ∧ (ofList bs).Spans text m j := by
  induction as generalizing i with
  | nil => simp [ofList, Spans]
  | cons a rest ih =>
    simp only [List.cons_append, spans_ofList_cons, ih]
    constructor
    · rintro ⟨l, ha, m, hrest, hbs⟩
      exact ⟨m, ⟨l, ha, hrest⟩, hbs⟩
    · rintro ⟨m, ⟨l, ha, hrest⟩, hbs⟩
      exact ⟨l, ha, m, hrest, hbs⟩

end Node
end DocumentRepository.Pattern
