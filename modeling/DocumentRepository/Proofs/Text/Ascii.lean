import DocumentRepository.Text.Words
import Mathlib.Data.List.Sort

/-! # ASCII characters in the tables

The tables of properties, categories and case mappings are texts and runs in the order of the code points. Below 128
only the first few runs count: they are read from the beginning of a table, and what follows is about characters
further on.
-/
namespace DocumentRepository.Text

theorem ascii_induction {P : Char → Prop} (h : ∀ n : Fin 128, P (Char.ofNat n)) {c : Char} (hc : c.toNat < 128) : P c := by
  have hP := h ⟨c.toNat, hc⟩
  rwa [Char.ofNat_toNat] at hP

/-! ## Tables of run lengths -/

def numberStep (state : Nat × List Nat) (c : Char) : Nat × List Nat :=
  if c = ' ' then (0, state.1 :: state.2) else (36 * state.1 + base36Value c, state.2)

def numbersOf (cs : List Char) : List Nat :=
  let state := cs.foldl numberStep (0, [])
  (state.1 :: state.2).reverse

theorem readNumbers_eq (text : String) : readNumbers text = numbersOf text.toList := rfl

theorem foldl_numberStep (n : Nat) (read : List Nat) (cs : List Char) :
    cs.foldl numberStep (n, read) =
      ((cs.foldl numberStep (n, [])).1, (cs.foldl numberStep (n, [])).2 ++ read) := by
  induction cs generalizing n read with
  | nil => rfl
  | cons c rest ih =>
    by_cases hc : c = ' '
    · simp only [List.foldl_cons, numberStep, if_pos hc]
      rw [ih 0 (n :: read), ih 0 [n]]
      simp
    · simp only [List.foldl_cons, numberStep, if_neg hc]
      exact ih _ read

theorem numbersOf_append (p q : List Char) : numbersOf (p ++ ' ' :: q) = numbersOf p ++ numbersOf q := by
  unfold numbersOf
  rw [List.foldl_append, List.foldl_cons, numberStep, if_pos rfl, foldl_numberStep]
  simp

def covered (ns : List Nat) : Nat := ns.foldr (· + ·) 0

theorem rangesFrom_append {ns : List Nat} (heven : ns.length % 2 = 0) (start : Nat) (more : List Nat) :
    rangesFrom start (ns ++ more) = rangesFrom start ns ++ rangesFrom (start + covered ns) more := by
  match ns with
  | [] => rfl
  | [_] => cases heven
  | outside :: inside :: rest =>
    have hrest : rest.length % 2 = 0 := by
      simp only [List.length_cons] at heven
      omega
    simp only [List.cons_append, rangesFrom, rangesFrom_append hrest, covered, List.foldr_cons, Nat.add_assoc]

theorem le_first_of_mem_rangesFrom {start : Nat} {ns : List Nat} {r : CodeRange} (h : r ∈ rangesFrom start ns) :
    start ≤ r.first := by
  match ns with
  | [] => cases h
  | [_] => cases h
  | outside :: inside :: rest =>
    rcases List.mem_cons.mp h with rfl | h
    · exact Nat.le_add_right start outside
    · have := le_first_of_mem_rangesFrom h
      omega

/-- Ranges that begin further on hold no character. -/
theorem contains_eq_false {rs : Ranges} {c : Char} {n : Nat} (h : ∀ r ∈ rs, n ≤ r.first) (hc : c.toNat < n) :
    rs.contains c = false := by
  refine List.any_eq_false.mpr fun r hr => ?_
  have := h r hr
  simp only [CodeRange.contains, Bool.and_eq_true, decide_eq_true_eq]
  omega

theorem contains_ofRuns {text : String} {p q : List Char} (htext : text.toList = p ++ ' ' :: q)
    (heven : (numbersOf p).length % 2 = 0) {c : Char} (hc : c.toNat < covered (numbersOf p)) :
    (ofRuns text).contains c = (rangesFrom 0 (numbersOf p)).contains c := by
  have hrest : (rangesFrom (covered (numbersOf p)) (numbersOf q)).contains c = false :=
    contains_eq_false (fun r hr => le_first_of_mem_rangesFrom hr) hc
  rw [ofRuns, readNumbers_eq, htext, numbersOf_append, rangesFrom_append heven, Nat.zero_add]
  unfold Ranges.contains at hrest ⊢
  rw [List.any_append, hrest, Bool.or_false]

theorem toList_join_cons {first : String} {p q : List Char} (h : first = String.ofList (p ++ q)) (others : List String) :
    (String.join (first :: others)).toList = p ++ (q ++ others.flatMap String.toList) := by
  rw [String.toList_join, List.flatMap_cons, h, String.toList_ofList, List.append_assoc]

theorem property_of_ascii {name first : String} {others : List String} {q : List Char} {f : Char → Bool}
    (text : String) (p : List Char)
    (hname : propertyRuns.lookup name = some text) (htext : text = String.join (first :: others))
    (hfirst : first = String.ofList (p ++ ' ' :: q)) (heven : (numbersOf p).length % 2 = 0) (hcovered : 128 ≤ covered (numbersOf p))
    (hf : ∀ n : Fin 128, (rangesFrom 0 (numbersOf p)).contains (Char.ofNat n) = f (Char.ofNat n))
    {c : Char} (hc : c.toNat < 128) : ((property? name).getD []).contains c = f c := by
  have hlist : text.toList = p ++ ' ' :: (q ++ others.flatMap String.toList) := htext ▸ toList_join_cons hfirst others
  rw [property?, hname, Option.map_some, Option.getD_some, contains_ofRuns hlist heven (Nat.lt_of_lt_of_le hc hcovered)]
  exact ascii_induction (P := fun c => (rangesFrom 0 (numbersOf p)).contains c = f c) hf hc

theorem isCapital_of_ascii {c : Char} (hc : c.toNat < 128) : isCapital c = c.isUpper :=
  property_of_ascii uppercaseRuns "1t q 2t n".toList (by rfl) (by rfl) (by rfl) (by decide)
    (by decide) (by decide) hc

theorem alphabetic_of_ascii {c : Char} (hc : c.toNat < 128) :
    ((property? "alphabetic").getD []).contains c = c.isAlpha :=
  property_of_ascii alphabeticRuns "1t q 6 q 1b 1".toList (by rfl) (by rfl) (by rfl) (by decide)
    (by decide) (by decide) hc

/-! ## Tables of named runs -/

namespace Ranges

def joinStep (found : List CodeRange) (r : CodeRange) : List CodeRange :=
  match found with
  | s :: rest => if r.first ≤ s.last + 1 then ⟨s.first, max s.last r.last⟩ :: rest else r :: found
  | [] => [r]

theorem joinStep_cons (s r : CodeRange) (rest : List CodeRange) :
    joinStep (s :: rest) r = if r.first ≤ s.last + 1 then ⟨s.first, max s.last r.last⟩ :: rest else r :: s :: rest :=
  rfl

theorem joined_eq (rs : Ranges) : rs.joined = ((rs.mergeSort fun r s => r.first ≤ s.first).foldl joinStep []).reverse :=
  rfl

theorem contains_cons (r : CodeRange) (rs : Ranges) (c : Char) :
    contains (r :: rs) c = (r.contains c.toNat || rs.contains c) :=
  List.any_cons

theorem contains_append (rs ss : Ranges) (c : Char) : contains (rs ++ ss) c = (rs.contains c || ss.contains c) :=
  List.any_append

theorem contains_joinStep {found : Ranges} {r : CodeRange} (h : ∀ s ∈ found.head?, s.first ≤ r.first) (c : Char) :
    contains (joinStep found r) c = contains (r :: found) c := by
  match found with
  | [] => rfl
  | s :: rest =>
    have hfirst : s.first ≤ r.first := h s rfl
    rw [joinStep_cons]
    split
    · have hboth : CodeRange.contains ⟨s.first, max s.last r.last⟩ c.toNat =
          (r.contains c.toNat || s.contains c.toNat) := by
        rw [Bool.eq_iff_iff]
        simp only [CodeRange.contains, Bool.or_eq_true, Bool.and_eq_true, decide_eq_true_eq]
        omega
      rw [contains_cons, contains_cons, contains_cons, hboth, Bool.or_assoc]
    · rfl

theorem head_joinStep {found : Ranges} {r t : CodeRange} (h : ∀ s ∈ found.head?, s.first ≤ t.first)
    (hr : r.first ≤ t.first) : ∀ s ∈ (joinStep found r).head?, s.first ≤ t.first := by
  match found with
  | [] => simpa [joinStep] using hr
  | s :: rest =>
    have hs : s.first ≤ t.first := h s rfl
    rw [joinStep_cons]
    split
    · simpa using hs
    · simpa using hr

theorem contains_foldl_joinStep {rs found : Ranges} (hsorted : rs.Pairwise fun r s => r.first ≤ s.first)
    (hfound : ∀ r ∈ rs, ∀ s ∈ found.head?, s.first ≤ r.first) (c : Char) :
    contains (rs.foldl joinStep found) c = (rs.contains c || found.contains c) := by
  induction rs generalizing found with
  | nil => rfl
  | cons r rest ih =>
    obtain ⟨hr, hrest⟩ := List.pairwise_cons.mp hsorted
    have hjoined : ∀ t ∈ rest, ∀ s ∈ (joinStep found r).head?, s.first ≤ t.first := fun t ht =>
      head_joinStep (hfound t (List.mem_cons_of_mem r ht)) (hr t ht)
    rw [List.foldl_cons, ih hrest hjoined, contains_joinStep (hfound r List.mem_cons_self), contains_cons, contains_cons]
    ac_rfl

/-- Joining the ranges that meet keeps every character. -/
theorem contains_joined (rs : Ranges) (c : Char) : rs.joined.contains c = rs.contains c := by
  let sorted : Ranges := rs.mergeSort fun r s => r.first ≤ s.first
  have hsorted : sorted.Pairwise fun r s => r.first ≤ s.first := by
    have htrans : ∀ r s t : CodeRange, decide (r.first ≤ s.first) = true → decide (s.first ≤ t.first) = true →
        decide (r.first ≤ t.first) = true := by
      simp only [decide_eq_true_eq]
      omega
    have htotal : ∀ r s : CodeRange, (decide (r.first ≤ s.first) || decide (s.first ≤ r.first)) = true := by
      simp only [Bool.or_eq_true, decide_eq_true_eq]
      omega
    simpa only [decide_eq_true_eq] using List.pairwise_mergeSort htrans htotal rs
  have hfold : contains (sorted.foldl joinStep []) c = sorted.contains c := by
    rw [contains_foldl_joinStep hsorted (by simp), show contains [] c = false from rfl, Bool.or_false]
  have hperm : sorted.contains c = rs.contains c := (List.mergeSort_perm rs _).any_eq
  rw [joined_eq, ← hperm, ← hfold]
  exact List.any_reverse

end Ranges

def LetterRuns.step (wanted : List Char → Bool) (width : Nat) (s : LetterRuns) (c : Char) : LetterRuns :=
  if c.isDigit || c.isLower then { s with length := 36 * s.length + base36Value c }
  else if s.name.length < width then { s with name := s.name ++ [c] }
  else { s.close wanted with name := [c] }

theorem ofLetterRuns_eq (wanted : List Char → Bool) (width : Nat) (text : String) :
    ofLetterRuns wanted width text =
      Ranges.joined ((text.toList.foldl (LetterRuns.step wanted width) ⟨[], 0, 0, []⟩).close wanted).found :=
  rfl

def LetterRuns.Extends (s t : LetterRuns) : Prop :=
  s.start ≤ t.start ∧ ∃ more, t.found = more ++ s.found ∧ ∀ r ∈ more, s.start ≤ r.first

namespace LetterRuns

theorem Extends.of_eq {s t : LetterRuns} (hstart : t.start = s.start) (hfound : t.found = s.found) : s.Extends t :=
  ⟨hstart.ge, [], hfound, nofun⟩

theorem Extends.trans {s t u : LetterRuns} (hst : s.Extends t) (htu : t.Extends u) : s.Extends u := by
  obtain ⟨hs, more, hmore, hfirst⟩ := hst
  obtain ⟨ht, later, hlater, hlast⟩ := htu
  refine ⟨hs.trans ht, later ++ more, by rw [hlater, hmore, List.append_assoc], fun r hr => ?_⟩
  rcases List.mem_append.mp hr with hr | hr
  · exact hs.trans (hlast r hr)
  · exact hfirst r hr

variable {wanted : List Char → Bool} {width : Nat}

theorem extends_close (wanted : List Char → Bool) (s : LetterRuns) : s.Extends (s.close wanted) := by
  unfold close
  split
  · exact .of_eq rfl rfl
  · refine ⟨Nat.le_add_right _ _, ?_⟩
    dsimp only
    split
    · exact ⟨[_], rfl, by simp⟩
    · exact ⟨[], rfl, nofun⟩

theorem extends_step (s : LetterRuns) (c : Char) : s.Extends (s.step wanted width c) := by
  unfold step
  split
  · exact .of_eq rfl rfl
  · split
    · exact .of_eq rfl rfl
    · exact (extends_close wanted s).trans (.of_eq rfl rfl)

theorem extends_foldl (s : LetterRuns) (cs : List Char) : s.Extends (cs.foldl (step wanted width) s) := by
  induction cs generalizing s with
  | nil => exact .of_eq rfl rfl
  | cons c rest ih => exact (s.extends_step c).trans (ih _)

theorem Extends.contains_eq {s t : LetterRuns} (h : s.Extends t) {c : Char} (hc : c.toNat < s.start) :
    Ranges.contains t.found c = Ranges.contains s.found c := by
  obtain ⟨_, more, hmore, hfirst⟩ := h
  rw [hmore, Ranges.contains_append, contains_eq_false hfirst hc, Bool.false_or]

end LetterRuns

/-- Of a text of named runs only the first part counts for characters that it covers. -/
theorem contains_ofLetterRuns {text : String} {p q : List Char} (htext : text.toList = p ++ q)
    (wanted : List Char → Bool) (width : Nat) {c : Char}
    (hc : c.toNat < (p.foldl (LetterRuns.step wanted width) ⟨[], 0, 0, []⟩).start) :
    (ofLetterRuns wanted width text).contains c =
      Ranges.contains (p.foldl (LetterRuns.step wanted width) ⟨[], 0, 0, []⟩).found c := by
  rw [ofLetterRuns_eq, Ranges.contains_joined, htext, List.foldl_append]
  exact ((LetterRuns.extends_foldl _ q).trans (LetterRuns.extends_close wanted _)).contains_eq hc

def numberLetters (name : List Char) : Bool := name.all ['N', 'O', 'P'].contains

/-- The numbers begin with the digits; the next one is `²`. -/
theorem number_of_ascii {c : Char} (hc : c.toNat < 128) : ((category? "n").getD []).contains c = c.isDigit := by
  have hcategory : category? "n" = some (ofLetterRuns numberLetters 1 categoryRuns) := by rfl
  let begun := "Aw/V3XV3WSVZVRV2NaV2Z3V2JqWVSYQYFqWZSZAx/".toList.foldl (LetterRuns.step numberLetters 1) ⟨[], 0, 0, []⟩
  have hstart : 128 ≤ begun.start := by decide +kernel
  have hfound : ∀ n : Fin 128, Ranges.contains begun.found (Char.ofNat n) = (Char.ofNat n).isDigit := by decide +kernel
  have hruns : (ofLetterRuns numberLetters 1 categoryRuns).contains c = Ranges.contains begun.found c := by
    unfold categoryRuns
    exact contains_ofLetterRuns (toList_join_cons (by rfl) _) numberLetters 1 (Nat.lt_of_lt_of_le hc hstart)
  rw [hcategory, Option.getD_some, hruns]
  exact ascii_induction (P := fun c => Ranges.contains begun.found c = c.isDigit) hfound hc

theorem alphanumeric_of_ascii {c : Char} (hc : c.toNat < 128) : alphanumeric.contains c = c.isAlphanum := by
  rw [alphanumeric, Ranges.contains_append, alphabetic_of_ascii hc, number_of_ascii hc]
  rfl

/-! ## Case mappings -/

theorem lookup_of_forall_lt {specials : List (Nat × List Nat)} {n : Nat} (h : ∀ e ∈ specials, n < e.1) :
    specials.lookup n = none := by
  refine List.lookup_eq_none_iff.mpr fun e he => ?_
  exact bne_iff_ne.mpr (h e he).ne

theorem lowerChar_of_ascii {c : Char} (hc : c.toNat < 128) : lowerChar c = [c.toLower] := by
  have hspecial : ∀ e ∈ lowerSpecials, 128 ≤ e.1 := by decide
  rw [lowerChar, lookup_of_forall_lt fun e he => hc.trans_le (hspecial e he)]
  exact ascii_induction (P := fun c => [Char.ofNat ((shifted? lowerRuns c.toNat).getD c.toNat)] = [c.toLower])
    (by decide) hc

theorem upperChar_of_ascii {c : Char} (hc : c.toNat < 128) : upperChar c = [c.toUpper] := by
  have hspecial : ∀ e ∈ upperSpecials, 128 ≤ e.1 := by decide
  rw [upperChar, lookup_of_forall_lt fun e he => hc.trans_le (hspecial e he)]
  exact ascii_induction (P := fun c => [Char.ofNat ((shifted? upperRuns c.toNat).getD c.toNat)] = [c.toUpper])
    (by decide) hc

end DocumentRepository.Text
