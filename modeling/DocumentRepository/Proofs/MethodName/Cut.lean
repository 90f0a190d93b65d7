import DocumentRepository.MethodName.Chain
import Mathlib.Data.List.Infix
import Mathlib.Data.Nat.Find

/-! # Where a text is cut

A token cuts a text wherever it stands with a capital right behind it. The pieces of a text are such that
the token joins them at these places and at no other, and there is only one such list of pieces. A token
that is a capital with no capital behind it never stands across the joint of two texts of which the second
starts with a capital, so the places in a joined text are known from its pieces.
-/
namespace DocumentRepository.MethodName

open Text (dropFront? dropFront?_eq_some_iff consHead)

variable {token token' cs front rest xs ys : List Char} {segments : List (List Char)} {i : Nat}

/-- A token stands at a place of a text with a capital right behind it. -/
def CutsAt (token cs : List Char) (i : Nat) : Prop :=
  ∃ c tail, cs.drop i = token ++ c :: tail ∧ c.isUpper = true

def JoinsAt (token : List Char) (segments : List (List Char)) (i : Nat) : Prop :=
  ∃ before after, before ≠ [] ∧ after ≠ [] ∧ segments = before ++ after ∧ i = (token.intercalate before).length

/-- The pieces of a text that is cut wherever a capital follows the token. -/
structure IsCut (token cs : List Char) (segments : List (List Char)) : Prop where
  joined : token.intercalate segments = cs
  ne_nil : segments ≠ []
  cuts_iff : ∀ i, CutsAt token cs i ↔ JoinsAt token segments i

theorem startsCapital_iff : startsCapital cs = true ↔ ∃ c tail, cs = c :: tail ∧ c.isUpper = true := by
  cases cs <;> simp [startsCapital]

theorem cutsAt_token_append_iff : CutsAt token (token ++ rest) 0 ↔ startsCapital rest = true := by
  simp [CutsAt, startsCapital_iff]

theorem cutsHere_iff : cutsHere token cs = true ↔ CutsAt token cs 0 := by
  unfold cutsHere
  cases h : dropFront? token cs with
  | some rest =>
    rw [dropFront?_eq_some_iff] at h
    subst h
    exact cutsAt_token_append_iff.symm
  | none =>
    simp only [Bool.false_eq_true, false_iff]
    rintro ⟨c, tail, hcs, -⟩
    have hfound := dropFront?_eq_some_iff.mpr (List.drop_zero ▸ hcs)
    rw [h] at hfound
    cases hfound

theorem CutsAt.isPrefix (h : CutsAt token cs i) : token <+: cs.drop i := by
  obtain ⟨c, tail, hcs, -⟩ := h
  exact ⟨c :: tail, hcs.symm⟩

theorem cutsAt_append_iff (front : List Char) : CutsAt token (front ++ cs) (front.length + i) ↔ CutsAt token cs i := by
  rw [CutsAt, CutsAt, List.drop_append, Nat.add_sub_cancel_left, List.drop_of_length_le (Nat.le_add_right _ _),
    List.nil_append]

theorem not_joinsAt_singleton (segment : List Char) : ¬JoinsAt token [segment] i := by
  rintro ⟨before, after, hbefore, hafter, hsplit, -⟩
  rcases List.append_eq_singleton_iff.mp hsplit.symm with ⟨rfl, -⟩ | ⟨-, rfl⟩
  · exact hbefore rfl
  · exact hafter rfl

/-- The first joint comes right after the first piece, and the others behind the token there. -/
theorem joinsAt_cons_iff (hne : segments ≠ []) :
    JoinsAt token (front :: segments) i ↔
      i = front.length ∨ ∃ j, i = front.length + (token.length + j) ∧ JoinsAt token segments j := by
  have hjoin : ∀ before : List (List Char), before ≠ [] →
      token.intercalate (front :: before) = front ++ (token ++ token.intercalate before) := by
    intro before hbefore
    obtain ⟨s, tail, rfl⟩ := List.exists_cons_of_ne_nil hbefore
    rw [List.intercalate_cons_cons, List.append_assoc]
  constructor
  · rintro ⟨before, after, hbefore, hafter, hsplit, rfl⟩
    obtain ⟨s, before, rfl⟩ := List.exists_cons_of_ne_nil hbefore
    obtain ⟨rfl, rfl⟩ := List.cons.inj hsplit
    by_cases hlast : before = []
    · left
      rw [hlast, List.intercalate_singleton]
    · right
      exact ⟨_, by simp [hjoin before hlast], before, after, hlast, hafter, rfl, rfl⟩
  · rintro (rfl | ⟨j, rfl, before, after, hbefore, hafter, rfl, rfl⟩)
    · exact ⟨[front], segments, List.cons_ne_nil _ _, hne, rfl, by rw [List.intercalate_singleton]⟩
    · exact ⟨front :: before, after, List.cons_ne_nil _ _, hafter, rfl, by simp [hjoin before hbefore]⟩

theorem cutSegments_skip (xs rest : List Char) : cutSegments token xs.length (xs ++ rest) = cutSegments token 0 rest := by
  induction xs with
  | nil => rfl
  | cons x xs ih => simpa [cutSegments] using ih

theorem cutSegments_of_uncut (h : ∀ i, ¬CutsAt token cs i) : cutSegments token 0 cs = [cs] := by
  induction cs with
  | nil => rfl
  | cons c cs ih =>
    have hhere : cutsHere token (c :: cs) = false := Bool.eq_false_iff.mpr fun hcut => h 0 (cutsHere_iff.mp hcut)
    have hrest : cutSegments token 0 cs = [cs] := ih fun i hcut => h (i + 1) hcut
    simp [cutSegments, hhere, hrest, consHead]

/-- A text is cut at the first place where it can be. -/
theorem cutSegments_append (htoken : token ≠ []) (hrest : startsCapital rest = true)
    (hfront : ∀ i < front.length, ¬CutsAt token (front ++ (token ++ rest)) i) :
    cutSegments token 0 (front ++ (token ++ rest)) = front :: cutSegments token 0 rest := by
  induction front with
  | nil =>
    have hhere : cutsHere token (token ++ rest) = true := cutsHere_iff.mpr (cutsAt_token_append_iff.mpr hrest)
    obtain ⟨t, ts, rfl⟩ := List.exists_cons_of_ne_nil htoken
    simp only [List.cons_append] at hhere
    simp [cutSegments, hhere, cutSegments_skip]
  | cons c front ih =>
    have hhere : cutsHere token (c :: (front ++ (token ++ rest))) = false :=
      Bool.eq_false_iff.mpr fun hcut => hfront 0 (Nat.succ_pos _) (cutsHere_iff.mp hcut)
    have hlater : cutSegments token 0 (front ++ (token ++ rest)) = front :: cutSegments token 0 rest :=
      ih fun i hi hcut => hfront (i + 1) (Nat.succ_lt_succ hi) hcut
    simp [cutSegments, hhere, hlater, consHead]

theorem IsCut.cutSegments_eq (htoken : token ≠ []) (h : IsCut token cs segments) : cutSegments token 0 cs = segments := by
  obtain ⟨rfl, hne, hcuts⟩ := h
  induction segments with
  | nil => exact absurd rfl hne
  | cons front segments ih =>
    by_cases hlast : segments = []
    · subst hlast
      rw [List.intercalate_singleton] at hcuts ⊢
      exact cutSegments_of_uncut fun i hcut => not_joinsAt_singleton front ((hcuts i).mp hcut)
    · obtain ⟨s, tail, rfl⟩ := List.exists_cons_of_ne_nil hlast
      rw [List.intercalate_cons_cons, List.append_assoc] at hcuts ⊢
      have hfirst : CutsAt token (front ++ (token ++ token.intercalate (s :: tail))) front.length :=
        (hcuts _).mpr ((joinsAt_cons_iff hlast).mpr (Or.inl rfl))
      have hrest : startsCapital (token.intercalate (s :: tail)) = true :=
        cutsAt_token_append_iff.mp ((cutsAt_append_iff front).mp hfirst)
      have hbefore : ∀ i < front.length, ¬CutsAt token (front ++ (token ++ token.intercalate (s :: tail))) i := by
        intro i hi hcut
        rcases (joinsAt_cons_iff hlast).mp ((hcuts i).mp hcut) with rfl | ⟨j, rfl, -⟩ <;> omega
      rw [cutSegments_append htoken hrest hbefore, ih hlast]
      intro j
      rw [← cutsAt_append_iff token, ← cutsAt_append_iff front, hcuts, joinsAt_cons_iff hlast]
      constructor
      · rintro (heq | ⟨k, heq, hjoin⟩)
        · have := List.length_pos_iff.mpr htoken
          omega
        · have hk : j = k := by omega
          exact hk ▸ hjoin
      · exact fun hjoin => Or.inr ⟨j, rfl, hjoin⟩

/-- A capital with no capital behind it. -/
def CamelWord (token : List Char) : Prop := ∃ c small, token = c :: small ∧ c.isUpper = true ∧ ∀ x ∈ small, x.isUpper = false

theorem camelWord_token (c : Combinator) : CamelWord c.token.toList := by
  cases c with
  | and => exact ⟨'A', ['n', 'd'], rfl, rfl, List.forall_mem_cons.mpr ⟨rfl, List.forall_mem_singleton.mpr rfl⟩⟩
  | or => exact ⟨'O', ['r'], rfl, rfl, List.forall_mem_singleton.mpr rfl⟩

namespace CamelWord

theorem ne_nil (h : CamelWord token) : token ≠ [] := by
  obtain ⟨c, small, rfl, -⟩ := h
  exact List.cons_ne_nil c small

theorem startsCapital_append (h : CamelWord token) (rest : List Char) : startsCapital (token ++ rest) = true := by
  obtain ⟨c, small, rfl, hc, -⟩ := h
  exact hc

theorem isUpper_eq_false (h : CamelWord token) {x : Char} {before after : List Char} (hbefore : before ≠ [])
    (hsplit : token = before ++ x :: after) : x.isUpper = false := by
  obtain ⟨c, small, rfl, -, hsmall⟩ := h
  obtain ⟨b, before, rfl⟩ := List.exists_cons_of_ne_nil hbefore
  obtain ⟨-, rfl⟩ := List.cons.inj hsplit
  exact hsmall x (by simp)

theorem eq_nil_of_joint {before after : List Char} (h : CamelWord (before ++ after)) (hbefore : before ≠ [])
    (hafter : after <+: ys) (hys : ys = [] ∨ startsCapital ys = true) : after = [] := by
  cases after with
  | nil => rfl
  | cons x after =>
    have hsmall := h.isUpper_eq_false hbefore rfl
    rcases hys with rfl | hcapital
    · cases List.prefix_nil.mp hafter
    · obtain ⟨c, tail, rfl, hc⟩ := startsCapital_iff.mp hcapital
      obtain ⟨rfl, -⟩ := List.cons_prefix_cons.mp hafter
      rw [hc] at hsmall
      cases hsmall

/-- The word does not stand across a joint with a capital behind it. -/
theorem prefix_of_append (h : CamelWord token) (hxs : xs ≠ []) (hys : ys = [] ∨ startsCapital ys = true)
    (hstart : token <+: xs ++ ys) : token <+: xs := by
  rcases List.prefix_or_prefix_of_prefix hstart (List.prefix_append xs ys) with hin | ⟨after, rfl⟩
  · exact hin
  · rw [List.prefix_append_right_inj] at hstart
    rw [h.eq_nil_of_joint hxs hstart hys, List.append_nil]

theorem infix_append_iff (h : CamelWord token) (hys : ys = [] ∨ startsCapital ys = true) :
    token <:+: xs ++ ys ↔ token <:+: xs ∨ token <:+: ys := by
  rw [List.infix_append_iff]
  constructor
  · rintro (hxs | hafter | ⟨before, after, rfl, hxs, hafter⟩)
    · exact Or.inl hxs
    · exact Or.inr hafter
    · by_cases hbefore : before = []
      · subst hbefore
        exact Or.inr hafter.isInfix
      · rw [h.eq_nil_of_joint hbefore hafter hys, List.append_nil]
        exact Or.inl hxs.isInfix
  · rintro (hxs | hafter)
    · exact Or.inl hxs
    · exact Or.inr (Or.inl hafter)

/-- Where the word stands, it stands at no other place that it covers. -/
theorem not_prefix_inside (h : CamelWord token) {j : Nat} (hpos : 0 < j) (hlt : j < token.length) :
    ¬token <+: (token ++ rest).drop j := by
  intro hstart
  rw [List.drop_append_of_le_length hlt.le, List.drop_eq_getElem_cons hlt] at hstart
  have hsplit : token = token.take j ++ token[j] :: token.drop (j + 1) := by
    rw [← List.drop_eq_getElem_cons hlt, List.take_append_drop]
  have hbefore : token.take j ≠ [] := List.length_pos_iff.mp (by rw [List.length_take]; omega)
  have hsmall : token[j].isUpper = false := h.isUpper_eq_false hbefore hsplit
  obtain ⟨c, small, rfl, hc, -⟩ := h
  obtain ⟨hfirst, -⟩ := List.cons_prefix_cons.mp hstart
  rw [← hfirst, hc] at hsmall
  cases hsmall

end CamelWord

theorem isCut_singleton (h : ∀ i, ¬CutsAt token cs i) : IsCut token cs [cs] :=
  ⟨List.intercalate_singleton, List.cons_ne_nil _ _, fun i => iff_of_false (h i) (not_joinsAt_singleton cs)⟩

theorem IsCut.cons (htoken : CamelWord token) (hrest : startsCapital rest = true)
    (hfront : ∀ i < front.length, ¬CutsAt token (front ++ (token ++ rest)) i) (h : IsCut token rest segments) :
    IsCut token (front ++ (token ++ rest)) (front :: segments) := by
  refine ⟨?_, List.cons_ne_nil _ _, fun i => ?_⟩
  · obtain ⟨s, tail, rfl⟩ := List.exists_cons_of_ne_nil h.ne_nil
    rw [List.intercalate_cons_cons, List.append_assoc, h.joined]
  rw [joinsAt_cons_iff h.ne_nil]
  by_cases hbefore : i < front.length
  · refine iff_of_false (hfront i hbefore) ?_
    rintro (rfl | ⟨j, rfl, -⟩) <;> omega
  · obtain ⟨k, rfl⟩ := Nat.exists_eq_add_of_le (Nat.le_of_not_lt hbefore)
    rw [cutsAt_append_iff]
    -- at the token, inside it or behind it
    by_cases hzero : k = 0
    · subst hzero
      exact iff_of_true (cutsAt_token_append_iff.mpr hrest) (Or.inl rfl)
    by_cases hinside : k < token.length
    · refine iff_of_false ?_ ?_
      · exact fun hcut => htoken.not_prefix_inside (Nat.pos_of_ne_zero hzero) hinside hcut.isPrefix
      · rintro (heq | ⟨j, heq, -⟩) <;> omega
    · obtain ⟨j, rfl⟩ := Nat.exists_eq_add_of_le (Nat.le_of_not_lt hinside)
      rw [cutsAt_append_iff, h.cuts_iff]
      constructor
      · exact fun hjoin => Or.inr ⟨j, rfl, hjoin⟩
      · rintro (heq | ⟨j', heq, hjoin⟩)
        · omega
        · have hj : j = j' := by omega
          exact hj ▸ hjoin

theorem isCut_cutSegments (htoken : CamelWord token) (cs : List Char) : IsCut token cs (cutSegments token 0 cs) := by
  classical
  by_cases hcut : ∃ i, CutsAt token cs i
  · obtain ⟨c, tail, hplace, hc⟩ := Nat.find_spec hcut
    have hcs : cs = cs.take (Nat.find hcut) ++ (token ++ c :: tail) := by rw [← hplace, List.take_append_drop]
    have hrest : startsCapital (c :: tail) = true := hc
    have hfront : ∀ i < (cs.take (Nat.find hcut)).length,
        ¬CutsAt token (cs.take (Nat.find hcut) ++ (token ++ c :: tail)) i := by
      intro i hi
      rw [← hcs]
      exact Nat.find_min hcut (lt_of_lt_of_le hi (List.length_take_le _ _))
    have hshorter : (c :: tail).length < cs.length := by
      have hlength := congrArg List.length hcs
      have := List.length_pos_iff.mpr htoken.ne_nil
      simp only [List.length_append] at hlength
      omega
    have hrec := isCut_cutSegments htoken (c :: tail)
    rw [hcs, cutSegments_append htoken.ne_nil hrest hfront]
    exact hrec.cons htoken hrest hfront
  · rw [not_exists] at hcut
    rw [cutSegments_of_uncut hcut]
    exact isCut_singleton hcut
termination_by cs.length

/-- The pieces that a text is cut into are the only ones. -/
theorem isCut_iff (htoken : CamelWord token) : IsCut token cs segments ↔ cutSegments token 0 cs = segments := by
  constructor
  · exact IsCut.cutSegments_eq htoken.ne_nil
  · rintro rfl
    exact isCut_cutSegments htoken cs

/-- Pieces that start with a capital and do not hold the token are got back from the text that it joins them to. -/
theorem isCut_intercalate (htoken : CamelWord token) (hne : segments ≠ [])
    (hsegments : ∀ s ∈ segments, startsCapital s = true ∧ ¬token <:+: s) :
    IsCut token (token.intercalate segments) segments := by
  induction segments with
  | nil => exact absurd rfl hne
  | cons front segments ih =>
    obtain ⟨⟨-, hfree⟩, hrest⟩ := List.forall_mem_cons.mp hsegments
    by_cases hlast : segments = []
    · subst hlast
      rw [List.intercalate_singleton]
      exact isCut_singleton fun i hcut => hfree (hcut.isPrefix.isInfix.trans (List.drop_suffix i front).isInfix)
    · have hcut := ih hlast hrest
      obtain ⟨s, tail, rfl⟩ := List.exists_cons_of_ne_nil hlast
      have hcapital : startsCapital (token.intercalate (s :: tail)) = true := by
        obtain ⟨c, chars, rfl, hc⟩ := startsCapital_iff.mp (hrest s List.mem_cons_self).1
        cases tail with
        | nil => simpa [startsCapital] using hc
        | cons s' tail => simpa [List.intercalate_cons_cons, startsCapital] using hc
      rw [List.intercalate_cons_cons, List.append_assoc]
      refine hcut.cons htoken hcapital fun i hi hplace => ?_
      have hstart := hplace.isPrefix
      rw [List.drop_append_of_le_length hi.le] at hstart
      have hleft : front.drop i ≠ [] := List.length_pos_iff.mp (by rw [List.length_drop]; omega)
      have hin := htoken.prefix_of_append hleft (Or.inr (htoken.startsCapital_append _)) hstart
      exact hfree (hin.isInfix.trans (List.drop_suffix i front).isInfix)

end DocumentRepository.MethodName
