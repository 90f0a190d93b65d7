import DocumentRepository.Proofs.Text.Ascii

/-! # Words and pieces

The pieces of an identifier stand between its underscores. Its words are the pieces, cut once more in front of
capitals; nothing is lost there, and no word is empty.
-/
namespace DocumentRepository.Text

/-! ## Cutting one piece -/

section
variable {mode : WordCase} {word cs : List Char}

theorem cutWords_flatten (mode : WordCase) (word cs : List Char) :
    (cutWords mode word cs).flatten = word.reverse ++ cs := by
  -- the end with and without a word, the last character, a cut behind `c`, a cut before it, and none
  fun_induction cutWords mode word cs with
  | case1 mode word hempty => simp_all
  | case2 mode word hempty => simp
  | case3 mode word c => simp
  | case4 mode word c next rest nextMode hcut ih => simp [ih]
  | case5 mode word c next rest nextMode hcut hcut' ih => simp [ih]
  | case6 mode word c next rest nextMode hcut hcut' ih => simp [ih]

/-- Capitals have been read of a word that is being read, if the last case was a capital one. -/
theorem ne_nil_of_mem_cutWords (hmode : mode = .capital → word ≠ []) {w : List Char} (hw : w ∈ cutWords mode word cs) :
    w ≠ [] := by
  fun_induction cutWords mode word cs with
  | case1 mode word hempty => cases hw
  | case2 mode word hempty => simp_all
  | case3 mode word c => simp_all
  | case4 mode word c next rest nextMode hcut ih =>
    rcases List.mem_cons.mp hw with rfl | hw
    · simp
    · exact ih nofun hw
  | case5 mode word c next rest nextMode hcut hcut' ih =>
    rcases List.mem_cons.mp hw with rfl | hw
    · simpa using hmode hcut'.1
    · exact ih nofun hw
  | case6 mode word c next rest nextMode hcut hcut' ih => exact ih (by simp) hw

/-- Without a capital there is nowhere to cut. -/
theorem cutWords_eq_singleton (hcs : ∀ c ∈ cs, isCapital c = false) (hne : word.reverse ++ cs ≠ []) :
    cutWords mode word cs = [word.reverse ++ cs] := by
  fun_induction cutWords mode word cs with
  | case1 mode word hempty => simp_all
  | case2 mode word hempty => simp
  | case3 mode word c => simp
  | case4 mode word c next rest nextMode hcut ih => simp [hcs next (by simp)] at hcut
  | case5 mode word c next rest nextMode hcut hcut' ih => simp [hcs c (by simp)] at hcut'
  | case6 mode word c next rest nextMode hcut hcut' ih =>
    rw [ih (fun d hd => hcs d (List.mem_cons_of_mem c hd)) (by simp)]
    simp

theorem head_cutWords (hmode : mode = .capital → word ≠ []) :
    (cutWords mode word cs).head?.bind List.head? = (word.reverse ++ cs).head? := by
  have hne : ∀ w ∈ cutWords mode word cs, w ≠ [] := fun w hw => ne_nil_of_mem_cutWords hmode hw
  rw [← cutWords_flatten mode word cs]
  match h : cutWords mode word cs with
  | [] => rfl
  | [] :: ws => exact absurd rfl (hne [] (by simp [h]))
  | (c :: w) :: ws => rfl

def CapitalStart (w : List Char) : Prop := ∃ c ∈ w.head?, isCapital c = true

/-- If the text begins with a capital, its first word does. -/
theorem capitalStart_of_mem {c : Char} (hc : (word.reverse ++ cs).head? = some c) (hcapital : isCapital c = true)
    (htail : ∀ w ∈ (cutWords .undecided word cs).tail, CapitalStart w) :
    ∀ w ∈ cutWords .undecided word cs, CapitalStart w := by
  have hhead : (cutWords .undecided word cs).head?.bind List.head? = (word.reverse ++ cs).head? := head_cutWords nofun
  intro w hw
  match h : cutWords .undecided word cs with
  | [] => simp [h] at hw
  | v :: vs =>
    rw [h] at hw hhead htail
    rcases List.mem_cons.mp hw with rfl | hw
    · exact ⟨c, by simpa [hc] using hhead, hcapital⟩
    · exact htail w hw

theorem capitalStart_of_mem_tail (hmode : mode = .capital → word ≠ []) :
    ∀ w ∈ (cutWords mode word cs).tail, CapitalStart w := by
  fun_induction cutWords mode word cs with
  | case1 mode word hempty => nofun
  | case2 mode word hempty => nofun
  | case3 mode word c => nofun
  | case4 mode word c next rest nextMode hcut ih => exact capitalStart_of_mem rfl hcut.2 (ih nofun)
  | case5 mode word c next rest nextMode hcut hcut' ih => exact capitalStart_of_mem rfl hcut'.2.1 (ih nofun)
  | case6 mode word c next rest nextMode hcut hcut' ih => exact ih (by simp)

end

/-! ## Names in ASCII -/

structure AsciiName (name : String) : Prop where
  ne_nil : name.toList ≠ []
  chars : ∀ c ∈ name.toList, c.isAlphanum = true ∨ c = '_'

theorem ascii_of_alphanum {c : Char} (h : c.isAlphanum = true) : c.toNat < 128 := by
  have hbound : ∀ {last : UInt32}, c.val ≤ last → last.toNat < 128 → c.toNat < 128 := fun hle hlast =>
    Nat.lt_of_le_of_lt (UInt32.le_iff_toNat_le.mp hle) hlast
  rcases Bool.or_eq_true_iff.mp h with h | h
  · rcases Bool.or_eq_true_iff.mp h with h | h
    · exact hbound (of_decide_eq_true h).2 (by decide)
    · exact hbound (of_decide_eq_true (Bool.and_eq_true_iff.mp h).2) (by decide)
  · exact hbound (of_decide_eq_true (Bool.and_eq_true_iff.mp h).2) (by decide)

theorem alphanum_of_isLower {c : Char} (h : c.isLower = true) : c.isAlphanum = true :=
  Bool.or_eq_true_iff.mpr (.inl (Bool.or_eq_true_iff.mpr (.inr h)))

theorem alphanum_of_isDigit {c : Char} (h : c.isDigit = true) : c.isAlphanum = true :=
  Bool.or_eq_true_iff.mpr (.inr h)

theorem alphanum_ne_underscore {c : Char} (h : c.isAlphanum = true) : c ≠ '_' := by
  rintro rfl
  exact absurd h (by decide)

def pieces (name : String) : List (List Char) := name.toList.splitOn '_'

theorem intercalate_pieces (name : String) : ['_'].intercalate (pieces name) = name.toList :=
  List.intercalate_splitOn '_'

theorem alphanumericRuns_eq (run cs : List Char) (h : ∀ c ∈ cs, c.isAlphanum = true ∨ c = '_') :
    alphanumericRuns run cs = cs.splitOnPPrepend (· == '_') run := by
  induction cs generalizing run with
  | nil => rfl
  | cons c rest ih =>
    have hrest : ∀ d ∈ rest, d.isAlphanum = true ∨ d = '_' := fun d hd => h d (List.mem_cons_of_mem c hd)
    unfold alphanumericRuns
    rcases h c List.mem_cons_self with hc | rfl
    · have hplain : (c == '_') = false := beq_false_of_ne (alphanum_ne_underscore hc)
      rw [List.splitOnPPrepend_cons_neg (p := (· == '_')) hplain, alphanumeric_of_ascii (ascii_of_alphanum hc), if_pos hc,
        ih (c :: run) hrest]
    · rw [List.splitOnPPrepend_cons_pos rfl, alphanumeric_of_ascii (by decide), if_neg (by decide), ih [] hrest]
      rfl

theorem mem_splitOn {cs p : List Char} (hp : p ∈ cs.splitOn '_') {c : Char} (hc : c ∈ p) : c ∈ cs ∧ c ≠ '_' := by
  induction cs generalizing p with
  | nil => simp_all
  | cons d rest ih =>
    rw [List.splitOn_cons_eq_if_modifyHead] at hp
    split at hp
    · rcases List.mem_cons.mp hp with rfl | hp
      · cases hc
      · exact ⟨List.mem_cons_of_mem d (ih hp hc).1, (ih hp hc).2⟩
    · rename_i hd
      match h : rest.splitOn '_' with
      | [] => exact absurd h (List.splitOn_ne_nil _ _)
      | q :: qs =>
        rw [h, List.modifyHead_cons] at hp
        rw [h] at ih
        rcases List.mem_cons.mp hp with rfl | hp
        · rcases List.mem_cons.mp hc with rfl | hc
          · exact ⟨List.mem_cons_self, by simpa using hd⟩
          · exact ⟨List.mem_cons_of_mem d (ih List.mem_cons_self hc).1, (ih List.mem_cons_self hc).2⟩
        · have hq := ih (List.mem_cons_of_mem q hp) hc
          exact ⟨List.mem_cons_of_mem d hq.1, hq.2⟩

namespace AsciiName

variable {name : String} (h : AsciiName name)
include h

theorem ascii : ∀ c ∈ name.toList, c.toNat < 128 := by
  intro c hc
  rcases h.chars c hc with hc | rfl
  · exact ascii_of_alphanum hc
  · decide

theorem words_eq : words name = (pieces name).flatMap (cutWords .undecided []) := by
  rw [words, alphanumericRuns_eq [] _ h.chars]
  rfl

theorem words_flatten : (words name).flatten = (pieces name).flatten := by
  rw [h.words_eq]
  induction pieces name with
  | nil => rfl
  | cons p rest ih =>
    rw [List.flatMap_cons, List.flatten_append, cutWords_flatten, ih]
    rfl

theorem alphanum_of_mem_piece : ∀ p ∈ pieces name, ∀ c ∈ p, c.isAlphanum = true := by
  intro p hp c hc
  obtain ⟨hmem, hne⟩ := mem_splitOn hp hc
  exact (h.chars c hmem).resolve_right hne

theorem alphanum_of_mem_word : ∀ w ∈ words name, ∀ c ∈ w, c.isAlphanum = true := by
  intro w hw c hc
  have hflat : c ∈ (words name).flatten := List.mem_flatten_of_mem hw hc
  rw [h.words_flatten] at hflat
  obtain ⟨p, hp, hcp⟩ := List.mem_flatten.mp hflat
  exact h.alphanum_of_mem_piece p hp c hcp

theorem word_ne_nil {w : List Char} (hw : w ∈ words name) : w ≠ [] := by
  rw [h.words_eq] at hw
  obtain ⟨p, -, hw⟩ := List.mem_flatMap.mp hw
  exact ne_nil_of_mem_cutWords (by nofun) hw

/-- Without capitals the words are the pieces, the empty ones left out. -/
theorem words_eq_filter (hsmall : ∀ c ∈ name.toList, c.isUpper = false) :
    words name = (pieces name).filter (!·.isEmpty) := by
  have hplain : ∀ p ∈ pieces name, ∀ c ∈ p, isCapital c = false := by
    intro p hp c hc
    have hmem : c ∈ name.toList := (mem_splitOn hp hc).1
    rw [isCapital_of_ascii (h.ascii c hmem), hsmall c hmem]
  rw [h.words_eq]
  generalize pieces name = ps at hplain
  induction ps with
  | nil => rfl
  | cons p rest ih =>
    rw [List.flatMap_cons, ih fun q hq => hplain q (List.mem_cons_of_mem p hq)]
    match p with
    | [] => rfl
    | c :: cs =>
      have hone : cutWords .undecided [] (c :: cs) = [c :: cs] :=
        cutWords_eq_singleton (hplain _ List.mem_cons_self) (List.cons_ne_nil c cs)
      rw [hone]
      rfl

end AsciiName

end DocumentRepository.Text
