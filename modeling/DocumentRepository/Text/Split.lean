/-! # Splitting

A text is cut at every occurrence of a character, so `n` occurrences give `n + 1` pieces. -/
namespace DocumentRepository.Text

def consHead (c : Char) : List (List Char) → List (List Char)
  | [] => [[c]]
  | piece :: pieces => (c :: piece) :: pieces

/-- The pieces of a text between the occurrences of a character; there is always one. -/
def splitAt (separator : Char) : List Char → List (List Char)
  | [] => [[]]
  | c :: rest => if c = separator then [] :: splitAt separator rest else consHead c (splitAt separator rest)

def dropFront? : List Char → List Char → Option (List Char)
  | [], cs => some cs
  | _ :: _, [] => none
  | t :: ts, c :: cs => if t = c then dropFront? ts cs else none

def dropBack? (token cs : List Char) : Option (List Char) :=
  (dropFront? token.reverse cs.reverse).map List.reverse

def occursIn (token : List Char) : List Char → Bool
  | [] => token.isEmpty
  | c :: cs => (dropFront? token (c :: cs)).isSome || occursIn token cs

theorem consHead_ne_nil (c : Char) (pieces : List (List Char)) : consHead c pieces ≠ [] := by
  cases pieces <;> simp [consHead]

theorem splitAt_ne_nil (separator : Char) (cs : List Char) : splitAt separator cs ≠ [] := by
  cases cs with
  | nil => simp [splitAt]
  | cons c rest =>
    by_cases h : c = separator
    · simp [splitAt, h]
    · simpa [splitAt, h] using consHead_ne_nil c _

theorem length_consHead {pieces : List (List Char)} (h : pieces ≠ []) (c : Char) :
    (consHead c pieces).length = pieces.length := by
  cases pieces with
  | nil => exact absurd rfl h
  | cons piece pieces => rfl

theorem length_splitAt (separator : Char) (cs : List Char) :
    (splitAt separator cs).length = cs.count separator + 1 := by
  induction cs with
  | nil => rfl
  | cons c rest ih =>
    by_cases h : c = separator
    · simp [splitAt, h, ih]
    · simp [splitAt, h, length_consHead (splitAt_ne_nil separator rest), ih]

/-- A text without the character stays in one piece. -/
theorem splitAt_of_notMem {separator : Char} {cs : List Char} (h : separator ∉ cs) : splitAt separator cs = [cs] := by
  induction cs with
  | nil => rfl
  | cons c rest ih =>
    rw [List.mem_cons, not_or] at h
    obtain ⟨hc, hrest⟩ := h
    simp [splitAt, Ne.symm hc, ih hrest, consHead]

/-- A text is cut behind a front without the character. -/
theorem splitAt_append {separator : Char} {front : List Char} (h : separator ∉ front) (rest : List Char) :
    splitAt separator (front ++ separator :: rest) = front :: splitAt separator rest := by
  induction front with
  | nil => simp [splitAt]
  | cons c front ih =>
    rw [List.mem_cons, not_or] at h
    obtain ⟨hc, hfront⟩ := h
    simp [splitAt, Ne.symm hc, ih hfront, consHead]

/-- Pieces without the character are read back from the text that it joins them to. -/
theorem splitAt_intercalate {separator : Char} {pieces : List (List Char)} (hne : pieces ≠ [])
    (h : ∀ piece ∈ pieces, separator ∉ piece) : splitAt separator ([separator].intercalate pieces) = pieces := by
  induction pieces with
  | nil => exact absurd rfl hne
  | cons piece rest ih =>
    obtain ⟨hpiece, hrest⟩ := List.forall_mem_cons.mp h
    by_cases hlast : rest = []
    · rw [hlast, List.intercalate_singleton, splitAt_of_notMem hpiece]
    · rw [List.intercalate_cons_of_ne_nil hlast, List.append_assoc, List.singleton_append, splitAt_append hpiece,
        ih hlast hrest]

theorem intercalate_consHead (separator c : Char) {pieces : List (List Char)} (h : pieces ≠ []) :
    [separator].intercalate (consHead c pieces) = c :: [separator].intercalate pieces := by
  obtain ⟨piece, rest, rfl⟩ := List.exists_cons_of_ne_nil h
  by_cases hlast : rest = []
  · rw [hlast, consHead, List.intercalate_singleton, List.intercalate_singleton]
  · rw [consHead, List.intercalate_cons_of_ne_nil hlast, List.intercalate_cons_of_ne_nil hlast]
    rfl

/-- The character joins the pieces of a text to the text. -/
theorem intercalate_splitAt (separator : Char) (cs : List Char) : [separator].intercalate (splitAt separator cs) = cs := by
  induction cs with
  | nil => rfl
  | cons c rest ih =>
    rw [splitAt]
    split
    · rename_i hc
      rw [List.intercalate_cons_of_ne_nil (splitAt_ne_nil separator rest), ih, hc]
      rfl
    · rw [intercalate_consHead separator c (splitAt_ne_nil separator rest), ih]

theorem notMem_of_mem_splitAt {separator : Char} {cs piece : List Char} (h : piece ∈ splitAt separator cs) :
    separator ∉ piece := by
  induction cs generalizing piece with
  | nil => simp_all [splitAt]
  | cons c rest ih =>
    rw [splitAt] at h
    split at h
    · rcases List.mem_cons.mp h with rfl | h
      · exact List.not_mem_nil
      · exact ih h
    · rename_i hc
      cases hpieces : splitAt separator rest with
      | nil => exact absurd hpieces (splitAt_ne_nil separator rest)
      | cons first pieces =>
        rw [hpieces] at h ih
        rcases List.mem_cons.mp h with rfl | h
        · exact fun hmem => (List.mem_cons.mp hmem).elim (Ne.symm hc) (ih List.mem_cons_self)
        · exact ih (List.mem_cons_of_mem first h)

theorem dropFront?_eq_some_iff {token cs rest : List Char} :
    dropFront? token cs = some rest ↔ cs = token ++ rest := by
  induction token generalizing cs with
  | nil => simp [dropFront?]
  | cons t ts ih =>
    cases cs with
    | nil => simp [dropFront?]
    | cons c cs => by_cases h : t = c <;> simp [dropFront?, h, ih, eq_comm]

theorem dropBack?_eq_some_iff {token cs front : List Char} :
    dropBack? token cs = some front ↔ cs = front ++ token := by
  simp only [dropBack?, Option.map_eq_some_iff, dropFront?_eq_some_iff]
  constructor
  · rintro ⟨a, ha, rfl⟩
    have := congrArg List.reverse ha
    simpa using this
  · rintro rfl
    exact ⟨front.reverse, by simp, by simp⟩

theorem isSome_dropFront?_iff {token cs : List Char} : (dropFront? token cs).isSome = true ↔ token <+: cs := by
  rw [Option.isSome_iff_exists]
  exact exists_congr fun rest => dropFront?_eq_some_iff.trans eq_comm

theorem occursIn_iff {token cs : List Char} : occursIn token cs = true ↔ token <:+: cs := by
  induction cs with
  | nil => simp [occursIn]
  | cons c cs ih => rw [occursIn, Bool.or_eq_true, isSome_dropFront?_iff, ih, List.infix_cons_iff]

end DocumentRepository.Text
