import DocumentRepository.Proofs.Pattern.Search
import DocumentRepository.Query.Compile
import Mathlib.Data.List.Forall2

/-! # Patterns made of a plain text

A character that is no operator stands for itself. So the pattern around a plain text is read as its characters in
a row, and a search finds what agrees with them but for case: the whole text between two ends, or a part of it.
-/
namespace DocumentRepository

/-- Texts that agree character by character but for case. -/
def Text.Alike (as bs : List Char) : Prop := List.Forall₂ (fun a b => fold a.toNat = fold b.toNat) as bs

instance (as bs : List Char) : Decidable (Text.Alike as bs) := inferInstanceAs (Decidable (List.Forall₂ _ as bs))

theorem Text.Alike.refl (cs : List Char) : Alike cs cs := List.forall₂_same.mpr fun _ _ => rfl

namespace Pattern
open Text

/-- The characters that do not stand for themselves. -/
def operators : List Char := ['(', ')', '[', '\x7b', '|', '?', '*', '+', '.', '^', '$', '\\']

def caselessFlags : Flags := { Flags.plain with caseless := true }

variable {text cs rest : List Char} {c : Char} {i j k : Nat} {inner : Bool} {names : List String} {row : Row}

/-! ## Characters in a row -/

namespace Node

def literal (c : Char) : Node := .set (.alike c.toNat)

theorem spans_literal : (literal c).Spans text i j ↔ j = i + 1 ∧ ∃ d, text[i]? = some d ∧ fold d.toNat = fold c.toNat := by
  simp [literal, Spans, CharSet.contains]

/-- Characters in a row match what agrees with them but for case. -/
theorem spans_literals :
    (ofList (cs.map literal)).Spans text i j ↔ j = i + cs.length ∧ Alike ((text.drop i).take cs.length) cs := by
  induction cs generalizing i with
  | nil => simp [ofList, Spans, Alike, eq_comm]
  | cons c rest ih =>
    simp only [List.map_cons, spans_ofList_cons, spans_literal, ih]
    cases hd : text[i]? with
    | none =>
      have hdrop : text.drop i = [] := List.drop_eq_nil_of_le (List.getElem?_eq_none_iff.mp hd)
      simp [hdrop, Alike]
    | some d =>
      obtain ⟨hi, rfl⟩ := List.getElem?_eq_some_iff.mp hd
      have halike : Alike ((text.drop i).take (c :: rest).length) (c :: rest) ↔
          fold text[i].toNat = fold c.toNat ∧ Alike ((text.drop (i + 1)).take rest.length) rest := by
        rw [List.drop_eq_getElem_cons hi, List.length_cons, List.take_succ_cons]
        exact List.forall₂_cons
      rw [halike]
      constructor
      · rintro ⟨m, ⟨rfl, d, hd, hfold⟩, rfl, hrest⟩
        cases hd
        exact ⟨by simp only [List.length_cons]; omega, hfold, hrest⟩
      · rintro ⟨rfl, hfold, hrest⟩
        exact ⟨i + 1, ⟨rfl, _, rfl, hfold⟩, by simp only [List.length_cons]; omega, hrest⟩

def whole (cs : List Char) : Node := ofList (.empty :: .look .textStart :: (cs.map literal ++ [.look .textEnd]))

def anything : Node := .times (.set (dotSet caselessFlags)) 0 none

def part (cs : List Char) : Node := ofList (anything :: (cs.map literal ++ [anything]))

/-- A text between the two ends matches the whole text. -/
theorem occursIn_whole : (whole cs).occursIn text = true ↔ Alike text cs := by
  simp only [occursIn_iff, whole, spans_ofList_cons, spans_ofList_append, spans_literals]
  constructor
  · rintro ⟨i, j, -, _, rfl, _, ⟨rfl, hi, hstart⟩, _, ⟨rfl, halike⟩, _, ⟨rfl, hle, hend⟩, rfl⟩
    obtain rfl := (holds_textStart hi).mp hstart
    rw [holds_textEnd hle, Nat.zero_add] at hend
    rwa [List.drop_zero, hend, List.take_length] at halike
  · intro halike
    have hlen : text.length = cs.length := halike.length_eq
    refine ⟨0, text.length, Nat.zero_le _, 0, rfl, 0, ⟨rfl, Nat.zero_le _, (holds_textStart (Nat.zero_le _)).mpr rfl⟩,
      text.length, ⟨by omega, ?_⟩, text.length, ⟨rfl, Nat.le_refl _, (holds_textEnd (Nat.le_refl _)).mpr rfl⟩, rfl⟩
    rwa [List.drop_zero, ← hlen, List.take_length]

/-- What may stand around a text changes nothing, as it may as well be nothing: the text is found just when some part
agrees with it. No line feed is in the way. -/
theorem occursIn_part : (part cs).occursIn text = true ↔ ∃ found, found <:+: text ∧ Alike found cs := by
  simp only [occursIn_iff, part, spans_ofList_cons, spans_ofList_append, spans_literals]
  constructor
  · -- what stands around does not matter here
    rintro ⟨i, j, -, m, -, _, ⟨rfl, halike⟩, -⟩
    exact ⟨_, (List.take_prefix _ _).isInfix.trans (List.drop_suffix m text).isInfix, halike⟩
  · rintro ⟨found, ⟨before, behind, rfl⟩, halike⟩
    have hlen : found.length = cs.length := halike.length_eq
    have hnothing (i : Nat) : anything.Spans (before ++ found ++ behind) i i := ⟨0, nofun, .none i⟩
    refine ⟨before.length, before.length + cs.length, ?_, before.length, hnothing _, _, ⟨rfl, ?_⟩, _, hnothing _, rfl⟩
    · simp
    · rwa [List.append_assoc, List.drop_left, ← hlen, List.take_left]

end Node

/-! ## Reading -/

theorem readRow_literal (hc : c ∉ operators) :
    readRow (k + 1) inner caselessFlags names row (c :: rest) =
      readRow k inner caselessFlags names (row.add (Fragment.ofNode (Node.literal c))) rest := by
  simp only [operators, List.mem_cons, List.not_mem_nil, or_false, not_or] at hc
  have hskip : caselessFlags.skip (c :: rest) = c :: rest := rfl
  rw [readRow, hskip]
  split
  -- the cases before the last are those of the operators
  case h_14 hcons =>
    obtain ⟨rfl, rfl⟩ := List.cons.inj hcons
    simp [addAtom, Atom.node?, literal?, literalSet, caselessFlags, Flags.plain, Node.literal]
  all_goals simp_all

namespace Row

def addText (row : Row) (cs : List Char) : Row :=
  { row with items := (cs.map fun c => ⟨Fragment.ofNode (Node.literal c), true⟩).reverse ++ row.items }

def addAnything (row : Row) : Row := row.add ((Fragment.ofNode (.set (dotSet caselessFlags))).repeated 0 none)

@[simp] theorem items_empty : empty.items = [] := rfl

@[simp] theorem items_add (row : Row) (f : Fragment) : (row.add f).items = ⟨f, true⟩ :: row.items := rfl

@[simp] theorem items_addFlags (row : Row) : row.addFlags.items = ⟨Fragment.ofNode .empty, false⟩ :: row.items := rfl

@[simp] theorem items_addText (row : Row) (cs : List Char) :
    (row.addText cs).items = (cs.map fun c => ⟨Fragment.ofNode (Node.literal c), true⟩).reverse ++ row.items := rfl

@[simp] theorem items_addAnything (row : Row) :
    row.addAnything.items = ⟨(Fragment.ofNode (.set (dotSet caselessFlags))).repeated 0 none, true⟩ :: row.items := rfl

theorem addText_cons (row : Row) (c : Char) (cs : List Char) :
    (row.add (Fragment.ofNode (Node.literal c))).addText cs = row.addText (c :: cs) := by
  simp [addText, add]

end Row

theorem readRow_text (hcs : ∀ c ∈ cs, c ∉ operators) :
    readRow (cs.length + k) inner caselessFlags names row (cs ++ rest) =
      readRow k inner caselessFlags names (row.addText cs) rest := by
  induction cs generalizing row with
  | nil => simp [Row.addText]
  | cons c cs ih =>
    rw [List.length_cons, Nat.add_right_comm, List.cons_append, readRow_literal (hcs c List.mem_cons_self),
      ih fun d hd => hcs d (List.mem_cons_of_mem c hd), Row.addText_cons]

theorem readRow_caseless : readRow (k + 1) inner Flags.plain names row ('(' :: '?' :: 'i' :: ')' :: rest) =
    readRow k inner caselessFlags names row.addFlags rest := rfl

theorem readRow_start : readRow (k + 1) inner caselessFlags names row ('^' :: rest) =
    readRow k inner caselessFlags names (row.add (Fragment.ofNode (.look .textStart))) rest := rfl

theorem readRow_end : readRow (k + 1) inner caselessFlags names row ('$' :: rest) =
    readRow k inner caselessFlags names (row.add (Fragment.ofNode (.look .textEnd))) rest := rfl

theorem readRow_anything : readRow (k + 2) inner caselessFlags names row ('.' :: '*' :: rest) =
    readRow k inner caselessFlags names row.addAnything (dropPreference rest) := rfl

theorem readRow_nil : readRow (k + 1) false caselessFlags names row [] = some (row.close, names, []) := rfl

theorem dropPreference_text (hcs : ∀ c ∈ cs, c ∉ operators) (hrest : dropPreference rest = rest) :
    dropPreference (cs ++ rest) = cs ++ rest := by
  cases cs with
  | nil => exact hrest
  | cons c cs =>
    have hc : c ≠ '?' := fun h => hcs c List.mem_cons_self (h ▸ by decide)
    unfold dropPreference
    split <;> simp_all

/-! ## Nesting -/

theorem Fragment.joinedDepth_le {fs : List Fragment} {n : Nat} (hfs : ∀ f ∈ fs, f.depth ≤ n) : joinedDepth fs ≤ n + 1 := by
  have hdeepest : (fs.map (·.depth)).foldl max 0 ≤ n :=
    (List.max?_le_iff (List.max?_cons' (x := 0))).mpr (by simpa using hfs)
  rw [joinedDepth]
  split <;> omega

/-- A row without an alternative is its items in a row. -/
theorem Row.close_eq (hrow : row.alternatives = []) :
    row.close = Fragment.inRow (row.items.reverse.map (·.fragment)) := by
  simp [close, alternative, hrow, Fragment.oneOf, Fragment.joinedDepth, Node.anyOf]

/-! ## The two patterns of a text -/

theorem readNode?_eq {caseless : Bool} {source : String} {node : Node} (hcs : source.toList = cs)
    (hfuel : cs.length + 1 = k) (hread : readRow k false { Flags.plain with caseless } [] Row.empty cs = some (row.close, [], []))
    (halone : row.alternatives = []) (hnode : Node.ofList (row.items.reverse.map (·.fragment.node)) = node)
    (hdepth : ∀ item ∈ row.items, item.fragment.depth ≤ 1) :
    readNode? caseless source = if node.fits then some node else none := by
  have hlimit : Fragment.joinedDepth (row.items.reverse.map (·.fragment)) ≤ depthLimit :=
    Nat.le_trans (Fragment.joinedDepth_le (by simpa using hdepth)) (by decide)
  rw [Row.close_eq halone] at hread
  simp only [readNode?, hcs, hfuel, hread]
  simp only [Fragment.inRow, List.map_map, Function.comp_def, hnode, hlimit, Option.bind_eq_bind, Option.bind_some,
    decide_true, Bool.true_and]
  rfl

def wholeRow (cs : List Char) : Row :=
  ((Row.empty.addFlags.add (Fragment.ofNode (.look .textStart))).addText cs).add (Fragment.ofNode (.look .textEnd))

theorem readRow_wholeSource (hcs : ∀ c ∈ cs, c ∉ operators) :
    readRow (cs.length + 7) false Flags.plain [] Row.empty ('(' :: '?' :: 'i' :: ')' :: '^' :: (cs ++ ['$'])) =
      some ((wholeRow cs).close, [], []) := by
  refine readRow_caseless.trans (readRow_start.trans ?_)
  rw [readRow_text hcs, readRow_end, readRow_nil]
  rfl

theorem readNode?_wholeSource {s : String} (hs : ∀ c ∈ s.toList, c ∉ operators) :
    readNode? false (Term.wholeSource s) = if (Node.whole s.toList).fits then some (Node.whole s.toList) else none := by
  have hsource : (Term.wholeSource s).toList = '(' :: '?' :: 'i' :: ')' :: '^' :: (s.toList ++ ['$']) := by
    simp [Term.wholeSource]
  refine readNode?_eq hsource ?_ (readRow_wholeSource hs) rfl ?_ ?_
  · simp
  · simp [wholeRow, Node.whole, Fragment.ofNode, Function.comp_def]
  · simp [wholeRow, Fragment.ofNode, or_imp, forall_and]

def partRow (cs : List Char) : Row := (Row.empty.addAnything.addText cs).addAnything

theorem readRow_partSource (hcs : ∀ c ∈ cs, c ∉ operators) :
    readRow (cs.length + 5) false caselessFlags [] Row.empty ('.' :: '*' :: (cs ++ ['.', '*'])) =
      some ((partRow cs).close, [], []) := by
  refine readRow_anything.trans ?_
  rw [dropPreference_text hcs rfl, readRow_text hcs, readRow_anything]
  rfl

theorem readNode?_partSource {s : String} (hs : ∀ c ∈ s.toList, c ∉ operators) :
    readNode? true (Term.partSource s) = if (Node.part s.toList).fits then some (Node.part s.toList) else none := by
  have hsource : (Term.partSource s).toList = '.' :: '*' :: (s.toList ++ ['.', '*']) := by
    simp [Term.partSource]
  refine readNode?_eq hsource ?_ (readRow_partSource hs) rfl ?_ ?_
  · simp
  · simp [partRow, Node.part, Node.anything, Fragment.ofNode, Fragment.repeated, Function.comp_def]
  · simp [partRow, Fragment.ofNode, Fragment.repeated, or_imp, forall_and]

end Pattern
end DocumentRepository
