import DocumentRepository.Proofs.Pattern.Literal
import DocumentRepository.Proofs.Text.Words
import Mathlib.Data.Bool.AllAny

/-! # The room of plain texts

A row of nodes takes no more room than its nodes, so the room of a text is bounded by its length and by what one
character takes. What a plain character takes is read from the table of cases.
-/
namespace DocumentRepository.Pattern
open Text

variable {d : Direction} {setRoom : CharSet → Nat} {cs : List Char} {n : Nat}

/-! ## One character -/

def orbitRanges (n : Nat) : Ranges :=
  (((((orbit n).insertionSort (· ≤ ·)).map fun m => ⟨m, m⟩ : Ranges)).foldl Ranges.joinStep []).reverse

theorem CharSet.members_alike (n : Nat) : (alike n).members = orbitRanges n := by
  have hsort : ((orbit n).map fun m => (⟨m, m⟩ : CodeRange)).mergeSort (fun r s => r.first ≤ s.first) =
      ((orbit n).insertionSort (· ≤ ·)).map fun m => ⟨m, m⟩ := by
    rw [← List.mergeSort_eq_insertionSort, List.map_mergeSort]
    intro a _ b _
    rfl
  rw [members, Ranges.joined_eq, hsort]
  rfl

/-- ASCII letters, digits and spaces. -/
def IsPlain (c : Char) : Prop := c.isAlphanum = true ∨ c = ' '

instance (c : Char) : Decidable (IsPlain c) := inferInstanceAs (Decidable (_ ∨ _))

theorem IsPlain.ascii {c : Char} (hc : IsPlain c) : c.toNat < 128 :=
  hc.elim ascii_of_alphanum fun h => h ▸ by decide

theorem IsPlain.notMem_operators {c : Char} (hc : IsPlain c) : c ∉ operators := by
  have hall : ∀ o ∈ operators, ¬IsPlain o := List.all_iff_forall_prop.mp (by decide)
  exact fun h => hall c h hc

def plainCodes : List Nat := 32 :: (List.range' 48 10 ++ List.range' 97 26)

theorem IsPlain.exists_code {c : Char} (hc : IsPlain c) : ∃ m ∈ plainCodes, fold c.toNat = fold m := by
  have hlower : fold c.toNat = fold c.toLower.toNat ∧ c.toLower.toNat ∈ plainCodes :=
    ascii_induction (P := fun c => IsPlain c → fold c.toNat = fold c.toLower.toNat ∧ c.toLower.toNat ∈ plainCodes)
      (by decide +kernel) hc.ascii hc
  exact ⟨_, hlower.2, hlower.1⟩

def plainRoom : Nat := 256

/-- Letters have more room than other characters, as some of them agree with characters beyond ASCII. -/
theorem IsPlain.room_le {c : Char} (hc : IsPlain c) (d : Direction) : (CharSet.alike c.toNat).room d ≤ plainRoom := by
  have hcodes : ∀ m ∈ plainCodes,
      (CharSet.alike m).room .forwards ≤ plainRoom ∧ (CharSet.alike m).room .backwards ≤ plainRoom := by
    simp only [CharSet.room, CharSet.members_alike]
    decide +kernel
  obtain ⟨m, hm, hfold⟩ := hc.exists_code
  -- only the class of what agrees with a character counts
  have hroom : (CharSet.alike c.toNat).room d = (CharSet.alike m).room d := by
    simp only [CharSet.room, CharSet.members, orbit, hfold]
  rw [hroom]
  cases d
  · exact (hcodes m hm).1
  · exact (hcodes m hm).2

theorem CharSet.room_dotSet_le (d : Direction) : (dotSet caselessFlags).room d ≤ 1024 := by
  have hmembers : (dotSet caselessFlags).members = codePoints.without [⟨10, 10⟩] := by
    simp [dotSet, caselessFlags, Flags.plain, except, members, Ranges.joined]
  simp only [room, hmembers]
  cases d <;> decide +kernel

/-! ## Rows of nodes -/

namespace Node

def listRoom (d : Direction) (setRoom : CharSet → Nat) (nodes : List Node) : Nat :=
  nodes.foldr (fun a room => (a.rooms d setRoom).1 + room) 0

@[simp] theorem listRoom_nil : listRoom d setRoom [] = 0 := rfl

@[simp] theorem listRoom_cons (a : Node) (rest : List Node) :
    listRoom d setRoom (a :: rest) = (a.rooms d setRoom).1 + listRoom d setRoom rest := rfl

@[simp] theorem listRoom_append (as bs : List Node) :
    listRoom d setRoom (as ++ bs) = listRoom d setRoom as + listRoom d setRoom bs := by
  induction as with
  | nil => simp
  | cons a rest ih => simp [ih, Nat.add_assoc]

theorem rooms_ofList_le (d : Direction) (setRoom : CharSet → Nat) (nodes : List Node) :
    ((ofList nodes).rooms d setRoom).1 ≤ listRoom d setRoom nodes + stateRoom := by
  induction nodes with
  | nil => simp [ofList, rooms]
  | cons a rest ih =>
    cases rest with
    | nil => simp [ofList]
    | cons b rest =>
      simp only [ofList, rooms, listRoom_cons] at ih ⊢
      split_ifs <;> omega

/-- A matcher for a row of nodes needs some room of its own. -/
theorem room_ofList_le (d : Direction) (setRoom : CharSet → Nat) (nodes : List Node) :
    (ofList nodes).room d setRoom ≤ listRoom d setRoom nodes + 256 := by
  have hrow := rooms_ofList_le d setRoom nodes
  simp only [room, rooms, stateRoom, stepRoom, jumpRoom] at hrow ⊢
  split_ifs <;> omega

theorem listRoom_literals_le (d : Direction) (hcs : ∀ c ∈ cs, setRoom (.alike c.toNat) ≤ n) :
    listRoom d setRoom (cs.map literal) ≤ cs.length * n := by
  induction cs with
  | nil => simp
  | cons c rest ih =>
    obtain ⟨hc, hrest⟩ := List.forall_mem_cons.mp hcs
    simp only [List.map_cons, listRoom_cons, List.length_cons, Nat.add_one_mul, literal, rooms] at ih ⊢
    have := ih hrest
    omega

theorem room_whole_le (d : Direction) (hcs : ∀ c ∈ cs, setRoom (.alike c.toNat) ≤ n) :
    (whole cs).room d setRoom ≤ cs.length * n + 512 := by
  have hliterals := listRoom_literals_le d hcs
  refine Nat.le_trans (room_ofList_le d setRoom _) ?_
  simp only [listRoom_cons, listRoom_append, listRoom_nil, rooms, stateRoom]
  omega

theorem room_part_le (d : Direction) (hcs : ∀ c ∈ cs, setRoom (.alike c.toNat) ≤ n) :
    (part cs).room d setRoom ≤ cs.length * n + 2 * setRoom (dotSet caselessFlags) + 512 := by
  have hliterals := listRoom_literals_le d hcs
  have hanything : (anything.rooms d setRoom).1 = setRoom (dotSet caselessFlags) + stateRoom + 2 * jumpRoom := by
    simp [anything, rooms, copiesRoom, bounds, consumes, canBeEmpty, Nat.add_assoc]
  refine Nat.le_trans (room_ofList_le d setRoom _) ?_
  simp only [listRoom_cons, listRoom_append, listRoom_nil, hanything, stateRoom, jumpRoom]
  omega

/-- The length of the plain texts for which there is always room. -/
def plainLength : Nat := 32768

theorem fits_of_room_le {node : Node} (h : ∀ d, node.room d (CharSet.room d) ≤ plainLength * plainRoom + 4096) :
    node.fits = true := by
  have hlimit : plainLength * plainRoom + 4096 ≤ roomLimit := by decide
  simp [fits, Nat.le_trans (h .forwards) hlimit, Nat.le_trans (h .backwards) hlimit]

theorem fits_whole (hcs : ∀ c ∈ cs, IsPlain c) (hlen : cs.length ≤ plainLength) : (whole cs).fits = true := by
  refine fits_of_room_le fun d => ?_
  have hroom := room_whole_le d fun c hc => (hcs c hc).room_le d
  have := Nat.mul_le_mul_right plainRoom hlen
  omega

/-- The length of the texts for which there is room whatever their characters agree with. -/
def shortLength : Nat := 39

theorem fits_whole_of_short (hlen : cs.length ≤ shortLength) : (whole cs).fits = true := by
  have hample : ∀ c ∈ cs, ampleRoom (.alike c.toNat) ≤ 1 <<< 18 := fun _ _ => Nat.le_refl _
  have hroom := room_whole_le .forwards hample
  have hlimit : cs.length * (1 <<< 18) + 512 ≤ roomLimit :=
    Nat.le_trans (Nat.add_le_add_right (Nat.mul_le_mul_right _ hlen) _) (by decide)
  simp [fits, Nat.le_trans hroom hlimit]

theorem fits_part (hcs : ∀ c ∈ cs, IsPlain c) (hlen : cs.length ≤ plainLength) : (part cs).fits = true := by
  refine fits_of_room_le fun d => ?_
  have hroom := room_part_le d fun c hc => (hcs c hc).room_le d
  have := Nat.mul_le_mul_right plainRoom hlen
  have := CharSet.room_dotSet_le d
  omega

end Node
end DocumentRepository.Pattern
