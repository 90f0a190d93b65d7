import DocumentRepository.Proofs.StableSort
import DocumentRepository.Proofs.Value.SortOrder
import DocumentRepository.Store.Access

/-! # Searches

What a search finds is a window of one list: the documents that the filter accepts, in the order of the sort keys, with
ties as they are stored. The list is in order as long as the values under each key can be put in a row; that is so where
no integers stand beside doubles and nothing is a NaN.
-/
namespace DocumentRepository

namespace SortKey

/-- The order of two documents under one key, turned round if the key is descending. A missing field counts as null. -/
def order (key : SortKey) (a b : Document) : Ordering :=
  let o := (a.getOrNull key.field).sortOrder (b.getOrNull key.field)
  if key.ascending then o else o.swap

/-- No key tells two documents apart. -/
def Tied (keys : List SortKey) (a b : Document) : Prop := ∀ key ∈ keys, key.order a b = .eq

instance (keys : List SortKey) (a b : Document) : Decidable (Tied keys a b) :=
  inferInstanceAs (Decidable (∀ key ∈ keys, key.order a b = .eq))

/-- The first key that tells two documents apart puts the first behind the second. -/
def Follows (keys : List SortKey) (a b : Document) : Prop :=
  ∃ before key after, keys = before ++ key :: after ∧ Tied before a b ∧ key.order a b = .gt

end SortKey

open SortKey (Tied Follows)

variable {keys : List SortKey} {key : SortKey} {a b c : Document}

theorem compareDocuments_cons (key : SortKey) (keys : List SortKey) (a b : Document) :
    compareDocuments (key :: keys) a b = (key.order a b).then (compareDocuments keys a b) := by
  rw [compareDocuments]
  cases h : key.order a b <;> simp only [SortKey.order] at h <;> simp only [h] <;> rfl

theorem SortKey.order_swap (key : SortKey) (a b : Document) : key.order b a = (key.order a b).swap := by
  unfold order
  rw [Value.sortOrder_swap]
  split <;> rfl

theorem compareDocuments_swap (keys : List SortKey) (a b : Document) :
    compareDocuments keys b a = (compareDocuments keys a b).swap := by
  induction keys with
  | nil => rfl
  | cons key rest ih => rw [compareDocuments_cons, compareDocuments_cons, key.order_swap, ih, Ordering.swap_then]

theorem compareDocuments_eq_eq_iff : compareDocuments keys a b = .eq ↔ Tied keys a b := by
  induction keys with
  | nil => simp [compareDocuments, Tied]
  | cons key rest ih =>
    rw [compareDocuments_cons, Ordering.then_eq_eq, ih]
    simp only [Tied, List.forall_mem_cons]

theorem compareDocuments_eq_gt_iff : compareDocuments keys a b = .gt ↔ Follows keys a b := by
  induction keys with
  | nil => simp [compareDocuments, Follows]
  | cons key rest ih =>
    rw [compareDocuments_cons, Ordering.then_eq_gt, ih]
    constructor
    · rintro (h | ⟨h, before, key', after, rfl, htied, hgt⟩)
      · exact ⟨[], key, rest, rfl, by simp [Tied], h⟩
      · exact ⟨key :: before, key', after, rfl, List.forall_mem_cons.mpr ⟨h, htied⟩, hgt⟩
    · rintro ⟨before, key', after, hkeys, htied, hgt⟩
      cases before with
      | nil =>
        obtain ⟨rfl, rfl⟩ := List.cons.inj hkeys
        exact Or.inl hgt
      | cons first before =>
        obtain ⟨rfl, rfl⟩ := List.cons.inj hkeys
        obtain ⟨hfirst, htied⟩ := List.forall_mem_cons.mp htied
        exact Or.inr ⟨hfirst, before, key', after, rfl, htied, hgt⟩

/-- Values that hold no NaN, and not both integers and doubles, at any depth. -/
structure Value.Unmixed (vs : List Value) : Prop where
  notNaN : ∀ x : Double, .float x ∈ vs.flatMap numbers → x.isNaN = false
  unmixed : ∀ (i : Int64) (x : Double), .int i ∈ vs.flatMap numbers → .float x ∉ vs.flatMap numbers

theorem Value.Unmixed.clear {vs : List Value} (h : Unmixed vs) : Clear (· ∈ vs.flatMap numbers) := by
  rintro f x z hf hx hz ⟨-, -, hnan | ⟨i, j, rfl, -, -⟩⟩
  · exact absurd hnan (by simp [h.notNaN f hf])
  · exact h.unmixed i f hx hf

def Sortable (keys : List SortKey) (ds : List Document) : Prop :=
  ∀ key ∈ keys, Value.Unmixed (ds.map (·.getOrNull key.field))

theorem Sortable.coherent {ds : List Document} (h : Sortable keys ds) (ha : a ∈ ds) (hb : b ∈ ds) (hc : c ∈ ds) :
    Coherent (compareDocuments keys a b) (compareDocuments keys b c) (compareDocuments keys a c) := by
  induction keys with
  | nil => rfl
  | cons key rest ih =>
    obtain ⟨hkey, hrest⟩ := List.forall_mem_cons.mp h
    rw [compareDocuments_cons, compareDocuments_cons, compareDocuments_cons]
    refine Coherent.andThen ?_ fun _ _ => ih hrest
    have hmem {d : Document} (hd : d ∈ ds) :
        ∀ n ∈ (d.getOrNull key.field).numbers, n ∈ (ds.map (·.getOrNull key.field)).flatMap Value.numbers :=
      fun n hn => List.mem_flatMap.mpr ⟨_, List.mem_map_of_mem hd, hn⟩
    have hvalues := Value.coherent_sortOrder hkey.clear _ _ _ (hmem ha) (hmem hb) (hmem hc)
    unfold SortKey.order
    split
    · exact hvalues
    · exact hvalues.swap

theorem Sortable.ranks {ds : List Document} (h : Sortable keys ds) : Ranks (compareDocuments keys) (· ∈ ds) where
  swap := compareDocuments_swap keys
  coherent _ _ _ ha hb hc := h.coherent ha hb hc

structure SortedBy (keys : List SortKey) (ds found : List Document) : Prop where
  perm : found.Perm ds
  inOrder : found.Pairwise fun a b => ¬Follows keys a b
  stable : ∀ d ∈ ds, (found.filter fun e => decide (Tied keys d e)) = ds.filter fun e => decide (Tied keys d e)

theorem sortedBy_iff {ds found : List Document} :
    SortedBy keys ds found ↔ IsStableSort (compareDocuments keys) ds found := by
  have hle (a b : Document) : (compareDocuments keys a b).isLE = true ↔ ¬Follows keys a b := by
    rw [← compareDocuments_eq_gt_iff]
    cases compareDocuments keys a b <;> simp
  have htied (d : Document) : (fun e => compareDocuments keys d e == .eq) = fun e => decide (Tied keys d e) := by
    funext e
    rw [Bool.eq_iff_iff, beq_iff_eq, decide_eq_true_iff, compareDocuments_eq_eq_iff]
  constructor
  · rintro ⟨hperm, hinOrder, hstable⟩
    exact ⟨hperm, hinOrder.imp (hle _ _).mpr, by simpa only [htied] using hstable⟩
  · rintro ⟨hperm, hinOrder, hstable⟩
    exact ⟨hperm, hinOrder.imp (hle _ _).mp, by simpa only [htied] using hstable⟩

namespace Store

def matching (s : Store) (name : String) (F : Filter) : List Document := (s.documents name).filter F.holds

theorem sortedBy_sortDocuments {ds : List Document} (h : Sortable keys ds) : SortedBy keys ds (sortDocuments keys ds) :=
  sortedBy_iff.mpr (h.ranks.isStableSort fun _ hd => hd)

/-- What the filter accepts can be sorted stably in one way, and every search gives a window of that. -/
theorem find_window_of_stable_sort (s : Store) (name : String) (F : Filter) (keys : List SortKey)
    (h : Sortable keys (s.matching name F)) :
    ∃ found : List Document,
      SortedBy keys (s.matching name F) found ∧ (∀ other, SortedBy keys (s.matching name F) other → other = found) ∧
      DocumentStore.find name F ⟨keys, none, none⟩ s = (.ok found, s) ∧
      (∀ skip limit, DocumentStore.find name F ⟨keys, some skip, some limit⟩ s = (.ok ((found.drop skip).take limit), s)) ∧
      DocumentStore.findOne name F keys s = (.ok found.head?, s) ∧
      DocumentStore.count name F s = (.ok found.length, s) := by
  have hsorted := sortedBy_sortDocuments h
  refine ⟨sortDocuments keys (s.matching name F), hsorted, fun other hother => ?_, rfl, fun _ _ => rfl, rfl, ?_⟩
  · exact (sortedBy_iff.mp hother).unique h.ranks (sortedBy_iff.mp hsorted)
  · rw [hsorted.perm.length_eq, matching, ← List.countP_eq_length_filter]
    rfl

section Example

def player (name : String) (fields : Table Value) : Document := ⟨("name", .text name) :: fields⟩

def players : Store :=
  .put .empty "players"
    ⟨[player "ann" [("points", .int 7)], player "bob" [], player "cid" [("points", .int 9)],
      player "dee" [("points", .int 7)]], []⟩

/-- Two players have the same points, and the one without points comes last. -/
theorem find_window_of_stable_sort_players :
    Sortable [⟨"points", false⟩] (players.matching "players" (.exists "name")) ∧
      SortedBy [⟨"points", false⟩] (players.matching "players" (.exists "name"))
        [player "cid" [("points", .int 9)], player "ann" [("points", .int 7)], player "dee" [("points", .int 7)],
          player "bob" []] ∧
      DocumentStore.find "players" (.exists "name") ⟨[⟨"points", false⟩], some 2, some 5⟩ players =
        (.ok [player "dee" [("points", .int 7)], player "bob" []], players) ∧
      DocumentStore.findOne "players" (.exists "name") [⟨"points", false⟩] players =
        (.ok (some (player "cid" [("points", .int 9)])), players) ∧
      DocumentStore.count "players" (.exists "name") players = (.ok 4, players) := by
  have hsortable : Sortable [⟨"points", false⟩] (players.matching "players" (.exists "name")) := by
    refine List.forall_mem_singleton.mpr ⟨fun x hx => ?_, fun i x _ hx => ?_⟩ <;>
    · have hints : .float x ∈ [Value.int 7, .int 9, .int 7] := hx
      simp at hints
  obtain ⟨found, hsorted, -, hfind, hwindow, hone, hcount⟩ :=
    find_window_of_stable_sort players "players" (.exists "name") [⟨"points", false⟩] hsortable
  have hfound : found = [player "cid" [("points", .int 9)], player "ann" [("points", .int 7)],
      player "dee" [("points", .int 7)], player "bob" []] := (Except.ok.inj (congrArg Prod.fst hfind)).symm
  rw [hfound] at hsorted hwindow hone hcount
  exact ⟨hsortable, hsorted, hwindow 2 5, hone, hcount⟩

end Example

end Store

end DocumentRepository
