import DocumentRepository.Directive
import DocumentRepository.Proofs.Path

/-! # What a batch of updates changes

A key that no update of a batch names as its field can still change: a rename moves a value to it.
The value that it holds in the end is the one that was moved there last, or else its own.
-/
namespace DocumentRepository

namespace Document

variable {key other : String} {d d' : Document} {v : Value}

@[simp] theorem field?_insert_self (key : String) (v : Value) (d : Document) : (d.insert key v).field? key = some v :=
  Table.find?_insert_self key v d.fields

theorem field?_insert_of_ne (h : other ≠ key) (v : Value) (d : Document) : (d.insert key v).field? other = d.field? other :=
  Table.find?_insert_of_ne h v d.fields

@[simp] theorem field?_remove_self (key : String) (d : Document) : (d.remove key).field? key = none :=
  Table.find?_erase_self key d.fields

theorem field?_remove_of_ne (h : other ≠ key) (d : Document) : (d.remove key).field? other = d.field? other :=
  Table.find?_erase_of_ne h d.fields

/-- Two documents differ at most in one key. -/
def AgreeOff (key : String) (d d' : Document) : Prop := ∀ other, other ≠ key → d.field? other = d'.field? other

theorem agreeOff_remove (key : String) (d : Document) : AgreeOff key (d.remove key) d :=
  fun _ h => field?_remove_of_ne h d

theorem AgreeOff.insert (h : AgreeOff key d d') (other : String) (v : Value) :
    AgreeOff key (d.insert other v) (d'.insert other v) := by
  intro k hk
  by_cases ho : k = other
  · rw [ho, field?_insert_self, field?_insert_self]
  · rw [field?_insert_of_ne ho, field?_insert_of_ne ho, h k hk]

theorem AgreeOff.remove (h : AgreeOff key d d') (other : String) : AgreeOff key (d.remove other) (d'.remove other) := by
  intro k hk
  by_cases ho : k = other
  · rw [ho, field?_remove_self, field?_remove_self]
  · rw [field?_remove_of_ne ho, field?_remove_of_ne ho, h k hk]

end Document

namespace FieldUpdate

variable {key : String} {u : FieldUpdate} {d d' : Document}

def movedTo (key : String) (d : Document) : FieldUpdate → Option Value
  | set _ _ => none
  | unset _ => none
  | rename field target => if target = key then d.field? field else none

/-- A key that is not the field of a change gets the value that is moved to it, or keeps its own. -/
theorem field?_apply (h : u.field ≠ key) (d : Document) : (u.apply d).field? key = (u.movedTo key d).or (d.field? key) := by
  cases u with
  | set field v => exact Document.field?_insert_of_ne h.symm v d
  | unset field => exact Document.field?_remove_of_ne h.symm d
  | rename field target =>
    cases hv : d.field? field with
    | none => simp [apply, movedTo, hv]
    | some v =>
      by_cases ht : target = key
      · simp [apply, movedTo, hv, ht]
      · simp only [apply, movedTo, hv, if_neg ht, Option.none_or]
        rw [Document.field?_insert_of_ne (Ne.symm ht)]
        exact Document.field?_remove_of_ne h.symm d

theorem agreeOff_apply (hu : u.field ≠ key) (h : d.AgreeOff key d') : (u.apply d).AgreeOff key (u.apply d') := by
  cases u with
  | set field v => exact h.insert field v
  | unset field => exact h.remove field
  | rename field target =>
    have hfield : d.field? field = d'.field? field := h field hu
    cases hv : d'.field? field with
    | none => simpa [apply, hfield, hv] using h
    | some v => simpa [apply, hfield, hv] using (h.remove field).insert target v

theorem movedTo_congr (hu : u.field ≠ key) (h : d.AgreeOff key d') : u.movedTo key d = u.movedTo key d' := by
  cases u with
  | rename field target => simp only [movedTo, h field hu]
  | _ => rfl

end FieldUpdate

namespace UpdateBatch

variable {key : String} {updates : UpdateBatch} {d d' : Document}

/-- The value that a batch moves to a key last. -/
def movedTo (key : String) : UpdateBatch → Document → Option Value
  | [], _ => none
  | u :: rest, d => (movedTo key rest (u.apply d)).or (u.movedTo key d)

/-- A key that is no field of a batch gets the value that is moved to it last, or keeps its own. -/
theorem field?_apply (h : ∀ u ∈ updates, u.field ≠ key) (d : Document) :
    (updates.apply d).field? key = (movedTo key updates d).or (d.field? key) := by
  induction updates generalizing d with
  | nil => rfl
  | cons u rest ih =>
    obtain ⟨hu, hrest⟩ := List.forall_mem_cons.mp h
    calc (apply (u :: rest) d).field? key
      _ = (apply rest (u.apply d)).field? key := rfl
      _ = (movedTo key rest (u.apply d)).or ((u.apply d).field? key) := ih hrest (u.apply d)
      _ = (movedTo key (u :: rest) d).or (d.field? key) := by
        rw [FieldUpdate.field?_apply hu, movedTo, Option.or_assoc]

theorem movedTo_congr (hupdates : ∀ u ∈ updates, u.field ≠ key) (h : d.AgreeOff key d') :
    movedTo key updates d = movedTo key updates d' := by
  induction updates generalizing d d' with
  | nil => rfl
  | cons u rest ih =>
    obtain ⟨hu, hrest⟩ := List.forall_mem_cons.mp hupdates
    rw [movedTo, movedTo, ih hrest (FieldUpdate.agreeOff_apply hu h), FieldUpdate.movedTo_congr hu h]

theorem movedTo_eq_none (h : ∀ field target, .rename field target ∈ updates → target ≠ key) (d : Document) :
    movedTo key updates d = none := by
  induction updates generalizing d with
  | nil => rfl
  | cons u rest ih =>
    rw [movedTo, ih fun field target hmem => h field target (List.mem_cons_of_mem u hmem)]
    cases u with
    | rename field target => simp [FieldUpdate.movedTo, h field target List.mem_cons_self]
    | _ => rfl

theorem keeps_iff (h : ∀ u ∈ updates, u.field ≠ key) :
    (∀ d, (updates.apply d).field? key = d.field? key) ↔ ∀ d, movedTo key updates d = none := by
  constructor
  · intro hkeeps d
    have hmoved : movedTo key updates (d.remove key) = movedTo key updates d :=
      movedTo_congr h (Document.agreeOff_remove key d)
    have happly := field?_apply h (d.remove key)
    rw [hkeeps (d.remove key), Document.field?_remove_self, Option.or_none, hmoved] at happly
    exact happly.symm
  · intro hnone d
    rw [field?_apply h, hnone d, Option.none_or]

end UpdateBatch

end DocumentRepository
