/-! # Tables

Entries kept in the order of their keys, a key occurring at most once in a table built by
`insert`. Keys are ordered by code points. Writing a key is seen at that key and nowhere else. -/
namespace DocumentRepository

abbrev Table (α : Type) := List (String × α)

namespace Table

variable {α : Type}

def find? (key : String) : Table α → Option α
  | [] => none
  | (k, v) :: rest => if k = key then some v else find? key rest

def insert (key : String) (value : α) : Table α → Table α
  | [] => [(key, value)]
  | (k, v) :: rest =>
    if k = key then (key, value) :: rest
    else if key < k then (key, value) :: (k, v) :: rest
    else (k, v) :: insert key value rest

def erase (key : String) (t : Table α) : Table α := t.filter fun entry => entry.1 ≠ key

/-- The table of a list of entries; of two entries with one key the later counts. -/
def ofList (entries : List (String × α)) : Table α :=
  entries.foldl (fun t entry => insert entry.1 entry.2 t) []

@[simp] theorem find?_insert_self (key : String) (value : α) (t : Table α) :
    find? key (insert key value t) = some value := by
  induction t with
  | nil => simp [insert, find?]
  | cons entry rest ih =>
    obtain ⟨k, v⟩ := entry
    by_cases hk : k = key
    · simp [insert, find?, hk]
    · by_cases hlt : key < k <;> simp [insert, find?, hk, hlt, ih]

@[simp] theorem find?_insert_of_ne {key other : String} (h : other ≠ key) (value : α) (t : Table α) :
    find? other (insert key value t) = find? other t := by
  induction t with
  | nil => simp [insert, find?, h.symm]
  | cons entry rest ih =>
    obtain ⟨k, v⟩ := entry
    by_cases hk : k = key
    · subst hk; simp [insert, find?, h.symm]
    · by_cases hlt : key < k <;> simp [insert, find?, hk, hlt, ih, h.symm]

theorem find?_erase_self (key : String) (t : Table α) : find? key (erase key t) = none := by
  induction t with
  | nil => rfl
  | cons entry rest ih =>
    obtain ⟨k, v⟩ := entry
    by_cases hk : k = key
    · simpa [erase, hk] using ih
    · simpa [erase, hk, find?] using ih

theorem find?_erase_of_ne {key other : String} (h : other ≠ key) (t : Table α) :
    find? other (erase key t) = find? other t := by
  induction t with
  | nil => rfl
  | cons entry rest ih =>
    obtain ⟨k, v⟩ := entry
    by_cases hk : k = key
    · subst hk; simpa [erase, find?, h.symm] using ih
    · have step : erase key ((k, v) :: rest) = (k, v) :: erase key rest := by simp [erase, hk]
      rw [step]
      by_cases ho : k = other <;> simp [find?, ho, ih]

end Table

end DocumentRepository
