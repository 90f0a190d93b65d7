import DocumentRepository.Document

/-! # Paths

A path is cut at every dot. A name without a dot is looked up as it is, and names that are joined by dots lead from map
to map, whatever the names of the entries on the way.
-/
namespace DocumentRepository

/-- The key of a document under which a path starts. -/
def pathKey (path : String) : String := (pathNames path).headD ""

theorem pathNames_eq_cons (path : String) : ∃ rest, pathNames path = pathKey path :: rest := by
  unfold pathKey
  cases h : pathNames path with
  | nil => exact absurd (List.map_eq_nil_iff.mp h) (Text.splitAt_ne_nil _ _)
  | cons name rest => exact ⟨rest, rfl⟩

theorem Document.get?_congr {path : String} {d d' : Document} (h : d.field? (pathKey path) = d'.field? (pathKey path)) :
    d.get? path = d'.get? path := by
  obtain ⟨rest, hpath⟩ := pathNames_eq_cons path
  simp only [Document.get?, hpath, Value.descend]
  exact congrArg (Option.bind · (Value.descend rest)) h

theorem exists_pathNames_of_dotted {path : String} (h : '.' ∈ path.toList) :
    ∃ name rest, pathNames path = pathKey path :: name :: rest := by
  obtain ⟨names, hnames⟩ := pathNames_eq_cons path
  have hlength : (pathNames path).length = path.toList.count '.' + 1 := by
    rw [pathNames, List.length_map, Text.length_splitAt]
  have hpos : 0 < path.toList.count '.' := List.count_pos_iff.mpr h
  cases names with
  | nil => rw [hnames, List.length_singleton] at hlength; omega
  | cons name rest => exact ⟨name, rest, hnames⟩

theorem notMem_pathKey (path : String) : '.' ∉ (pathKey path).toList := by
  obtain ⟨rest, hrest⟩ := pathNames_eq_cons path
  have hmem : pathKey path ∈ pathNames path := hrest ▸ List.mem_cons_self
  obtain ⟨piece, hpiece, hname⟩ := List.mem_map.mp hmem
  rw [← hname, String.toList_ofList]
  exact Text.notMem_of_mem_splitAt hpiece

/-- An entry with a dot in its name is behind no path. -/
theorem Value.descend_dotted {name : String} (h : '.' ∈ name.toList) (path : String) (v : Value) :
    descend (pathNames path) (.map [(name, v)]) = none := by
  obtain ⟨rest, hrest⟩ := pathNames_eq_cons path
  have hne : name ≠ pathKey path := by
    rintro rfl
    exact notMem_pathKey path h
  rw [hrest, descend, Table.find?, if_neg hne]
  rfl

def Value.nest (v : Value) : List String → Value
  | [] => v
  | name :: rest => .map [(name, nest v rest)]

theorem Value.descend_nest (v : Value) (names : List String) : Value.descend names (nest v names) = some v := by
  induction names with
  | nil => rfl
  | cons name rest ih => simp [nest, descend, Table.find?, ih]

theorem pathNames_of_undotted {path : String} (h : '.' ∉ path.toList) : pathNames path = [path] := by
  rw [pathNames, Text.splitAt_of_notMem h, List.map_singleton, String.ofList_toList]

theorem Value.descend_singleton (name : String) (entries : Table Value) :
    descend [name] (.map entries) = Table.find? name entries := Option.bind_fun_some (Table.find? name entries)

theorem Document.get?_of_undotted {path : String} (h : '.' ∉ path.toList) (d : Document) : d.get? path = d.field? path := by
  rw [Document.get?, pathNames_of_undotted h, Value.descend_singleton, Document.field?]

theorem pathNames_append {name : String} (h : '.' ∉ name.toList) (path : String) :
    pathNames (name ++ "." ++ path) = name :: pathNames path := by
  have hcut : (name ++ "." ++ path).toList = name.toList ++ '.' :: path.toList := by simp
  rw [pathNames, hcut, Text.splitAt_append h, List.map_cons, String.ofList_toList, pathNames]

/-- Names without dots are read back from the path that joins them. -/
theorem pathNames_intercalate {names : List String} (hne : names ≠ []) (h : ∀ name ∈ names, '.' ∉ name.toList) :
    pathNames (".".intercalate names) = names := by
  have hcut : Text.splitAt '.' (".".intercalate names).toList = names.map String.toList := by
    rw [String.toList_intercalate]
    exact Text.splitAt_intercalate (mt List.map_eq_nil_iff.mp hne) (List.forall_mem_map.mpr h)
  rw [pathNames, hcut, List.map_map]
  exact List.map_id'' (fun _ => String.ofList_toList) names

namespace Document

/-- A path that begins with a field leads on from the value of the field. -/
theorem get?_append {field : String} (h : '.' ∉ field.toList) (path : String) (d : Document) :
    d.get? (field ++ "." ++ path) = (d.get? field).bind (Value.descend (pathNames path)) := by
  rw [get?_of_undotted h, get?, pathNames_append h, Value.descend]
  rfl

end Document

end DocumentRepository
