import DocumentRepository.Proofs.Path
import DocumentRepository.Proofs.Query.Slice

/-! # Keys of maps

The filter of a key test joins the field and the key to one path, and the path is cut again at every dot. So a key
without a dot is looked up in the map as it is, while the names in a key with dots lead from map to map.
-/
namespace DocumentRepository

variable {spec : MethodSpec} {t : Term} {key : String} {names : List String} {entries : Table Value} {d : Document}

/-- The filter of a key test, its negation left aside. -/
def Term.keyFilter (t : Term) (key : String) : Filter := .exists (t.field ++ "." ++ key)

theorem MethodSpec.filter_key (hterms : spec.chain.terms = [t]) (hop : t.operator = .hasKey) (key : String) :
    spec.filter [.value (.text key)] = .ok ((t.keyFilter key).negateIf t.negated) := by
  have hone : t.filterOf ⟨spec.method, 0⟩ [.value (.text key)] = .ok (t.keyFilter key) := by
    simp only [Term.filterOf, Term.filterOfOne, hop]
    rfl
  rw [filter_singleton hterms (by rw [hop]; rfl), hone]
  rfl

theorem Term.holds_keyFilter (hfield : '.' ∉ t.field.toList) (hd : d.get? t.field = some (.map entries)) :
    ((t.keyFilter key).negateIf t.negated).holds d =
      (t.negated ^^ (Value.descend (pathNames key) (.map entries)).isSome) := by
  rw [Filter.holds_negateIf, keyFilter, Filter.holds, Document.get?_append hfield, hd]
  rfl

/-- A key test says of all maps whether they have the key just if the key has no dot. The names in a key, joined by
dots, lead from map to map. -/
theorem MethodSpec.key_test_follows_path (spec : MethodSpec) (hterms : spec.chain.terms = [t]) (hop : t.operator = .hasKey)
    (hfield : '.' ∉ t.field.toList) (key : String) :
    ∃ F, spec.filter [.value (.text key)] = .ok F ∧
      ((∀ d entries, d.get? t.field = some (.map entries) → F.holds d = (t.negated ^^ (Table.find? key entries).isSome)) ↔
        '.' ∉ key.toList) ∧
      ∀ names, names ≠ [] → (∀ name ∈ names, '.' ∉ name.toList) → key = ".".intercalate names →
        ∀ d entries, d.get? t.field = some (.map entries) →
          F.holds d = (t.negated ^^ (Value.descend names (.map entries)).isSome) := by
  refine ⟨_, filter_key hterms hop key, ⟨fun hall hdot => ?_, fun hkey d entries hd => ?_⟩, ?_⟩
  · have hfound : (Document.mk [(t.field, .map [(key, .null)])]).get? t.field = some (.map [(key, .null)]) := by
      rw [Document.get?_of_undotted hfield]
      simp [Document.field?, Table.find?]
    have hholds := hall _ _ hfound
    rw [Term.holds_keyFilter hfield hfound, Value.descend_dotted hdot] at hholds
    cases hnegated : t.negated <;> simp [hnegated, Table.find?] at hholds
  · rw [Term.holds_keyFilter hfield hd, pathNames_of_undotted hkey, Value.descend_singleton]
  · rintro names hne hnames rfl d entries hd
    rw [Term.holds_keyFilter hfield hd, pathNames_intercalate hne hnames]

def tagSchema : Schema where
  entity := "Order"
  collection := "orders"
  fields := [⟨"id", .int, true, false, false⟩, ⟨"tags", .map, false, false, false⟩]
  id := ⟨"id", .int, true, false, false⟩
  indexes := []
  dropsEntities := false
  dropsIndexes := false
  keys_nodup := by decide +kernel
  id_mem := List.mem_cons_self

def tagsLack : ParsedName := ⟨.count, none, ⟨.and, [⟨"tags", .map, .hasKey, true⟩]⟩⟩

def tagsHave : ParsedName := ⟨.count, none, ⟨.and, [⟨"tags", .map, .hasKey, false⟩]⟩⟩

/-- A key without a dot is looked for among the tags, and one with a dot leads to the size inside of the box. -/
theorem MethodSpec.key_test_follows_path_tags :
    MethodName.parse tagSchema "countByTagsNotHasKey" = .ok tagsLack ∧
      (∃ F, (ofParsed "countByTagsNotHasKey" tagsLack).filter [.value (.text "vip")] = .ok F ∧
        F.holds ⟨[("tags", .map [("old", .null)])]⟩ = true ∧ F.holds ⟨[("tags", .map [("vip", .null)])]⟩ = false) ∧
      ∃ F, (ofParsed "countByTagsHasKey" tagsHave).filter [.value (.text "box.size")] = .ok F ∧
        F.holds ⟨[("tags", .map [("box", .map [("size", .int 3)])])]⟩ = true := by
  have hfield : '.' ∉ "tags".toList := by decide
  obtain ⟨F, hF, hplain, -⟩ := key_test_follows_path (ofParsed "countByTagsNotHasKey" tagsLack) rfl rfl hfield "vip"
  obtain ⟨G, hG, -, hpath⟩ := key_test_follows_path (ofParsed "countByTagsHasKey" tagsHave) rfl rfl hfield "box.size"
  have hvip := hplain.mpr (by decide)
  have hsize := hpath ["box", "size"] (List.cons_ne_nil _ _) (by decide) (by decide)
  have hold := hvip ⟨[("tags", .map [("old", .null)])]⟩ [("old", .null)] rfl
  have hkept := hvip ⟨[("tags", .map [("vip", .null)])]⟩ [("vip", .null)] rfl
  have hbox := hsize ⟨[("tags", .map [("box", .map [("size", .int 3)])])]⟩ [("box", .map [("size", .int 3)])] rfl
  exact ⟨rfl, ⟨F, hF, hold.trans (by decide), hkept.trans (by decide)⟩, G, hG, hbox.trans (by decide +kernel)⟩

/-- A key with a dot is in the map and its test does not see it. -/
theorem MethodSpec.key_test_misses_dotted_key :
    ¬∀ (spec : MethodSpec) (t : Term) (key : String) (F : Filter) (d : Document) (entries : Table Value),
      spec.chain.terms = [t] → t.operator = .hasKey → t.negated = false → '.' ∉ t.field.toList →
        spec.filter [.value (.text key)] = .ok F → d.get? t.field = some (.map entries) →
          (F.holds d = true ↔ (Table.find? key entries).isSome = true) := by
  intro hall
  have hsees := hall (ofParsed "countByTagsHasKey" tagsHave) ⟨"tags", .map, .hasKey, false⟩ "box.size"
    (.exists "tags.box.size") ⟨[("id", .int 1), ("tags", .map [("box.size", .int 3)])]⟩ [("box.size", .int 3)]
    rfl rfl rfl (by decide) rfl rfl
  exact absurd (hsees.mpr rfl) (by decide +kernel)

end DocumentRepository
