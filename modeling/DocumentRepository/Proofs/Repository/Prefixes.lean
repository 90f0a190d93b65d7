import DocumentRepository.Proofs.Query.FilterPart
import DocumentRepository.Proofs.Repository.FieldUpdates

/-! # Methods that differ in their prefixes

The methods of one filter part have one filter on the same arguments, or fail alike before the store is asked. The
operations of the store go through the collection each in its own way; all of them mean the documents that hold under
the filter, so what they answer and do is told by what a find of all gives.
-/
namespace DocumentRepository

namespace Store

variable {name : String} {F : Filter} {s t : Store}

theorem find_plain (s : Store) (name : String) (F : Filter) :
    s.find name F FindOptions.plain = (s.documents name).filter F.holds := by
  simp [find, Collection.search, FindOptions.plain, documents]

theorem findOne_plain (s : Store) (name : String) (F : Filter) :
    s.findOne name F [] = ((s.documents name).filter F.holds).head? := by
  simp [findOne, Collection.search, documents]

theorem count_eq_length (s : Store) (name : String) (F : Filter) :
    s.count name F = ((s.documents name).filter F.holds).length := List.countP_eq_length_filter

theorem documents_deleteMany (s : Store) (name : String) (F : Filter) :
    (s.deleteMany name F).documents name = (s.documents name).filter fun d => !F.holds d := by
  simp [deleteMany, documents, Collection.delete]

/-- An update changes documents where they stand, and only those that hold. -/
theorem documents_updateMany {updates : UpdateBatch} (h : s.updateMany name F updates = .ok t) :
    t.documents name = (s.documents name).map fun d => if F.holds d then updates.apply d else d := by
  rw [StoreCall.updateMany_eq_map] at h
  cases hupdate : (s.collection name).update name F updates with
  | error e =>
    rw [hupdate] at h
    cases h
  | ok c =>
    rw [hupdate] at h
    cases h
    rw [documents, collection_put_self, (Collection.update_eq_ok_iff.mp hupdate).2]
    rfl

end Store

namespace Repository

section Run

variable {r : Repository} {spec : MethodSpec} {args : List Argument} {F : Filter} {s t : Store}
  (hlength : args.length = spec.paramCount)

include hlength

theorem runSpec_of_filter_error {σ : Type} [DocumentStore σ] {e : RepositoryError} (h : spec.filter args = .error e) :
    (r.runSpec spec args : Call σ Outcome) = Action.fail e := by
  unfold runSpec
  rw [if_neg (not_not.mpr hlength), h]
  rfl

variable (hF : spec.filter args = .ok F)

include hF

theorem runSpec_count (hop : spec.operation = .count) (s : Store) :
    r.runSpec spec args s = (.ok (.count (s.count r.schema.collection F)), s) := by
  unfold runSpec
  rw [if_neg (not_not.mpr hlength), hF]
  simp only [hop]
  rfl

theorem runSpec_exists (hop : spec.operation = .exists) (s : Store) :
    r.runSpec spec args s = (.ok (.bool (decide (0 < s.count r.schema.collection F))), s) := by
  unfold runSpec
  rw [if_neg (not_not.mpr hlength), hF]
  simp only [hop]
  rfl

theorem runSpec_delete (hop : spec.operation = .delete) (s : Store) :
    r.runSpec spec args s = (.ok (.bool true), s.deleteMany r.schema.collection F) := by
  unfold runSpec
  rw [if_neg (not_not.mpr hlength), hF]
  simp only [hop]
  rfl

theorem runSpec_find (hop : spec.operation = .find) (htrailing : spec.trailing = none) (s : Store) :
    r.runSpec spec args s = r.runFind spec F ⟨spec.sort, spec.skip, spec.limit⟩ s := by
  unfold runSpec
  rw [if_neg (not_not.mpr hlength), hF]
  simp only [hop, findOptions, htrailing]
  rfl

theorem runSpec_updateFields (hop : spec.operation = .updateFields) {out : Outcome}
    (h : r.runSpec spec args s = (.ok out, t)) : ∃ updates, s.updateMany r.schema.collection F updates = .ok t := by
  unfold runSpec at h
  rw [if_neg (not_not.mpr hlength), hF] at h
  simp only [hop] at h
  obtain ⟨F', u, hread, hrest⟩ := Action.bind_eq_ok_iff.mp h
  obtain ⟨hF', rfl⟩ := Action.ofExcept_eq_ok_iff.mp hread
  cases hF'
  obtain ⟨updates, v, hread', hwrite⟩ := Action.bind_eq_ok_iff.mp hrest
  obtain ⟨-, rfl⟩ := Action.ofExcept_eq_ok_iff.mp hread'
  obtain ⟨b, hdone, -⟩ := Action.map_eq_ok_iff.mp hwrite
  refine ⟨updates, ?_⟩
  simp only [onStore, Action.mapError, DocumentStore.updateMany, Action.write] at hdone
  cases hupdate : v.updateMany r.schema.collection F updates with
  | error e =>
    rw [hupdate] at hdone
    cases hdone
  | ok t' =>
    rw [hupdate] at hdone
    cases hdone
    rfl

end Run

/-- The methods of a filter part have one filter. -/
def FilterAlike (r : Repository) (part : String) (params : List ParamType) (args : List Argument) (F : Filter) : Prop :=
  ∀ p ∈ operationPrefixes, ∀ m spec, Variant r.schema part params p.text m spec →
    ∀ extra, spec.filter (args ++ extra) = .ok F

/-- What the methods of a filter part do on arguments that make a filter, told by what a find of all gives. -/
structure Agree (r : Repository) (part : String) (params : List ParamType) (args : List Argument) (s : Store)
    (F : Filter) (found : List Document) : Prop where
  filtered : r.FilterAlike part params args F
  found_eq : found = (s.documents r.schema.collection).filter F.holds
  count : ∀ m spec, Variant r.schema part params "countBy" m spec →
    r.runSpec spec args s = (.ok (.count found.length), s)
  «exists» : ∀ m spec, Variant r.schema part params "existsBy" m spec →
    r.runSpec spec args s = (.ok (.bool !found.isEmpty), s)
  findFirst : ∀ m spec, Variant r.schema part params "findFirstBy" m spec → m.hasSortAnnotations = false →
    r.runSpec spec args s = (.ok (.entity found.head?), s)
  delete : ∀ m spec, Variant r.schema part params "deleteBy" m spec →
    ∃ t, r.runSpec spec args s = (.ok (.bool true), t) ∧
      t.documents r.schema.collection = (s.documents r.schema.collection).filter (fun d => !F.holds d) ∧
      ∀ m' count, Variant r.schema part params "countBy" m' count → r.runSpec count args t = (.ok (.count 0), t)
  updateFields : ∀ m spec, Variant r.schema part params "updateFieldsBy" m spec → ∀ updates out t,
    r.runSpec spec (args ++ [.update updates]) s = (.ok out, t) →
      (t.documents r.schema.collection).length = (s.documents r.schema.collection).length ∧
        ∀ (i : Nat) (d : Document), (s.documents r.schema.collection)[i]? = some d → d ∉ found →
          (t.documents r.schema.collection)[i]? = some d

/-- The methods of a filter part fail alike, before they ask a store of any kind for anything. -/
def FailAlike (r : Repository) (part : String) (params : List ParamType) (args : List Argument) (e : RepositoryError) :
    Prop :=
  ∀ p ∈ operationPrefixes, ∀ m spec, Variant r.schema part params p.text m spec →
    ∀ extra, (args ++ extra).length = spec.paramCount →
      spec.filter (args ++ extra) = .error (e.ofMethod spec.method) ∧
        ∀ (σ : Type) [DocumentStore σ],
          (r.runSpec spec (args ++ extra) : Call σ Outcome) = Action.fail (e.ofMethod spec.method)

section Agree

variable {r : Repository} {part text : String} {params : List ParamType} {m m' : Method} {many spec : MethodSpec}
  {args : List Argument} {p : OperationPrefix} {F : Filter} {s t : Store}

theorem paramCount_eq (h : Variant r.schema part params text m spec) :
    spec.paramCount = params.length + if (MethodSpec.requiredDirective spec.operation).isSome then 1 else 0 := by
  obtain ⟨htrailing, harity⟩ := h.trailing_eq
  rw [MethodSpec.paramCount, htrailing, harity, Option.isSome_map]

/-- The filter of a method on a filter part is that of the method that finds all, with the name of its own in the errors. -/
theorem filter_eq_of_many (hmany : Variant r.schema part params "findManyBy" m' many) (hargs : args.length = params.length)
    (hp : p ∈ operationPrefixes) (h : Variant r.schema part params p.text m spec) (extra : List Argument) :
    spec.filter (args ++ extra) = (many.filter args).mapError (.ofMethod spec.method) := by
  have hlist : (⟨"findManyBy", .find, some .many⟩ : OperationPrefix) ∈ operationPrefixes := by decide
  have hchain : spec.chain = many.chain := Variant.chain_eq hlist hp hmany h
  have harity : many.chain.arity = params.length := hmany.trailing_eq.2
  rw [MethodSpec.filter_append (by rw [hchain, harity, hargs]), MethodSpec.filter_ofMethod hchain (by rw [harity, hargs])]

section Reading

variable (hargs : args.length = params.length) (hfiltered : r.FilterAlike part params args F)

include hargs hfiltered

/-- A method that needs no directive takes the arguments of the filter. -/
theorem read_variant (hp : p ∈ operationPrefixes) (hdirective : MethodSpec.requiredDirective p.operation = none)
    (h : Variant r.schema part params p.text m spec) :
    args.length = spec.paramCount ∧ spec.filter args = .ok F ∧ spec.trailing = none := by
  have hop : spec.operation = p.operation := h.operation_eq hp
  have hlength : args.length = spec.paramCount := by
    rw [paramCount_eq h, hop, hdirective, hargs]
    rfl
  have hF : spec.filter args = .ok F := by
    have := hfiltered p hp m spec h []
    rwa [List.append_nil] at this
  refine ⟨hlength, hF, ?_⟩
  rw [h.trailing_eq.1, hop, hdirective]
  rfl

theorem run_count (h : Variant r.schema part params "countBy" m spec) (s : Store) :
    r.runSpec spec args s = (.ok (.count ((s.documents r.schema.collection).filter F.holds).length), s) := by
  have hp : (⟨"countBy", .count, none⟩ : OperationPrefix) ∈ operationPrefixes := by decide
  obtain ⟨hlength, hF, -⟩ := read_variant hargs hfiltered hp rfl h
  rw [runSpec_count hlength hF (h.operation_eq hp), Store.count_eq_length]

theorem run_exists (h : Variant r.schema part params "existsBy" m spec) (s : Store) :
    r.runSpec spec args s = (.ok (.bool !((s.documents r.schema.collection).filter F.holds).isEmpty), s) := by
  have hp : (⟨"existsBy", .exists, none⟩ : OperationPrefix) ∈ operationPrefixes := by decide
  obtain ⟨hlength, hF, -⟩ := read_variant hargs hfiltered hp rfl h
  rw [runSpec_exists hlength hF (h.operation_eq hp), Store.count_eq_length]
  cases (s.documents r.schema.collection).filter F.holds <;> rfl

theorem run_findFirst (h : Variant r.schema part params "findFirstBy" m spec) (hplain : m.hasSortAnnotations = false)
    (s : Store) :
    r.runSpec spec args s = (.ok (.entity ((s.documents r.schema.collection).filter F.holds).head?), s) := by
  have hp : (⟨"findFirstBy", .find, some .first⟩ : OperationPrefix) ∈ operationPrefixes := by decide
  obtain ⟨hlength, hF, htrailing⟩ := read_variant hargs hfiltered hp rfl h
  obtain ⟨hsort, hskip, hlimit⟩ := h.unsorted hplain
  rw [runSpec_find hlength hF (h.operation_eq hp) htrailing, hsort, hskip, hlimit, ← Store.findOne_plain]
  unfold runFind
  rw [h.cardinality_eq hp rfl rfl]
  rfl

theorem run_findMany (h : Variant r.schema part params "findManyBy" m spec) (hplain : m.hasSortAnnotations = false)
    (s : Store) :
    r.runSpec spec args s = (.ok (.entities ((s.documents r.schema.collection).filter F.holds)), s) := by
  have hp : (⟨"findManyBy", .find, some .many⟩ : OperationPrefix) ∈ operationPrefixes := by decide
  obtain ⟨hlength, hF, htrailing⟩ := read_variant hargs hfiltered hp rfl h
  obtain ⟨hsort, hskip, hlimit⟩ := h.unsorted hplain
  rw [runSpec_find hlength hF (h.operation_eq hp) htrailing, hsort, hskip, hlimit, ← Store.find_plain]
  unfold runFind
  rw [h.cardinality_eq hp rfl rfl]
  rfl

/-- What is left is what a count of the same filter does not see. -/
theorem run_delete (h : Variant r.schema part params "deleteBy" m spec) (s : Store) :
    ∃ t, r.runSpec spec args s = (.ok (.bool true), t) ∧
      t.documents r.schema.collection = (s.documents r.schema.collection).filter (fun d => !F.holds d) ∧
      ∀ m' count, Variant r.schema part params "countBy" m' count → r.runSpec count args t = (.ok (.count 0), t) := by
  have hp : (⟨"deleteBy", .delete, none⟩ : OperationPrefix) ∈ operationPrefixes := by decide
  obtain ⟨hlength, hF, -⟩ := read_variant hargs hfiltered hp rfl h
  have hleft := Store.documents_deleteMany s r.schema.collection F
  refine ⟨_, runSpec_delete hlength hF (h.operation_eq hp) s, hleft, ?_⟩
  intro m' count hcount
  have hnone : ((s.documents r.schema.collection).filter (fun d => !F.holds d)).filter F.holds = [] := by
    rw [List.filter_filter, List.filter_eq_nil_iff]
    simp
  rw [run_count hargs hfiltered hcount, hleft, hnone]
  rfl

theorem run_updateFields (h : Variant r.schema part params "updateFieldsBy" m spec) {updates : UpdateBatch} {out : Outcome}
    (hrun : r.runSpec spec (args ++ [.update updates]) s = (.ok out, t)) :
    ∃ resolved : UpdateBatch, t.documents r.schema.collection =
      (s.documents r.schema.collection).map fun d => if F.holds d then resolved.apply d else d := by
  have hp : (⟨"updateFieldsBy", .updateFields, none⟩ : OperationPrefix) ∈ operationPrefixes := by decide
  have hop : spec.operation = .updateFields := h.operation_eq hp
  have hlength : (args ++ [Argument.update updates]).length = spec.paramCount := by
    rw [paramCount_eq h, hop, List.length_append, hargs]
    rfl
  obtain ⟨resolved, hupdate⟩ := runSpec_updateFields hlength (hfiltered _ hp m spec h _) hop hrun
  exact ⟨resolved, Store.documents_updateMany hupdate⟩

theorem agree_of_filtered (s : Store) :
    r.Agree part params args s F ((s.documents r.schema.collection).filter F.holds) where
  filtered := hfiltered
  found_eq := rfl
  count _ _ h := run_count hargs hfiltered h s
  «exists» _ _ h := run_exists hargs hfiltered h s
  findFirst _ _ h hplain := run_findFirst hargs hfiltered h hplain s
  delete _ _ h := run_delete hargs hfiltered h s
  updateFields := by
    intro m spec h updates out t hrun
    obtain ⟨resolved, ht⟩ := run_updateFields hargs hfiltered h hrun
    rw [ht]
    refine ⟨List.length_map _, ?_⟩
    intro i d hd houtside
    -- An update may be of any fields, but a document that the filter rejects is not given to it.
    have hrejected : ¬F.holds d := by
      intro hholds
      exact houtside (List.mem_filter.mpr ⟨List.mem_of_getElem? hd, hholds⟩)
    rw [List.getElem?_map, hd, Option.map_some, if_neg hrejected]

end Reading

/-- Methods that differ in their prefixes agree on the filter: what they answer and do is told by what a find of all
gives, or they fail alike. -/
theorem prefixes_agree (hmany : Variant r.schema part params "findManyBy" m many) (hplain : m.hasSortAnnotations = false)
    (hargs : args.length = params.length) (s : Store) :
    (∃ F found, r.runSpec many args s = (.ok (.entities found), s) ∧ r.Agree part params args s F found) ∨
      ∃ e, r.FailAlike part params args e := by
  cases hfilter : many.filter args with
  | ok F =>
    refine .inl ⟨F, (s.documents r.schema.collection).filter F.holds, ?_⟩
    have hfiltered : r.FilterAlike part params args F := by
      intro p hp m' spec h extra
      rw [filter_eq_of_many hmany hargs hp h extra, hfilter]
      rfl
    exact ⟨run_findMany hargs hfiltered hmany hplain s, agree_of_filtered hargs hfiltered s⟩
  | error e =>
    refine .inr ⟨e, ?_⟩
    intro p hp m' spec h extra hlength
    have hfails : spec.filter (args ++ extra) = .error (e.ofMethod spec.method) := by
      rw [filter_eq_of_many hmany hargs hp h extra, hfilter]
      rfl
    exact ⟨hfails, fun σ _ => runSpec_of_filter_error hlength hfails⟩

end Agree

section Example

def ordersOver (text : String) (operation : Operation) (returns : ReturnType) : Method where
  name := text ++ "AmountGreaterThan"
  params := [.value .int] ++ ((MethodSpec.requiredDirective operation).map Prod.fst).toList
  returns := returns
  asynchronous := false
  transform := none
  sortBy := []
  limit := none
  skip := none

def ordersOverSpec (text : String) (operation : Operation) (cardinality : Cardinality) : MethodSpec where
  method := text ++ "AmountGreaterThan"
  effective := text ++ "AmountGreaterThan"
  operation := operation
  cardinality := cardinality
  chain := ⟨.and, [⟨"amount", .int, .greaterThan, false⟩]⟩
  sort := []
  limit := none
  skip := none
  trailing := (MethodSpec.requiredDirective operation).map Prod.snd
  asynchronous := false

theorem ordersOver_variant (text : String) (operation : Operation) (cardinality : Cardinality) (returns : ReturnType)
    (h : MethodSpec.compile orders.schema (ordersOver text operation returns) =
      .ok (ordersOverSpec text operation cardinality)) :
    Variant orders.schema "AmountGreaterThan" [.value .int] text (ordersOver text operation returns)
      (ordersOverSpec text operation cardinality) where
  params_filter := by decide
  name_eq := rfl
  params_eq := rfl
  compiled := h

def order (id amount : Int64) : Document := ⟨[("amount", .int amount), ("id", .int id)]⟩

def threeOrders : Store := Store.empty.put "orders" ⟨[order 1 7, order 2 3, order 3 9], []⟩

/-- Two orders are above five; no order can be compared with a batch of updates. -/
theorem prefixes_agree_orders :
    (∃ F, orders.Agree "AmountGreaterThan" [.value .int] [.value (.int 5)] threeOrders F [order 1 7, order 3 9]) ∧
      orders.runSpec (ordersOverSpec "countBy" .count .many) [.value (.int 5)] threeOrders =
        (.ok (.count 2), threeOrders) ∧
      orders.runSpec (ordersOverSpec "existsBy" .exists .many) [.value (.int 5)] threeOrders =
        (.ok (.bool true), threeOrders) ∧
      orders.runSpec (ordersOverSpec "findFirstBy" .find .first) [.value (.int 5)] threeOrders =
        (.ok (.entity (some (order 1 7))), threeOrders) ∧
      (∃ t, orders.runSpec (ordersOverSpec "deleteBy" .delete .many) [.value (.int 5)] threeOrders =
          (.ok (.bool true), t) ∧
        orders.runSpec (ordersOverSpec "countBy" .count .many) [.value (.int 5)] t = (.ok (.count 0), t)) ∧
      (∃ t, orders.runSpec (ordersOverSpec "updateFieldsBy" .updateFields .many)
          [.value (.int 5), .update [.unset "Amount"]] threeOrders = (.ok (.bool true), t) ∧
        (t.documents "orders")[1]? = some (order 2 3)) ∧
      ∃ e, orders.FailAlike "AmountGreaterThan" [.value .int] [.update []] e := by
  have hlist : (⟨"findManyBy", .find, some .many⟩ : OperationPrefix) ∈ operationPrefixes := by decide
  have hone (arg : Argument) : [arg].length = [ParamType.value .int].length := rfl
  have hmany := ordersOver_variant "findManyBy" .find .many (.entities "Order") rfl
  have hcount := ordersOver_variant "countBy" .count .many .integer rfl
  have hexists := ordersOver_variant "existsBy" .exists .many .bool rfl
  have hfirst := ordersOver_variant "findFirstBy" .find .first (.entity "Order") rfl
  have hdelete := ordersOver_variant "deleteBy" .delete .many .bool rfl
  have hupdate := ordersOver_variant "updateFieldsBy" .updateFields .many .bool rfl
  have hagree :
      ∃ F, orders.Agree "AmountGreaterThan" [.value .int] [.value (.int 5)] threeOrders F [order 1 7, order 3 9] := by
    rcases prefixes_agree hmany rfl (hone (.value (.int 5))) threeOrders with ⟨F, found, hrun, hagree⟩ | ⟨e, he⟩
    · have hfound : found = [order 1 7, order 3 9] :=
        (Outcome.entities.inj (Except.ok.inj (congrArg Prod.fst hrun))).symm
      exact ⟨F, hfound ▸ hagree⟩
    · cases (he _ hlist _ _ hmany [] rfl).1
  have hfails : ∃ e, orders.FailAlike "AmountGreaterThan" [.value .int] [.update []] e := by
    rcases prefixes_agree hmany rfl (hone (.update [])) threeOrders with ⟨F, found, -, hagree⟩ | he
    · cases hagree.filtered _ hlist _ _ hmany []
    · exact he
  obtain ⟨F, hover⟩ := hagree
  refine ⟨⟨F, hover⟩, hover.count _ _ hcount, hover.exists _ _ hexists, hover.findFirst _ _ hfirst rfl, ?_, ?_, hfails⟩
  · obtain ⟨t, hrun, -, hnone⟩ := hover.delete _ _ hdelete
    exact ⟨t, hrun, hnone _ _ hcount⟩
  · have houtside : order 2 3 ∉ [order 1 7, order 3 9] := by
      simp only [List.mem_cons, List.not_mem_nil, order, Document.mk.injEq, List.cons.injEq, Prod.mk.injEq,
        Value.int.injEq]
      decide
    exact ⟨_, rfl, (hover.updateFields _ _ hupdate [.unset "Amount"] _ _ rfl).2 1 _ rfl houtside⟩

end Example

end Repository

end DocumentRepository
