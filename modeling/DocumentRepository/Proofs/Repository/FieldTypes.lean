import DocumentRepository.Contract.Result
import DocumentRepository.Proofs.Repository.FieldUpdates
import DocumentRepository.Proofs.Store.Origin
import DocumentRepository.Proofs.Value.Within

/-! # Documents and the types of their fields

The values of updates are not looked at, and neither is the field that a rename goes to. So an accepted batch keeps all
documents to the types of the declared fields just if, for each of these, the types of the fields that its value can
come from are within its own, and a value that the batch gives it fits. Nothing else that a call does to documents can
lead out of the types, except that it saves a document that does not keep to them.
-/
namespace DocumentRepository

namespace Schema

/-- What a document holds under the names of the declared fields fits their types. -/
def Admits (schema : Schema) (d : Document) : Prop :=
  ∀ f ∈ schema.fields, ∀ v, d.field? f.name = some v → v.fits f.type = true

def AdmitsAll (schema : Schema) (s : Store) : Prop := ∀ d ∈ s.documents schema.collection, schema.Admits d

def Declares (schema : Schema) (key : String) : Prop := ∃ f ∈ schema.fields, f.name = key

variable {schema : Schema} {f g : Field}

theorem eq_of_name_eq (hf : f ∈ schema.fields) (hg : g ∈ schema.fields) (hname : f.name = g.name) : f = g :=
  List.inj_on_of_nodup_map schema.keys_nodup hf hg (congrArg fieldKey hname)

instance (schema : Schema) (d : Document) : Decidable (schema.Admits d) :=
  decidable_of_iff (∀ f ∈ schema.fields, (d.field? f.name).all (·.fits f.type) = true)
    (forall₂_congr fun _ _ => Option.all_eq_true _ _)

instance (schema : Schema) (s : Store) : Decidable (schema.AdmitsAll s) :=
  inferInstanceAs (Decidable (∀ d ∈ s.documents schema.collection, schema.Admits d))

theorem admits_empty (schema : Schema) : schema.Admits .empty := by
  intro f _ v hv
  cases hv

theorem admits_single (hf : f ∈ schema.fields) {v : Value} (hv : v.fits f.type = true) : schema.Admits ⟨[(f.name, v)]⟩ := by
  intro g hg w hw
  by_cases hname : g.name = f.name
  · have hvw : v = w := by simpa [Document.field?, Table.find?, hname] using hw
    rw [eq_of_name_eq hg hf hname, ← hvw]
    exact hv
  · simp [Document.field?, Table.find?, Ne.symm hname] at hw

end Schema

/-- Whatever the documents, the value is one of a type: the types of the keys it can come from are within it, and the
given value fits. -/
def Origin.Suits (o : Origin) (schema : Schema) (type : ValueType) : Prop :=
  (∀ f ∈ schema.fields, f.name ∈ o.keys → f.type.within type = true) ∧ ∀ v, o.given = some v → v.fits type = true

def UpdateBatch.Suits (updates : UpdateBatch) (schema : Schema) : Prop :=
  ∀ f ∈ schema.fields, (updates.origin f.name).Suits schema f.type

/-- An update that keeps to the types by itself: what is set fits, and what is renamed is of a type within that of the
field it goes to. -/
def FieldUpdate.Respects (schema : Schema) : FieldUpdate → Prop
  | .set field v => ∀ f ∈ schema.fields, f.name = field → v.fits f.type = true
  | .unset _ => True
  | .rename field target => ∀ f ∈ schema.fields, f.name = field → ∀ g ∈ schema.fields, g.name = target → f.type.within g.type = true

namespace UpdateBatch

variable {schema : Schema} {updates : UpdateBatch}

theorem admits_iff (hupdates : ∀ u ∈ updates, schema.Declares u.field) :
    (∀ d, schema.Admits d → schema.Admits (updates.apply d)) ↔ updates.Suits schema := by
  constructor
  · intro hkeeps f hf
    constructor
    · intro g hg hkey
      -- A document that holds nothing but a value of the one field shows what comes of it.
      refine ValueType.within_iff.mpr fun v hv => hkeeps _ (Schema.admits_single hg hv) f hf v ?_
      rw [field?_apply_eq_origin]
      refine Origin.value_of_mem hkey ?_ ?_
      · simp [Document.field?, Table.find?]
      · intro other hother
        simp [Document.field?, Table.find?, Ne.symm hother]
    · intro v hv
      refine hkeeps _ schema.admits_empty f hf v ?_
      rw [field?_apply_eq_origin, Origin.value_empty, hv]
  · intro hsuits d hd f hf v hv
    obtain ⟨hkeys, hgiven⟩ := hsuits f hf
    rw [field?_apply_eq_origin] at hv
    rcases Origin.value_eq_some hv with ⟨key, hkey, hkv⟩ | hv
    · obtain ⟨g, hg, rfl⟩ := keys_origin hupdates ⟨f, hf, rfl⟩ key hkey
      exact ValueType.fits_of_within (hkeys g hg hkey) (hd g hg v hkv)
    · exact hgiven v hv

end UpdateBatch

theorem FieldUpdate.Respects.admits {schema : Schema} {u : FieldUpdate} (hu : u.Respects schema)
    (hfield : schema.Declares u.field) {d : Document} (hd : schema.Admits d) : schema.Admits (u.apply d) := by
  have hfit : ∀ field v, (∀ f ∈ schema.fields, f.name = field → v.fits f.type = true) → ∀ d, schema.Admits d →
      schema.Admits (d.insert field v) := by
    intro field v hv d hd f hf w hw
    by_cases hname : f.name = field
    · rw [hname, Document.field?_insert_self] at hw
      cases hw
      exact hv f hf hname
    · rw [Document.field?_insert_of_ne hname] at hw
      exact hd f hf w hw
  have hremove : ∀ field, schema.Admits (d.remove field) := by
    intro field f hf w hw
    by_cases hname : f.name = field
    · rw [hname, Document.field?_remove_self] at hw
      cases hw
    · rw [Document.field?_remove_of_ne hname] at hw
      exact hd f hf w hw
  cases u with
  | set field v => exact hfit field v hu d hd
  | unset field => exact hremove field
  | rename field target =>
    rw [apply]
    cases hv : d.field? field with
    | none => exact hd
    | some v =>
      obtain ⟨f, hf, rfl⟩ := hfield
      refine hfit target v (fun g hg hname => ?_) _ (hremove f.name)
      exact ValueType.fits_of_within (hu f hf rfl g hg hname) (hd f hf v hv)

theorem UpdateBatch.admits_apply {schema : Schema} {updates : UpdateBatch}
    (hfields : ∀ u ∈ updates, schema.Declares u.field) (hupdates : ∀ u ∈ updates, u.Respects schema) (d : Document)
    (hd : schema.Admits d) : schema.Admits (updates.apply d) := by
  induction updates generalizing d with
  | nil => exact hd
  | cons u rest ih =>
    obtain ⟨hfield, hfields⟩ := List.forall_mem_cons.mp hfields
    obtain ⟨hu, hrest⟩ := List.forall_mem_cons.mp hupdates
    exact ih hfields hrest (u.apply d) (hu.admits hfield hd)

/-! ## Operations and calls -/

namespace StoreCall

variable {schema : Schema} {op : StoreCall} {ops : List StoreCall} {s : Store}

def KeepsTypes (schema : Schema) : StoreCall → Prop
  | .updateMany _ _ updates => ∀ d, schema.Admits d → schema.Admits (updates.apply d)
  | .upsertById _ _ _ d => schema.Admits d
  | .insert _ d => schema.Admits d
  | _ => True

theorem KeepsTypes.effect (h : op.KeepsTypes schema) {c c' : Collection} (hc : ∀ d ∈ c.documents, schema.Admits d)
    (he : op.effect c = .ok c') : ∀ d ∈ c'.documents, schema.Admits d := by
  have happended : ∀ d, schema.Admits d → ∀ d' ∈ c.documents ++ [d], schema.Admits d' := by
    intro d hd d' hd'
    rcases List.mem_append.mp hd' with hd' | hd'
    · exact hc d' hd'
    · exact List.mem_singleton.mp hd' ▸ hd
  cases op with
  | deleteMany name filter =>
    cases he
    exact fun d hd => hc d (List.mem_filter.mp hd).1
  | updateMany name filter updates =>
    obtain ⟨-, rfl⟩ := Collection.update_eq_ok_iff.mp he
    intro d' hd'
    obtain ⟨d, hd, rfl⟩ := List.mem_map.mp hd'
    split
    · exact h d (hc d hd)
    · exact hc d hd
  | upsertById name idField id d =>
    obtain ⟨i, hi, -, rfl⟩ | ⟨-, rfl⟩ := Collection.upsert_eq_ok_cases he
    · intro d' hd'
      rcases List.mem_or_eq_of_mem_set hd' with hd' | rfl
      · exact hc d' hd'
      · exact h
    · exact happended d h
  | insert name d =>
    obtain ⟨-, rfl⟩ := Collection.insert_eq_ok_iff.mp he
    exact happended d h
  | deleteCollection name =>
    cases he
    exact fun d hd => absurd hd List.not_mem_nil
  | createIndex name index =>
    cases he
    rw [Collection.createIndex]
    split <;> exact hc
  | _ =>
    cases he
    exact hc

theorem KeepsTypes.perform (h : op.KeepsTypes schema) (hs : schema.AdmitsAll s) : schema.AdmitsAll (op.perform s).2 := by
  cases he : op.effect (s.collection op.collection) with
  | error e =>
    rw [perform_of_error he]
    exact hs
  | ok c =>
    obtain ⟨-, hself, hothers⟩ := perform_of_ok he
    by_cases hname : op.collection = schema.collection
    · rw [hname] at he hself
      rw [Schema.AdmitsAll, Store.documents, hself]
      exact h.effect hs he
    · rw [Schema.AdmitsAll, Store.documents, hothers _ (Ne.symm hname)]
      exact hs

theorem admitsAll_performAll (h : ∀ op ∈ ops, op.KeepsTypes schema) (hs : schema.AdmitsAll s) :
    schema.AdmitsAll (performAll ops s) := by
  induction ops generalizing s with
  | nil => exact hs
  | cons op rest ih =>
    obtain ⟨hop, hrest⟩ := List.forall_mem_cons.mp h
    exact ih hrest (hop.perform hs)

end StoreCall

namespace NamedCall

inductive Saves (call : NamedCall) (r : Repository) : Document → Prop where
  | one {d : Document} (htarget : r.target? call.method call.asynchronous = some (.predefined .save))
    (hgiven : .entity d ∈ call.args) : Saves call r d
  | all {ds : List Document} {d : Document}
    (htarget : r.target? call.method call.asynchronous = some (.predefined .saveAll))
    (hgiven : .entities ds ∈ call.args) (hd : d ∈ ds) : Saves call r d

structure KeepsTypes (call : NamedCall) (r : Repository) : Prop where
  saves : ∀ d, call.Saves r d → r.schema.Admits d
  updates : call.Updates r → ∀ updates, .update updates ∈ call.args → ∀ method resolved,
    r.resolveUpdates method updates = .ok resolved → resolved.Suits r.schema

end NamedCall

namespace Repository

variable {r : Repository} {method : String} {updates resolved : UpdateBatch}

theorem declares_of_mem_resolved (h : r.resolveUpdates method updates = .ok resolved) :
    ∀ u ∈ resolved, r.schema.Declares u.field := by
  intro u hu
  obtain ⟨f, hf, -, hname⟩ := writable_of_mem_resolved h hu
  exact ⟨f, hf, hname⟩

section Walk

open StoreCall

variable {args : List Argument} {kind : StoreCall → Prop} {α β : Type}

/-- A part of a call that makes something of the answer to one operation. -/
theorem performs_asked (op : StoreCall) (hop : kind op) {a : Action Store StoreError β} (ha : op.perform = a.discard)
    (g : β → α) : (onStore a >>= fun x => pure (g x) : Call Store α).Performs kind :=
  (Action.performs_onStore hop ha).bind fun x => Action.performs_pure (g x)

theorem save_keepsTypes {d : Document} (hd : r.schema.Admits d) :
    (r.save d : Call Store Bool).Performs (KeepsTypes r.schema) := by
  unfold save
  split
  case h_1 id _ =>
    have hop : KeepsTypes r.schema (.upsertById r.schema.collection r.idName id d) := hd
    exact Action.performs_onStore hop rfl
  case h_2 =>
    have hop : KeepsTypes r.schema (.insert r.schema.collection d) := hd
    exact Action.performs_onStore hop rfl

theorem saveEach_keepsTypes {ds : List Document} (hds : ∀ d ∈ ds, r.schema.Admits d) (acknowledged : Bool) :
    (Predefined.saveEach r ds acknowledged : Call Store Bool).Performs (KeepsTypes r.schema) := by
  induction ds generalizing acknowledged with
  | nil => exact Action.performs_pure acknowledged
  | cons d rest ih =>
    obtain ⟨hd, hrest⟩ := List.forall_mem_cons.mp hds
    exact (save_keepsTypes hd).bind fun saved => ih hrest (acknowledged && saved)

theorem predefined_keepsTypes {op : Predefined}
    (hsave : op = .save → ∀ d, .entity d ∈ args → r.schema.Admits d)
    (hsaveAll : op = .saveAll → ∀ ds, .entities ds ∈ args → ∀ d ∈ ds, r.schema.Admits d)
    (hupdate : op = .updateAllFields → ∀ updates, .update updates ∈ args → ∀ resolved,
      r.resolveUpdates method updates = .ok resolved → ∀ d, r.schema.Admits d → r.schema.Admits (resolved.apply d)) :
    (op.run r method args : Call Store Outcome).Performs (KeepsTypes r.schema) := by
  unfold Predefined.run
  split
  · exact Action.performs_fail _
  · cases op with
    | getCollectionName => exact Action.performs_pure _
    | getUniqueId => exact Action.performs_given fun id => Action.performs_pure _
    | findById => exact Action.performs_given fun id => performs_asked (.findOne _ _ []) trivial rfl _
    | findAll => exact performs_asked (.find _ _ _) trivial rfl _
    | save =>
      refine Action.performs_given_ok fun d hd => (save_keepsTypes (hsave rfl d ?_)).bind fun b => Action.performs_pure _
      exact List.mem_of_getLast? (Predefined.entityArg_eq_ok hd)
    | saveAll =>
      refine Action.performs_given_ok fun ds hds =>
        (saveEach_keepsTypes (hsaveAll rfl ds ?_) true).bind fun b => Action.performs_pure _
      exact List.mem_of_getLast? (Predefined.entitiesArg_eq_ok hds)
    | delete => exact Action.performs_given fun id => performs_asked (.deleteMany _ _) trivial rfl _
    | deleteById => exact Action.performs_given fun id => performs_asked (.deleteMany _ _) trivial rfl _
    | deleteAll => exact performs_asked (.deleteCollection _) trivial rfl _
    | «exists» => exact Action.performs_given fun id => performs_asked (.count _ _) trivial rfl _
    | existsById => exact Action.performs_given fun id => performs_asked (.count _ _) trivial rfl _
    | updateAllFields =>
      refine Action.performs_given_ok fun resolved hresolved => ?_
      obtain ⟨updates, harg, hresolve⟩ := NamedCall.updatesArg_eq_ok hresolved
      exact performs_asked (.updateMany _ .all resolved)
        (hupdate rfl updates (List.mem_of_getLast? harg) resolved hresolve) rfl _

theorem runFind_keepsTypes (spec : MethodSpec) (filter : Filter) (options : FindOptions) :
    (r.runFind spec filter options : Call Store Outcome).Performs (KeepsTypes r.schema) := by
  unfold runFind
  split
  · split
    · exact performs_asked (.findOne _ filter _) trivial rfl _
    · exact performs_asked (.find _ filter _) trivial rfl _
  · exact performs_asked (.find _ filter _) trivial rfl _

theorem runSpec_keepsTypes {spec : MethodSpec}
    (hupdate : spec.operation = .updateFields → ∀ updates, .update updates ∈ args → ∀ resolved,
      r.resolveUpdates spec.method updates = .ok resolved → ∀ d, r.schema.Admits d → r.schema.Admits (resolved.apply d)) :
    (r.runSpec spec args : Call Store Outcome).Performs (KeepsTypes r.schema) := by
  unfold runSpec
  split
  · exact Action.performs_fail _
  · refine Action.performs_given fun filter => ?_
    cases hop : spec.operation with
    | count => exact performs_asked (.count _ filter) trivial rfl _
    | delete => exact performs_asked (.deleteMany _ filter) trivial rfl _
    | «exists» => exact performs_asked (.count _ filter) trivial rfl _
    | updateFields =>
      refine Action.performs_given_ok fun resolved hresolved => ?_
      obtain ⟨updates, harg, hresolve⟩ := NamedCall.updatesOf_eq_ok hresolved
      exact performs_asked (.updateMany _ filter resolved)
        (hupdate hop updates (List.mem_of_getElem? harg) resolved hresolve) rfl _
    | find => exact Action.performs_given fun options => runFind_keepsTypes spec filter options
    | page => exact Action.performs_given fun options => runFind_keepsTypes spec filter options

end Walk

end Repository

namespace NamedCall

variable {r : Repository} {call : NamedCall} {calls : List NamedCall} {s : Store}

theorem KeepsTypes.performs (h : call.KeepsTypes r) :
    (r.invoke call.method call.args call.asynchronous : Repository.Call Store Outcome).Performs
      (StoreCall.KeepsTypes r.schema) := by
  have hupdates : call.Updates r → ∀ updates, .update updates ∈ call.args → ∀ method resolved,
      r.resolveUpdates method updates = .ok resolved → ∀ d, r.schema.Admits d → r.schema.Admits (resolved.apply d) :=
    fun hcall updates hgiven method resolved hresolved =>
      (UpdateBatch.admits_iff (Repository.declares_of_mem_resolved hresolved)).mpr
        (h.updates hcall updates hgiven method resolved hresolved)
  unfold Repository.invoke
  cases htarget : r.target? call.method call.asynchronous with
  | none => exact Action.performs_fail _
  | some target =>
    cases target with
    | derived spec =>
      refine Repository.runSpec_keepsTypes fun hop updates hgiven resolved => ?_
      exact hupdates (Or.inr ⟨spec, htarget, hop⟩) updates hgiven spec.method resolved
    | predefined op =>
      refine Repository.predefined_keepsTypes ?_ ?_ ?_
      · rintro rfl d hgiven
        exact h.saves d (.one htarget hgiven)
      · rintro rfl ds hgiven d hd
        exact h.saves d (.all htarget hgiven hd)
      · rintro rfl updates hgiven resolved
        exact hupdates (Or.inl htarget) updates hgiven call.method resolved

theorem KeepsTypes.run (h : call.KeepsTypes r) (hs : r.schema.AdmitsAll s) : r.schema.AdmitsAll (call.run r s).2 := by
  obtain ⟨ops, hops, hrun⟩ := h.performs s
  have hrun' : (call.run r s).2 = StoreCall.performAll ops s := hrun
  rw [hrun']
  exact StoreCall.admitsAll_performAll hops hs

theorem admitsAll_runAll (h : ∀ call ∈ calls, call.KeepsTypes r) (hs : r.schema.AdmitsAll s) :
    r.schema.AdmitsAll (runAll r calls s) := by
  induction calls generalizing s with
  | nil => exact hs
  | cons call rest ih =>
    obtain ⟨hcall, hrest⟩ := List.forall_mem_cons.mp h
    exact ih hrest (hcall.run hs)

end NamedCall

namespace Repository

/-- An accepted batch keeps every document that keeps to the types so just if it suits them; that is so if each of its
updates keeps to the types by itself. A run of calls of any kind, failed or not, whose saved documents keep to the types
and whose accepted batches suit them keeps all documents of the collection to the types. -/
theorem documents_keep_types (r : Repository) :
    (∀ (method : String) (updates resolved : UpdateBatch), r.resolveUpdates method updates = .ok resolved →
      ((∀ d, r.schema.Admits d → r.schema.Admits (resolved.apply d)) ↔ resolved.Suits r.schema) ∧
      ((∀ u ∈ resolved, u.Respects r.schema) → resolved.Suits r.schema)) ∧
    ∀ (calls : List NamedCall) (s : Store), (∀ call ∈ calls, call.KeepsTypes r) → r.schema.AdmitsAll s →
      r.schema.AdmitsAll (NamedCall.runAll r calls s) := by
  refine ⟨fun method updates resolved h => ?_, fun calls s hcalls hs => NamedCall.admitsAll_runAll hcalls hs⟩
  have hiff := UpdateBatch.admits_iff (declares_of_mem_resolved h)
  exact ⟨hiff, fun hrespects => hiff.mp (UpdateBatch.admits_apply (declares_of_mem_resolved h) hrespects)⟩

section Example

def setAmount (v : Value) : NamedCall := ⟨"updateAllFields", [.update [.set "Amount" v, .unset "lines"]], false⟩

def saveOrder (id : Int64) : NamedCall := ⟨"save", [.entity ⟨[("amount", .int 3), ("id", .int id)]⟩], false⟩

theorem resolve_setAmount (method : String) (v : Value) :
    orders.resolveUpdates method [.set "Amount" v, .unset "lines"] = .ok [.set "amount" v, .unset "lines"] := by
  have hamount : orders.schema.field? "Amount" = some ⟨"amount", .int, false, false, false⟩ := rfl
  have hlines : orders.schema.field? "lines" = some ⟨"lines", .list .int, false, false, false⟩ := rfl
  have hid : orders.idName = "id" := rfl
  refine mapM_eq_ok_iff.mpr (.cons ?_ (.cons ?_ .nil))
  · simp [resolveUpdate, FieldUpdate.field, hamount, hid, retarget]
  · simp [resolveUpdate, FieldUpdate.field, hlines, hid, retarget]

theorem documents_keep_types_orders :
    UpdateBatch.Suits [.set "amount" (.int 5), .unset "lines"] orders.schema ∧
      orders.schema.AdmitsAll (NamedCall.runAll orders [saveOrder 2, setAmount (.int 5)] oneOrder) := by
  obtain ⟨hbatch, hruns⟩ := documents_keep_types orders
  have hsuits : UpdateBatch.Suits [.set "amount" (.int 5), .unset "lines"] orders.schema := by
    refine (hbatch _ _ _ (resolve_setAmount "updateAllFields" (.int 5))).2 fun u hu => ?_
    rcases List.mem_pair.mp hu with rfl | rfl
    · have hfits : ∀ f ∈ orders.schema.fields, f.name = "amount" → (Value.int 5).fits f.type = true := by decide
      exact hfits
    · trivial
  refine ⟨hsuits, hruns _ _ ?_ (by decide)⟩
  intro call hcall
  rcases List.mem_pair.mp hcall with rfl | rfl
  · refine ⟨fun d hd => ?_, fun _ updates hgiven => ?_⟩
    · cases hd with
      | one _ hgiven =>
        cases List.mem_singleton.mp hgiven
        decide
      | all htarget => cases htarget
    · cases List.mem_singleton.mp hgiven
  · refine ⟨fun d hd => ?_, fun _ updates hgiven method resolved h => ?_⟩
    · cases hd with
      | one htarget => cases htarget
      | all htarget => cases htarget
    · cases List.mem_singleton.mp hgiven
      cases (resolve_setAmount method (.int 5)).symm.trans h
      exact hsuits

/-- A call can set an amount to a text; then amounts are no longer read as integers. -/
theorem set_ignores_types :
    (¬∀ (r : Repository) (call : NamedCall) (s : Store), call.Updates r → (∃ out, (call.run r s).1 = .ok out) →
        r.schema.AdmitsAll s → r.schema.AdmitsAll (call.run r s).2) ∧
      let integers : ResultType := .entities (.record [("id", .integer), ("amount", .integer)])
      let readAll : Call Store Result := orders.invokeAs (Outcome.as integers) "findAll" [] false
      (readAll oneOrder).1 = .ok (.entities [⟨[("amount", .int 7), ("id", .int 1)]⟩]) ∧
        (readAll ((setAmount (.text "x")).run orders oneOrder).2).1 = .error (.error .malformedEntity) := by
  refine ⟨fun h => ?_, rfl, rfl⟩
  exact absurd (h orders (setAmount (.text "x")) oneOrder (Or.inl rfl) ⟨.bool true, rfl⟩ (by decide)) (by decide)

end Example

end Repository

end DocumentRepository
