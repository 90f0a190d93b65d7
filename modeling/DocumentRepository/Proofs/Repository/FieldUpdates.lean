import DocumentRepository.Proofs.Repository.Run
import DocumentRepository.Proofs.Repository.Soundness
import DocumentRepository.Proofs.Schema.Resolution
import DocumentRepository.Proofs.Store.BatchFrame
import DocumentRepository.Proofs.Store.UniqueIndex
import Mathlib.Data.List.Nodup

/-! # Updates of declared fields

The fields of the updates of a call are declared ones and never the id, but the target of a rename
is any name at all. So a batch changes declared fields only, except that a rename can move a value
to another key, the id's among them; without such a rename no call changes the id of a document.
-/
namespace DocumentRepository

namespace Schema

variable {schema : Schema} {f : Field} {name : String}

def Writable (schema : Schema) (key : String) : Prop := ∃ f ∈ schema.fields, f ≠ schema.id ∧ f.name = key

theorem eq_id_of_name_eq (hf : f ∈ schema.fields) (hname : f.name = schema.id.name) : f = schema.id :=
  List.inj_on_of_nodup_map schema.keys_nodup hf schema.id_mem (congrArg fieldKey hname)

theorem not_writable_id (schema : Schema) : ¬schema.Writable schema.id.name := by
  rintro ⟨f, hf, hne, hname⟩
  exact hne (eq_id_of_name_eq hf hname)

end Schema

namespace Repository

variable {r : Repository} {method : String} {updates resolved : UpdateBatch} {u v : FieldUpdate} {key : String}

@[simp] theorem field_retarget (field : String) (u : FieldUpdate) : (retarget field u).field = field := by
  cases u <;> rfl

theorem resolveUpdate_eq_ok (h : r.resolveUpdate method u = .ok v) :
    ∃ f ∈ r.schema.fields, f ≠ r.schema.id ∧ v = retarget f.name u := by
  unfold resolveUpdate at h
  split at h
  · cases h
  · rename_i f hf
    split at h
    · cases h
    · rename_i hname
      cases h
      refine ⟨f, (Schema.field?_eq_some_iff.mp hf).1, ?_, rfl⟩
      rintro rfl
      exact hname rfl

theorem writable_of_mem_resolved (h : r.resolveUpdates method updates = .ok resolved) (hv : v ∈ resolved) :
    r.schema.Writable v.field := by
  obtain ⟨u, -, hu⟩ := exists_of_mem_mapM h hv
  obtain ⟨f, hf, hid, rfl⟩ := resolveUpdate_eq_ok hu
  exact ⟨f, hf, hid, (field_retarget f.name u).symm⟩

theorem rename_of_mem_resolved {field target : String} (h : r.resolveUpdates method updates = .ok resolved)
    (hv : .rename field target ∈ resolved) : ∃ source, .rename source target ∈ updates := by
  obtain ⟨u, hmem, hu⟩ := exists_of_mem_mapM h hv
  obtain ⟨f, -, -, hretarget⟩ := resolveUpdate_eq_ok hu
  cases u with
  | rename source other => cases hretarget; exact ⟨source, hmem⟩
  | _ => cases hretarget

theorem field_ne_of_not_writable (h : r.resolveUpdates method updates = .ok resolved) (hkey : ¬r.schema.Writable key) :
    ∀ u ∈ resolved, u.field ≠ key := by
  rintro u hu rfl
  exact hkey (writable_of_mem_resolved h hu)

theorem keeps_to_fields_iff (h : r.resolveUpdates method updates = .ok resolved) :
    (∀ d key, (resolved.apply d).field? key ≠ d.field? key → r.schema.Writable key) ↔
      ∀ d key, ¬r.schema.Writable key → resolved.movedTo key d = none := by
  constructor
  · intro hwritable d key hkey
    refine (UpdateBatch.keeps_iff (field_ne_of_not_writable h hkey)).mp (fun d => ?_) d
    by_contra hchanged
    exact hkey (hwritable d key hchanged)
  · intro hnone d key hchanged
    by_contra hkey
    exact hchanged ((UpdateBatch.keeps_iff (field_ne_of_not_writable h hkey)).mpr (fun d => hnone d key hkey) d)

theorem keeps_to_fields_of_targets (h : r.resolveUpdates method updates = .ok resolved)
    (htargets : ∀ field target, .rename field target ∈ updates → r.schema.Writable target) :
    ∀ d key, (resolved.apply d).field? key ≠ d.field? key → r.schema.Writable key := by
  refine (keeps_to_fields_iff h).mpr fun d key hkey => UpdateBatch.movedTo_eq_none ?_ d
  rintro field target hmem rfl
  obtain ⟨source, hsource⟩ := rename_of_mem_resolved h hmem
  exact hkey (htargets source target hsource)

theorem idOf?_kept_iff (h : r.resolveUpdates method updates = .ok resolved) (hdot : '.' ∉ r.idName.toList) :
    (∀ d, r.idOf? (resolved.apply d) = r.idOf? d) ↔ ∀ d, resolved.movedTo r.idName d = none := by
  have hid : ∀ d, r.idOf? d = d.field? r.idName := fun d => Document.get?_of_undotted hdot d
  simp only [hid]
  exact UpdateBatch.keeps_iff (field_ne_of_not_writable h r.schema.not_writable_id)

def idKey (r : Repository) : String := pathKey r.idName

theorem not_writable_idKey (h : '.' ∉ r.idName.toList) : ¬r.schema.Writable r.idKey := by
  have hkey : r.idKey = r.schema.id.name := by rw [idKey, pathKey, pathNames_of_undotted h]; rfl
  rw [hkey]
  exact r.schema.not_writable_id

theorem idOf?_apply (h : r.resolveUpdates method updates = .ok resolved) (hkey : ¬r.schema.Writable r.idKey)
    (hspares : ∀ field target, .rename field target ∈ updates → target ≠ r.idKey) (d : Document) :
    r.idOf? (resolved.apply d) = r.idOf? d := by
  refine Document.get?_congr ?_
  have hnone : resolved.movedTo r.idKey d = none := by
    refine UpdateBatch.movedTo_eq_none ?_ d
    intro field target hmem
    obtain ⟨source, hsource⟩ := rename_of_mem_resolved h hmem
    exact hspares source target hsource
  change (resolved.apply d).field? r.idKey = d.field? r.idKey
  rw [UpdateBatch.field?_apply (field_ne_of_not_writable h hkey), hnone, Option.none_or]

/-- An id inside the map of a field that can be updated is lost with the map. -/
theorem id_lost_of_writable (h : r.schema.Writable r.idKey) (method : String) :
    ∃ d, r.resolveUpdates method [.set r.idKey .null] = .ok [.set r.idKey .null] ∧
      r.idOf? (UpdateBatch.apply [.set r.idKey .null] d) ≠ r.idOf? d := by
  have hdotted : '.' ∈ r.idName.toList := by
    by_contra hdot
    exact not_writable_idKey hdot h
  obtain ⟨name, rest, hnames⟩ := exists_pathNames_of_dotted hdotted
  obtain ⟨f, hf, hid, hname⟩ := h
  have hresolved : r.resolveUpdate method (.set r.idKey .null) = .ok (.set r.idKey .null) := by
    have hfield : r.schema.field? r.idKey = some f := Schema.field?_eq_some_iff.mpr ⟨hf, congrArg fieldKey hname⟩
    have hfree : r.idKey ≠ r.idName := fun he => hid (Schema.eq_id_of_name_eq hf (hname.trans he))
    simp only [resolveUpdate, FieldUpdate.field, hfield, hname, if_neg hfree, retarget]
  refine ⟨⟨[(r.idKey, Value.nest .null (name :: rest))]⟩, ?_, ?_⟩
  · exact mapM_eq_ok_iff.mpr (.cons hresolved .nil)
  · have hbefore : r.idOf? ⟨[(r.idKey, Value.nest .null (name :: rest))]⟩ = some .null := by
      simp only [idOf?, Document.get?, hnames, Value.descend, idKey, Table.find?, if_true, Option.bind_some]
      exact Value.descend_nest .null (name :: rest)
    have hafter : r.idOf? (UpdateBatch.apply [.set r.idKey .null] ⟨[(r.idKey, Value.nest .null (name :: rest))]⟩) = none := by
      simp [idOf?, Document.get?, hnames, Value.descend, idKey, Table.find?, UpdateBatch.apply, FieldUpdate.apply,
        Document.insert, Table.insert]
    simp [hbefore, hafter]

end Repository

/-- What a call that updates fields does to the store: nothing if it fails, and else it replaces the documents
of its collection by updated ones. -/
inductive UpdateEffect (r : Repository) (args : List Argument) (s : Store) :
    Except (Failure RepositoryError) Outcome → Store → Prop where
  | failed (e : Failure RepositoryError) : UpdateEffect r args s (.error e) s
  | updated {method : String} {updates resolved : UpdateBatch} {filter : Filter} {c : Collection} (b : Bool)
      (hgiven : .update updates ∈ args) (hresolved : r.resolveUpdates method updates = .ok resolved)
      (hupdate : (s.collection r.schema.collection).update r.schema.collection filter resolved = .ok c) :
      UpdateEffect r args s (.ok (.bool b)) (s.put r.schema.collection c)

namespace NamedCall

variable {r : Repository} {args : List Argument} {s t : Store} {call : NamedCall}
  {res : Except (Failure RepositoryError) Outcome}

/-- The call goes to an operation that updates fields. -/
def Updates (call : NamedCall) (r : Repository) : Prop :=
  r.target? call.method call.asynchronous = some (.predefined .updateAllFields) ∨
    ∃ spec, r.target? call.method call.asynchronous = some (.derived spec) ∧ spec.operation = .updateFields

/-- No rename of the call has the key of the id as its target. -/
def SparesId (call : NamedCall) (r : Repository) : Prop :=
  ∀ updates, .update updates ∈ call.args → ∀ field target, .rename field target ∈ updates → target ≠ r.idKey

theorem updateEffect_updateMany {method : String} {updates resolved : UpdateBatch} {filter : Filter}
    (hgiven : .update updates ∈ args) (hresolved : r.resolveUpdates method updates = .ok resolved)
    (h : (do return Outcome.bool (← Repository.onStore (DocumentStore.updateMany r.schema.collection filter resolved)) :
      Repository.Call Store Outcome) s = (res, t)) : UpdateEffect r args s res t := by
  have hmap := StoreCall.updateMany_eq_map s r.schema.collection filter resolved
  cases hupdate : (s.collection r.schema.collection).update r.schema.collection filter resolved with
  | error e =>
    rw [hupdate] at hmap
    have hrun : (DocumentStore.updateMany r.schema.collection filter resolved : Action Store StoreError Bool) s =
        (.error (.error e), s) := by simp only [DocumentStore.updateMany, Action.write, hmap, Except.map]
    rw [Action.bind_apply, Repository.onStore, Action.mapError, hrun] at h
    cases h
    exact .failed _
  | ok c =>
    rw [hupdate] at hmap
    have hrun : (DocumentStore.updateMany r.schema.collection filter resolved : Action Store StoreError Bool) s =
        (.ok true, s.put r.schema.collection c) := by simp only [DocumentStore.updateMany, Action.write, hmap, Except.map]
    rw [Action.bind_apply, Repository.onStore, Action.mapError, hrun] at h
    cases h
    exact .updated true hgiven hresolved hupdate

theorem updatesArg_eq_ok {method : String} {arg : Option Argument} {resolved : UpdateBatch}
    (h : Predefined.updatesArg r method arg = .ok resolved) :
    ∃ updates, arg = some (.update updates) ∧ r.resolveUpdates method updates = .ok resolved := by
  unfold Predefined.updatesArg at h
  split at h
  · exact ⟨_, rfl, h⟩
  · cases h

theorem updatesOf_eq_ok {spec : MethodSpec} {arg : Option Argument} {resolved : UpdateBatch}
    (h : r.updatesOf spec arg = .ok resolved) :
    ∃ updates, arg = some (.update updates) ∧ r.resolveUpdates spec.method updates = .ok resolved := by
  unfold Repository.updatesOf at h
  split at h
  · exact ⟨_, rfl, h⟩
  · cases h

theorem updateEffect_updateAllFields {method : String}
    (h : Predefined.updateAllFields.run r method args s = (res, t)) : UpdateEffect r args s res t := by
  unfold Predefined.run at h
  split at h
  · cases h
    exact .failed _
  · cases hupdates : Predefined.updatesArg r method args.getLast? with
    | error e =>
      simp only [hupdates] at h
      cases h
      exact .failed _
    | ok resolved =>
      obtain ⟨updates, harg, hresolved⟩ := updatesArg_eq_ok hupdates
      simp only [hupdates] at h
      exact updateEffect_updateMany (List.mem_of_getLast? harg) hresolved h

theorem updateEffect_runSpec {spec : MethodSpec} (hop : spec.operation = .updateFields)
    (h : r.runSpec spec args s = (res, t)) : UpdateEffect r args s res t := by
  unfold Repository.runSpec at h
  split at h
  · cases h
    exact .failed _
  · cases hfilter : spec.filter args with
    | error e =>
      simp only [hfilter] at h
      cases h
      exact .failed _
    | ok filter =>
      simp only [hfilter, hop] at h
      cases hupdates : r.updatesOf spec args[spec.chain.arity]? with
      | error e =>
        rw [hupdates] at h
        cases h
        exact .failed _
      | ok resolved =>
        obtain ⟨updates, harg, hresolved⟩ := updatesOf_eq_ok hupdates
        rw [hupdates] at h
        exact updateEffect_updateMany (List.mem_of_getElem? harg) hresolved h

theorem updateEffect_run (h : call.Updates r) (s : Store) : UpdateEffect r call.args s (call.run r s).1 (call.run r s).2 := by
  rcases h with htarget | ⟨spec, htarget, hop⟩
  · have hrun : call.run r s = Predefined.updateAllFields.run r call.method call.args s := by
      simp only [run, Repository.invoke, htarget]
    exact updateEffect_updateAllFields hrun.symm
  · have hrun : call.run r s = r.runSpec spec call.args s := by
      simp only [run, Repository.invoke, htarget]
    exact updateEffect_runSpec hop hrun.symm

end NamedCall

theorem UpdateEffect.ids_eq {r : Repository} {args : List Argument} {s t : Store}
    {res : Except (Failure RepositoryError) Outcome} (h : UpdateEffect r args s res t) (hkey : ¬r.schema.Writable r.idKey)
    (hspares : ∀ updates, .update updates ∈ args → ∀ field target, .rename field target ∈ updates → target ≠ r.idKey) :
    r.ids t = r.ids s ∧ s.AgreeOutside r.schema.collection t := by
  cases h with
  | failed e => exact ⟨rfl, Store.AgreeOutside.refl _ s⟩
  | @updated method updates resolved filter c b hgiven hresolved hupdate =>
    obtain ⟨-, rfl⟩ := Collection.update_eq_ok_iff.mp hupdate
    refine ⟨?_, Store.agreeOutside_put _ s _⟩
    simp only [Repository.ids, Store.documents, Store.collection_put_self, Collection.updatedDocuments, List.map_map]
    refine List.map_congr_left fun d _ => ?_
    by_cases hd : filter.holds d
    · simpa [hd] using Repository.idOf?_apply hresolved hkey (hspares updates hgiven) d
    · simp [hd]

namespace NamedCall

variable {r : Repository} {call : NamedCall} {calls : List NamedCall}

theorem ids_run (hkey : ¬r.schema.Writable r.idKey) (hcall : call.Updates r) (hspares : call.SparesId r) (s : Store) :
    r.ids (call.run r s).2 = r.ids s ∧ s.AgreeOutside r.schema.collection (call.run r s).2 :=
  (updateEffect_run hcall s).ids_eq hkey hspares

theorem ids_runAll (hkey : ¬r.schema.Writable r.idKey) (hcalls : ∀ call ∈ calls, call.Updates r ∧ call.SparesId r) (s : Store) :
    r.ids (runAll r calls s) = r.ids s ∧ s.AgreeOutside r.schema.collection (runAll r calls s) := by
  induction calls generalizing s with
  | nil => exact ⟨rfl, Store.AgreeOutside.refl _ s⟩
  | cons call rest ih =>
    obtain ⟨⟨hcall, hspares⟩, hrest⟩ := List.forall_mem_cons.mp hcalls
    obtain ⟨hfirst, houtside⟩ := ids_run hkey hcall hspares s
    obtain ⟨hlast, houtside'⟩ := ih hrest (call.run r s).2
    exact ⟨hlast.trans hfirst, fun other hne => (houtside' other hne).trans (houtside other hne)⟩

end NamedCall

namespace Repository

/-- An accepted batch leaves a key that is no declared field other than the id as it is, or puts the value there
that its renames move to it last. So it keeps to the declared fields just if no rename ever moves a value elsewhere,
and to the id just if none moves one to it. Batches without a rename onto the key of the id keep the id just if no
declared field holds it, and then update calls, in any number and from any store, keep the id of every document. -/
theorem updates_keep_to_fields (r : Repository) :
    (∀ (method : String) (updates resolved : UpdateBatch), r.resolveUpdates method updates = .ok resolved →
      (∀ d key, ¬r.schema.Writable key → (resolved.apply d).field? key = (resolved.movedTo key d).or (d.field? key)) ∧
      ((∀ d key, (resolved.apply d).field? key ≠ d.field? key → r.schema.Writable key) ↔
        ∀ d key, ¬r.schema.Writable key → resolved.movedTo key d = none) ∧
      ((∀ field target, .rename field target ∈ updates → r.schema.Writable target) →
        ∀ d key, (resolved.apply d).field? key ≠ d.field? key → r.schema.Writable key) ∧
      ('.' ∉ r.idName.toList →
        ((∀ d, r.idOf? (resolved.apply d) = r.idOf? d) ↔ ∀ d, resolved.movedTo r.idName d = none))) ∧
    (¬r.schema.Writable r.idKey ↔
      ∀ (method : String) (updates resolved : UpdateBatch), r.resolveUpdates method updates = .ok resolved →
        (∀ field target, .rename field target ∈ updates → target ≠ r.idKey) →
          ∀ d, r.idOf? (resolved.apply d) = r.idOf? d) ∧
    (¬r.schema.Writable r.idKey →
      ∀ calls : List NamedCall, (∀ call ∈ calls, call.Updates r ∧ call.SparesId r) →
        ∀ s : Store, r.ids (NamedCall.runAll r calls s) = r.ids s ∧
          s.AgreeOutside r.schema.collection (NamedCall.runAll r calls s)) := by
  refine ⟨?_, ⟨?_, ?_⟩, fun hkey calls hcalls s => NamedCall.ids_runAll hkey hcalls s⟩
  · intro method updates resolved h
    exact ⟨fun d key hkey => UpdateBatch.field?_apply (field_ne_of_not_writable h hkey) d, keeps_to_fields_iff h,
      keeps_to_fields_of_targets h, idOf?_kept_iff h⟩
  · exact fun hkey method updates resolved h hspares d => idOf?_apply h hkey hspares d
  · intro hkeeps hkey
    obtain ⟨d, hresolved, hlost⟩ := id_lost_of_writable hkey "updateAllFields"
    exact hlost (hkeeps _ _ _ hresolved (by simp) d)

def oneOrder : Store := Store.empty.put "orders" ⟨[⟨[("amount", .int 7), ("id", .int 1)]⟩], []⟩

def renameAmount (target : String) : NamedCall := ⟨"updateAllFields", [.update [.rename "Amount" target]], false⟩

theorem renameAmount_updates (target : String) : (renameAmount target).Updates orders := Or.inl rfl

/-- Amounts may be renamed to lines. -/
theorem updates_keep_to_fields_lines :
    orders.resolveUpdates "updateAllFields" [.rename "Amount" "lines"] = .ok [.rename "amount" "lines"] ∧
      (∀ d key, (UpdateBatch.apply [.rename "amount" "lines"] d).field? key ≠ d.field? key →
        orders.schema.Writable key) ∧
      ¬orders.schema.Writable orders.idKey ∧
      orders.ids (NamedCall.runAll orders [renameAmount "lines"] oneOrder) = orders.ids oneOrder := by
  have hresolved : orders.resolveUpdates "updateAllFields" [.rename "Amount" "lines"] = .ok [.rename "amount" "lines"] := rfl
  have hkey : ¬orders.schema.Writable orders.idKey := not_writable_idKey (by decide)
  have hlines : orders.schema.Writable "lines" := ⟨⟨"lines", .list .int, false, false, false⟩, by decide, by decide, rfl⟩
  have hbatch := (updates_keep_to_fields orders).1 _ _ _ hresolved
  have hruns := (updates_keep_to_fields orders).2.2 hkey [renameAmount "lines"]
  refine ⟨hresolved, hbatch.2.2.1 ?_, hkey, (hruns ?_ oneOrder).1⟩
  · intro field target hmem
    cases List.mem_singleton.mp hmem
    exact hlines
  · intro call hcall
    cases List.mem_singleton.mp hcall
    refine ⟨renameAmount_updates "lines", ?_⟩
    intro updates hupdates field target hmem
    cases List.mem_singleton.mp hupdates
    cases List.mem_singleton.mp hmem
    decide

/-- A rename onto the id is accepted, and gives a document another id. -/
theorem rename_reaches_id :
    (¬∀ (r : Repository) (method : String) (updates resolved : UpdateBatch) (d : Document) (key : String),
        r.resolveUpdates method updates = .ok resolved →
          (resolved.apply d).field? key ≠ d.field? key → r.schema.Writable key) ∧
      ¬∀ (r : Repository) (call : NamedCall) (s : Store), call.Updates r → (∃ out, (call.run r s).1 = .ok out) →
        r.ids (call.run r s).2 = r.ids s := by
  have hne : some (Value.int 7) ≠ some (Value.int 1) :=
    fun h => absurd (Value.int.inj (Option.some.inj h)) (by decide)
  constructor
  · intro h
    exact orders.schema.not_writable_id
      (h orders "updateAllFields" [.rename "Amount" "id"] [.rename "amount" "id"]
        ⟨[("amount", .int 7), ("id", .int 1)]⟩ "id" rfl hne)
  · intro h
    have hids : [some (Value.int 7)] = [some (Value.int 1)] :=
      h orders (renameAmount "id") oneOrder (renameAmount_updates "id") ⟨.bool true, rfl⟩
    exact hne (List.cons.inj hids).1

end Repository

end DocumentRepository
