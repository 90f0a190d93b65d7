import DocumentRepository.Proofs.Repository.Run
import DocumentRepository.Proofs.Store.UniqueIndex

/-! # How long the unique indexes of a repository are in force

A repository that has been obtained has the indexes of its schema, and its calls are checked against
them. Only the call that deletes everything takes them away, with the collection that they belong to.
They are made at registration and by no call, so from then on none of them is in force.
-/
namespace DocumentRepository

/-- A collection has the indexes that it had, and its documents collide on none of them if they did not before. -/
structure Store.KeepsIndexes (name : String) (s t : Store) : Prop where
  indexes : t.indexes name = s.indexes name
  consistent : (s.collection name).Consistent → (t.collection name).Consistent

namespace Store.KeepsIndexes

variable {name : String} {s t u : Store}

theorem refl (name : String) (s : Store) : KeepsIndexes name s s := ⟨rfl, id⟩

theorem trans (h : KeepsIndexes name s t) (h' : KeepsIndexes name t u) : KeepsIndexes name s u :=
  ⟨h'.indexes.trans h.indexes, fun hc => h'.consistent (h.consistent hc)⟩

end Store.KeepsIndexes

namespace StoreCall

variable {name : String} {op : StoreCall} {ops : List StoreCall} {c c' : Collection}

theorem OnDocuments.admissible (h : op.OnDocuments name) (c : Collection) : op.Admissible c := by cases h <;> trivial

theorem OnDocuments.indexes_eq (h : op.OnDocuments name) (he : op.effect c = .ok c') : c'.indexes = c.indexes := by
  cases h with
  | find => cases he; rfl
  | findOne => cases he; rfl
  | count => cases he; rfl
  | deleteMany => cases he; rfl
  | updateMany => obtain ⟨-, rfl⟩ := Collection.update_eq_ok_iff.mp he; rfl
  | insert => obtain ⟨-, rfl⟩ := Collection.insert_eq_ok_iff.mp he; rfl
  | upsertById => obtain ⟨i, hi, -, rfl⟩ | ⟨-, rfl⟩ := Collection.upsert_eq_ok_cases he <;> rfl

theorem OnDocuments.perform (h : op.OnDocuments name) (s : Store) : Store.KeepsIndexes name s (op.perform s).2 := by
  cases he : op.effect (s.collection op.collection) with
  | error e =>
    rw [perform_of_error he]
    exact Store.KeepsIndexes.refl name s
  | ok c =>
    have hself := (perform_of_ok he).2.1
    rw [h.collection_eq] at he hself
    constructor
    · rw [Store.indexes, hself]
      exact h.indexes_eq he
    · rw [hself]
      exact fun hc => consistent_of_effect hc (h.admissible _) he

theorem performAll_onDocuments (h : ∀ op ∈ ops, op.OnDocuments name) (s : Store) :
    Store.KeepsIndexes name s (performAll ops s) := by
  induction ops generalizing s with
  | nil => exact Store.KeepsIndexes.refl name s
  | cons op rest ih =>
    obtain ⟨hop, hrest⟩ := List.forall_mem_cons.mp h
    exact (hop.perform s).trans (ih hrest (op.perform s).2)

end StoreCall

namespace NamedCall

variable {r : Repository} {call : NamedCall} {calls : List NamedCall} {s : Store}

theorem run_of_not_deletesAll (h : ¬call.DeletesAll r) (s : Store) :
    Store.KeepsIndexes r.schema.collection s (call.run r s).2 := by
  rcases call.run_cases r s with ⟨hall, -⟩ | ⟨-, ops, hops, hrun⟩
  · exact absurd hall h
  · rw [hrun]
    exact StoreCall.performAll_onDocuments hops s

theorem indexes_run_of_deletesAll (h : call.DeletesAll r) (s : Store) :
    (call.run r s).2.indexes r.schema.collection = [] := by
  rw [run_deleteAll h, Store.indexes, Store.collection_deleteCollection_self]
  rfl

theorem runAll_of_not_deletesAll (h : ∀ call ∈ calls, ¬call.DeletesAll r) (s : Store) :
    Store.KeepsIndexes r.schema.collection s (runAll r calls s) := by
  induction calls generalizing s with
  | nil => exact Store.KeepsIndexes.refl r.schema.collection s
  | cons call rest ih =>
    obtain ⟨hcall, hrest⟩ := List.forall_mem_cons.mp h
    exact (run_of_not_deletesAll hcall s).trans (ih hrest (call.run r s).2)

/-- No call makes an index. -/
theorem indexes_runAll_of_nil (calls : List NamedCall) (hs : s.indexes r.schema.collection = []) :
    (runAll r calls s).indexes r.schema.collection = [] := by
  induction calls generalizing s with
  | nil => exact hs
  | cons call rest ih =>
    refine ih ?_
    by_cases hall : call.DeletesAll r
    · exact indexes_run_of_deletesAll hall s
    · exact (run_of_not_deletesAll hall s).indexes.trans hs

theorem indexes_runAll_of_deletesAll (hcall : call ∈ calls) (hall : call.DeletesAll r) (s : Store) :
    (runAll r calls s).indexes r.schema.collection = [] := by
  obtain ⟨before, after, rfl⟩ := List.append_of_mem hcall
  rw [runAll, List.foldl_append, List.foldl_cons]
  exact indexes_runAll_of_nil after (indexes_run_of_deletesAll hall _)

end NamedCall

namespace Registry

section

variable {g g' : Registry} {key : Nat} {describe : Except String Description} {p : Published} {s t : Store}

/-- A new repository over an empty collection, obtained from a registry that creates indexes, has the indexes of
its schema and no documents that collide on a unique one, after calls of any kind and number, failed or not, as
long as none of them deletes everything. After one that does, the collection has no index. -/
theorem unique_indexes_until_deleteAll (hnew : g.lookup? key = none) (hcreates : g.config.createIndexes = true)
    (hobtain : g.obtain key describe s = (.ok (g', p), t))
    (hempty : s.collection p.repository.schema.collection = .empty) (calls : List NamedCall) :
    ((∀ call ∈ calls, ¬call.DeletesAll p.repository) →
      (∀ index, index ∈ (NamedCall.runAll p.repository calls t).indexes p.repository.schema.collection ↔
        index ∈ p.repository.schema.indexes) ∧
      ∀ index ∈ p.repository.schema.indexes, index.unique = true →
        index.Separates ((NamedCall.runAll p.repository calls t).documents p.repository.schema.collection)) ∧
    ((∃ call ∈ calls, call.DeletesAll p.repository) →
      (NamedCall.runAll p.repository calls t).indexes p.repository.schema.collection = []) := by
  obtain ⟨hdocuments, hindexes⟩ := collection_of_obtain hnew hobtain hempty
  have hconsistent : (t.collection p.repository.schema.collection).Consistent := by
    intro index hmem hunique i j hi
    rw [Store.documents] at hdocuments
    simp [hdocuments] at hi
  constructor
  · intro hcalls
    have hkept := NamedCall.runAll_of_not_deletesAll hcalls t
    have hmem : ∀ index, index ∈ (NamedCall.runAll p.repository calls t).indexes p.repository.schema.collection ↔
        index ∈ p.repository.schema.indexes := by
      intro index
      rw [hkept.indexes, hindexes, and_iff_right hcreates]
    exact ⟨hmem, fun index hindex => hkept.consistent hconsistent index ((hmem index).mpr hindex)⟩
  · rintro ⟨call, hcall, hall⟩
    exact NamedCall.indexes_runAll_of_deletesAll hcall hall t

end

section Example

def accountEntity : EntityDeclaration where
  entity := "Account"
  collection := "accounts"
  fields := [⟨"id", .int, true, false, false⟩, ⟨"email", .text, false, false, false⟩]
  indexes := [⟨[⟨"email", true⟩], true⟩]
  dropsEntities := false
  dropsIndexes := false

def accountSchema : Schema where
  entity := "Account"
  collection := "accounts"
  fields := [⟨"id", .int, true, false, false⟩, ⟨"email", .text, false, false, false⟩]
  id := ⟨"id", .int, true, false, false⟩
  indexes := [⟨[⟨"id", true⟩], true⟩, ⟨[⟨"email", true⟩], true⟩]
  dropsEntities := false
  dropsIndexes := false
  keys_nodup := by decide +kernel
  id_mem := List.mem_cons_self

def accounts : Repository := ⟨"Accounts", accountSchema, [], []⟩

def saveAccount (id : Int64) (email : String) : NamedCall :=
  ⟨"save", [.entity ⟨[("email", .text email), ("id", .int id)]⟩], false⟩

def accountStore : Store := ⟨[("accounts", ⟨[], accountSchema.indexes⟩)], 2⟩

def describeAccounts : Description := ⟨accountEntity, ⟨"Accounts", []⟩⟩

theorem obtain_accounts :
    (new .standard none).obtain 0 (.ok describeAccounts) Store.empty =
      (.ok ((new .standard none).publish 0 accounts), accountStore) := rfl

/-- A second account with a taken address is refused. -/
theorem unique_indexes_until_deleteAll_accounts :
    ((saveAccount 2 "a").run accounts ((saveAccount 1 "a").run accounts accountStore).2).1 =
        .error (.error (.store (.duplicateKey "accounts" "email_1"))) ∧
      (∀ index ∈ accountSchema.indexes, index.unique = true → index.Separates
        ((NamedCall.runAll accounts [saveAccount 1 "a", saveAccount 2 "a"] accountStore).documents "accounts")) ∧
      (NamedCall.runAll accounts [saveAccount 1 "a", ⟨"deleteAll", [], false⟩] accountStore).indexes "accounts" = [] := by
  have hruns := unique_indexes_until_deleteAll (g := new .standard none) rfl rfl obtain_accounts rfl
  refine ⟨rfl, ((hruns _).1 ?_).2, (hruns _).2 ⟨⟨"deleteAll", [], false⟩, by simp, rfl, rfl⟩⟩
  intro call hcall hall
  have hargs : call.args ≠ [] := by
    simp only [List.mem_cons, List.not_mem_nil, or_false] at hcall
    rcases hcall with rfl | rfl <;> exact List.cons_ne_nil _ _
  exact hargs hall.2

/-- Once everything has been deleted, two accounts with one address are saved without an error. -/
theorem deleteAll_ends_unique_indexes :
    ¬∀ (g g' : Registry) (key : Nat) (describe : Except String Description) (p : Published) (t : Store),
      g.published = [] → g.config.createIndexes = true → g.obtain key describe Store.empty = (.ok (g', p), t) →
        ∀ calls : List NamedCall, ∀ index ∈ p.repository.schema.indexes, index.unique = true →
          index.Separates ((NamedCall.runAll p.repository calls t).documents p.repository.schema.collection) := by
  intro h
  have hseparates := h _ _ 0 _ _ _ rfl rfl obtain_accounts
    [⟨"deleteAll", [], false⟩, saveAccount 1 "a", saveAccount 2 "a"] ⟨[⟨"email", true⟩], true⟩ (by decide) rfl
  refine hseparates 0 1 (Nat.zero_lt_succ 1) (Nat.lt_succ_self 1) Nat.zero_ne_one ?_
  intro key hkey
  cases List.mem_singleton.mp hkey
  rfl

end Example

end Registry

end DocumentRepository
