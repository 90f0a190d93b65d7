import DocumentRepository.Proofs.Repository.EntityMap

/-! # The order of saves

Entities with different ids can be saved in any order. Each save replaces in place or adds at the end, so the
documents come to stand in another order, but they are the same, and so is all that does not depend on their order:
every count, and with it whether there is a document with an id. The document that is found by an id is the first one
whose id is loosely equal to it. Only a double can be loosely equal to two ids, which are integers that it does not tell
apart; then the order decides which of the two is found.
-/
namespace DocumentRepository

open Repository (Entity)

namespace PlainId

/-- A value that is no double is loosely equal to one id at most, itself. -/
theorem eq_value_of_looseEqual {id : PlainId} {v : Value} (hv : ∀ x, v ≠ .float x)
    (h : id.value.looseEqual v = true) : v = id.value := by
  cases id <;> cases v with
  | float x => exact absurd rfl (hv x)
  | _ => simp_all [value, Value.looseEqual, Value.equal]

end PlainId

namespace Repository

variable {r : Repository}

def NamesOne (r : Repository) (v : Value) (ds : List Document) : Prop :=
  ∀ a ∈ ds.filterMap r.idOf?, ∀ b ∈ ds.filterMap r.idOf?, a.looseEqual v = true → b.looseEqual v = true → a = b

theorem exists_entities {ds : List Document} (h : ∀ d ∈ ds, ∃ id : PlainId, r.idOf? d = some id.value) :
    ∃ es : List r.Entity, ds = es.map Entity.document := by
  induction ds with
  | nil => exact ⟨[], rfl⟩
  | cons d rest ih =>
    obtain ⟨⟨id, hid⟩, hrest⟩ := List.forall_mem_cons.mp h
    obtain ⟨es, rfl⟩ := ih hrest
    exact ⟨⟨id, d, hid⟩ :: es, rfl⟩

theorem NamesOne.mono {v : Value} {ds ds' : List Document} (h : r.NamesOne v ds) (hsub : ds' ⊆ ds) : r.NamesOne v ds' :=
  fun a ha b hb => h a (List.filterMap_subset _ hsub ha) b (List.filterMap_subset _ hsub hb)

theorem namesOne_of_ne_float {v : Value} (hv : ∀ x, v ≠ .float x) (es : List r.Entity) :
    r.NamesOne v (es.map Entity.document) := by
  have hsame : ∀ a ∈ (es.map Entity.document).filterMap r.idOf?, a.looseEqual v = true → v = a := by
    intro a ha hav
    obtain ⟨d, hd, hid⟩ := List.mem_filterMap.mp ha
    obtain ⟨e, -, rfl⟩ := List.mem_map.mp hd
    cases e.holds_id.symm.trans hid
    exact PlainId.eq_value_of_looseEqual hv hav
  exact fun a ha b hb hav hbv => (hsame a ha hav).symm.trans (hsame b hb hbv)

namespace Entity

variable {e x : r.Entity} {es es' : List r.Entity}

theorem holds_idFilter_value (e : r.Entity) (v : Value) : (r.idFilter v).holds e.document = e.id.value.looseEqual v := by
  have hid : e.document.get? r.idName = some e.id.value := e.holds_id
  rw [idFilter, Filter.holds, hid]
  cases e.id <;> rfl

theorem mem_place (h : (es.map Entity.id).Nodup) : x ∈ e.place es ↔ x = e ∨ (x ∈ es ∧ x.id ≠ e.id) := by
  induction es with
  | nil => simp [place]
  | cons y rest ih =>
    obtain ⟨hy, hrest⟩ := List.nodup_cons.mp h
    rw [place]
    split
    case isTrue hid =>
      have hothers : ∀ z ∈ rest, z.id ≠ e.id := fun z hz hsame => hy (hid.trans hsame.symm ▸ List.mem_map_of_mem hz)
      rw [List.mem_cons, List.mem_cons]
      constructor
      · rintro (rfl | hx)
        · exact Or.inl rfl
        · exact Or.inr ⟨Or.inr hx, hothers x hx⟩
      · rintro (rfl | ⟨rfl | hx, hne⟩)
        · exact Or.inl rfl
        · exact absurd hid hne
        · exact Or.inr hx
    case isFalse hid =>
      rw [List.mem_cons, List.mem_cons, ih hrest]
      constructor
      · rintro (rfl | rfl | ⟨hx, hne⟩)
        · exact Or.inr ⟨Or.inl rfl, hid⟩
        · exact Or.inl rfl
        · exact Or.inr ⟨Or.inr hx, hne⟩
      · rintro (rfl | ⟨rfl | hx, hne⟩)
        · exact Or.inr (Or.inl rfl)
        · exact Or.inl rfl
        · exact Or.inr (Or.inr ⟨hx, hne⟩)

end Entity

end Repository

namespace EntityMap

variable {r : Repository} {m : EntityMap r} {x : r.Entity} {es es' : List r.Entity}

/-- What saves make of a map: it holds the saved entities, and of its own those with other ids. -/
theorem mem_foldl_put (hids : (es.map Entity.id).Nodup) :
    x ∈ (es.foldl put m).entities ↔ x ∈ es ∨ (x ∈ m.entities ∧ x.id ∉ es.map Entity.id) := by
  induction es generalizing m with
  | nil => simp
  | cons e rest ih =>
    obtain ⟨he, hrest⟩ := List.nodup_cons.mp hids
    rw [List.foldl_cons, ih hrest, put, Entity.mem_place m.ids_nodup, List.map_cons, List.mem_cons, List.mem_cons, not_or]
    constructor
    · rintro (hx | ⟨rfl | ⟨hx, hne⟩, hnot⟩)
      · exact Or.inl (Or.inr hx)
      · exact Or.inl (Or.inl rfl)
      · exact Or.inr ⟨hx, hne, hnot⟩
    · rintro ((rfl | hx) | ⟨hx, hne, hnot⟩)
      · exact Or.inr ⟨Or.inl rfl, he⟩
      · exact Or.inl hx
      · exact Or.inr ⟨Or.inr ⟨hx, hne⟩, hnot⟩

theorem perm_foldl_put (hids : (es.map Entity.id).Nodup) (horder : es.Perm es') (m : EntityMap r) :
    (es.foldl put m).entities.Perm (es'.foldl put m).entities := by
  have hids' : (es'.map Entity.id).Nodup := (horder.map Entity.id).nodup_iff.mp hids
  refine (List.perm_ext_iff_of_nodup ?_ ?_).mpr fun x => ?_
  · exact List.Nodup.of_map _ (es.foldl put m).ids_nodup
  · exact List.Nodup.of_map _ (es'.foldl put m).ids_nodup
  · rw [mem_foldl_put hids, mem_foldl_put hids', horder.mem_iff, (horder.map Entity.id).mem_iff]

theorem stepAll_save (m : EntityMap r) (es : List r.Entity) : m.stepAll (es.map .save) = es.foldl put m := by
  rw [stepAll, List.foldl_map]
  rfl

theorem answers_save (m : EntityMap r) (es : List r.Entity) : m.answers (es.map .save) = es.map fun _ => .bool true := by
  induction es generalizing m with
  | nil => rfl
  | cons e rest ih => exact congrArg (.bool true :: ·) (ih (m.put e))

end EntityMap

/-- An item that alone has a property is found in every order. -/
theorem find?_eq_of_perm {α : Type} {l l' : List α} {p : α → Bool} (h : l.Perm l')
    (hone : ∀ a ∈ l, ∀ b ∈ l, p a = true → p b = true → a = b) : l.find? p = l'.find? p := by
  cases hl : l.find? p with
  | none =>
    rw [List.find?_eq_none] at hl
    exact (List.find?_eq_none.mpr fun a ha => hl a (h.mem_iff.mpr ha)).symm
  | some a =>
    cases hl' : l'.find? p with
    | none => exact absurd (List.find?_some hl) (List.find?_eq_none.mp hl' a (h.mem_iff.mp (List.mem_of_find?_eq_some hl)))
    | some b =>
      exact congrArg some (hone a (List.mem_of_find?_eq_some hl) b (h.mem_iff.mpr (List.mem_of_find?_eq_some hl'))
        (List.find?_some hl) (List.find?_some hl'))

namespace Represents

variable {r : Repository} {m m' : EntityMap r} {s t : Store}

theorem count_eq (hs : Represents m s) (ht : Represents m' t) (h : m.entities.Perm m'.entities) (f : Filter) :
    s.count r.schema.collection f = t.count r.schema.collection f := by
  rw [Store.count, Store.count, hs.documents, ht.documents]
  exact (h.map Entity.document).countP_eq _

theorem findOne_value (h : Represents m s) (v : Value) :
    s.findOne r.schema.collection (r.idFilter v) [] =
      (m.entities.find? fun e => e.id.value.looseEqual v).map Entity.document := by
  have hdocuments : (s.collection r.schema.collection).documents = m.entities.map Entity.document := h.documents
  rw [Store.findOne, Collection.search, sortDocuments_nil, hdocuments, List.head?_filter, List.find?_map]
  exact congrArg (Option.map Entity.document ∘ (List.find? · m.entities)) (funext fun e => e.holds_idFilter_value v)

theorem findOne_eq (hs : Represents m s) (ht : Represents m' t) (h : m.entities.Perm m'.entities) {v : Value}
    (hone : r.NamesOne v (m.entities.map Entity.document)) :
    s.findOne r.schema.collection (r.idFilter v) [] = t.findOne r.schema.collection (r.idFilter v) [] := by
  rw [hs.findOne_value, ht.findOne_value, find?_eq_of_perm h]
  have hmem : ∀ e ∈ m.entities, e.id.value ∈ (m.entities.map Entity.document).filterMap r.idOf? :=
    fun e he => List.mem_filterMap.mpr ⟨e.document, List.mem_map_of_mem he, e.holds_id⟩
  intro a ha b hb hav hbv
  exact List.inj_on_of_nodup_map m.ids_nodup ha hb
    (PlainId.value_injective (hone _ (hmem a ha) _ (hmem b hb) hav hbv))

end Represents

namespace Predefined

variable {r : Repository}

/-- Arguments are refused, whatever the store holds, or they are an id. -/
theorem id_of_args (method : String) (args : List Argument) :
    (∃ e, ∀ s : Store, (existsById.run r method args : Repository.Call Store Outcome) s = (.error e, s) ∧
      (findById.run r method args : Repository.Call Store Outcome) s = (.error e, s)) ∨
      ∃ v, args = [.value v] ∧ ∀ s : Store,
        (existsById.run r method args : Repository.Call Store Outcome) s =
          (.ok (.bool (0 < s.count r.schema.collection (r.idFilter v))), s) ∧
        (findById.run r method args : Repository.Call Store Outcome) s =
          (.ok (.entity (s.findOne r.schema.collection (r.idFilter v) [])), s) := by
  by_cases hlength : args.length = 1
  · obtain ⟨arg, rfl⟩ := List.length_eq_one_iff.mp hlength
    cases arg with
    | value v =>
      cases v with
      | null => exact Or.inl ⟨_, fun s => ⟨rfl, rfl⟩⟩
      | _ => exact Or.inr ⟨_, rfl, fun s => ⟨rfl, rfl⟩⟩
    | _ => exact Or.inl ⟨_, fun s => ⟨rfl, rfl⟩⟩
  · refine Or.inl ⟨.error (.parameterCount method 1 args.length), fun s => ⟨?_, ?_⟩⟩
    · exact congrFun (if_pos hlength) s
    · exact congrFun (if_pos hlength) s

end Predefined

namespace Repository

variable {r : Repository} {s : Store} {es es' : List r.Entity} {named named' : List NamedCall}

/-- Entities with different ids are saved one after another, in any order: every save succeeds, the documents are the
same but for their order, and so are all counts and all answers of `existsById`, and those of `findById` to all but a
double that is loosely equal to two of the ids. -/
theorem saves_commute (hstored : ∀ d ∈ s.documents r.schema.collection, ∃ id : PlainId, r.idOf? d = some id.value)
    (hdistinct : (r.ids s).Nodup)
    (hindexes : ∀ index ∈ s.indexes r.schema.collection, index.unique = true → ∃ key ∈ index.keys, key.field = r.idName)
    (hids : (es.map Entity.id).Nodup) (horder : es.Perm es')
    (hnamed : List.Forall₂ NamedCall.Carries named (es.map EntityCall.save))
    (hnamed' : List.Forall₂ NamedCall.Carries named' (es'.map EntityCall.save)) :
    let t := NamedCall.runAll r named s
    let t' := NamedCall.runAll r named' s
    (∀ answer ∈ NamedCall.answers r named s, answer = .ok (.bool true)) ∧
      (t.documents r.schema.collection).Perm (t'.documents r.schema.collection) ∧
      (∀ f, t.count r.schema.collection f = t'.count r.schema.collection f) ∧
      (∀ call : NamedCall, r.target? call.method call.asynchronous = some (.predefined .existsById) →
        (call.run r t).1 = (call.run r t').1) ∧
      ∀ call : NamedCall, r.target? call.method call.asynchronous = some (.predefined .findById) →
        (∀ x, call.args = [.value (.float x)] →
          r.NamesOne (.float x) (s.documents r.schema.collection ++ es.map Entity.document)) →
        (call.run r t).1 = (call.run r t').1 := by
  intro t t'
  obtain ⟨stored, hstored⟩ := exists_entities hstored
  have hnodup : (stored.map Entity.id).Nodup := by
    rw [Repository.ids, hstored, List.map_map] at hdistinct
    refine List.Nodup.of_map (fun id => some id.value) ?_
    rw [List.map_map]
    refine (List.map_congr_left fun e _ => ?_) ▸ hdistinct
    exact e.holds_id
  have hstart : Represents ⟨stored, hnodup⟩ s := ⟨hstored, hindexes⟩
  obtain ⟨hanswers, ht⟩ := hstart.calls hnamed
  obtain ⟨-, ht'⟩ := hstart.calls hnamed'
  rw [EntityMap.stepAll_save] at ht ht'
  have hperm := EntityMap.perm_foldl_put hids horder ⟨stored, hnodup⟩
  have hcount := ht.count_eq ht' hperm
  refine ⟨?_, ?_, hcount, ?_, ?_⟩
  · rw [hanswers, EntityMap.answers_save]
    simp
  · rw [ht.documents, ht'.documents]
    exact hperm.map Entity.document
  · intro call hcall
    simp only [NamedCall.run, invoke, hcall]
    rcases Predefined.id_of_args (r := r) call.method call.args with ⟨e, he⟩ | ⟨v, -, hv⟩
    · rw [(he t).1, (he t').1]
    · rw [(hv t).1, (hv t').1, hcount]
  · intro call hcall hone
    simp only [NamedCall.run, invoke, hcall]
    rcases Predefined.id_of_args (r := r) call.method call.args with ⟨e, he⟩ | ⟨v, hargs, hv⟩
    · rw [(he t).2, (he t').2]
    · have hnames : r.NamesOne v ((es.foldl EntityMap.put ⟨stored, hnodup⟩).entities.map Entity.document) := by
        by_cases hfloat : ∃ x, v = .float x
        · obtain ⟨x, rfl⟩ := hfloat
          refine (hone x hargs).mono fun d hd => ?_
          obtain ⟨e, he, rfl⟩ := List.mem_map.mp hd
          rw [hstored, ← List.map_append]
          refine List.mem_map_of_mem (List.mem_append.mpr ?_)
          exact ((EntityMap.mem_foldl_put hids).mp he).symm.imp And.left id
        · exact namesOne_of_ne_float (fun x hx => hfloat ⟨x, hx⟩) _
      rw [(hv t).2, (hv t').2, ht.findOne_eq ht' hperm hnames]

section Example

def readingSchema : Schema where
  entity := "Reading"
  collection := "readings"
  fields := [⟨"id", .int, true, false, false⟩]
  id := ⟨"id", .int, true, false, false⟩
  indexes := [⟨[⟨"id", true⟩], true⟩]
  dropsEntities := false
  dropsIndexes := false
  keys_nodup := by decide +kernel
  id_mem := List.mem_cons_self

def readings : Repository := ⟨"Readings", readingSchema, [], []⟩

def reading (id : Int64) : readings.Entity := ⟨.int id, ⟨[("id", .int id)]⟩, rfl⟩

def readingStore : Store := ⟨[("readings", ⟨[], readingSchema.indexes⟩)], 1⟩

/-- Two integers that a double does not tell apart. -/
def largeReadings : List readings.Entity := [reading 9007199254740992, reading 9007199254740993]

def savesOf (es : List readings.Entity) : List NamedCall := (es.map EntityCall.save).map EntityCall.named

theorem carries_savesOf (es : List readings.Entity) :
    List.Forall₂ NamedCall.Carries (savesOf es) (es.map EntityCall.save) := by
  rw [savesOf, List.forall₂_map_left_iff]
  exact List.forall₂_same.mpr fun c _ => NamedCall.carries_named c rfl

def findReading (v : Value) : NamedCall := ⟨"findById", [.value v], false⟩

/-- The documents of two readings stand in another order, and each is found by its id. -/
theorem saves_commute_readings :
    (NamedCall.runAll readings (savesOf largeReadings) readingStore).documents "readings" ≠
        (NamedCall.runAll readings (savesOf largeReadings.reverse) readingStore).documents "readings" ∧
      ((findReading (.int 9007199254740993)).run readings
          (NamedCall.runAll readings (savesOf largeReadings) readingStore)).1 =
        ((findReading (.int 9007199254740993)).run readings
          (NamedCall.runAll readings (savesOf largeReadings.reverse) readingStore)).1 := by
  have hcommute := saves_commute (r := readings) (s := readingStore)
    (fun d hd => absurd hd List.not_mem_nil) List.nodup_nil ?_ (by decide) (List.reverse_perm _).symm
    (carries_savesOf largeReadings) (carries_savesOf largeReadings.reverse)
  · refine ⟨?_, hcommute.2.2.2.2 (findReading _) rfl fun x hx => ?_⟩
    · intro hsame
      have hdocuments : (NamedCall.runAll readings (savesOf largeReadings) readingStore).documents "readings" =
          [(reading 9007199254740992).document, (reading 9007199254740993).document] := rfl
      have hdocuments' : (NamedCall.runAll readings (savesOf largeReadings.reverse) readingStore).documents "readings" =
          [(reading 9007199254740993).document, (reading 9007199254740992).document] := rfl
      cases hdocuments.symm.trans (hsame.trans hdocuments')
    · cases hx
  · intro index hindex _
    cases List.mem_singleton.mp hindex
    exact ⟨⟨"id", true⟩, List.mem_singleton_self _, rfl⟩

/-- A double that is loosely equal to two ids finds the one that was saved first. -/
theorem findById_tells_order :
    ¬∀ (r : Repository) (s : Store) (es es' : List r.Entity) (v : Value),
      '.' ∉ r.idName.toList → (∀ index ∈ r.schema.indexes, index.unique = true → index.keys = [⟨r.idName, true⟩]) →
        s.collection r.schema.collection = ⟨[], r.schema.indexes⟩ → (∀ e ∈ es, ∃ i, e.id = .int i) →
          (es.map Entity.id).Nodup → es.Perm es' → r.transforms = [] →
            ((findReading v).run r (NamedCall.runAll r ((es.map EntityCall.save).map EntityCall.named) s)).1 =
              ((findReading v).run r (NamedCall.runAll r ((es'.map EntityCall.save).map EntityCall.named) s)).1 := by
  intro h
  have hsame := h readings readingStore largeReadings largeReadings.reverse (.float (Double.ofInt 9007199254740992))
    (by decide) (by decide) rfl (by simp [largeReadings, reading]) (by decide) (List.reverse_perm _).symm rfl
  have hfirst : ((findReading (.float (Double.ofInt 9007199254740992))).run readings
      (NamedCall.runAll readings (savesOf largeReadings) readingStore)).1 =
        .ok (.entity (some (reading 9007199254740992).document)) := rfl
  have hsecond : ((findReading (.float (Double.ofInt 9007199254740992))).run readings
      (NamedCall.runAll readings (savesOf largeReadings.reverse) readingStore)).1 =
        .ok (.entity (some (reading 9007199254740993).document)) := rfl
  cases hfirst.symm.trans (hsame.trans hsecond)

end Example

end Repository

end DocumentRepository
