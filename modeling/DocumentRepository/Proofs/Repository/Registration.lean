import DocumentRepository.Proofs.Bind
import DocumentRepository.Repository.Registry
import Mathlib.Data.List.Nodup

/-! # What registration makes of a contract

A description is found unsound by its entity, or else by the first of its methods that cannot be registered:
one whose name was declared before, or one that no predefined operation serves and that cannot be read. A sound
one gets a table of the methods that were read and a table of the borrowed names; the methods that an operation
serves are never read.
-/
namespace DocumentRepository

namespace Predefined

theorem ofName?_name (op : Predefined) : ofName? op.name = some op := by cases op <;> rfl

theorem ofName?_asyncName (op : Predefined) : ofName? op.asyncName = none := by cases op <;> decide

theorem ofAsyncName?_asyncName (op : Predefined) : ofAsyncName? op.asyncName = some op := by cases op <;> decide

theorem ofName?_eq_some_iff {name : String} {op : Predefined} : ofName? name = some op ↔ name = op.name := by
  constructor
  · intro h
    have hfound := List.find?_some h
    exact (beq_iff_eq.mp hfound).symm
  · rintro rfl
    exact ofName?_name op

theorem ofAsyncName?_eq_some_iff {name : String} {op : Predefined} : ofAsyncName? name = some op ↔ name = op.asyncName := by
  constructor
  · intro h
    have hfound := List.find?_some h
    exact (beq_iff_eq.mp hfound).symm
  · rintro rfl
    exact ofAsyncName?_asyncName op

end Predefined

namespace Method

/-- An operation serves a method by its effective name, or by its second name if the method is asynchronous and
borrows none. -/
inductive ServedBy (m : Method) (op : Predefined) : Prop where
  | named (h : m.effectiveName = op.name) : ServedBy m op
  | asynchronously (hasync : m.asynchronous = true) (hown : m.transform = none) (h : m.name = op.asyncName) : ServedBy m op

def Served (m : Method) : Prop := ∃ op, m.ServedBy op

theorem serves_iff (m : Method) : Predefined.serves m.effectiveName m.asynchronous m.transform.isSome = true ↔ m.Served := by
  simp only [Predefined.serves, Bool.or_eq_true, Bool.and_eq_true, Bool.not_eq_true', Option.isSome_eq_false_iff,
    Option.isNone_iff_eq_none, Option.isSome_iff_exists]
  constructor
  · rintro (⟨op, h⟩ | ⟨⟨hasync, hown⟩, op, h⟩)
    · exact ⟨op, .named (Predefined.ofName?_eq_some_iff.mp h)⟩
    · refine ⟨op, .asynchronously hasync hown ?_⟩
      have hname : m.effectiveName = m.name := by rw [effectiveName, hown, Option.getD_none]
      rw [← hname]
      exact Predefined.ofAsyncName?_eq_some_iff.mp h
  · rintro ⟨op, h | ⟨hasync, hown, h⟩⟩
    · exact Or.inl ⟨op, Predefined.ofName?_eq_some_iff.mpr h⟩
    · refine Or.inr ⟨⟨hasync, hown⟩, op, Predefined.ofAsyncName?_eq_some_iff.mpr ?_⟩
      rw [effectiveName, hown, Option.getD_none, h]

inductive Fault (schema : Schema) (names : List String) (m : Method) : ValidationError → Prop where
  | twice (h : m.name ∈ names) : Fault schema names m (.duplicateMethod m.name)
  | unreadable (hnew : m.name ∉ names) (hunserved : ¬m.Served) {e : ValidationError}
      (h : MethodSpec.compile schema m = .error e) : Fault schema names m e

theorem Fault.congr {schema : Schema} {names names' : List String} {m : Method} {e : ValidationError}
    (h : m.Fault schema names e) (hnames : m.name ∈ names ↔ m.name ∈ names') : m.Fault schema names' e := by
  cases h with
  | twice h => exact .twice (hnames.mp h)
  | unreadable hnew hunserved h => exact .unreadable (fun hin => hnew (hnames.mpr hin)) hunserved h

structure Held (schema : Schema) (methods : Table MethodSpec) (transforms : Table String) (m : Method) : Prop where
  transform : Table.find? m.name transforms = m.transform
  unread : m.Served → Table.find? m.name methods = none
  read : ¬m.Served → ∃ spec, MethodSpec.compile schema m = .ok spec ∧ Table.find? m.name methods = some spec

end Method

structure SoundMethods (schema : Schema) (ms : List Method) : Prop where
  names_nodup : (ms.map Method.name).Nodup
  readable : ∀ m ∈ ms, ¬m.Served → ∃ spec, MethodSpec.compile schema m = .ok spec

namespace SoundMethods

variable {schema : Schema} {m : Method} {before rest : List Method} {e : ValidationError}

theorem nil : SoundMethods schema [] := ⟨List.nodup_nil, by simp⟩

theorem cons_iff : SoundMethods schema (m :: rest) ↔
    m.name ∉ rest.map Method.name ∧ (¬m.Served → ∃ spec, MethodSpec.compile schema m = .ok spec) ∧
      SoundMethods schema rest := by
  constructor
  · intro h
    obtain ⟨hnew, hnodup⟩ := List.nodup_cons.mp h.names_nodup
    obtain ⟨hm, hrest⟩ := List.forall_mem_cons.mp h.readable
    exact ⟨hnew, hm, hnodup, hrest⟩
  · rintro ⟨hnew, hm, hrest⟩
    exact ⟨List.nodup_cons.mpr ⟨hnew, hrest.names_nodup⟩, List.forall_mem_cons.mpr ⟨hm, hrest.readable⟩⟩

theorem not_fault (h : SoundMethods schema (before ++ m :: rest)) : ¬m.Fault schema (before.map Method.name) e := by
  have hnodup := h.names_nodup
  rw [List.map_append, List.map_cons] at hnodup
  intro hfault
  cases hfault with
  | twice hin => exact List.disjoint_of_nodup_append hnodup hin List.mem_cons_self
  | unreadable hnew hunserved herror =>
    obtain ⟨spec, hspec⟩ := h.readable m (by simp) hunserved
    rw [herror] at hspec
    cases hspec

end SoundMethods

/-- What is wrong with a description: with its entity, or with the first method that cannot be registered. -/
inductive Description.Fault (d : Description) : ValidationError → Prop where
  | entity {e : SchemaError} (h : d.entity.resolve = .error e) : Fault d (.schema e)
  | method {schema : Schema} (hentity : d.entity.resolve = .ok schema) {before after : List Method} {m : Method}
      (hsplit : d.contract.methods = before ++ m :: after) (hbefore : SoundMethods schema before) {e : ValidationError}
      (h : m.Fault schema (before.map Method.name) e) : Fault d e

namespace Registry

section Compile

variable {schema : Schema} {seen : List String} {methods methods' : Table MethodSpec} {transforms transforms' : Table String}
  {m : Method} {ms rest : List Method} {e : ValidationError}

def borrow (m : Method) (transforms : Table String) : Table String :=
  match m.transform with
  | some target => Table.insert m.name target transforms
  | none => transforms

theorem find?_borrow_self (h : Table.find? m.name transforms = none) :
    Table.find? m.name (borrow m transforms) = m.transform := by
  unfold borrow
  cases m.transform with
  | none => exact h
  | some target => exact Table.find?_insert_self m.name target transforms

theorem find?_borrow_of_ne {name : String} (h : name ≠ m.name) :
    Table.find? name (borrow m transforms) = Table.find? name transforms := by
  unfold borrow
  cases m.transform with
  | none => rfl
  | some target => exact Table.find?_insert_of_ne h target transforms

theorem compileMethods_duplicate (h : m.name ∈ seen) :
    compileMethods schema seen methods transforms (m :: rest) = .error (.duplicateMethod m.name) := by
  simp only [compileMethods, List.contains_iff_mem.mpr h, if_true]

theorem compileMethods_served (hnew : m.name ∉ seen) (h : m.Served) :
    compileMethods schema seen methods transforms (m :: rest) =
      compileMethods schema (m.name :: seen) methods (borrow m transforms) rest := by
  have hserves := m.serves_iff.mpr h
  simp only [compileMethods, List.contains_iff_mem, if_neg hnew, hserves, if_true]
  rfl

theorem compileMethods_unserved (hnew : m.name ∉ seen) (h : ¬m.Served) :
    compileMethods schema seen methods transforms (m :: rest) = MethodSpec.compile schema m >>= fun spec =>
      compileMethods schema (m.name :: seen) (Table.insert m.name spec methods) (borrow m transforms) rest := by
  have hserves := mt m.serves_iff.mp h
  simp only [compileMethods, List.contains_iff_mem, if_neg hnew, if_neg hserves]
  rfl

/-- The methods are sound, and new names, if they are all registered. -/
theorem soundMethods_of_compileMethods (h : compileMethods schema seen methods transforms ms = .ok (methods', transforms')) :
    SoundMethods schema ms ∧ ∀ m ∈ ms, m.name ∉ seen := by
  induction ms generalizing seen methods transforms with
  | nil => exact ⟨.nil, by simp⟩
  | cons m rest ih =>
    have hnew : m.name ∉ seen := by
      intro hin
      rw [compileMethods_duplicate hin] at h
      cases h
    have hrest : SoundMethods schema rest ∧ (∀ x ∈ rest, x.name ∉ m.name :: seen) ∧
        (¬m.Served → ∃ spec, MethodSpec.compile schema m = .ok spec) := by
      by_cases hserved : m.Served
      · rw [compileMethods_served hnew hserved] at h
        obtain ⟨hsound, hnames⟩ := ih h
        exact ⟨hsound, hnames, fun hunserved => absurd hserved hunserved⟩
      · rw [compileMethods_unserved hnew hserved] at h
        obtain ⟨spec, hspec, h⟩ := bind_eq_ok_iff.mp h
        obtain ⟨hsound, hnames⟩ := ih h
        exact ⟨hsound, hnames, fun _ => ⟨spec, hspec⟩⟩
    obtain ⟨hsound, hnames, hm⟩ := hrest
    refine ⟨SoundMethods.cons_iff.mpr ⟨?_, hm, hsound⟩, List.forall_mem_cons.mpr ⟨hnew, ?_⟩⟩
    · intro hin
      obtain ⟨x, hx, hname⟩ := List.mem_map.mp hin
      exact hnames x hx (hname ▸ List.mem_cons_self)
    · exact fun x hx hin => hnames x hx (List.mem_cons_of_mem _ hin)

theorem find?_compileMethods_of_notMem {name : String} (hname : name ∉ ms.map Method.name)
    (h : compileMethods schema seen methods transforms ms = .ok (methods', transforms')) :
    Table.find? name methods' = Table.find? name methods ∧ Table.find? name transforms' = Table.find? name transforms := by
  induction ms generalizing seen methods transforms with
  | nil =>
    cases h
    exact ⟨rfl, rfl⟩
  | cons m rest ih =>
    obtain ⟨hne, hrest⟩ : name ≠ m.name ∧ name ∉ rest.map Method.name := by simpa using hname
    have hnew := (soundMethods_of_compileMethods h).2 m List.mem_cons_self
    by_cases hserved : m.Served
    · rw [compileMethods_served hnew hserved] at h
      obtain ⟨hmethods, htransforms⟩ := ih hrest h
      exact ⟨hmethods, htransforms.trans (find?_borrow_of_ne hne)⟩
    · rw [compileMethods_unserved hnew hserved] at h
      obtain ⟨spec, -, h⟩ := bind_eq_ok_iff.mp h
      obtain ⟨hmethods, htransforms⟩ := ih hrest h
      exact ⟨hmethods.trans (Table.find?_insert_of_ne hne spec methods), htransforms.trans (find?_borrow_of_ne hne)⟩

/-- The tables hold every method, if they held nothing under its name before. -/
theorem held_of_compileMethods (hfree : ∀ m ∈ ms, Table.find? m.name methods = none ∧ Table.find? m.name transforms = none)
    (h : compileMethods schema seen methods transforms ms = .ok (methods', transforms')) :
    ∀ m ∈ ms, m.Held schema methods' transforms' := by
  induction ms generalizing seen methods transforms with
  | nil => simp
  | cons m rest ih =>
    obtain ⟨hsound, hnames⟩ := soundMethods_of_compileMethods h
    have hnew := hnames m List.mem_cons_self
    have hm := (SoundMethods.cons_iff.mp hsound).1
    have hne : ∀ x ∈ rest, x.name ≠ m.name := fun x hx hname => hm (hname ▸ List.mem_map_of_mem hx)
    obtain ⟨⟨hmethods, htransforms⟩, hfree⟩ := List.forall_mem_cons.mp hfree
    -- The rest of the methods adds nothing under the name of this one.
    by_cases hserved : m.Served
    · rw [compileMethods_served hnew hserved] at h
      obtain ⟨hmethods', htransforms'⟩ := find?_compileMethods_of_notMem hm h
      refine List.forall_mem_cons.mpr ⟨⟨?_, fun _ => hmethods'.trans hmethods, absurd hserved⟩, ih ?_ h⟩
      · exact htransforms'.trans (find?_borrow_self htransforms)
      · exact fun x hx => ⟨(hfree x hx).1, (find?_borrow_of_ne (hne x hx)).trans (hfree x hx).2⟩
    · rw [compileMethods_unserved hnew hserved] at h
      obtain ⟨spec, hspec, h⟩ := bind_eq_ok_iff.mp h
      obtain ⟨hmethods', htransforms'⟩ := find?_compileMethods_of_notMem hm h
      refine List.forall_mem_cons.mpr ⟨⟨?_, fun hyes => absurd hyes hserved, fun _ => ⟨spec, hspec, ?_⟩⟩, ih ?_ h⟩
      · exact htransforms'.trans (find?_borrow_self htransforms)
      · exact hmethods'.trans (Table.find?_insert_self m.name spec methods)
      · intro x hx
        exact ⟨(Table.find?_insert_of_ne (hne x hx) spec methods).trans (hfree x hx).1,
          (find?_borrow_of_ne (hne x hx)).trans (hfree x hx).2⟩

/-- The first method that cannot be registered decides the error. -/
theorem compileMethods_eq_error (h : compileMethods schema seen methods transforms ms = .error e) :
    ∃ before m after, ms = before ++ m :: after ∧ SoundMethods schema before ∧ (∀ x ∈ before, x.name ∉ seen) ∧
      m.Fault schema (before.map Method.name ++ seen) e := by
  induction ms generalizing seen methods transforms with
  | nil => cases h
  | cons m rest ih =>
    by_cases hnew : m.name ∈ seen
    · rw [compileMethods_duplicate hnew] at h
      cases h
      exact ⟨[], m, rest, rfl, .nil, by simp, .twice hnew⟩
    -- What is at fault behind a registered method is at fault behind it and all before it.
    have behind {table : Table MethodSpec}
        (h : compileMethods schema (m.name :: seen) table (borrow m transforms) rest = .error e)
        (hm : ¬m.Served → ∃ spec, MethodSpec.compile schema m = .ok spec) :
        ∃ before x after, m :: rest = before ++ x :: after ∧ SoundMethods schema before ∧
          (∀ y ∈ before, y.name ∉ seen) ∧ x.Fault schema (before.map Method.name ++ seen) e := by
      obtain ⟨before, x, after, rfl, hbefore, hnames, hx⟩ := ih h
      refine ⟨m :: before, x, after, rfl, SoundMethods.cons_iff.mpr ⟨?_, hm, hbefore⟩, ?_, hx.congr ?_⟩
      · intro hin
        obtain ⟨y, hy, hname⟩ := List.mem_map.mp hin
        exact hnames y hy (hname ▸ List.mem_cons_self)
      · exact List.forall_mem_cons.mpr ⟨hnew, fun y hy hin => hnames y hy (List.mem_cons_of_mem _ hin)⟩
      · simp only [List.map_cons, List.mem_append, List.mem_cons]
        tauto
    by_cases hserved : m.Served
    · rw [compileMethods_served hnew hserved] at h
      exact behind h (absurd hserved)
    · rw [compileMethods_unserved hnew hserved] at h
      rcases bind_eq_error_iff.mp h with h | ⟨spec, hspec, h⟩
      · exact ⟨[], m, rest, rfl, .nil, by simp, .unreadable hnew hserved h⟩
      · exact behind h fun _ => ⟨spec, hspec⟩

theorem compileMethods_of_fault {before after : List Method} (hbefore : SoundMethods schema before)
    (hnames : ∀ x ∈ before, x.name ∉ seen) (hm : m.Fault schema (before.map Method.name ++ seen) e) :
    compileMethods schema seen methods transforms (before ++ m :: after) = .error e := by
  induction before generalizing seen methods transforms with
  | nil =>
    cases hm with
    | twice h => exact compileMethods_duplicate h
    | unreadable hnew hunserved h =>
      change m.name ∉ seen at hnew
      rw [List.nil_append, compileMethods_unserved hnew hunserved, h]
      rfl
  | cons x rest ih =>
    obtain ⟨hx, hread, hrest⟩ := SoundMethods.cons_iff.mp hbefore
    obtain ⟨hnew, hnames⟩ := List.forall_mem_cons.mp hnames
    have hnames' : ∀ y ∈ rest, y.name ∉ x.name :: seen := by
      intro y hy hin
      rcases List.mem_cons.mp hin with hname | hin
      · exact hx (hname ▸ List.mem_map_of_mem hy)
      · exact hnames y hy hin
    have hm' : m.Fault schema (rest.map Method.name ++ x.name :: seen) e := by
      refine hm.congr ?_
      simp only [List.map_cons, List.mem_append, List.mem_cons]
      tauto
    rw [List.cons_append]
    by_cases hserved : x.Served
    · rw [compileMethods_served hnew hserved]
      exact ih hrest hnames' hm'
    · obtain ⟨spec, hspec⟩ := hread hserved
      rw [compileMethods_unserved hnew hserved, hspec]
      exact ih hrest hnames' hm'

end Compile

section Validate

variable {d : Description} {r : Repository} {cause : ValidationError}

/-- What validation makes of a description. -/
theorem validate_eq_ok (h : validate d = .ok r) :
    r.contract = d.contract.name ∧ d.entity.resolve = .ok r.schema ∧ SoundMethods r.schema d.contract.methods ∧
      (∀ m ∈ d.contract.methods, m.Held r.schema r.methods r.transforms) ∧
      ∀ name, name ∉ d.contract.methods.map Method.name →
        Table.find? name r.methods = none ∧ Table.find? name r.transforms = none := by
  obtain ⟨schema, hentity, h⟩ := bind_eq_ok_iff.mp h
  obtain ⟨⟨methods, transforms⟩, htables, h⟩ := bind_eq_ok_iff.mp h
  cases h
  exact ⟨rfl, mapError_eq_ok_iff.mp hentity, (soundMethods_of_compileMethods htables).1,
    held_of_compileMethods (fun _ _ => ⟨rfl, rfl⟩) htables, fun _ hname => find?_compileMethods_of_notMem hname htables⟩

theorem validate_eq_error (h : validate d = .error cause) : d.Fault cause := by
  rcases bind_eq_error_iff.mp h with h | ⟨schema, hentity, h⟩
  · obtain ⟨e, hentity, rfl⟩ := mapError_eq_error_iff.mp h
    exact .entity hentity
  · rcases bind_eq_error_iff.mp h with h | ⟨tables, -, h⟩
    · obtain ⟨before, m, after, hsplit, hbefore, -, hm⟩ := compileMethods_eq_error h
      rw [List.append_nil] at hm
      exact .method (mapError_eq_ok_iff.mp hentity) hsplit hbefore hm
    · cases h

theorem validate_eq_ok_iff : (∃ r, validate d = .ok r) ↔
    ∃ schema, d.entity.resolve = .ok schema ∧ SoundMethods schema d.contract.methods := by
  constructor
  · rintro ⟨r, h⟩
    obtain ⟨-, hentity, hsound, -⟩ := validate_eq_ok h
    exact ⟨r.schema, hentity, hsound⟩
  · rintro ⟨schema, hentity, hsound⟩
    cases h : validate d with
    | ok r => exact ⟨r, rfl⟩
    | error cause =>
      cases validate_eq_error h with
      | entity herror =>
        rw [hentity] at herror
        cases herror
      | method hentity' hsplit _ hm =>
        cases hentity.symm.trans hentity'
        exact absurd hm (hsplit ▸ hsound).not_fault

/-- A description is refused with what is wrong with it. -/
theorem validate_eq_error_iff : validate d = .error cause ↔ d.Fault cause := by
  refine ⟨validate_eq_error, ?_⟩
  rintro (h | ⟨hentity, hsplit, hbefore, hm⟩)
  · simp only [validate, h]
    rfl
  · rw [← List.append_nil (List.map _ _)] at hm
    refine bind_eq_error_iff.mpr (Or.inr ⟨_, mapError_eq_ok_iff.mpr hentity, bind_eq_error_iff.mpr (Or.inl ?_)⟩)
    rw [hsplit]
    exact compileMethods_of_fault hbefore (by simp) hm

end Validate

section Obtain

variable {σ : Type} [DocumentStore σ] {g g' : Registry} {key : Nat} {describe : Except String Description} {d : Description}
  {r : Repository} {p : Published} {s t : σ}

theorem obtain_published (h : g.lookup? key = some p) : (g.obtain key describe : Repository.Call σ (Registry × Published)) =
    pure (g, p) := by
  simp only [obtain, h]

theorem obtain_faulty (hnew : g.lookup? key = none) {cause : ValidationError} (h : validate d = .error cause) :
    (g.obtain key (.ok d) : Repository.Call σ (Registry × Published)) = Action.fail (.registration d.contract.name cause) := by
  simp only [obtain, hnew, buildDescribed, build, h]
  rfl

theorem obtain_sound (hnew : g.lookup? key = none) (h : validate d = .ok r) :
    (g.obtain key (.ok d) : Repository.Call σ (Registry × Published)) =
      g.prepare r.schema >>= fun _ => pure (g.publish key r) := by
  simp only [obtain, hnew, buildDescribed, build, h, bind_assoc, pure_bind]

/-- What is obtained for the first time has been found sound, and its collection prepared. -/
theorem obtain_new_eq_ok (hnew : g.lookup? key = none) (h : g.obtain key describe s = (.ok (g', p), t)) :
    ∃ d, describe = .ok d ∧ validate d = .ok p.repository ∧ g.prepare p.repository.schema s = (.ok (), t) ∧
      (g', p) = g.publish key p.repository := by
  cases describe with
  | error text =>
    simp only [obtain, hnew] at h
    cases h
  | ok d =>
    cases hvalid : validate d with
    | error cause =>
      rw [obtain_faulty hnew hvalid] at h
      cases h
    | ok r =>
      rw [obtain_sound hnew hvalid] at h
      obtain ⟨done, hprepare, hpublished⟩ := Action.map_eq_ok_iff.mp h
      cases hpublished
      exact ⟨d, rfl, hvalid, hprepare, rfl⟩

end Obtain

end Registry
end DocumentRepository
