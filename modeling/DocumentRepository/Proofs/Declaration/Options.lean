import DocumentRepository.Declaration.Option

/-! # Options as they are written

Options are a name each, with what stands behind it, and commas between. A reader that takes what stands behind one
option reads them all.
-/
namespace DocumentRepository.Declaration

def equalsMark : Token := .punct '=' false

def comma : Token := .punct ',' false

def commaSeparated (trailing : Bool) : List (List Token) → List Token
  | [] => []
  | [ts] => ts ++ if trailing then [comma] else []
  | ts :: rest => ts ++ comma :: commaSeparated trailing rest

/-- The end, or a comma that separates. -/
def EndsOption (ts : List Token) : Prop := ts = [] ∨ ∃ rest, ts = comma :: rest

/-- What stands behind the name of an option does not go on with the name. -/
theorem marks_path_of_endsOption {ts : Tokens} (h : EndsOption ts) : ts.marks "::" = false := by
  rcases h with rfl | ⟨rest, rfl⟩ <;> rfl

namespace Reader

theorem bind_apply {α β : Type} (read : Reader α) (next : α → Reader β) (c : Cursor) :
    (read >>= next) c = (read c).bind fun p => next p.1 p.2 :=
  rfl

theorem pure_apply {α : Type} (a : α) (c : Cursor) : (pure a : Reader α) c = some (a, c) := rfl

theorem ahead_apply (c : Cursor) : ahead c = some (c.ahead, c) := rfl

theorem marks?_of_not {text : String} {c : Cursor} (h : c.ahead.marks text = false) : marks? text c = some (false, c) := by
  rw [marks?, bind_apply, ahead_apply, Option.bind_some, h, if_neg Bool.false_ne_true, pure_apply]

theorem optionPath_ident (name : String) {ts : Tokens} (hpath : ts.marks "::" = false) (written : List Token) :
    optionPath ⟨.ident name :: ts, written⟩ = some (some name, ⟨ts, .ident name :: written⟩) := by
  have hrooted : marks? "::" ⟨.ident name :: ts, written⟩ = some (false, ⟨.ident name :: ts, written⟩) := marks?_of_not rfl
  have hstop : marks? "::" ⟨ts, .ident name :: written⟩ = some (false, ⟨ts, .ident name :: written⟩) := marks?_of_not hpath
  have hword : anyWord ⟨.ident name :: ts, written⟩ = some (name, ⟨ts, .ident name :: written⟩) := rfl
  simp only [optionPath, repeatWhile, repeatWithin, bind_apply, pure_apply, ahead_apply, hrooted, hword, hstop, hpath,
    Option.bind_some, Bool.false_eq_true, if_false, Bool.or_false]

end Reader

namespace OptionReader

theorem bind_of_ok {α β : Type} {read : OptionReader α} {a : α} {c c' : Cursor} (h : read c = .ok (a, c'))
    (next : α → OptionReader β) : (read >>= next) c = next a c' := by
  have hbind : (read >>= next) c = read c >>= fun p => next p.1 p.2 := rfl
  rw [hbind, h]
  rfl

section

variable {σ ω : Type} {step : σ → Option String → OptionReader σ} {effect : σ → ω → σ}

structure Reads (step : σ → Option String → OptionReader σ) (name : ω → String) (value : ω → List Token)
    (effect : σ → ω → σ) : Prop where
  path : ∀ o rest, EndsOption rest → Tokens.marks (value o ++ rest) "::" = false
  value : ∀ state o rest written, EndsOption rest → ∃ written',
    step state (some (name o)) ⟨value o ++ rest, written⟩ = .ok (effect state o, ⟨rest, written'⟩)

variable {name : ω → String} {value : ω → List Token}

theorem Reads.one (h : Reads step name value effect) (state : σ) (o : ω) {rest : List Token} (hrest : EndsOption rest)
    (written : List Token) (k : Nat) : ∃ written',
    optionsWithin step (k + 1) state ⟨.ident (name o) :: (value o ++ rest), written⟩ =
      (do
        if (← get).ahead.isEmpty then return effect state o
        ofReader (Reader.marks ",")
        if (← get).ahead.isEmpty then return effect state o
        optionsWithin step k (effect state o) : OptionReader σ) ⟨rest, written'⟩ := by
  obtain ⟨written', hvalue⟩ := h.value state o rest (.ident (name o) :: written) hrest
  have hpath : ofReader Reader.optionPath ⟨.ident (name o) :: (value o ++ rest), written⟩ =
      .ok (some (name o), ⟨value o ++ rest, .ident (name o) :: written⟩) := by
    rw [ofReader, Reader.optionPath_ident (name o) (h.path o rest hrest)]
  refine ⟨written', ?_⟩
  rw [optionsWithin, bind_of_ok hpath, bind_of_ok hvalue]

def commaOptions (name : ω → String) (value : ω → List Token) (trailing : Bool) (os : List ω) : List Token :=
  commaSeparated trailing (os.map fun o => .ident (name o) :: value o)

theorem exists_cons_commaOptions (name : ω → String) (value : ω → List Token) (trailing : Bool) (o : ω) (os : List ω) :
    ∃ t ts, commaOptions name value trailing (o :: os) = t :: ts := by
  cases os <;> exact ⟨_, _, rfl⟩

theorem Reads.optionsWithin_eq (h : Reads step name value effect) (trailing : Bool) {os : List ω} (hne : os ≠ []) {k : Nat}
    (hk : os.length ≤ k) (state : σ) (written : List Token) : ∃ written',
    optionsWithin step k state ⟨commaOptions name value trailing os, written⟩ =
      .ok (os.foldl effect state, ⟨[], written'⟩) := by
  match os, k with
  | [], _ => exact absurd rfl hne
  | _ :: _, 0 => cases hk
  | [o], k + 1 =>
    have hend : EndsOption (if trailing then [comma] else []) := by
      cases trailing
      · exact .inl rfl
      · exact .inr ⟨[], rfl⟩
    obtain ⟨written', hstep⟩ := h.one state o hend written k
    have htokens : commaOptions name value trailing [o] =
      .ident (name o) :: (value o ++ if trailing then [comma] else []) := rfl
    rw [htokens, hstep]
    cases trailing
    · exact ⟨written', rfl⟩
    · exact ⟨comma :: written', rfl⟩
  | o :: o' :: os, k + 1 =>
    obtain ⟨t, ts, hmore⟩ := exists_cons_commaOptions name value trailing o' os
    obtain ⟨written', hstep⟩ := h.one state o (.inr ⟨t :: ts, rfl⟩) written k
    have htokens : commaOptions name value trailing (o :: o' :: os) =
      .ident (name o) :: (value o ++ comma :: (t :: ts)) := by
      rw [← hmore]
      rfl
    obtain ⟨written'', hrest⟩ := h.optionsWithin_eq trailing (List.cons_ne_nil o' os) (Nat.le_of_succ_le_succ hk)
      (effect state o) (comma :: written')
    refine ⟨written'', ?_⟩
    rw [htokens, hstep]
    rw [hmore] at hrest
    exact hrest

theorem length_le_commaSeparated (trailing : Bool) (os : List ω) :
    os.length ≤ (commaOptions name value trailing os).length := by
  match os with
  | [] => exact Nat.le_refl 0
  | [_] => simp [commaOptions, commaSeparated]
  | o :: o' :: os =>
    have hrest := length_le_commaSeparated trailing (o' :: os)
    simp only [commaOptions, List.map_cons, commaSeparated, List.length_cons, List.length_append] at hrest ⊢
    omega

theorem Reads.options_eq (h : Reads step name value effect) (trailing : Bool) {os : List ω} (hne : os ≠ []) (state : σ)
    (written : List Token) : ∃ written',
    options step state ⟨commaOptions name value trailing os, written⟩ = .ok (os.foldl effect state, ⟨[], written'⟩) :=
  h.optionsWithin_eq trailing hne (Nat.le_succ_of_le (length_le_commaSeparated trailing os)) state written

/-- Options in brackets of an option are read as others are. -/
theorem Reads.innerOptions_eq (h : Reads step name value effect) (trailing : Bool) {os : List ω} (hne : os ≠ [])
    (state : σ) (rest written : List Token) :
    innerOptions step state ⟨.group .round (commaOptions name value trailing os) :: rest, written⟩ =
      .ok (os.foldl effect state, ⟨rest, written⟩) := by
  obtain ⟨written', hoptions⟩ := h.options_eq trailing hne state []
  unfold innerOptions
  show (options step state _).map _ = _
  rw [hoptions]
  rfl

theorem Reads.attribute_eq (h : Reads step name value effect) (trailing : Bool) (os : List ω) (state : σ) {a : Attribute}
    (ha : a.content = .list (commaOptions name value trailing os)) :
    a.options state step = .ok (os.foldl effect state) := by
  unfold Attribute.options
  rw [ha]
  match os with
  | [] => rfl
  | o :: os =>
    obtain ⟨written', hoptions⟩ := h.options_eq trailing (List.cons_ne_nil o os) state []
    obtain ⟨t, ts, htokens⟩ := exists_cons_commaOptions name value trailing o os
    rw [htokens] at hoptions ⊢
    show (options step state ⟨t :: ts, []⟩).map _ = _
    rw [hoptions]
    rfl

/-- The attributes of a name hold these options, in one list or in several. -/
def HoldOptions (title : String) (name : ω → String) (value : ω → List Token) (attributes : List Attribute)
    (os : List ω) : Prop :=
  ∃ lists : List (Bool × List ω), (attributes.filter (·.name == some title)).map (·.content) =
    lists.map (fun l => .list (commaOptions name value l.1 l.2)) ∧ lists.flatMap (·.2) = os

theorem Reads.readNamed_eq (h : Reads step name value effect) {title : String} {attributes : List Attribute}
    {os : List ω} (hold : HoldOptions title name value attributes os) (state : σ) :
    readNamed title step state attributes = .ok (os.foldl effect state) := by
  obtain ⟨lists, hlists, rfl⟩ := hold
  unfold readNamed
  generalize attributes.filter (·.name == some title) = named at hlists
  induction lists generalizing named state with
  | nil =>
    rw [List.map_eq_nil_iff.mp hlists]
    rfl
  | cons l lists ih =>
    match named, hlists with
    | a :: named, hlists =>
      obtain ⟨ha, hlists⟩ := List.cons.inj hlists
      rw [List.foldlM_cons, h.attribute_eq l.1 l.2 state ha, List.flatMap_cons, List.foldl_append]
      exact ih _ _ hlists

end

end OptionReader

end DocumentRepository.Declaration
