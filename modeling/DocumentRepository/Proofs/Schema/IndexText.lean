import DocumentRepository.Schema.Index
import Mathlib.Data.List.TakeWhile

/-! # What index texts say

An index text spells its keys one after another, a comma between two pieces. A piece is a field name with blanks around
it, a minus sign in front of the name if the key descends, or it is blank and spells nothing. The keys of a text are those
that its pieces spell, as long as no name holds a comma, begins with a minus sign, or has blanks at its ends.
-/
namespace DocumentRepository

namespace Text

variable {cs name before after : List Char}

def Blank (cs : List Char) : Prop := ∀ c ∈ cs, isBlank c = true

structure Trimmed (cs : List Char) : Prop where
  first : ∀ c ∈ cs.head?, isBlank c = false
  last : ∀ c ∈ cs.getLast?, isBlank c = false

theorem trimStart_append (h : Blank before) (cs : List Char) : trimStart (before ++ cs) = trimStart cs :=
  List.dropWhile_append_of_pos h

theorem trimEnd_append (h : Blank after) (cs : List Char) : trimEnd (cs ++ after) = trimEnd cs := by
  have hreverse : Blank after.reverse := fun c hc => h c (List.mem_reverse.mp hc)
  rw [trimEnd, trimEnd, List.reverse_append, List.dropWhile_append_of_pos hreverse]

theorem trimStart_eq_self (h : ∀ c ∈ cs.head?, isBlank c = false) : trimStart cs = cs := by
  cases cs with
  | nil => rfl
  | cons c rest => exact List.dropWhile_cons_of_neg (by simp [h c rfl])

theorem trimEnd_eq_self (h : ∀ c ∈ cs.getLast?, isBlank c = false) : trimEnd cs = cs := by
  rw [← List.head?_reverse] at h
  rw [trimEnd, show cs.reverse.dropWhile isBlank = cs.reverse from trimStart_eq_self h, List.reverse_reverse]

/-- What has no blanks at its ends is left when those around it are gone. -/
theorem trim_pad (hbefore : Blank before) (hname : Trimmed name) (hafter : Blank after) :
    trim (before ++ name ++ after) = name := by
  by_cases hnone : name = []
  · subst hnone
    have hblank : Blank (before ++ [] ++ after) := by
      rw [List.append_nil]
      exact List.forall_mem_append.mpr ⟨hbefore, hafter⟩
    rw [trim, trimStart, List.dropWhile_eq_nil_iff.mpr hblank]
    rfl
  · have hfirst : ∀ c ∈ (name ++ after).head?, isBlank c = false := by
      obtain ⟨c, rest, rfl⟩ := List.exists_cons_of_ne_nil hnone
      exact hname.first
    rw [trim, List.append_assoc, trimStart_append hbefore, trimStart_eq_self hfirst, trimEnd_append hafter,
      trimEnd_eq_self hname.last]

theorem trim_of_blank (h : Blank cs) : trim cs = [] := by
  rw [trim, trimStart, List.dropWhile_eq_nil_iff.mpr h]
  rfl

/-- Trimming takes away blanks at the ends and nothing else. -/
theorem exists_pad (cs : List Char) : ∃ before after, Blank before ∧ Blank after ∧ cs = before ++ trim cs ++ after := by
  refine ⟨cs.takeWhile isBlank, ((trimStart cs).reverse.takeWhile isBlank).reverse, ?_, ?_, ?_⟩
  · exact fun c hc => List.mem_takeWhile_imp hc
  · exact fun c hc => List.mem_takeWhile_imp (List.mem_reverse.mp hc)
  · rw [List.append_assoc, trim, trimEnd, ← List.reverse_append, List.takeWhile_append_dropWhile, List.reverse_reverse,
      trimStart, List.takeWhile_append_dropWhile]

end Text

open Text (Blank Trimmed splitAt trim)

namespace SortKey

structure Spellable (key : SortKey) : Prop where
  ne_nil : key.field.toList ≠ []
  no_comma : ',' ∉ key.field.toList
  trimmed : Trimmed key.field.toList
  unsigned : key.field.toList.head? ≠ some '-'

inductive Spelled : SortKey → String → Prop where
  | ascending {before name after : String} (hbefore : Blank before.toList) (hafter : Blank after.toList) :
      Spelled ⟨name, true⟩ (before ++ name ++ after)
  | descending {before gap name after : String} (hbefore : Blank before.toList) (hgap : Blank gap.toList)
      (hafter : Blank after.toList) : Spelled ⟨name, false⟩ (before ++ "-" ++ gap ++ name ++ after)

end SortKey

/-- The pieces of a text spell keys, one after another; a blank piece spells none. -/
inductive Spell : List SortKey → List String → Prop where
  | nil : Spell [] []
  | blank {keys : List SortKey} {piece : String} {pieces : List String} (hpiece : Blank piece.toList)
      (hrest : Spell keys pieces) : Spell keys (piece :: pieces)
  | key {key : SortKey} {keys : List SortKey} {piece : String} {pieces : List String} (hpiece : key.Spelled piece)
      (hrest : Spell keys pieces) : Spell (key :: keys) (piece :: pieces)

namespace IndexDeclaration

variable {key : SortKey} {keys : List SortKey} {piece : String} {pieces : List String} {cs : List Char}

def keysOf (pieces : List (List Char)) : List SortKey := ((pieces.map trim).filter (!·.isEmpty)).map SortKey.read

theorem parse_eq (text : String) : parse text = ⟨keysOf (splitAt ',' text.toList), false⟩ := rfl

theorem keysOf_cons_of_nil (h : trim cs = []) (rest : List (List Char)) : keysOf (cs :: rest) = keysOf rest := by
  simp [keysOf, h]

theorem keysOf_cons_of_ne_nil (h : trim cs ≠ []) (rest : List (List Char)) :
    keysOf (cs :: rest) = SortKey.read (trim cs) :: keysOf rest := by
  simp [keysOf, h]

theorem read_of_unsigned (h : cs.head? ≠ some '-') : SortKey.read cs = ⟨String.ofList cs, true⟩ := by
  unfold SortKey.read
  split
  · exact absurd rfl h
  · rfl

theorem comma_notMem_of_blank (h : Blank cs) : ',' ∉ cs := fun hmem => absurd (h ',' hmem) (by decide)

theorem comma_notMem_of_spelled (hkey : key.Spellable) (h : key.Spelled piece) : ',' ∉ piece.toList := by
  cases h with
  | ascending hbefore hafter =>
    simp [comma_notMem_of_blank hbefore, comma_notMem_of_blank hafter, hkey.no_comma]
  | descending hbefore hgap hafter =>
    simp [comma_notMem_of_blank hbefore, comma_notMem_of_blank hgap, comma_notMem_of_blank hafter, hkey.no_comma]

/-- A piece that spells a key is read as that key. -/
theorem read_of_spelled (hkey : key.Spellable) (h : key.Spelled piece) :
    trim piece.toList ≠ [] ∧ SortKey.read (trim piece.toList) = key := by
  cases h with
  | @ascending before name after hbefore hafter =>
    have htrim : trim (before ++ name ++ after).toList = name.toList := by
      simpa using Text.trim_pad hbefore hkey.trimmed hafter
    rw [htrim, read_of_unsigned hkey.unsigned, String.ofList_toList]
    exact ⟨hkey.ne_nil, rfl⟩
  | @descending before gap name after hbefore hgap hafter =>
    have hsigned : Trimmed ('-' :: (gap.toList ++ name.toList)) := by
      constructor
      · rintro c ⟨⟩
        decide
      · have hlast : name.toList.getLast?.isSome = true := by simpa using hkey.ne_nil
        rw [← List.cons_append, List.getLast?_append, Option.or_of_isSome hlast]
        exact hkey.trimmed.last
    have htrim : trim (before ++ "-" ++ gap ++ name ++ after).toList = '-' :: (gap.toList ++ name.toList) := by
      simpa using Text.trim_pad hbefore hsigned hafter
    have hname : trim (gap.toList ++ name.toList) = name.toList := by
      have hnil : Blank [] := List.forall_mem_nil _
      simpa using Text.trim_pad hgap hkey.trimmed hnil
    rw [htrim, SortKey.read, hname, String.ofList_toList]
    exact ⟨List.cons_ne_nil _ _, rfl⟩

theorem keysOf_of_spell (hkeys : ∀ key ∈ keys, key.Spellable) (h : Spell keys pieces) :
    keysOf (pieces.map String.toList) = keys ∧ ∀ cs ∈ pieces.map String.toList, ',' ∉ cs := by
  induction h with
  | nil => exact ⟨rfl, List.forall_mem_nil _⟩
  | blank hpiece _ ih =>
    obtain ⟨hread, hcommas⟩ := ih hkeys
    rw [List.map_cons, keysOf_cons_of_nil (Text.trim_of_blank hpiece)]
    exact ⟨hread, List.forall_mem_cons.mpr ⟨comma_notMem_of_blank hpiece, hcommas⟩⟩
  | key hpiece _ ih =>
    obtain ⟨hkey, hrest⟩ := List.forall_mem_cons.mp hkeys
    obtain ⟨hread, hcommas⟩ := ih hrest
    obtain ⟨hne, hkeyRead⟩ := read_of_spelled hkey hpiece
    rw [List.map_cons, keysOf_cons_of_ne_nil hne, hkeyRead, hread]
    exact ⟨rfl, List.forall_mem_cons.mpr ⟨comma_notMem_of_spelled hkey hpiece, hcommas⟩⟩

/-- A piece that is not blank spells the key that is read from it. -/
theorem spelled_read (h : trim cs ≠ []) : (SortKey.read (trim cs)).Spelled (String.ofList cs) := by
  obtain ⟨before, after, hbefore, hafter, hcs⟩ := Text.exists_pad cs
  by_cases hsign : (trim cs).head? = some '-'
  · obtain ⟨rest, hrest⟩ : ∃ rest, trim cs = '-' :: rest := by
      obtain ⟨c, rest, hcons⟩ := List.exists_cons_of_ne_nil h
      rw [hcons] at hsign
      cases hsign
      exact ⟨rest, hcons⟩
    obtain ⟨gap, tail, hgap, htail, hname⟩ := Text.exists_pad rest
    have hblank : Blank (tail ++ after) := List.forall_mem_append.mpr ⟨htail, hafter⟩
    have hwhole : cs = before ++ '-' :: (gap ++ trim rest ++ tail) ++ after := by rwa [← hname, ← hrest]
    have hpiece : String.ofList cs =
        String.ofList before ++ "-" ++ String.ofList gap ++ String.ofList (trim rest) ++ String.ofList (tail ++ after) := by
      apply String.toList_injective
      simp [congrArg String.ofList hwhole]
    rw [hrest, SortKey.read, hpiece]
    exact .descending (by simpa using hbefore) (by simpa using hgap) (by simpa using hblank)
  · have hpiece : String.ofList cs = String.ofList before ++ String.ofList (trim cs) ++ String.ofList after := by
      rw [← String.ofList_append, ← String.ofList_append, ← hcs]
    rw [read_of_unsigned hsign, hpiece]
    exact .ascending (by simpa using hbefore) (by simpa using hafter)

theorem spell_keysOf (pieces : List (List Char)) : Spell (keysOf pieces) (pieces.map String.ofList) := by
  induction pieces with
  | nil => exact .nil
  | cons cs rest ih =>
    by_cases h : trim cs = []
    · obtain ⟨before, after, hbefore, hafter, hcs⟩ := Text.exists_pad cs
      rw [h, List.append_nil] at hcs
      have hblank : Blank cs := hcs ▸ List.forall_mem_append.mpr ⟨hbefore, hafter⟩
      rw [keysOf_cons_of_nil h]
      exact .blank (by simpa using hblank) ih
    · rw [keysOf_cons_of_ne_nil h]
      exact .key (spelled_read h) ih

/-- A text is read as the keys that its pieces spell, in their order, on an index that is not unique. Keys whose names can
stand in a text are read from every text that spells them, and from no other. -/
theorem parse_eq_iff_spell {text : String} (hkeys : ∀ key ∈ keys, key.Spellable) :
    parse text = ⟨keys, false⟩ ↔ ∃ pieces, text = ",".intercalate pieces ∧ Spell keys pieces := by
  rw [parse_eq]
  constructor
  · intro h
    obtain ⟨rfl, -⟩ := IndexDeclaration.mk.inj h
    refine ⟨(splitAt ',' text.toList).map String.ofList, ?_, spell_keysOf _⟩
    apply String.toList_injective
    rw [String.toList_intercalate, List.map_map]
    have hid : String.toList ∘ String.ofList = id := funext fun cs => String.toList_ofList
    rw [hid, List.map_id]
    exact (Text.intercalate_splitAt ',' text.toList).symm
  · rintro ⟨pieces, rfl, hspell⟩
    obtain ⟨hread, hcommas⟩ := keysOf_of_spell hkeys hspell
    by_cases hnone : pieces = []
    · subst hnone
      cases hspell
      rfl
    · have hcut : splitAt ',' (",".intercalate pieces).toList = pieces.map String.toList := by
        rw [String.toList_intercalate]
        exact Text.splitAt_intercalate (mt List.map_eq_nil_iff.mp hnone) hcommas
      rw [hcut, hread]

section Example

/-- Two keys with blanks around them, an empty piece between them and one behind them. -/
theorem parse_eq_iff_spell_customers :
    (∀ key ∈ [SortKey.mk "customer_id" true, ⟨"balance", false⟩], key.Spellable) ∧
      parse " customer_id,, -  balance , " = ⟨[⟨"customer_id", true⟩, ⟨"balance", false⟩], false⟩ := by
  have hkeys : ∀ key ∈ [SortKey.mk "customer_id" true, ⟨"balance", false⟩], key.Spellable := by
    refine List.forall_mem_cons.mpr ⟨?_, List.forall_mem_singleton.mpr ?_⟩
    · exact ⟨by decide, by decide, ⟨by rintro c ⟨⟩; rfl, by rintro c ⟨⟩; rfl⟩, by decide⟩
    · exact ⟨by decide, by decide, ⟨by rintro c ⟨⟩; rfl, by rintro c ⟨⟩; rfl⟩, by decide⟩
  have hblank (n : Nat) : Blank (String.ofList (List.replicate n ' ')).toList := by
    intro c hc
    rw [String.toList_ofList] at hc
    cases List.eq_of_mem_replicate hc
    decide
  have hfirst : SortKey.Spelled ⟨"customer_id", true⟩ (" " ++ "customer_id" ++ "") := .ascending (hblank 1) (hblank 0)
  have hsecond : SortKey.Spelled ⟨"balance", false⟩ (" " ++ "-" ++ "  " ++ "balance" ++ " ") :=
    .descending (hblank 1) (hblank 2) (hblank 1)
  have hspell := Spell.key hfirst (.blank (hblank 0) (.key hsecond (.blank (hblank 1) .nil)))
  exact ⟨hkeys, (parse_eq_iff_spell hkeys).mpr ⟨_, rfl, hspell⟩⟩

end Example

end IndexDeclaration

end DocumentRepository
