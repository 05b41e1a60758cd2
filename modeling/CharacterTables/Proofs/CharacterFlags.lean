import Mathlib
import CharacterTables.BasicPlane

/-!
# What the flags of a character say

Each flag of a character is set under one condition on its code and category. A character that
may start an identifier is never marked as one that may only continue it.
-/

set_option autoImplicit false

namespace CharacterTables

/-! ## Spaces -/

namespace Code

variable {code : Int} {category : String}

theorem isSpace_iff :
    isSpace code category = true ↔
      category = spaceCategory ∨ code ∈ whiteSpace ∨ code ∈ lineTerminators := by
  simp only [isSpace, Bool.or_eq_true, beq_iff_eq, List.contains_iff_mem, or_assoc]

/-- Behind the basic plane only the category makes a space. -/
theorem isSpace_iff_of_supplementary (supplementary : maxBasic < code) :
    isSpace code category = true ↔ category = spaceCategory := by
  have basic : ∀ space ∈ whiteSpace ++ lineTerminators, space ≤ maxBasic := by decide
  constructor
  · intro spacing
    cases isSpace_iff.mp spacing with
    | inl own => exact own
    | inr listed => exact absurd (basic code (List.mem_append.mpr listed)) supplementary.not_ge
  · intro own
    exact isSpace_iff.mpr (.inl own)

end Code

/-! ## Flags -/

section Each

variable (sets : PropertySets) (code : Int) (category : String)

theorem has_space_characterFlags :
    (characterFlags sets code category).has .space = Code.isSpace code category := by
  have spacing : (Flags.none.setIf .space (Code.isSpace code category)).has .space =
      Code.isSpace code category := by
    rw [Flags.has_setIf_self, Flags.has_none, Bool.false_or]
  unfold characterFlags
  cases sets.idStart.contains code with
  | false => exact (Flags.has_setIf_of_ne _ (by decide) _).trans spacing
  | true => exact (Flags.has_set_of_ne _ (by decide)).trans spacing

theorem has_identifierStart_characterFlags :
    (characterFlags sets code category).has .identifierStart = sets.idStart.contains code := by
  have unset : (Flags.none.setIf .space (Code.isSpace code category)).has .identifierStart =
      false := by
    rw [Flags.has_setIf_of_ne _ (by decide), Flags.has_none]
  unfold characterFlags
  cases sets.idStart.contains code with
  | false => exact (Flags.has_setIf_of_ne _ (by decide) _).trans unset
  | true => exact Flags.has_set_self _ _

theorem has_identifierContinueOnly_characterFlags :
    (characterFlags sets code category).has .identifierContinueOnly =
      (!sets.idStart.contains code &&
        (sets.idContinue.contains code || Code.identifierJoiners.contains code)) := by
  have unset : (Flags.none.setIf .space (Code.isSpace code category)).has
      .identifierContinueOnly = false := by
    rw [Flags.has_setIf_of_ne _ (by decide), Flags.has_none]
  unfold characterFlags
  cases sets.idStart.contains code with
  | false =>
      refine (Flags.has_setIf_self _ _ _).trans ?_
      rw [unset, Bool.false_or, Bool.not_false, Bool.true_and]
  | true => exact (Flags.has_set_of_ne _ (by decide)).trans unset

end Each

/-- Flags mark a character: as a space by its category or as one of the listed codes, and as one
that may start or only continue identifiers by its properties. -/
structure Flags.Mark (flags : Flags) (sets : PropertySets) (character : CharacterRecord) :
    Prop where
  space : flags.has .space = true ↔
    character.category = Code.spaceCategory ∨ character.code ∈ Code.whiteSpace ∨
      character.code ∈ Code.lineTerminators
  identifierStart : flags.has .identifierStart = true ↔ character.code ∈ sets.idStart
  identifierContinueOnly : flags.has .identifierContinueOnly = true ↔
    character.code ∉ sets.idStart ∧
      (character.code ∈ sets.idContinue ∨ character.code ∈ Code.identifierJoiners)
  exclusive : ¬ (flags.has .identifierStart = true ∧ flags.has .identifierContinueOnly = true)

theorem mark_characterFlags (sets : PropertySets) (character : CharacterRecord) :
    (characterFlags sets character.code character.category).Mark sets character := by
  have starts := has_identifierStart_characterFlags sets character.code character.category
  have continues :=
    has_identifierContinueOnly_characterFlags sets character.code character.category
  constructor
  · rw [has_space_characterFlags]
    exact Code.isSpace_iff
  · rw [starts, Std.TreeSet.contains_iff_mem]
  · rw [continues]
    simp only [Bool.and_eq_true, Bool.not_eq_true', Bool.eq_false_iff, ne_eq, Bool.or_eq_true,
      List.contains_iff_mem, Std.TreeSet.contains_iff_mem]
  · rw [starts, continues]
    cases sets.idStart.contains character.code with
    | false => exact fun both => absurd both.1 Bool.false_ne_true
    | true => exact fun both => absurd both.2 Bool.false_ne_true

end CharacterTables
