import Mathlib
import CharacterTables.Proofs.SpecialCasing.Gate
import CharacterTables.Proofs.SpecialCasing.Sorting

/-!
# What is kept of a file

A side of a special case is kept if it departs from the default, until a later special case with
the same place departs too: one that is the default does not take it back. A side that is kept
does not lead back to its code either, although this is looked at only where the default differs
from the code.
-/

set_option autoImplicit false

namespace CharacterTables

def BucketKey.code : BucketKey → Int
  | unconditional code => code
  | contextual code => code
  | tailored _ code => code

theorem SpecialCase.code_bucketKey (special : SpecialCase) :
    special.bucketKey.code = special.code := by
  unfold bucketKey
  cases special.language with
  | none =>
      cases special.context with
      | none => rfl
      | some context => rfl
  | some language => rfl

namespace Overrides

variable {plane : BasicPlane} {overrides : Overrides} {specials : List SpecialCase}
  {special : SpecialCase} {cased : CasedCharacter} {side : Side}

/-! ## Sides that depart -/

theorem Accepts.form (accepts : Accepts plane special cased) (side : Side) :
    special.code = cased.form side ∨ special.form side ≠ [special.code] := by
  cases side with
  | lower => exact accepts.lower
  | upper => exact accepts.upper

/-- A side of an accepted special case that departs from the default does not lead back to the
code either. -/
theorem Accepts.form_ne (accepts : Accepts plane special cased)
    (departs : special.departs plane side = true) :
    special.form side ≠ [special.code] ∧ special.form side ≠ [cased.form side] := by
  have other := (SpecialCase.departs_of_cased accepts.found side).mp departs
  rcases accepts.form side with own | away
  · exact ⟨own ▸ other, other⟩
  · exact ⟨away, other⟩

/-! ## Places that are taken -/

theorem Holds.exists_stored_iff (holds : overrides.Holds plane specials) {key : BucketKey} :
    (∃ override, overrides.stored? side key = some override) ↔
      ∃ special ∈ specials, special.bucketKey = key ∧ special.departs plane side = true := by
  constructor
  · rintro ⟨override, stored⟩
    obtain ⟨special, listed, here, departs, _⟩ := holds.exists_of_stored? stored
    exact ⟨special, listed, here, departs⟩
  · rintro ⟨special, listed, rfl, departs⟩
    exact holds.exists_stored listed departs

/-! ## Whole files -/

/-- Overrides keep, for every place, the side of the last special case that departs from the
default there, and nothing else. -/
structure Keeps (overrides : Overrides) (plane : BasicPlane) (specials : List SpecialCase) :
    Prop where
  departs : ∀ special ∈ specials, ∃ cased, plane.cased special.code = .ok cased ∧
    ∀ side, special.departs plane side = true ↔ special.form side ≠ [cased.form side]
  stored : ∀ side key override, overrides.stored? side key = some override ↔
    ∃ before special after, specials = before ++ special :: after ∧
      special.override side = override ∧ special.bucketKey = key ∧
      special.departs plane side = true ∧
      ∀ other ∈ after, other.bucketKey = key → other.departs plane side = false
  taken : ∀ side key, (∃ override, overrides.stored? side key = some override) ↔
    ∃ special ∈ specials, special.bucketKey = key ∧ special.departs plane side = true
  languages : ∀ side language, language ∈ (overrides.tailored.get side).keys ↔
    ∃ special ∈ specials, special.language = some language ∧
      special.departs plane side = true
  genuine : ∀ side key override, overrides.stored? side key = some override →
    override.sequence ≠ [key.code] ∧
      ∃ cased, plane.cased key.code = .ok cased ∧ override.sequence ≠ [cased.form side]

theorem Holds.stored?_eq_some_iff_append (holds : overrides.Holds plane specials)
    {key : BucketKey} {override : Override} :
    overrides.stored? side key = some override ↔
      ∃ before special after, specials = before ++ special :: after ∧
        special.override side = override ∧ special.bucketKey = key ∧
        special.departs plane side = true ∧
        ∀ other ∈ after, other.bucketKey = key → other.departs plane side = false := by
  rw [holds.entries, Option.map_eq_some_iff]
  constructor
  · rintro ⟨special, last, same⟩
    obtain ⟨before, after, split, fills, skipped⟩ := lastWith_eq_some_iff_append.mp last
    obtain ⟨here, departs⟩ := SpecialCase.fills_iff.mp fills
    refine ⟨before, special, after, split, same, here, departs, fun other listed there => ?_⟩
    have unfilled := skipped other listed
    rwa [SpecialCase.fills, there, beq_self_eq_true, Bool.true_and] at unfilled
  · rintro ⟨before, special, after, split, same, here, departs, skipped⟩
    refine ⟨special, lastWith_eq_some_iff_append.mpr ⟨before, after, split,
      SpecialCase.fills_iff.mpr ⟨here, departs⟩, fun other listed => ?_⟩, same⟩
    rw [← Bool.not_eq_true, SpecialCase.fills_iff]
    rintro ⟨there, otherDeparts⟩
    rw [skipped other listed there] at otherDeparts
    cases otherDeparts

/-- What is kept of an accepted file departs from the default and from the code itself, and is the
last of its kind for its place; and all keys are in ascending order. -/
theorem ofText_keeps_departures {text : List Char}
    (accepted : ofText plane text = .ok overrides) :
    overrides.Keeps plane (readSpecialCases text).records ∧ overrides.Ascending := by
  have holds := holds_ofText accepted
  constructor
  · refine ⟨?_, fun _ _ _ => holds.stored?_eq_some_iff_append,
      fun _ _ => holds.exists_stored_iff, fun _ _ => holds.mem_keys_iff, ?_⟩
    · intro special listed
      obtain ⟨cased, found⟩ := exists_cased accepted listed
      exact ⟨cased, found, SpecialCase.departs_of_cased found⟩
    intro side key override stored
    obtain ⟨before, special, after, split, rfl, rfl, departs, _⟩ :=
      holds.stored?_eq_some_iff_append.mp stored
    have listed : special ∈ (readSpecialCases text).records :=
      split ▸ List.mem_append_right before List.mem_cons_self
    obtain ⟨cased, accepts⟩ := exists_accepts accepted listed
    obtain ⟨away, other⟩ := accepts.form_ne departs
    rw [SpecialCase.code_bucketKey]
    exact ⟨away, cased, accepts.found, other⟩
  · obtain ⟨_, unsorted, _, _, rfl⟩ := ofText_eq_ok_iff.mp accepted
    exact ascending_sort unsorted

/-- The least casings, with two more special cases for the last place: one that replaces the form
there, and one that does not because it is the default. -/
def repeatedCasings : List String :=
  leastCasings ++ ["0049; 0069 0307; 0049; 0049; tr;", "0049; 0049; 0049; 0049; tr;"]

theorem ofText_keeps_departures_repeated :
    ∃ overrides, ofText BasicPlane.blank (textOf repeatedCasings) = .ok overrides ∧
      overrides.stored? .lower (.tailored "tr" 0x49) = some ⟨[0x69, 0x307], none⟩ ∧
      overrides.Ascending := by
  have evaluated : (ofText BasicPlane.blank (textOf repeatedCasings)).isOk = true := by
    decide +kernel
  obtain ⟨overrides, accepted⟩ := exists_of_isOk evaluated
  have split : (readSpecialCases (textOf repeatedCasings)).records =
      (readSpecialCases (textOf leastCasings)).records ++
        ⟨0x49, [0x69, 0x307], [0x49], [0x49], some "tr", none⟩ ::
          [⟨0x49, [0x49], [0x49], [0x49], some "tr", none⟩] := by
    decide +kernel
  obtain ⟨keeps, ascending⟩ := ofText_keeps_departures accepted
  refine ⟨overrides, accepted, (keeps.stored _ _ _).mpr ⟨_, _, _, split, rfl, rfl, ?_, ?_⟩,
    ascending⟩
  · decide +kernel
  · decide +kernel

end Overrides

end CharacterTables
