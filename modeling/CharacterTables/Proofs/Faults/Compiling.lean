import Mathlib
import CharacterTables.Proofs.Faults.Reading
import CharacterTables.Proofs.FoldClasses
import CharacterTables.Proofs.Registry
import CharacterTables.Proofs.Spaces
import CharacterTables.Proofs.SpecialCasing.Gate

/-!
# How compiling fails

What is wrong with well-formed data is reported, but for a code so far below zero that the index
of a table has no place for it.
-/

set_option autoImplicit false

namespace CharacterTables

open Text

variable {text : List Char}

/-! ## Compiling registries -/

/-- The code is so far below zero that it does not even count from the end of the basic plane. -/
def Code.Deep (code : Int) : Prop :=
  code < -Code.basicCount

/-- The conditions of a special case are single words. -/
structure SpecialCase.Spoken (special : SpecialCase) : Prop where
  language : ∀ language, special.language = some language → OneLine language
  context : ∀ context, special.context = some context → OneLine context

namespace Overrides

variable {plane : BasicPlane} {overrides : Overrides}

/-- The names that are kept with the overrides are single words. -/
structure Spoken (overrides : Overrides) : Prop where
  languages : ∀ language ∈ overrides.languages, OneLine language
  contexts : ∀ context ∈ overrides.contexts, OneLine context

theorem Holds.spoken {specials : List SpecialCase} (holds : overrides.Holds plane specials)
    (each : ∀ special ∈ specials, special.Spoken) : overrides.Spoken := by
  constructor
  · intro language listed
    obtain ⟨side, bucket, found⟩ := mem_languages_iff.mp listed
    obtain ⟨special, member, spoken, _⟩ :=
      holds.mem_keys_iff.mp (OrderedMap.mem_keys_iff_exists.mpr ⟨bucket, found⟩)
    exact (each special member).language language spoken
  · intro context listed
    obtain ⟨side, key, override, stored, bound⟩ := mem_contexts_iff.mp listed
    obtain ⟨special, member, _, _, rfl⟩ := holds.exists_of_stored? stored
    exact (each special member).context context bound

theorem Spoken.failsOnly_check (spoken : overrides.Spoken) :
    FailsOnly OverrideFault.Worded overrides.check := by
  have languages : ∀ language ∈ unknownAmong knownLanguages overrides.languages,
      OneLine language :=
    fun language listed => spoken.languages language (mem_unknownAmong_iff.mp listed).1
  have contexts : ∀ context ∈ unknownAmong knownContexts overrides.contexts, OneLine context :=
    fun context listed => spoken.contexts context (mem_unknownAmong_iff.mp listed).1
  refine FailsOnly.bind ?_ fun _ _ => FailsOnly.bind ?_ fun _ _ => ?_
  · refine (failsOnly_require trivial).bind fun _ _ => ?_
    refine (failsOnly_require trivial).bind fun _ _ => ?_
    refine (failsOnly_require trivial).bind fun _ _ => ?_
    exact (failsOnly_require trivial).bind fun _ _ => failsOnly_require trivial
  · refine (failsOnly_require trivial).bind fun _ _ => ?_
    refine (failsOnly_require trivial).bind fun _ _ => ?_
    refine (failsOnly_require trivial).bind fun _ _ => ?_
    exact (failsOnly_require trivial).bind fun _ _ => failsOnly_require trivial
  · refine (failsOnly_require languages).bind fun _ _ => ?_
    exact (failsOnly_require trivial).bind fun _ _ => failsOnly_require contexts

end Overrides

end CharacterTables
