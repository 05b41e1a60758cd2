import Mathlib
import CharacterTables.Proofs.Faults.Reading
import CharacterTables.Proofs.SpecialCasing.Gate
import CharacterTables.Proofs.SpecialCasing.Sorting

/-!
# The shape of overrides

The users of the tables know the overrides of three codes by heart and rely on there being no
others of their kind. The check asks for this in a dozen steps, some of which follow from later
ones. What it accepts says nothing about order, so sorting does not change the outcome.
-/

set_option autoImplicit false

namespace CharacterTables.Overrides

variable {overrides : Overrides}

/-! ## What the check accepts -/

/-- The shape that the users of the tables rely on. -/
@[mk_iff]
structure Intended (overrides : Overrides) : Prop where
  lower : overrides.unconditional.lower.toList =
    [(Code.capitalIWithDotAbove, [Code.smallI, Code.combiningDotAbove])]
  latin1Upper :
    (overrides.unconditional.upper.toList.filter fun pair => pair.1 ≤ maxLatin1) =
      [(Code.smallSharpS, [Code.capitalS, Code.capitalS])]
  contextualLower : overrides.contextual.lower.toList =
    [(Code.capitalSigma, { sequence := [Code.smallFinalSigma], context := some finalSigma })]
  contextualUpper : overrides.contextual.upper.toList = []
  languages : ∀ side language bucket,
    (overrides.tailored.get side).get? language = some bucket → language ∈ knownLanguages
  lengths : ∀ side key override, overrides.stored? side key = some override →
    override.sequence.length ≤ maxSequenceLength
  contexts : ∀ side key override context, overrides.stored? side key = some override →
    override.context = some context → context ∈ knownContexts

theorem codesOf_eq_nil_iff {α : Type} {bucket : OrderedMap Int α} :
    codesOf bucket = [] ↔ bucket.toList = [] := by
  rw [codesOf, ← OrderedMap.map_fst_toList, List.map_eq_nil_iff]

theorem checkLatin1_eq_ok_iff :
    overrides.checkLatin1 = .ok () ↔
      (∀ code ∈ overrides.languageIndependentCodes, maxAscii < code) ∧
        (∀ code ∈ codesOf overrides.unconditional.lower, maxLatin1 < code) ∧
        (∀ code ∈ codesOf overrides.contextual.lower, maxLatin1 < code) ∧
        (∀ code ∈ codesOf overrides.contextual.upper, maxLatin1 < code) ∧
        (overrides.unconditional.upper.toList.filter fun pair => pair.1 ≤ maxLatin1) =
          [(Code.smallSharpS, [Code.capitalS, Code.capitalS])] := by
  rw [OrderedMap.filter_toList_eq_singleton_iff overrides.unconditional.upper (· ≤ maxLatin1)]
  unfold checkLatin1
  simp only [unit_bind_eq_ok_iff, require_eq_ok_iff, List.all_eq_true, Bool.and_eq_true,
    decide_eq_true_eq, beq_iff_eq, and_assoc]
  rfl

theorem checkLowercase_eq_ok_iff :
    overrides.checkLowercase = .ok () ↔
      overrides.unconditional.lower.toList =
          [(Code.capitalIWithDotAbove, [Code.smallI, Code.combiningDotAbove])] ∧
        overrides.contextual.upper.toList = [] ∧
        overrides.contextual.lower.toList =
          [(Code.capitalSigma,
            { sequence := [Code.smallFinalSigma], context := some finalSigma })] := by
  rw [OrderedMap.toList_eq_singleton_iff, OrderedMap.toList_eq_singleton_iff,
    ← codesOf_eq_nil_iff]
  unfold checkLowercase
  simp only [unit_bind_eq_ok_iff, require_eq_ok_iff, beq_iff_eq, List.isEmpty_iff,
    and_assoc]
  rfl

theorem vetted_iff :
    overrides.Vetted ↔
      (∀ side language bucket, (overrides.tailored.get side).get? language = some bucket →
        language ∈ knownLanguages) ∧
      (∀ side key override, overrides.stored? side key = some override →
        override.sequence.length ≤ maxSequenceLength) ∧
      ∀ side key override context, overrides.stored? side key = some override →
        override.context = some context → context ∈ knownContexts := by
  constructor
  · intro vetted
    refine ⟨?_, ?_, ?_⟩
    · intro side language bucket found
      exact vetted.languages language (mem_languages_iff.mpr ⟨side, bucket, found⟩)
    · intro side key override stored
      exact vetted.sequences _ (mem_sequences_of_stored stored)
    · intro side key override context stored bound
      exact vetted.contexts context (mem_contexts_iff.mpr ⟨side, key, override, stored, bound⟩)
  · rintro ⟨languages, lengths, contexts⟩
    refine ⟨?_, ?_, ?_⟩
    · intro language listed
      obtain ⟨side, bucket, found⟩ := mem_languages_iff.mp listed
      exact languages side language bucket found
    · intro sequence listed
      obtain ⟨side, key, override, stored, rfl⟩ := mem_sequences_iff.mp listed
      exact lengths side key override stored
    · intro context listed
      obtain ⟨side, key, override, stored, bound⟩ := mem_contexts_iff.mp listed
      exact contexts side key override context stored bound

theorem mem_toList_of_mem_codesOf {α : Type} {bucket : OrderedMap Int α} {code : Int}
    (listed : code ∈ codesOf bucket) : ∃ value, (code, value) ∈ bucket.toList := by
  rw [codesOf, ← OrderedMap.map_fst_toList] at listed
  obtain ⟨⟨_, value⟩, member, rfl⟩ := List.mem_map.mp listed
  exact ⟨value, member⟩

theorem codesOf_of_toList_eq {α : Type} {bucket : OrderedMap Int α} {code : Int} {value : α}
    (only : bucket.toList = [(code, value)]) : codesOf bucket = [code] :=
  (bucket.toList_eq_singleton_iff.mp only).1

/-- No other Latin-1 character has an uppercase form of its own, so none of them is ASCII. -/
theorem Intended.ascii_lt (intended : overrides.Intended) {code : Int}
    (listed : code ∈ codesOf overrides.unconditional.upper) : maxAscii < code := by
  by_contra ascii
  have latin1 : code ≤ maxLatin1 := (Int.not_lt.mp ascii).trans (by decide)
  obtain ⟨sequence, member⟩ := mem_toList_of_mem_codesOf listed
  have single : (code, sequence) ∈
      overrides.unconditional.upper.toList.filter fun pair => pair.1 ≤ maxLatin1 :=
    List.mem_filter.mpr ⟨member, decide_eq_true latin1⟩
  rw [intended.latin1Upper] at single
  cases List.mem_singleton.mp single
  exact ascii (by decide)

/-- The check comes down to the intended shape: what it says about ASCII and about the Latin-1
characters follows from the rest. -/
theorem check_eq_ok_iff : overrides.check = .ok () ↔ overrides.Intended := by
  unfold check
  rw [unit_bind_eq_ok_iff, unit_bind_eq_ok_iff, checkLatin1_eq_ok_iff, checkLowercase_eq_ok_iff,
    checkNames_eq_ok_iff, vetted_iff]
  constructor
  · rintro ⟨⟨_, _, _, _, latin1Upper⟩, ⟨lower, contextualUpper, contextualLower⟩, languages,
      lengths, contexts⟩
    exact ⟨lower, latin1Upper, contextualLower, contextualUpper, languages, lengths, contexts⟩
  · intro intended
    have lower := codesOf_of_toList_eq intended.lower
    have contextualLower := codesOf_of_toList_eq intended.contextualLower
    have contextualUpper := codesOf_eq_nil_iff.mpr intended.contextualUpper
    refine ⟨⟨?_, ?_, ?_, ?_, intended.latin1Upper⟩,
      ⟨intended.lower, intended.contextualUpper, intended.contextualLower⟩,
      intended.languages, intended.lengths, intended.contexts⟩
    · intro code listed
      unfold languageIndependentCodes at listed
      rw [lower, contextualLower, contextualUpper, List.append_nil, List.mem_append,
        List.mem_append, List.mem_singleton, List.mem_singleton] at listed
      rcases listed with (rfl | upper) | rfl
      · decide
      · exact intended.ascii_lt upper
      · decide
    · rw [lower]
      decide
    · rw [contextualLower]
      decide
    · rw [contextualUpper]
      exact List.forall_mem_nil _

/-! ## What the check complains about -/

/-- The bucket has something for the code, and it is something else. -/
def Differs {α : Type} (bucket : OrderedMap Int α) (code : Int) (expected : α) : Prop :=
  ∃ found, bucket.get? code = some found ∧ found ≠ expected

theorem differs_of_listed {α : Type} [BEq α] [LawfulBEq α] {bucket : OrderedMap Int α}
    {code : Int} {expected : α} (listed : code ∈ codesOf bucket)
    (refused : (bucket.get? code == some expected) = false) : Differs bucket code expected := by
  obtain ⟨found, held⟩ := OrderedMap.mem_keys_iff_exists.mp (Array.mem_toList_iff.mp listed)
  refine ⟨found, held, ?_⟩
  rintro rfl
  rw [held] at refused
  simp at refused

/-- What a complaint says about the overrides. A form is only called wrong where there is one. -/
def Deserves (overrides : Overrides) : OverrideFault → Prop
  | .asciiCasing => ∃ code ∈ overrides.languageIndependentCodes, code ≤ maxAscii
  | .latin1Lowercase => ∃ code, (code ∈ codesOf overrides.unconditional.lower ∨
      code ∈ codesOf overrides.contextual.lower) ∧ code ≤ maxLatin1
  | .latin1ContextualUppercase => ∃ code ∈ codesOf overrides.contextual.upper, code ≤ maxLatin1
  | .latin1Uppercase found =>
      found = (codesOf overrides.unconditional.upper).filter (· ≤ maxLatin1) ∧
        found ≠ [Code.smallSharpS]
  | .sharpSForm =>
      Differs overrides.unconditional.upper Code.smallSharpS [Code.capitalS, Code.capitalS]
  | .lowercase found =>
      found = codesOf overrides.unconditional.lower ∧ found ≠ [Code.capitalIWithDotAbove]
  | .dottedIForm =>
      Differs overrides.unconditional.lower Code.capitalIWithDotAbove
        [Code.smallI, Code.combiningDotAbove]
  | .contextualUppercase found => found = codesOf overrides.contextual.upper ∧ found ≠ []
  | .contextualLowercase found =>
      found = codesOf overrides.contextual.lower ∧ found ≠ [Code.capitalSigma]
  | .sigmaForm =>
      Differs overrides.contextual.lower Code.capitalSigma
        { sequence := [Code.smallFinalSigma], context := some finalSigma }
  | .unknownLanguages found => found ≠ [] ∧
      ∀ language ∈ found, language ∈ overrides.languages ∧ language ∉ knownLanguages
  | .longSequences limit => ∃ sequence ∈ overrides.sequences, limit < sequence.length
  | .unknownContexts found => found ≠ [] ∧
      ∀ context ∈ found, context ∈ overrides.contexts ∧ context ∉ knownContexts

theorem failsOnly_checkLatin1 : FailsOnly overrides.Deserves overrides.checkLatin1 := by
  refine (failsOnly_require_of fun refused => ?_).bind fun _ _ => ?_
  · simpa [Deserves] using refused
  refine (failsOnly_require_of fun refused => ?_).bind fun _ _ => ?_
  · rcases Bool.and_eq_false_iff.mp refused with lower | contextual
    · obtain ⟨code, listed, small⟩ := List.all_eq_false.mp lower
      exact ⟨code, .inl listed, by simpa using small⟩
    · obtain ⟨code, listed, small⟩ := List.all_eq_false.mp contextual
      exact ⟨code, .inr listed, by simpa using small⟩
  refine (failsOnly_require_of fun refused => ?_).bind fun _ _ => ?_
  · simpa [Deserves] using refused
  refine (failsOnly_require_of fun refused => ?_).bind fun _ single => ?_
  · exact ⟨rfl, beq_eq_false_iff_ne.mp refused⟩
  refine failsOnly_require_of fun refused => differs_of_listed ?_ refused
  have only := eq_of_beq (require_eq_ok_iff.mp single)
  exact List.mem_of_mem_filter (only ▸ List.mem_singleton_self _)

theorem failsOnly_checkLowercase : FailsOnly overrides.Deserves overrides.checkLowercase := by
  refine (failsOnly_require_of fun refused => ?_).bind fun _ single => ?_
  · exact ⟨rfl, beq_eq_false_iff_ne.mp refused⟩
  have only := eq_of_beq (require_eq_ok_iff.mp single)
  refine (failsOnly_require_of fun refused => ?_).bind fun _ _ => ?_
  · exact differs_of_listed (only ▸ List.mem_singleton_self _) refused
  refine (failsOnly_require_of fun refused => ?_).bind fun _ _ => ?_
  · exact ⟨rfl, List.isEmpty_eq_false_iff.mp refused⟩
  refine (failsOnly_require_of fun refused => ?_).bind fun _ single => ?_
  · exact ⟨rfl, beq_eq_false_iff_ne.mp refused⟩
  have only := eq_of_beq (require_eq_ok_iff.mp single)
  refine failsOnly_require_of fun refused => ?_
  exact differs_of_listed (only ▸ List.mem_singleton_self _) refused

theorem failsOnly_checkNames : FailsOnly overrides.Deserves overrides.checkNames := by
  refine (failsOnly_require_of fun refused => ?_).bind fun _ _ => ?_
  · exact ⟨List.isEmpty_eq_false_iff.mp refused, fun _ => mem_unknownAmong_iff.mp⟩
  refine (failsOnly_require_of fun refused => ?_).bind fun _ _ => ?_
  · simpa [Deserves] using refused
  refine failsOnly_require_of fun refused => ?_
  exact ⟨List.isEmpty_eq_false_iff.mp refused, fun _ => mem_unknownAmong_iff.mp⟩

/-- The check complains only about what is there. -/
theorem failsOnly_check : FailsOnly overrides.Deserves overrides.check :=
  failsOnly_checkLatin1.bind fun _ _ => failsOnly_checkLowercase.bind fun _ _ =>
    failsOnly_checkNames

/-! ## Sorting -/

/-- The intended shape does not depend on the order of the buckets. -/
theorem intended_sort_iff : overrides.sort.Intended ↔ overrides.Intended := by
  have rearranged := rearranged_sort overrides
  have single {α : Type} {sorted unsorted : List α} {pair : α} (perm : sorted.Perm unsorted) :
      sorted = [pair] ↔ unsorted = [pair] := by
    rw [← List.perm_singleton, ← List.perm_singleton]
    exact ⟨perm.symm.trans, perm.trans⟩
  have empty {α : Type} {sorted unsorted : List α} (perm : sorted.Perm unsorted) :
      sorted = [] ↔ unsorted = [] := by
    rw [← List.perm_nil, ← List.perm_nil]
    exact ⟨perm.symm.trans, perm.trans⟩
  have spoken (side : Side) (language : String) :
      (∃ bucket, (overrides.sort.tailored.get side).get? language = some bucket) ↔
        ∃ bucket, (overrides.tailored.get side).get? language = some bucket := by
    rw [← OrderedMap.mem_keys_iff_exists, ← OrderedMap.mem_keys_iff_exists,
      ← Array.mem_toList_iff, ← Array.mem_toList_iff]
    exact (rearranged.languages side).mem_iff
  simp only [intended_iff, stored?_sort, ← exists_imp, spoken]
  exact and_congr (single (rearranged.unconditional .lower)) <|
    and_congr (single ((rearranged.unconditional .upper).filter _)) <|
    and_congr (single (rearranged.contextual .lower)) <|
    and_congr_left' (empty (rearranged.contextual .upper))

/-- The check accepts just the intended shape, complains about nothing that is not there, and does
so whether or not the overrides are sorted. Sorting only rearranges them, and once is enough. -/
theorem check_accepts_intended (overrides : Overrides) :
    (overrides.check = .ok () ↔ overrides.Intended) ∧
      (¬ overrides.Intended → ∃ fault, overrides.check = .error fault ∧
        overrides.Deserves fault ∧ (Failure.shape (.overrides fault)).isCorpusFault = true) ∧
      (overrides.sort.check = .ok () ↔ overrides.check = .ok ()) ∧
      ((∃ fault, overrides.sort.check = .error fault) ↔
        ∃ fault, overrides.check = .error fault) ∧
      overrides.sort.Rearranged overrides ∧ overrides.sort.Ascending ∧
      overrides.sort.sort.Same overrides.sort := by
  have sorted : overrides.sort.check = .ok () ↔ overrides.check = .ok () := by
    rw [check_eq_ok_iff, check_eq_ok_iff, intended_sort_iff]
  refine ⟨check_eq_ok_iff, ?_, sorted, ?_, rearranged_sort overrides, ascending_sort overrides,
    same_sort_sort overrides⟩
  · intro other
    cases checked : overrides.check with
    | ok done => exact absurd (check_eq_ok_iff.mp checked) other
    | error fault => exact ⟨fault, rfl, failsOnly_check fault checked, rfl⟩
  · rw [exists_error_iff, exists_error_iff, not_iff_not]
    exact ⟨fun ⟨_, accepted⟩ => ⟨(), sorted.mp accepted⟩,
      fun ⟨_, accepted⟩ => ⟨(), sorted.mpr accepted⟩⟩

example : empty.check = .error (.latin1Uppercase []) := by decide

end CharacterTables.Overrides
