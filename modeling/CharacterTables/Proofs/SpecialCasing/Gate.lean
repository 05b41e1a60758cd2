import Mathlib
import CharacterTables.Proofs.SpecialCasing.Reordering

/-!
# What the check says about special cases

The check looks at the overrides that are kept. So it speaks of a special case as far as its sides
are kept: a side that is the default form is not, nor is one that a later special case replaces.
-/

set_option autoImplicit false

namespace CharacterTables

open Text

namespace BucketKey

/-- The place is for special cases with a language or a context. -/
def isConditioned : BucketKey → Bool
  | unconditional _ => false
  | contextual _ => true
  | tailored _ _ => true

end BucketKey

namespace SpecialCase

variable {special : SpecialCase}

theorem isConditioned_bucketKey {context : String} (bound : special.context = some context) :
    special.bucketKey.isConditioned = true := by
  unfold bucketKey
  cases special.language with
  | none => rw [bound]; rfl
  | some language => rfl

end SpecialCase

namespace Overrides

variable {plane : BasicPlane} {overrides : Overrides} {side : Side} {key : BucketKey}
  {override : Override}

/-! ## What the check has seen -/

theorem mem_unknownAmong_iff {known names : List String} {name : String} :
    name ∈ unknownAmong known names ↔ name ∈ names ∧ name ∉ known := by
  simp [unknownAmong, Std.TreeSet.mem_toList, Std.TreeSet.mem_ofList]

theorem isEmpty_unknownAmong_iff {known names : List String} :
    (unknownAmong known names).isEmpty = true ↔ ∀ name ∈ names, name ∈ known := by
  rw [List.isEmpty_iff, List.eq_nil_iff_forall_not_mem]
  refine forall_congr' fun name => ?_
  rw [mem_unknownAmong_iff, not_and, not_not]

/-- Names and lengths that the users of the tables can deal with. -/
structure Vetted (overrides : Overrides) : Prop where
  languages : ∀ language ∈ overrides.languages, language ∈ knownLanguages
  sequences : ∀ sequence ∈ overrides.sequences, sequence.length ≤ maxSequenceLength
  contexts : ∀ context ∈ overrides.contexts, context ∈ knownContexts

theorem checkNames_eq_ok_iff : overrides.checkNames = .ok () ↔ overrides.Vetted := by
  unfold checkNames
  simp only [unit_bind_eq_ok_iff, require_eq_ok_iff, isEmpty_unknownAmong_iff, List.all_eq_true,
    decide_eq_true_eq]
  constructor
  · intro ⟨languages, sequences, contexts⟩
    exact ⟨languages, sequences, contexts⟩
  · intro vetted
    exact ⟨vetted.languages, vetted.sequences, vetted.contexts⟩

theorem vetted_of_check (checked : overrides.check = .ok ()) : overrides.Vetted := by
  unfold check at checked
  obtain ⟨_, checked⟩ := unit_bind_eq_ok_iff.mp checked
  obtain ⟨_, checked⟩ := unit_bind_eq_ok_iff.mp checked
  exact checkNames_eq_ok_iff.mp checked

/-! ## What is kept under a condition -/

theorem mem_languages_iff {language : String} :
    language ∈ overrides.languages ↔
      ∃ side bucket, (overrides.tailored.get side).get? language = some bucket := by
  simp only [languages, List.mem_append, Array.mem_toList_iff, OrderedMap.mem_keys_iff_exists]
  constructor
  · rintro (⟨bucket, found⟩ | ⟨bucket, found⟩)
    · exact ⟨.lower, bucket, found⟩
    · exact ⟨.upper, bucket, found⟩
  · rintro ⟨side, bucket, found⟩
    cases side with
    | lower => exact .inl ⟨bucket, found⟩
    | upper => exact .inr ⟨bucket, found⟩

theorem mem_languages_of_stored {language : String} {code : Int}
    (stored : overrides.stored? side (.tailored language code) = some override) :
    language ∈ overrides.languages := by
  obtain ⟨bucket, found, _⟩ := Option.bind_eq_some_iff.mp stored
  exact mem_languages_iff.mpr ⟨side, bucket, found⟩

theorem mem_map_snd_toList_iff {κ α : Type} [Ord κ] [Std.TransOrd κ] {map : OrderedMap κ α}
    {value : α} : value ∈ map.toList.map Prod.snd ↔ ∃ key, map.get? key = some value := by
  simp only [List.mem_map, Prod.exists, OrderedMap.mem_toList_iff]
  constructor
  · rintro ⟨key, _, found, rfl⟩
    exact ⟨key, found⟩
  · rintro ⟨key, found⟩
    exact ⟨key, value, found, rfl⟩

theorem mem_conditioned_iff :
    override ∈ overrides.conditioned ↔
      ∃ side key, key.isConditioned = true ∧ overrides.stored? side key = some override := by
  simp only [conditioned, List.mem_flatMap, List.mem_append, List.mem_cons, List.not_mem_nil,
    or_false, mem_map_snd_toList_iff]
  constructor
  · rintro ⟨bucket, ((rfl | rfl) | ⟨language, found⟩) | ⟨language, found⟩, code, held⟩
    · exact ⟨.lower, .contextual code, rfl, held⟩
    · exact ⟨.upper, .contextual code, rfl, held⟩
    · exact ⟨.lower, .tailored language code, rfl,
        Option.bind_eq_some_iff.mpr ⟨bucket, found, held⟩⟩
    · exact ⟨.upper, .tailored language code, rfl,
        Option.bind_eq_some_iff.mpr ⟨bucket, found, held⟩⟩
  · rintro ⟨side, key, conditioned, stored⟩
    cases key with
    | unconditional code => cases conditioned
    | contextual code =>
        cases side with
        | lower => exact ⟨_, .inl (.inl (.inl rfl)), code, stored⟩
        | upper => exact ⟨_, .inl (.inl (.inr rfl)), code, stored⟩
    | tailored language code =>
        obtain ⟨bucket, found, held⟩ := Option.bind_eq_some_iff.mp stored
        cases side with
        | lower => exact ⟨bucket, .inl (.inr ⟨language, found⟩), code, held⟩
        | upper => exact ⟨bucket, .inr ⟨language, found⟩, code, held⟩

theorem mem_sequences_of_stored (stored : overrides.stored? side key = some override) :
    override.sequence ∈ overrides.sequences := by
  simp only [sequences, List.mem_append, mem_map_snd_toList_iff]
  cases key with
  | unconditional code =>
      obtain ⟨sequence, found, rfl⟩ := Option.map_eq_some_iff.mp stored
      cases side with
      | lower => exact .inl (.inl ⟨code, found⟩)
      | upper => exact .inl (.inr ⟨code, found⟩)
  | contextual code =>
      have listed := mem_conditioned_iff.mpr ⟨side, .contextual code, rfl, stored⟩
      exact .inr (List.mem_map_of_mem listed)
  | tailored language code =>
      have listed := mem_conditioned_iff.mpr ⟨side, .tailored language code, rfl, stored⟩
      exact .inr (List.mem_map_of_mem listed)

theorem mem_contexts_of_stored {context : String} (conditioned : key.isConditioned = true)
    (stored : overrides.stored? side key = some override) (bound : override.context = some context) :
    context ∈ overrides.contexts :=
  List.mem_filterMap.mpr
    ⟨override, mem_conditioned_iff.mpr ⟨side, key, conditioned, stored⟩, bound⟩

theorem mem_sequences_iff {sequence : List Int} :
    sequence ∈ overrides.sequences ↔
      ∃ side key override, overrides.stored? side key = some override ∧
        override.sequence = sequence := by
  constructor
  · intro listed
    simp only [sequences, List.mem_append, mem_map_snd_toList_iff] at listed
    rcases listed with (⟨code, found⟩ | ⟨code, found⟩) | conditioned
    · exact ⟨.lower, .unconditional code, ⟨sequence, none⟩,
        Option.map_eq_some_iff.mpr ⟨sequence, found, rfl⟩, rfl⟩
    · exact ⟨.upper, .unconditional code, ⟨sequence, none⟩,
        Option.map_eq_some_iff.mpr ⟨sequence, found, rfl⟩, rfl⟩
    · obtain ⟨override, listed, same⟩ := List.mem_map.mp conditioned
      obtain ⟨side, key, _, stored⟩ := mem_conditioned_iff.mp listed
      exact ⟨side, key, override, stored, same⟩
  · rintro ⟨side, key, override, stored, rfl⟩
    exact mem_sequences_of_stored stored

theorem mem_contexts_iff {context : String} :
    context ∈ overrides.contexts ↔
      ∃ side key override, overrides.stored? side key = some override ∧
        override.context = some context := by
  constructor
  · intro listed
    obtain ⟨override, conditioned, bound⟩ := List.mem_filterMap.mp listed
    obtain ⟨side, key, _, stored⟩ := mem_conditioned_iff.mp conditioned
    exact ⟨side, key, override, stored, bound⟩
  · rintro ⟨side, key, override, stored, bound⟩
    refine mem_contexts_of_stored ?_ stored bound
    cases key with
    | unconditional code =>
        obtain ⟨_, _, rfl⟩ := Option.map_eq_some_iff.mp stored
        cases bound
    | contextual code => rfl
    | tailored language code => rfl

/-! ## What is kept of a special case -/

section Holds

variable {specials before after : List SpecialCase} {special : SpecialCase}
  (holds : overrides.Holds plane specials)
include holds

theorem Holds.stored?_of_last (split : specials = before ++ special :: after)
    (departs : special.departs plane side = true)
    (last : ∀ other ∈ after, other.fills plane side special.bucketKey = false) :
    overrides.stored? side special.bucketKey = some (special.override side) := by
  have fills : special.fills plane side special.bucketKey = true :=
    SpecialCase.fills_iff.mpr ⟨rfl, departs⟩
  rw [holds.entries, split, lastWith_append_cons fills last]
  rfl

end Holds

theorem check_of_ofText {text : List Char} (accepted : ofText plane text = .ok overrides) :
    overrides.check = .ok () := by
  obtain ⟨_, unsorted, _, checked, rfl⟩ := ofText_eq_ok_iff.mp accepted
  exact checked

/-- A side of a special case in an accepted file is the one default code, or its language is known,
and unless a later special case replaces it so is its context, and it is short. -/
theorem ofText_vets_kept_sides {text : List Char} (accepted : ofText plane text = .ok overrides)
    {before after : List SpecialCase} {special : SpecialCase}
    (split : (readSpecialCases text).records = before ++ special :: after) (side : Side) :
    (special.departs plane side = false → (special.form side).length = 1) ∧
      (special.departs plane side = true →
        (∀ language, special.language = some language → language ∈ knownLanguages) ∧
          ((∀ other ∈ after, other.fills plane side special.bucketKey = false) →
            (∀ context, special.context = some context → context ∈ knownContexts) ∧
              (special.form side).length ≤ maxSequenceLength)) := by
  have holds := holds_ofText accepted
  have vetted := vetted_of_check (check_of_ofText accepted)
  have listed : special ∈ (readSpecialCases text).records := by
    rw [split]
    exact List.mem_append_right before List.mem_cons_self
  constructor
  · intro default
    obtain ⟨cased, found⟩ := exists_cased accepted listed
    have same : special.form side = [cased.form side] := by
      by_contra other
      rw [(SpecialCase.departs_of_cased found side).mpr other] at default
      cases default
    rw [same, List.length_singleton]
  · intro departs
    constructor
    · intro language spoken
      obtain ⟨override, stored⟩ := holds.exists_stored listed departs
      rw [SpecialCase.bucketKey_of_language spoken] at stored
      exact vetted.languages language (mem_languages_of_stored stored)
    · intro last
      have stored := holds.stored?_of_last split departs last
      constructor
      · intro context bound
        have conditioned := SpecialCase.isConditioned_bucketKey bound
        exact vetted.contexts context (mem_contexts_of_stored conditioned stored bound)
      · exact vetted.sequences (special.form side) (mem_sequences_of_stored stored)

/-- The least casings before a special case with a language and a context. -/
def lithuanianCasings : List String :=
  leastCasings ++ ["0049; 0069 0307; 0049; 0049; lt More_Above;"]

/-- The special case in which a Lithuanian lowercase i keeps its dot. -/
def dottedCase : SpecialCase :=
  ⟨0x49, [0x69, 0x307], [0x49], [0x49], some "lt", some "More_Above"⟩

/-- The lowercase side of the Lithuanian case is kept, so its language, its context and its length
are vetted. Its uppercase side is the default. -/
theorem ofText_vets_kept_sides_lithuanian :
    ∃ overrides, ofText BasicPlane.blank (textOf lithuanianCasings) = .ok overrides ∧
      (readSpecialCases (textOf lithuanianCasings)).records =
        (readSpecialCases (textOf leastCasings)).records ++ dottedCase :: [] ∧
      (dottedCase.departs BasicPlane.blank .lower = true ∧
        dottedCase.language = some "lt" ∧ "lt" ∈ knownLanguages ∧
        dottedCase.context = some "More_Above" ∧ "More_Above" ∈ knownContexts ∧
        (dottedCase.form .lower).length ≤ maxSequenceLength) ∧
      dottedCase.departs BasicPlane.blank .upper = false ∧
        (dottedCase.form .upper).length = 1 := by
  have evaluated : (ofText BasicPlane.blank (textOf lithuanianCasings)).isOk = true := by
    decide +kernel
  obtain ⟨overrides, accepted⟩ := exists_of_isOk evaluated
  have split : (readSpecialCases (textOf lithuanianCasings)).records =
      (readSpecialCases (textOf leastCasings)).records ++ dottedCase :: [] := by
    decide +kernel
  have kept : dottedCase.departs BasicPlane.blank .lower = true := by decide +kernel
  have default : dottedCase.departs BasicPlane.blank .upper = false := by decide +kernel
  obtain ⟨language, rest⟩ := (ofText_vets_kept_sides accepted split .lower).2 kept
  obtain ⟨context, short⟩ := rest fun other listed => absurd listed List.not_mem_nil
  have single := (ofText_vets_kept_sides accepted split .upper).1 default
  exact ⟨overrides, accepted, split,
    ⟨kept, rfl, language "lt" rfl, rfl, context "More_Above" rfl, short⟩, default, single⟩

/-- The least casings behind a special case without a side of its own, and behind one that the
form of sharp s replaces. -/
def shadowedCasings : List String :=
  ["0041; 0041; 0041; 0041; xx Nowhere;", "00DF; 00DF; 0053 0073; 0053 0053 0053 0053;"] ++
    leastCasings

/-- An accepted file may have an unknown language, an unknown context, and a form of four codes. -/
theorem ofText_accepts_shadowed :
    (∃ overrides, ofText BasicPlane.blank (textOf shadowedCasings) = .ok overrides) ∧
      (∃ special ∈ (readSpecialCases (textOf shadowedCasings)).records,
        ∃ language context, special.language = some language ∧ language ∉ knownLanguages ∧
          special.context = some context ∧ context ∉ knownContexts) ∧
      ∃ special ∈ (readSpecialCases (textOf shadowedCasings)).records,
        maxSequenceLength < special.upper.length := by
  have evaluated : (ofText BasicPlane.blank (textOf shadowedCasings)).isOk = true := by
    decide +kernel
  exact ⟨exists_of_isOk evaluated,
    ⟨⟨0x41, [0x41], [0x41], [0x41], some "xx", some "Nowhere"⟩, by decide +kernel,
      "xx", "Nowhere", rfl, by decide, rfl, by decide⟩,
    ⟨0xDF, [0xDF], [0x53, 0x73], [0x53, 0x53, 0x53, 0x53], none, none⟩, by decide +kernel,
    by decide⟩

end Overrides

end CharacterTables
