import Mathlib
import CharacterTables.Proofs.BasicPlane

/-!
# Codes and case forms below zero

A data file may spell any integer as a code, but only the end of the basic plane is guarded. A
code below zero is taken for its remainder unless it is more than a whole plane away, and so is a
case form. What the plane says about a code is thus what the registry says only if the data are
genuine.
-/

set_option autoImplicit false

namespace CharacterTables

open Code

theorem CaseDelta.apply_between_of_modEq {code other mapping : Int}
    (same : code ≡ other [ZMOD basicCount]) :
    (between other mapping).apply code = mapping % basicCount := by
  unfold apply between
  calc (code + (mapping - other) % basicCount) % basicCount
      = (code + (mapping - other)) % basicCount := Int.add_emod_emod ..
    _ = (other + (mapping - other)) % basicCount := same.add_right _
    _ = mapping % basicCount := by rw [add_sub_cancel]

namespace Registry

/-- The character that a place of the plane shows: the last one whose code leaves the place as its
remainder. -/
def shownAt (registry : Registry) (place : Nat) : Option CharacterRecord :=
  lastWith (fun character => character.code ≤ maxBasic ∧ character.code % basicCount = place)
    registry.toList

def shownInfo (registry : Registry) (sets : PropertySets) (place : Nat) : CharacterInfo :=
  ((registry.shownAt place).map (characterInfo sets)).getD CharacterInfo.blank

/-- Neither a basic character nor a case form of it is below zero. -/
def Genuine (registry : Registry) : Prop :=
  ∀ character ∈ registry.toList, character.code ≤ maxBasic →
    0 ≤ character.code ∧ 0 ≤ character.lowercase ∧ 0 ≤ character.uppercase

section Shown

variable {registry : Registry} {character : CharacterRecord} {place : Nat}

theorem of_shownAt (shown : registry.shownAt place = some character) :
    character ∈ registry.toList ∧ character.code ≤ maxBasic ∧
      character.code % basicCount = place := by
  obtain ⟨listed, passes⟩ := mem_of_lastWith shown
  exact ⟨listed, of_decide_eq_true passes⟩

variable (genuine : registry.Genuine)
include genuine

theorem Genuine.code_of_shownAt (shown : registry.shownAt place = some character) :
    character.code = place := by
  obtain ⟨listed, basic, rest⟩ := of_shownAt shown
  rw [← rest, Int.emod_eq_of_lt (genuine character listed basic).1 (lt_basicCount_iff.mpr basic)]

theorem Genuine.shownAt_code (keyed : registry.Keyed) (listed : character ∈ registry.toList)
    (basic : character.code ≤ maxBasic) :
    registry.shownAt (character.code % basicCount).toNat = some character := by
  have remainder : ((character.code % basicCount).toNat : Int) = character.code % basicCount :=
    Int.toNat_of_nonneg (Int.emod_nonneg _ (by decide))
  cases shown : registry.shownAt (character.code % basicCount).toNat with
  | none =>
      have skipped := lastWith_eq_none_iff.mp shown character listed
      exact absurd ⟨basic, remainder.symm⟩ (of_decide_eq_false skipped)
  | some other =>
      have rest : character.code % basicCount = character.code :=
        Int.emod_eq_of_lt (genuine character listed basic).1 (lt_basicCount_iff.mpr basic)
      have same : other.code = character.code :=
        (genuine.code_of_shownAt shown).trans (remainder.trans rest)
      have unique := List.inj_on_of_nodup_map keyed.nodup_codes (of_shownAt shown).1 listed same
      rw [unique]

end Shown

end Registry

namespace BasicPlane

variable {registry : Registry} {sets : PropertySets} {plane : BasicPlane}

theorem placeOf_eq_ok_iff {code : Int} {place : Nat} :
    placeOf basicCount code = .ok place ↔
      -(basicCount : Int) ≤ code ∧ code ≤ maxBasic ∧ code % basicCount = place := by
  have remainder : ((code % basicCount).toNat : Int) = code % basicCount :=
    Int.toNat_of_nonneg (Int.emod_nonneg _ (by decide))
  constructor
  · intro found
    obtain ⟨low, high⟩ := bounds_of_placeOf found
    have basic := lt_basicCount_iff.mp high
    rw [placeOf_code low basic] at found
    cases found
    exact ⟨low, basic, remainder.symm⟩
  · rintro ⟨low, basic, rest⟩
    rw [placeOf_code low basic, rest, Int.toNat_natCast]

/-- A plane shows the characters of a registry at the remainders of their codes, and leads to the
remainders of their case forms. -/
structure Wraps (plane : BasicPlane) (registry : Registry) (sets : PropertySets) : Prop where
  info : ∀ code, -(basicCount : Int) ≤ code → code ≤ maxBasic →
    plane.info code = .ok (registry.shownInfo sets (code % basicCount).toNat)
  unlisted : ∀ place < basicCount,
    (entryAt plane.index place = .ok 0 ↔ registry.shownInfo sets place = CharacterInfo.blank)
  cased : ∀ code, -(basicCount : Int) ≤ code → code ≤ maxBasic → ∀ character,
    registry.shownAt (code % basicCount).toNat = some character →
      plane.cased code = .ok
        { lower := character.lowercase % basicCount
          upper := character.uppercase % basicCount
          flags := characterFlags sets character.code character.category }

/-- A plane says what the registry says. -/
structure Faithful (plane : BasicPlane) (registry : Registry) : Prop where
  unassigned : ∀ code, 0 ≤ code → code ≤ maxBasic →
    (∀ character ∈ registry.toList, character.code ≠ code) → entryAt plane.index code = .ok 0
  cased : ∀ character ∈ registry.toList, character.code ≤ maxBasic →
    ∃ flags, plane.cased character.code = .ok
      { lower := character.lowercase, upper := character.uppercase, flags }

theorem infoAt_eq_shownInfo (compiled : ofRegistry registry sets = .ok plane) (place : Nat) :
    plane.infoAt place = registry.shownInfo sets place := by
  have listable := (exists_ofRegistry_iff registry sets).mp ⟨plane, compiled⟩
  have names : ∀ character ∈ registry.toList,
      decide (character.code ≤ maxBasic ∧ character.code % basicCount = place) = true ↔
        placeOf basicCount character.code = .ok place := by
    intro character listed
    rw [decide_eq_true_iff, placeOf_eq_ok_iff]
    constructor
    · -- A code more than a plane below zero has a remainder too, but would have been refused.
      rintro ⟨basic, rest⟩
      exact ⟨(listable_iff.mp (listable character listed) basic).1, basic, rest⟩
    · exact And.right
  rw [(lists_ofRegistry compiled).infoAt_eq]
  exact valueAt_placements_eq CharacterInfo.blank names

theorem wraps_ofRegistry (compiled : ofRegistry registry sets = .ok plane) :
    plane.Wraps registry sets := by
  have shows : ∀ code, -(basicCount : Int) ≤ code → code ≤ maxBasic →
      plane.info code = .ok (registry.shownInfo sets (code % basicCount).toNat) := by
    intro code low basic
    have found := placeOf_code low basic
    rw [info, found, ← infoAt_eq_shownInfo compiled]
  refine ⟨shows, ?_, ?_⟩
  · intro place inside
    rw [← infoAt_eq_shownInfo compiled, ← (lists_ofRegistry compiled).number_eq_zero_iff,
      entryAt_index plane inside, Except.ok.injEq, Int.natCast_eq_zero]
  · intro code low basic character shown
    have same : code ≡ character.code [ZMOD basicCount] := by
      have remainder := (Registry.of_shownAt shown).2.2
      rw [Int.toNat_of_nonneg (Int.emod_nonneg _ (by decide))] at remainder
      exact remainder.symm
    unfold cased
    rw [shows code low basic, ok_bind]
    unfold Registry.shownInfo
    rw [shown, Option.map_some, Option.getD_some]
    unfold CharacterInfo.apply characterInfo
    rw [CaseDelta.apply_between_of_modEq same, CaseDelta.apply_between_of_modEq same]
    rfl

theorem Wraps.faithful (wraps : plane.Wraps registry sets) (keyed : registry.Keyed)
    (genuine : registry.Genuine)
    (stays : ∀ character ∈ registry.toList, character.code ≤ maxBasic → StaysBasic character) :
    plane.Faithful registry := by
  constructor
  · intro code nonneg basic absent
    obtain ⟨place, inside, rfl⟩ := exists_place nonneg basic
    have unshown : registry.shownAt place = none := by
      refine Option.eq_none_iff_forall_ne_some.mpr fun character shown => ?_
      exact absent character (Registry.of_shownAt shown).1 (genuine.code_of_shownAt shown)
    refine (wraps.unlisted place inside).mpr ?_
    unfold Registry.shownInfo
    rw [unshown]
    rfl
  · intro character listed basic
    obtain ⟨nonneg, lowerNonneg, upperNonneg⟩ := genuine character listed basic
    obtain ⟨lower, upper⟩ := stays character listed basic
    have cased := wraps.cased character.code (le_trans (by decide) nonneg) basic character
      (genuine.shownAt_code keyed listed basic)
    rw [Int.emod_eq_of_lt lowerNonneg (lt_basicCount_iff.mpr lower),
      Int.emod_eq_of_lt upperNonneg (lt_basicCount_iff.mpr upper)] at cased
    exact ⟨_, cased⟩

/-- What the plane makes of the data of a file: it compiles them unless a basic character maps
behind the plane or has a code that is more than a plane below zero. Codes and case forms are
recorded by their remainders, so that genuine data are recorded as they are. -/
theorem ofText_wraps {text : List Char} {registry : Registry}
    (read : Registry.ofText text = .ok registry) (sets : PropertySets) :
    ((∃ plane, ofRegistry registry sets = .ok plane) ↔
        ∀ character ∈ registry.toList, character.code ≤ maxBasic →
          -(basicCount : Int) ≤ character.code ∧ StaysBasic character) ∧
      (∀ failure, ofRegistry registry sets = .error failure ↔
        ∃ before character after, registry.toList = before ++ character :: after ∧
          (∀ earlier ∈ before, Listable earlier) ∧ Refusal character failure) ∧
      (∀ plane, ofRegistry registry sets = .ok plane → plane.Wraps registry sets) ∧
      (registry.Genuine →
        (∀ failure, ofRegistry registry sets = .error failure → failure.isCorpusFault = true) ∧
          ∀ plane, ofRegistry registry sets = .ok plane → plane.Faithful registry) := by
  have accepts : (∃ plane, ofRegistry registry sets = .ok plane) ↔
      ∀ character ∈ registry.toList, character.code ≤ maxBasic →
        -(basicCount : Int) ≤ character.code ∧ StaysBasic character := by
    rw [exists_ofRegistry_iff]
    exact forall₂_congr fun character _ => listable_iff
  refine ⟨accepts, fun failure => ofRegistry_eq_error_iff, fun plane => wraps_ofRegistry, ?_⟩
  intro genuine
  constructor
  · intro failure failed
    obtain ⟨character, listed, refusal⟩ := exists_refusal failed
    exact refusal.isCorpusFault (genuine character listed refusal.basic).1
  · intro plane compiled
    have accepted := accepts.mp ⟨plane, compiled⟩
    exact (wraps_ofRegistry compiled).faithful (Registry.keyed_ofText read) genuine
      fun character listed basic => (accepted character listed basic).2

/-- A space whose code counts from the end of the plane. -/
def spaceBelowZero : List Char := "-1;BACK;Zs;0;WS;;;;;N;;;;;\n".toList

theorem ofText_wraps_spaceBelowZero :
    ∃ registry plane, Registry.ofText spaceBelowZero = .ok registry ∧
      ofRegistry registry .empty = .ok plane ∧ plane.Wraps registry .empty ∧
        plane.info 0xFFFF = .ok { lower := .zero, upper := .zero, flags := ⟨1⟩ } := by
  have evaluated : (Registry.ofText spaceBelowZero).toOption.map Registry.toList =
      some [⟨-1, "BACK", "Zs", "", -1, -1⟩] := by
    decide +kernel
  obtain ⟨registry, read, listed⟩ := exists_of_toOption_map evaluated
  obtain ⟨accepts, _, wraps, _⟩ := ofText_wraps read .empty
  obtain ⟨plane, compiled⟩ := accepts.mpr (by rw [listed]; decide)
  refine ⟨registry, plane, read, compiled, wraps plane compiled, ?_⟩
  rw [(wraps plane compiled).info 0xFFFF (by decide) (by decide)]
  unfold Registry.shownInfo Registry.shownAt
  rw [listed]
  decide +kernel

/-- A capital letter whose small form is below zero. -/
def mappedBelowZero : List Char := "0041;A;Lu;0;L;;;;;N;;;;-61;\n".toList

/-- A case form below zero is accepted, and the plane has another one instead. -/
theorem ofText_accepts_mappedBelowZero :
    ∃ registry plane, Registry.ofText mappedBelowZero = .ok registry ∧
      (∃ character ∈ registry.toList, character.code = 0x41 ∧ character.lowercase = -0x61) ∧
        ofRegistry registry .empty = .ok plane ∧
          plane.cased 0x41 = .ok { lower := 0xFF9F, upper := 0x41, flags := .none } := by
  have evaluated : (Registry.ofText mappedBelowZero).toOption.map Registry.toList =
      some [⟨0x41, "A", "Lu", "", 0x41, -0x61⟩] := by
    decide +kernel
  obtain ⟨registry, read, listed⟩ := exists_of_toOption_map evaluated
  obtain ⟨plane, compiled⟩ := (exists_ofRegistry_iff registry .empty).mpr (by
    rw [listed]
    exact List.forall_mem_singleton.mpr (listable_iff.mpr (by decide)))
  refine ⟨registry, plane, read, ⟨_, listed ▸ List.mem_singleton_self _, rfl, rfl⟩, compiled, ?_⟩
  refine (wraps_ofRegistry compiled).cased 0x41 (by decide) (by decide)
    ⟨0x41, "A", "Lu", "", 0x41, -0x61⟩ ?_
  unfold Registry.shownAt
  rw [listed]
  decide

end BasicPlane

end CharacterTables
