import Mathlib
import CharacterTables.Proofs.Generation
import CharacterTables.Proofs.TwoStage.Renumbering

/-!
# The order of the registry

Infos are numbered by first use, so registries that list the same characters in different orders
have different indexes. But the numbers are only permuted: every code keeps its info, and both
indexes are split in the same way.
-/

set_option autoImplicit false

namespace CharacterTables.BasicPlane

open TwoStage

/-! ## The numbers in use -/

section Numbers

variable {registry : Registry} {sets : PropertySets} {plane : BasicPlane}
  (compiled : ofRegistry registry sets = .ok plane)
  (distinct : (registry.toList.map CharacterRecord.code).Nodup)
include compiled distinct

theorem splittable_index : Splittable plane.index := by
  have small : 2 * Code.basicCount < 2 ^ 32 := by decide
  exact splittable_numbers fun place =>
    ((lists_ofRegistry compiled).number_le distinct place).trans_lt small

/-- The index has every number of an info, so its element type follows from the count of infos. -/
theorem ofEntries_index (nonneg : ∀ character ∈ registry.toList, 0 ≤ character.code) :
    ElementWidth.ofEntries plane.index =
      ElementWidth.ofGreatest ((plane.infos.size : Int) - 1) := by
  have number_lt_size (place : Nat) : plane.number place < plane.infos.size :=
    (lists_ofRegistry compiled).number_lt_size place
  have last : ∃ place < Code.basicCount, plane.number place = plane.infos.size - 1 := by
    have first := number_lt_size 0
    by_cases single : plane.infos.size = 1
    · exact ⟨0, by decide, by omega⟩
    · exact (lists_ofRegistry compiled).exists_number_eq distinct nonneg (by omega) (by
        unfold Catalog.size at *
        omega)
  refine ofEntries_eq_ofGreatest ?_ ?_ ?_
  · obtain ⟨place, inside, same⟩ := last
    have bound := number_lt_size place
    refine Array.mem_map.mpr ⟨place, by simpa using inside, ?_⟩
    omega
  · intro entry listed
    obtain ⟨place, _, rfl⟩ := Array.mem_map.mp listed
    have bound := number_lt_size place
    omega
  · intro entry listed
    obtain ⟨place, _, rfl⟩ := Array.mem_map.mp listed
    exact Int.natCast_nonneg _

end Numbers

/-! ## Two orders of the same characters -/

/-- The entry of an index under other numbers. -/
def renumberEntry (change : Equiv.Perm Nat) (entry : Int) : Int :=
  change entry.toNat

/-- Two planes that differ by a permutation of the numbers of infos: it leads from the table and
the index of one to those of the other, and each basic code has the same info in both. -/
structure Reordered (plane other : BasicPlane) (change : Equiv.Perm Nat) : Prop where
  numbers : Renumbered change plane.infos other.infos plane.numbers other.numbers
  index : other.index = plane.index.map (renumberEntry change)
  info : ∀ code : Int, 0 ≤ code → code ≤ Code.maxBasic →
    ∃ info, plane.info code = .ok info ∧ other.info code = .ok info

variable {plane other : BasicPlane} {change : Equiv.Perm Nat}

theorem reordered_of_renumbered
    (numbers : Renumbered change plane.infos other.infos plane.numbers other.numbers) :
    plane.Reordered other change := by
  refine ⟨numbers, ?_, ?_⟩
  · unfold index
    rw [Array.map_map]
    refine Array.map_congr_left fun place _ => ?_
    exact congrArg Int.ofNat (numbers.number place)
  · intro code nonneg basic
    obtain ⟨place, rfl⟩ := Int.eq_ofNat_of_zero_le nonneg
    have inside : place < Code.basicCount := Int.ofNat_lt.mp (Code.lt_basicCount_iff.mpr basic)
    have found := placeOf_of_lt inside ((Int.ofNat_lt.mpr inside).trans (by decide))
    have same : other.infoAt place = plane.infoAt place := by
      have entry := numbers.entry (plane.number place)
      have number : other.number place = change (plane.number place) := numbers.number place
      unfold infoAt
      rw [Array.getD_eq_getD_getElem?, Array.getD_eq_getD_getElem?, number, entry]
    exact ⟨plane.infoAt place, by rw [info, found], by rw [info, found, ← same]⟩

theorem Reordered.renumbers (reordered : plane.Reordered other change) :
    Renumbers (renumberEntry change) plane.index := by
  constructor
  · exact congrArg Int.ofNat reordered.numbers.zero
  · have natural : ∀ entry, entry ∈ plane.index ∨ entry = 0 → ∃ number : Nat, entry = number := by
      rintro entry (listed | rfl)
      · obtain ⟨place, _, rfl⟩ := Array.mem_map.mp listed
        exact ⟨_, rfl⟩
      · exact ⟨0, rfl⟩
    intro first firstIn second secondIn same
    obtain ⟨left, rfl⟩ := natural first firstIn
    obtain ⟨right, rfl⟩ := natural second secondIn
    exact congrArg Int.ofNat (change.injective (Int.ofNat.inj same))

/-- Registries that list the same characters, each code once and none negative, are compiled or
refused together, whatever their orders. When they are compiled, a permutation of the numbers leads
from one plane to the other, and the splits of their indexes differ only by it. -/
theorem ofRegistry_reordered (first second : Registry) (sets : PropertySets)
    (same : first.toList.Perm second.toList)
    (distinct : (first.toList.map CharacterRecord.code).Nodup)
    (nonneg : ∀ character ∈ first.toList, 0 ≤ character.code) :
    ((∃ failure, ofRegistry first sets = .error failure) ↔
        ∃ failure, ofRegistry second sets = .error failure) ∧
      ∀ plane, ofRegistry first sets = .ok plane →
        ∃ other change, ofRegistry second sets = .ok other ∧ plane.Reordered other change ∧
          ∀ session, ∃ split text otherText,
            (Work.split plane.index).outcome session = (.ok split, session.told text) ∧
              (Work.split other.index).outcome session =
                (.ok (split.renumber (renumberEntry change)), session.told otherText) ∧
              (split.renumber (renumberEntry change)).byteSize = split.byteSize := by
  have together : (∃ plane, ofRegistry first sets = .ok plane) ↔
      ∃ plane, ofRegistry second sets = .ok plane := by
    rw [exists_ofRegistry_iff, exists_ofRegistry_iff]
    exact forall_congr' fun character => imp_congr same.mem_iff Iff.rfl
  constructor
  · rw [exists_error_iff, exists_error_iff, together]
  · intro plane compiled
    obtain ⟨other, again⟩ := together.mp ⟨plane, compiled⟩
    have otherDistinct : (second.toList.map CharacterRecord.code).Nodup :=
      (same.map CharacterRecord.code).nodup_iff.mp distinct
    have otherNonneg : ∀ character ∈ second.toList, 0 ≤ character.code :=
      fun character listed => nonneg character (same.mem_iff.mpr listed)
    obtain ⟨change, numbers⟩ := (lists_ofRegistry compiled).renumbered (lists_ofRegistry again)
      distinct nonneg same
    have reordered := reordered_of_renumbered numbers
    refine ⟨other, change, again, reordered, fun session => ?_⟩
    have changed := splittable_index again otherDistinct
    have width : ElementWidth.ofEntries other.index = ElementWidth.ofEntries plane.index := by
      rw [ofEntries_index again otherDistinct otherNonneg,
        ofEntries_index compiled distinct nonneg, numbers.size]
    rw [reordered.index] at changed width
    obtain ⟨found, otherFound, searched, otherSearched, recovers, otherRecovers, splits⟩ :=
      search_map (splittable_index compiled distinct) changed reordered.renumbers width
    obtain ⟨text, ended⟩ := outcome_split searched recovers session
    obtain ⟨otherText, otherEnded⟩ := outcome_split otherSearched otherRecovers session
    rw [splits, ← reordered.index] at otherEnded
    exact ⟨found.split, text, otherText, ended, otherEnded, Split.byteSize_renumber _ _⟩

/-- A capital letter and its small letter, whose infos differ. -/
def capitalThenSmall : Registry :=
  Registry.ofRecords [⟨0x41, "A", "Lu", "", 0x41, 0x61⟩, ⟨0x61, "a", "Ll", "", 0x41, 0x61⟩]

def smallThenCapital : Registry :=
  Registry.ofRecords [⟨0x61, "a", "Ll", "", 0x41, 0x61⟩, ⟨0x41, "A", "Lu", "", 0x41, 0x61⟩]

theorem ofRegistry_reordered_letters :
    capitalThenSmall.toList.Perm smallThenCapital.toList ∧
      (capitalThenSmall.toList.map CharacterRecord.code).Nodup ∧
      (∀ character ∈ capitalThenSmall.toList, 0 ≤ character.code) ∧
      ∃ plane other change, ofRegistry capitalThenSmall .empty = .ok plane ∧
        ofRegistry smallThenCapital .empty = .ok other ∧ plane.number 0x41 = 1 ∧
        other.number 0x41 = 2 ∧ plane.Reordered other change := by
  have same : capitalThenSmall.toList.Perm smallThenCapital.toList := by decide +kernel
  have distinct : (capitalThenSmall.toList.map CharacterRecord.code).Nodup := by decide +kernel
  have nonneg : ∀ character ∈ capitalThenSmall.toList, 0 ≤ character.code := by decide +kernel
  have capitals : (ofRegistry capitalThenSmall .empty).toOption.map (·.number 0x41) = some 1 := by
    decide +kernel
  have smalls : (ofRegistry smallThenCapital .empty).toOption.map (·.number 0x41) = some 2 := by
    decide +kernel
  cases compiled : ofRegistry capitalThenSmall .empty with
  | error failure =>
      rw [compiled] at capitals
      cases capitals
  | ok plane =>
      obtain ⟨other, change, again, reordered, _⟩ :=
        (ofRegistry_reordered _ _ .empty same distinct nonneg).2 plane compiled
      rw [compiled] at capitals
      rw [again] at smalls
      exact ⟨same, distinct, nonneg, plane, other, change, rfl, again, Option.some.inj capitals,
        Option.some.inj smalls, reordered⟩

end CharacterTables.BasicPlane
