import Mathlib
import CharacterTables.Proofs.FoldClasses

/-!
# The order of the folds

Where no code folds twice, the folds of a file may stand in any order. Both directions of folding
are filled in the order of the file, but the lists of equivalents are sorted, and the deltas are
numbered in the order of the codes.
-/

set_option autoImplicit false

namespace CharacterTables

section Reordered

variable {first second : List CaseFold} (same : first.Perm second)
include same

theorem codesTo_perm (mapping : Int) :
    (codesTo first mapping).Perm (codesTo second mapping) :=
  (same.filter _).map CaseFold.code

theorem FoldMaps.codes_eq : (ofFolds first).codes = (ofFolds second).codes := by
  refine (ascending_toList _).eq_of_mem_iff (ascending_toList _) fun code => ?_
  have members : code ∈ (ofFolds first).codes ↔ code ∈ (ofFolds second).codes := by
    rw [mem_codes_iff, mem_codes_iff]
    exact exists_congr fun fold => and_congr_left fun _ => same.mem_iff
  exact members

variable (distinct : (first.map CaseFold.code).Nodup)
include distinct

theorem mappingOf_eq (code : Int) : mappingOf first code = mappingOf second code := by
  have unique : ∀ fold ∈ second, ∀ other ∈ second, (fold.code == code) = true →
      (other.code == code) = true → fold = other := by
    intro fold listed other otherListed own otherOwn
    have codes : (second.map CaseFold.code).Nodup := (same.map CaseFold.code).nodup_iff.mp distinct
    exact List.inj_on_of_nodup_map codes listed otherListed
      ((eq_of_beq own).trans (eq_of_beq otherOwn).symm)
  rw [mappingOf, mappingOf, lastWith_perm same unique]

namespace FoldMaps

theorem relatives_perm (code : Int) : (relatives first code).Perm (relatives second code) := by
  have folded := mappingOf_eq same distinct code
  cases mapped : mappingOf first code with
  | some mapping =>
      rw [relatives_of_some mapped, relatives_of_some (folded.symm.trans mapped)]
      exact ((codesTo_perm same mapping).filter _).cons mapping
  | none =>
      rw [relatives_of_none mapped, relatives_of_none (folded.symm.trans mapped)]
      exact codesTo_perm same code

theorem listing_eq : listing first = listing second := by
  rw [listing, listing, codes_eq same]
  refine List.map_congr_left fun code _ => ?_
  rw [mergeSort_congr (relatives_perm same distinct code)]

theorem get?_folds_eq (code : Int) :
    (ofFolds first).folds.get? code = (ofFolds second).folds.get? code := by
  rw [get?_folds, get?_folds, mappingOf_eq same distinct]

/-- The index is compiled from the same folds in the same order. -/
theorem toList_sort_folds_eq :
    (ofFolds first).folds.sort.toList = (ofFolds second).folds.sort.toList :=
  OrderedMap.toList_sort_congr (get?_folds_eq same distinct)

end FoldMaps

end Reordered

namespace Folding

/-- Foldings that show no difference: as maps they are equal, and so are their lists of
equivalents, their tables of deltas and their indexes. -/
structure Alike (first second : Folding) : Prop where
  folds : ∀ code, first.folds.get? code = second.folds.get? code
  equivalents : first.equivalents.toList = second.equivalents.toList
  deltas : first.index.deltas.entries = second.index.deltas.entries
  index : first.index.toArray = second.index.toArray

/-- Files with the same folds in different orders, none of a code twice, are compiled alike or
refused for the same reason. -/
theorem ofText_reordered {first second : List Char} (complete : (readFolds first).stop = none)
    (otherComplete : (readFolds second).stop = none)
    (same : (readFolds first).records.Perm (readFolds second).records)
    (distinct : ((readFolds first).records.map CaseFold.code).Nodup) :
    (∀ failure, ofText first = .error failure ↔ ofText second = .error failure) ∧
      ((∃ folding, ofText first = .ok folding) ↔ ∃ other, ofText second = .ok other) ∧
      ∀ folding other, ofText first = .ok folding → ofText second = .ok other →
        folding.Alike other := by
  rw [ofText_of_complete complete, ofText_of_complete otherComplete, ofFolds_eq, ofFolds_eq,
    FoldMaps.toList_sort_folds_eq same distinct, FoldMaps.listing_eq same distinct]
  cases FoldIndex.ofFolds
      (FoldMaps.ofFolds (readFolds second).records).folds.sort.toList with
  | error failure => exact ⟨fun _ => Iff.rfl, by simp [Except.map], by simp [Except.map]⟩
  | ok index =>
      refine ⟨by simp [Except.map], by simp [Except.map], ?_⟩
      rintro folding other compiled otherCompiled
      cases compiled
      cases otherCompiled
      exact ⟨FoldMaps.get?_folds_eq same distinct, rfl, rfl, rfl⟩

/-- The folds of two forms of sigma and of a letter, in another order than that of their codes. -/
def sigmaFoldsReordered : List Char :=
  "0041; C; 0061;\n03C2; C; 03C3;\n03A3; C; 03C3; # SIGMA\n".toList

theorem ofText_reordered_sigma :
    (readFolds sigmaFolds).stop = none ∧ (readFolds sigmaFoldsReordered).stop = none ∧
      (readFolds sigmaFolds).records.Perm (readFolds sigmaFoldsReordered).records ∧
      ((readFolds sigmaFolds).records.map CaseFold.code).Nodup ∧
      ∃ folding other, ofText sigmaFolds = .ok folding ∧
        ofText sigmaFoldsReordered = .ok other ∧
        folding.folds.toList ≠ other.folds.toList ∧ folding.Alike other := by
  have complete : (readFolds sigmaFolds).stop = none := by decide +kernel
  have otherComplete : (readFolds sigmaFoldsReordered).stop = none := by decide +kernel
  have same : (readFolds sigmaFolds).records.Perm (readFolds sigmaFoldsReordered).records := by
    decide +kernel
  have distinct : ((readFolds sigmaFolds).records.map CaseFold.code).Nodup := by decide +kernel
  obtain ⟨_, together, alike⟩ := ofText_reordered complete otherComplete same distinct
  have evaluated : (ofText sigmaFolds).toOption.map (·.folds.toList) =
      some [(0x3A3, 0x3C3), (0x3C2, 0x3C3), (0x41, 0x61)] := by
    decide +kernel
  have otherEvaluated : (ofText sigmaFoldsReordered).toOption.map (·.folds.toList) =
      some [(0x41, 0x61), (0x3C2, 0x3C3), (0x3A3, 0x3C3)] := by
    decide +kernel
  obtain ⟨folding, compiled, listed⟩ := exists_of_toOption_map evaluated
  obtain ⟨other, otherCompiled, otherListed⟩ := exists_of_toOption_map otherEvaluated
  refine ⟨complete, otherComplete, same, distinct, folding, other, compiled, otherCompiled, ?_,
    alike folding other compiled otherCompiled⟩
  rw [listed, otherListed]
  decide

end Folding

end CharacterTables
