import Mathlib
import CharacterTables.Proofs.Collection.Indexing
import CharacterTables.Proofs.FoldClasses
import CharacterTables.Proofs.InfoTable

/-!
# The table of fold deltas

Folds without negative codes are refused just if a basic code folds out of the plane, and then the
smallest such code is named. Otherwise each delta in use stands in the table once, in the order of
the codes, and the index leads every code of the plane to where it folds; position zero is that of
the codes that fold to themselves.
-/

set_option autoImplicit false

namespace CharacterTables

namespace FoldIndex

variable {index after : FoldIndex} {fold : Int × Int} {folds : List (Int × Int)}
  {failure : Failure}

/-! ## Folds that lead out of the plane -/

/-- A basic code folds to a code behind the plane. -/
def Leaves (fold : Int × Int) : Prop :=
  fold.1 ≤ Code.maxBasic ∧ Code.maxBasic < fold.2

/-- A fold can be indexed if its code is supplementary, or has a place and a basic mapping. -/
def Indexable (fold : Int × Int) : Prop :=
  Code.maxBasic < fold.1 ∨
    fold.2 ≤ Code.maxBasic ∧ ∃ place, placeOf Code.basicCount fold.1 = .ok place

theorem exists_insert_iff (index : FoldIndex) (fold : Int × Int) :
    (∃ after, insert index fold = .ok after) ↔ Indexable fold := by
  constructor
  · rintro ⟨after, inserted⟩
    rcases insert_eq_ok_iff.mp inserted with ⟨supplementary, _⟩ | ⟨_, mapped, place, found, _⟩
    · exact .inl supplementary
    · exact .inr ⟨mapped, place, found⟩
  · rintro (supplementary | ⟨mapped, place, found⟩)
    · exact ⟨index, insert_eq_ok_iff.mpr (.inl ⟨supplementary, rfl⟩)⟩
    · have basic := Code.lt_basicCount_iff.mp (bounds_of_placeOf found).2
      exact ⟨_, insert_eq_ok_iff.mpr (.inr ⟨basic, mapped, place, found, rfl⟩)⟩

/-- A code that is not negative has a place if it is basic. -/
theorem indexable_iff (nonneg : 0 ≤ fold.1) : Indexable fold ↔ ¬ Leaves fold := by
  unfold Indexable Leaves
  rw [not_and_or, Int.not_le, Int.not_lt]
  refine or_congr_right' fun basic => and_iff_left ?_
  exact ⟨_, BasicPlane.placeOf_code (le_trans (by decide) nonneg) (Int.not_lt.mp basic)⟩

theorem insert_eq_error (leaves : Leaves fold) :
    insert index fold = .error (.shape (.foldLeavesPlane fold.1 fold.2)) := by
  obtain ⟨code, mapping⟩ := fold
  unfold insert
  simp only [if_neg (Int.not_lt.mpr leaves.1), if_neg (Int.not_le.mpr leaves.2)]

/-- Of folds in ascending order the first that leads out of the plane is refused. -/
theorem ofFolds_eq_error (ascending : (folds.map Prod.fst).Pairwise (· < ·))
    (nonneg : ∀ fold ∈ folds, 0 ≤ fold.1) (failed : ofFolds folds = .error failure) :
    ∃ fold ∈ folds, Leaves fold ∧ (∀ other ∈ folds, Leaves other → fold.1 ≤ other.1) ∧
      failure = .shape (.foldLeavesPlane fold.1 fold.2) := by
  obtain ⟨before, fold, rest, index, split, reached, refused⟩ := foldlM_eq_error_iff.mp failed
  have listed : fold ∈ folds := split ▸ List.mem_append_right before List.mem_cons_self
  have leaves : Leaves fold := by
    by_contra stays
    obtain ⟨after, inserted⟩ :=
      (exists_insert_iff index fold).mpr ((indexable_iff (nonneg fold listed)).mpr stays)
    rw [inserted] at refused
    cases refused
  refine ⟨fold, listed, leaves, ?_, Except.error.inj (refused.symm.trans (insert_eq_error leaves))⟩
  intro other otherListed otherLeaves
  rw [split, List.map_append, List.pairwise_append] at ascending
  rw [split] at otherListed
  -- earlier folds were taken in, and later ones have greater codes
  rcases List.mem_append.mp otherListed with earlier | later
  · have indexable := (exists_foldlM_iff exists_insert_iff before blank).mp ⟨index, reached⟩
    have stays := (indexable_iff (nonneg other (split ▸ List.mem_append_left _ earlier))).mp
      (indexable other earlier)
    exact absurd otherLeaves stays
  · rcases List.mem_cons.mp later with rfl | behind
    · exact le_rfl
    · exact ((List.pairwise_cons.mp ascending.2.1).1 _ (List.mem_map_of_mem behind)).le

theorem exists_ofFolds_iff (nonneg : ∀ fold ∈ folds, 0 ≤ fold.1) :
    (∃ index, ofFolds folds = .ok index) ↔ ∀ fold ∈ folds, ¬ Leaves fold := by
  unfold ofFolds
  rw [exists_foldlM_iff exists_insert_iff]
  exact forall₂_congr fun fold listed => indexable_iff (nonneg fold listed)

/-- The index is the list of the numbers of all places. -/
theorem entryAt_toArray (index : FoldIndex) {place : Nat} (inside : place < Code.basicCount) :
    entryAt index.toArray place = .ok (index.number place : Int) :=
  entryAt_map_range inside ((Int.ofNat_lt.mpr inside).trans (by decide))

end FoldIndex

namespace Folding

variable {folding : Folding} {folds : List CaseFold} {code mapping : Int}

/-! ## Reading the index -/

section Index

variable (indexed : folding.Indexed) (unsigned : folding.Unsigned)
include indexed unsigned

/-- At the place of a code stands the delta that leads to where the code folds to. -/
theorem Indexed.valueAt_eq {place : Nat} (inside : place < Code.basicCount) :
    valueAt CaseDelta.zero (placements Code.basicCount Prod.fst FoldIndex.foldDelta
      folding.folds.sort.toList) place = CaseDelta.between place (folding.fold place) := by
  have stored := (FoldIndex.lists_ofFolds indexed).placed.getElem?_number place
  exact Option.some.inj (stored.symm.trans (indexed.getElem?_number unsigned inside).2.2)

theorem Indexed.number_eq_iff {first second : Nat} (inside : first < Code.basicCount)
    (otherInside : second < Code.basicCount) :
    folding.index.number first = folding.index.number second ↔
      folding.fold first - first ≡ folding.fold second - second [ZMOD Code.basicCount] := by
  rw [← CaseDelta.between_eq_iff, ← indexed.valueAt_eq unsigned inside,
    ← indexed.valueAt_eq unsigned otherInside]
  exact (FoldIndex.lists_ofFolds indexed).placed.number_eq_iff

theorem Indexed.number_eq_zero_iff {place : Nat} (inside : place < Code.basicCount) :
    folding.index.number place = 0 ↔ folding.fold place = place := by
  obtain ⟨nonneg, stays, _⟩ := indexed.getElem?_number unsigned inside
  have zero : folding.index.number place = 0 ↔
      CaseDelta.between place (folding.fold place) = CaseDelta.zero := by
    rw [← indexed.valueAt_eq unsigned inside]
    exact (FoldIndex.lists_ofFolds indexed).placed.number_eq_zero_iff
  rw [zero]
  constructor
  · -- both codes are in the plane, where the delta leads from one to the other
    intro unmoved
    have target : (CaseDelta.between place (folding.fold place)).apply place =
        folding.fold place := CaseDelta.apply_between nonneg stays
    rw [unmoved, CaseDelta.apply_zero (Int.natCast_nonneg place)
      (Code.lt_basicCount_iff.mp (Int.ofNat_lt.mpr inside))] at target
    exact target.symm
  · intro same
    rw [same, CaseDelta.between_self]

theorem Indexed.delta_eq {place : Nat} (inside : place < Code.basicCount) :
    folding.index.delta place = .ok (CaseDelta.between place (folding.fold place)) := by
  have found := placeOf_of_lt inside ((Int.ofNat_lt.mpr inside).trans (by decide))
  have stored : folding.index.deltaAt place = CaseDelta.between place (folding.fold place) := by
    rw [FoldIndex.deltaAt, Array.getD_eq_getD_getElem?,
      (indexed.getElem?_number unsigned inside).2.2, Option.getD_some]
  rw [FoldIndex.delta, found, ← stored]

end Index

/-! ## The table and its index -/

/-- A basic code whose last fold leads out of the plane. -/
def LeavesPlane (folds : List CaseFold) (code mapping : Int) : Prop :=
  mappingOf folds code = some mapping ∧ code ≤ Code.maxBasic ∧ Code.maxBasic < mapping

/-- The fold data of a list of folds: a code folds as its last fold says, and the table and the
index say the same of the codes of the plane. -/
structure Tabulates (folding : Folding) (folds : List CaseFold) : Prop where
  fold : ∀ code, folding.fold code = (mappingOf folds code).getD code
  table : ∃ used : List (Int × Int), (used.map Prod.fst).Pairwise (· < ·) ∧
    (∀ code mapping, (code, mapping) ∈ used ↔
      mappingOf folds code = some mapping ∧ code ≤ Code.maxBasic) ∧
    Table Code.basicCount CaseDelta.zero (used.map FoldIndex.foldDelta) folding.index.deltas
      folding.index.toArray
  unmoved : ∀ code, 0 ≤ code → code ≤ Code.maxBasic →
    (entryAt folding.index.toArray code = .ok 0 ↔ folding.fold code = code)
  shared : ∀ first second, 0 ≤ first → first ≤ Code.maxBasic → 0 ≤ second →
    second ≤ Code.maxBasic →
      (entryAt folding.index.toArray first = entryAt folding.index.toArray second ↔
        folding.fold first - first ≡ folding.fold second - second [ZMOD Code.basicCount])
  delta : ∀ code, 0 ≤ code → code ≤ Code.maxBasic →
    ∃ delta, folding.index.delta code = .ok delta ∧ delta.apply code = folding.fold code

theorem mem_toList_sort_folds :
    (code, mapping) ∈ (FoldMaps.ofFolds folds).folds.sort.toList ↔
      mappingOf folds code = some mapping := by
  rw [OrderedMap.mem_toList_iff, OrderedMap.get?_sort, FoldMaps.get?_folds]

theorem ofFolds_eq_error_iff {failure : Failure} :
    ofFolds folds = .error failure ↔
      FoldIndex.ofFolds (FoldMaps.ofFolds folds).folds.sort.toList = .error failure := by
  rw [ofFolds_eq]
  cases FoldIndex.ofFolds (FoldMaps.ofFolds folds).folds.sort.toList with
  | error fault => simp [Except.map]
  | ok index => simp [Except.map]

section Nonnegative

variable (nonneg : ∀ fold ∈ folds, 0 ≤ fold.code ∧ 0 ≤ fold.mapping)
include nonneg

theorem nonneg_of_mappingOf (folded : mappingOf folds code = some mapping) :
    0 ≤ code ∧ 0 ≤ mapping := by
  obtain ⟨fold, listed, rfl, rfl⟩ := FoldMaps.exists_of_mappingOf folded
  exact nonneg fold listed

theorem unsigned_ofFolds (compiled : ofFolds folds = .ok folding) : folding.Unsigned := by
  rintro ⟨code, mapping⟩ listed
  rw [OrderedMap.mem_toList_iff, (folds_of_ofFolds compiled).1, FoldMaps.get?_folds] at listed
  exact nonneg_of_mappingOf nonneg listed

theorem nonneg_of_mem_sort :
    ∀ fold ∈ (FoldMaps.ofFolds folds).folds.sort.toList, 0 ≤ fold.1 :=
  fun _ listed => (nonneg_of_mappingOf nonneg (mem_toList_sort_folds.mp listed)).1

theorem tabulates_ofFolds (compiled : ofFolds folds = .ok folding) : folding.Tabulates folds := by
  have indexed := indexed_ofFolds compiled
  have unsigned := unsigned_ofFolds nonneg compiled
  have listed : ∀ code mapping, (code, mapping) ∈ folding.folds.sort.toList ↔
      mappingOf folds code = some mapping := by
    intro code mapping
    rw [(folds_of_ofFolds compiled).1, mem_toList_sort_folds]
  have ascending := folding.folds.ascending_toList_sort
  refine ⟨fold_eq compiled, ⟨folding.folds.sort.toList.filter fun fold =>
    fold.1 < Code.basicCount, ?ascending, ?used, ?table⟩, ?unmoved, ?shared, ?delta⟩
  case ascending => exact ascending.sublist (List.filter_sublist.map Prod.fst)
  case used =>
    intro code mapping
    rw [List.mem_filter, listed, decide_eq_true_iff, Code.lt_basicCount_iff]
  case table =>
    refine (FoldIndex.lists_ofFolds indexed).table ascending.nodup ?_ (by decide)
    rintro ⟨code, mapping⟩ member
    exact (nonneg_of_mappingOf nonneg ((listed code mapping).mp member)).1
  case unmoved =>
    intro code nonneg basic
    obtain ⟨place, inside, rfl⟩ := BasicPlane.exists_place nonneg basic
    rw [FoldIndex.entryAt_toArray _ inside, ← indexed.number_eq_zero_iff unsigned inside,
      Except.ok.injEq, Int.natCast_eq_zero]
  case shared =>
    intro first second nonneg basic otherNonneg otherBasic
    obtain ⟨place, inside, rfl⟩ := BasicPlane.exists_place nonneg basic
    obtain ⟨other, otherInside, rfl⟩ := BasicPlane.exists_place otherNonneg otherBasic
    rw [FoldIndex.entryAt_toArray _ inside, FoldIndex.entryAt_toArray _ otherInside,
      Except.ok.injEq, Int.natCast_inj, indexed.number_eq_iff unsigned inside otherInside]
  case delta =>
    intro code nonneg basic
    obtain ⟨place, inside, rfl⟩ := BasicPlane.exists_place nonneg basic
    obtain ⟨targetNonneg, stays, _⟩ := indexed.getElem?_number unsigned inside
    exact ⟨_, indexed.delta_eq unsigned inside, CaseDelta.apply_between targetNonneg stays⟩

/-- The least code that leaves the plane is named. -/
theorem ofFolds_eq_error {failure : Failure} (failed : ofFolds folds = .error failure) :
    ∃ code mapping, LeavesPlane folds code mapping ∧
      (∀ other target, LeavesPlane folds other target → code ≤ other) ∧
      failure = .shape (.foldLeavesPlane code mapping) := by
  obtain ⟨⟨code, mapping⟩, listed, leaves, least, named⟩ :=
    FoldIndex.ofFolds_eq_error (OrderedMap.ascending_toList_sort _) (nonneg_of_mem_sort nonneg)
      (ofFolds_eq_error_iff.mp failed)
  refine ⟨code, mapping, ⟨mem_toList_sort_folds.mp listed, leaves⟩, ?_, named⟩
  intro other target ⟨folded, away⟩
  exact least (other, target) (mem_toList_sort_folds.mpr folded) away

theorem exists_error_ofFolds_iff :
    (∃ failure, ofFolds folds = .error failure) ↔
      ∃ code mapping, LeavesPlane folds code mapping := by
  constructor
  · rintro ⟨failure, failed⟩
    obtain ⟨code, mapping, leaves, _⟩ := ofFolds_eq_error nonneg failed
    exact ⟨code, mapping, leaves⟩
  · rintro ⟨code, mapping, folded, away⟩
    simp only [ofFolds_eq_error_iff]
    rw [exists_error_iff, FoldIndex.exists_ofFolds_iff (nonneg_of_mem_sort nonneg)]
    exact fun stays => stays (code, mapping) (mem_toList_sort_folds.mpr folded) away

end Nonnegative

/-- A file of folds without negative codes is refused as faulty data just if the last fold of a
basic code leads out of the plane, the least such code is named, and any other file is
tabulated. -/
theorem ofText_tabulates {text : List Char} (complete : (readFolds text).stop = none)
    (nonneg : ∀ fold ∈ (readFolds text).records, 0 ≤ fold.code ∧ 0 ≤ fold.mapping) :
    ((∃ failure, ofText text = .error failure ∧ failure.isCorpusFault = true) ↔
        ∃ code mapping, LeavesPlane (readFolds text).records code mapping) ∧
      (∀ failure, ofText text = .error failure →
        ∃ code mapping, LeavesPlane (readFolds text).records code mapping ∧
          (∀ other target, LeavesPlane (readFolds text).records other target → code ≤ other) ∧
          failure = .shape (.foldLeavesPlane code mapping)) ∧
      ((¬ ∃ code mapping, LeavesPlane (readFolds text).records code mapping) →
        ∃ folding, ofText text = .ok folding ∧ folding.Tabulates (readFolds text).records) := by
  rw [ofText_of_complete complete]
  refine ⟨⟨?_, ?_⟩, fun failure => ofFolds_eq_error nonneg, ?_⟩
  · rintro ⟨failure, failed, _⟩
    exact (exists_error_ofFolds_iff nonneg).mp ⟨failure, failed⟩
  · intro leaves
    obtain ⟨failure, failed⟩ := (exists_error_ofFolds_iff nonneg).mpr leaves
    obtain ⟨code, mapping, _, _, rfl⟩ := ofFolds_eq_error nonneg failed
    exact ⟨_, failed, rfl⟩
  · intro stays
    rw [← exists_error_ofFolds_iff nonneg, exists_error_iff, not_not] at stays
    obtain ⟨folding, compiled⟩ := stays
    exact ⟨folding, compiled, tabulates_ofFolds nonneg compiled⟩

/-- A letter that first folds out of the plane and then to its small form, and two letters that
fold as far, one of them supplementary. -/
def letterFoldedTwice : List Char :=
  "0041; C; 10428;\n10400; C; 10420;\n0042; C; 0062;\n0041; C; 0061;\n".toList

theorem ofText_tabulates_letterFoldedTwice :
    (readFolds letterFoldedTwice).stop = none ∧
      (∀ fold ∈ (readFolds letterFoldedTwice).records, 0 ≤ fold.code ∧ 0 ≤ fold.mapping) ∧
      ∃ folding, ofText letterFoldedTwice = .ok folding ∧
        folding.Tabulates (readFolds letterFoldedTwice).records ∧
        entryAt folding.index.toArray 0x41 = entryAt folding.index.toArray 0x42 := by
  have complete : (readFolds letterFoldedTwice).stop = none := by decide +kernel
  have nonneg : ∀ fold ∈ (readFolds letterFoldedTwice).records,
      0 ≤ fold.code ∧ 0 ≤ fold.mapping := by
    decide +kernel
  have evaluated : (ofText letterFoldedTwice).toOption.map
      (fun folding => (folding.fold 0x41, folding.fold 0x42)) = some (0x61, 0x62) := by
    decide +kernel
  obtain ⟨folding, compiled, folded⟩ := exists_of_toOption_map evaluated
  obtain ⟨refused, _, tabulated⟩ := ofText_tabulates complete nonneg
  have stays : ¬ ∃ code mapping,
      LeavesPlane (readFolds letterFoldedTwice).records code mapping := by
    intro leaves
    obtain ⟨failure, failed, _⟩ := refused.mpr leaves
    rw [compiled] at failed
    cases failed
  obtain ⟨other, again, tabulates⟩ := tabulated stays
  cases compiled.symm.trans again
  refine ⟨complete, nonneg, folding, compiled, tabulates, ?_⟩
  obtain ⟨first, second⟩ := Prod.mk.inj folded
  refine (tabulates.shared 0x41 0x42 (by decide) (by decide) (by decide) (by decide)).mpr ?_
  rw [first, second]
  decide

end Folding

end CharacterTables
