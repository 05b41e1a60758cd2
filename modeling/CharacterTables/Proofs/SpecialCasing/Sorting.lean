import Mathlib
import CharacterTables.Proofs.SpecialCasing.Reordering

/-!
# Sorted overrides

Sorting puts the codes of every bucket and the languages in ascending order. It changes nothing
else, and sorting again changes nothing at all.
-/

set_option autoImplicit false

namespace CharacterTables.Overrides

/-- All buckets have the same keys and values, in whatever order. -/
structure Rearranged (first second : Overrides) : Prop where
  unconditional : ∀ side,
    (first.unconditional.get side).toList.Perm (second.unconditional.get side).toList
  contextual : ∀ side, (first.contextual.get side).toList.Perm (second.contextual.get side).toList
  languages : ∀ side,
    (first.tailored.get side).keys.toList.Perm (second.tailored.get side).keys.toList
  tailored : ∀ side language bucket other,
    (first.tailored.get side).get? language = some bucket →
      (second.tailored.get side).get? language = some other → bucket.toList.Perm other.toList

/-- The codes of every bucket and the languages are in strictly ascending order. -/
structure Ascending (overrides : Overrides) : Prop where
  unconditional : ∀ side, (codesOf (overrides.unconditional.get side)).Pairwise (· < ·)
  contextual : ∀ side, (codesOf (overrides.contextual.get side)).Pairwise (· < ·)
  languages : ∀ side, (overrides.tailored.get side).keys.toList.Pairwise (· < ·)
  tailored : ∀ side language bucket,
    (overrides.tailored.get side).get? language = some bucket →
      (codesOf bucket).Pairwise (· < ·)

theorem ascending_codesOf_sort {α : Type} (bucket : OrderedMap Int α) :
    (codesOf bucket.sort).Pairwise (· < ·) :=
  bucket.ordered_keys_sort.imp compare_lt_iff_lt.mp

/-- A language that is listed after sorting was listed before, with its bucket unsorted. -/
theorem exists_of_get?_sort {overrides : Overrides} {side : Side} {language : String}
    {bucket : OrderedMap Int Override}
    (found : (overrides.sort.tailored.get side).get? language = some bucket) :
    ∃ unsorted, (overrides.tailored.get side).get? language = some unsorted ∧
      unsorted.sort = bucket := by
  rw [sort, Sides.get_map, OrderedMap.get?_sort, OrderedMap.get?_mapValues] at found
  exact Option.map_eq_some_iff.mp found

theorem rearranged_sort (overrides : Overrides) : overrides.sort.Rearranged overrides := by
  constructor
  case unconditional =>
    intro side
    rw [sort, Sides.get_map]
    exact OrderedMap.toList_sort_perm _
  case contextual =>
    intro side
    rw [sort, Sides.get_map]
    exact OrderedMap.toList_sort_perm _
  case languages =>
    intro side
    have sorted := (OrderedMap.toList_sort_perm
      ((overrides.tailored.get side).mapValues OrderedMap.sort)).map Prod.fst
    rw [OrderedMap.map_fst_toList, OrderedMap.map_fst_toList] at sorted
    rw [sort, Sides.get_map]
    exact sorted
  case tailored =>
    intro side language bucket other found listed
    obtain ⟨unsorted, earlier, rfl⟩ := exists_of_get?_sort found
    cases earlier.symm.trans listed
    exact OrderedMap.toList_sort_perm _

theorem ascending_sort (overrides : Overrides) : overrides.sort.Ascending := by
  constructor
  case unconditional =>
    intro side
    rw [sort, Sides.get_map]
    exact ascending_codesOf_sort _
  case contextual =>
    intro side
    rw [sort, Sides.get_map]
    exact ascending_codesOf_sort _
  case languages =>
    intro side
    rw [sort, Sides.get_map]
    exact (OrderedMap.ordered_keys_sort _).imp compare_lt_iff_lt.mp
  case tailored =>
    intro side language bucket found
    obtain ⟨unsorted, _, rfl⟩ := exists_of_get?_sort found
    exact ascending_codesOf_sort unsorted

/-- Sorting overrides that are sorted leaves every bucket as it is. -/
theorem same_sort_sort (overrides : Overrides) : overrides.sort.sort.Same overrides.sort := by
  constructor
  case unconditional =>
    intro side
    simp only [sort, Sides.get_map]
    rfl
  case contextual =>
    intro side
    simp only [sort, Sides.get_map]
    rfl
  case tailored =>
    intro side
    have resorted : ∀ languages : OrderedMap String (OrderedMap Int Override),
        languages.sort.sort.toList = languages.sort.toList := fun _ => rfl
    simp only [tailoredLists, sort, Sides.get_map, OrderedMap.toList_sort_mapValues, resorted,
      List.map_map]
    rfl

end CharacterTables.Overrides
