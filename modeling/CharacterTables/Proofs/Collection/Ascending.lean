import Mathlib
import CharacterTables.Proofs.Collection.OrderedMap

/-!
# Ascending order

A sorted list, set or map is determined by what it has: two that have the same are listed in the
same way, however they came about.
-/

set_option autoImplicit false

namespace CharacterTables

/-! ## Lists -/

theorem sorted_mergeSort (codes : List Int) :
    (codes.mergeSort (· ≤ ·)).Pairwise (· ≤ ·) := by
  refine (List.pairwise_mergeSort ?_ ?_ codes).imp of_decide_eq_true
  · intro first second third
    simpa using Int.le_trans
  · intro first second
    simpa using Int.le_total first second

theorem ascending_mergeSort {codes : List Int} (distinct : codes.Nodup) :
    (codes.mergeSort (· ≤ ·)).Pairwise (· < ·) := by
  have sortedDistinct : (codes.mergeSort (· ≤ ·)).Nodup :=
    (List.mergeSort_perm codes _).nodup_iff.mpr distinct
  exact ((sorted_mergeSort codes).and sortedDistinct).imp
    fun ⟨below, different⟩ => lt_of_le_of_ne below different

/-- The order of a list does not matter to sorting, even if codes are repeated. -/
theorem mergeSort_congr {first second : List Int} (same : first.Perm second) :
    first.mergeSort (· ≤ ·) = second.mergeSort (· ≤ ·) := by
  refine List.Perm.eq_of_pairwise (fun _ _ _ _ => Int.le_antisymm) (sorted_mergeSort first)
    (sorted_mergeSort second) ?_
  exact (List.mergeSort_perm first _).trans (same.trans (List.mergeSort_perm second _).symm)

/-! ## Sets and maps filled from lists -/

theorem mem_foldl_insert {codes : Std.TreeSet Int} {keys : Array Int} {code : Int} :
    code ∈ keys.foldl (fun codes key => codes.insert key) codes ↔ code ∈ codes ∨ code ∈ keys := by
  rw [← Array.foldl_toList, ← Array.mem_toList_iff]
  induction keys.toList generalizing codes with
  | nil => simp
  | cons key rest ih =>
      rw [List.foldl_cons, ih, Std.TreeSet.mem_insert, Std.LawfulEqCmp.compare_eq_iff_eq,
        List.mem_cons, or_assoc, or_left_comm, eq_comm]

theorem ascending_toList (codes : Std.TreeSet Int) : codes.toList.Pairwise (· < ·) :=
  Std.TreeSet.ordered_toList.imp Int.compare_eq_lt.mp

section Pairs

variable {α : Type} {pairs : List (Int × α)}

theorem getElem?_ofList (ascending : (pairs.map Prod.fst).Pairwise (· < ·)) {code : Int}
    {value : α} : (Std.TreeMap.ofList pairs)[code]? = some value ↔ (code, value) ∈ pairs := by
  have different : pairs.Pairwise fun first second => ¬ compare first.1 second.1 = .eq :=
    (List.pairwise_map.mp ascending).imp fun below same =>
      Int.ne_of_lt below (Std.LawfulEqCmp.compare_eq_iff_eq.mp same)
  have listed : ∀ value, (code, value) ∈ pairs → (Std.TreeMap.ofList pairs)[code]? = some value :=
    fun value member => Std.TreeMap.getElem?_ofList_of_mem Std.ReflCmp.compare_self different member
  constructor
  · intro found
    by_cases known : code ∈ pairs.map Prod.fst
    · obtain ⟨⟨_, other⟩, member, rfl⟩ := List.mem_map.mp known
      rw [listed other member] at found
      cases found
      exact member
    · rw [Std.TreeMap.getElem?_ofList_of_contains_eq_false (by simpa using known)] at found
      cases found
  · exact listed value

/-- A map filled with pairs in ascending order lists these pairs. -/
theorem toList_ofList (ascending : (pairs.map Prod.fst).Pairwise (· < ·)) :
    (Std.TreeMap.ofList pairs).toList = pairs := by
  have listedOnce : (Std.TreeMap.ofList pairs).toList.Nodup := by
    refine List.Nodup.of_map Prod.fst ?_
    rw [Std.TreeMap.map_fst_toList_eq_keys]
    exact Std.TreeMap.nodup_keys
  refine List.Perm.eq_of_pairwise (fun _ _ _ _ before after => absurd before (Int.lt_asymm after))
    (Std.TreeMap.ordered_keys_toList.imp Int.compare_eq_lt.mp) (List.pairwise_map.mp ascending)
    ((List.perm_ext_iff_of_nodup listedOnce (ascending.nodup.of_map Prod.fst)).mpr ?_)
  rintro ⟨code, value⟩
  rw [Std.TreeMap.mem_toList_iff_getElem?_eq_some]
  exact getElem?_ofList ascending

end Pairs

/-! ## Sorted maps -/

namespace OrderedMap

variable {κ α β : Type} [Ord κ] [Std.TransOrd κ] [Std.LawfulEqOrd κ]

theorem toList_sort (map : OrderedMap κ α) : map.sort.toList = map.values.toList := by
  have valued : ∀ pair ∈ map.values.toList, (map.get? pair.1).map (pair.1, ·) = some pair := by
    intro pair listed
    rw [get?, Std.TreeMap.mem_toList_iff_getElem?_eq_some.mp listed]
    rfl
  have keyed : map.sort.keys.toList = map.values.toList.map Prod.fst := by
    rw [sort, Std.TreeMap.toList_keysArray, Std.TreeMap.map_fst_toList_eq_keys]
  unfold toList
  rw [keyed, List.filterMap_map]
  exact (List.filterMap_congr valued).trans List.filterMap_some

/-- Sorting changes the order of a map and nothing else. -/
theorem toList_sort_perm (map : OrderedMap κ α) : map.sort.toList.Perm map.toList := by
  refine (List.perm_ext_iff_of_nodup (map.sort.nodup_map_fst_toList.of_map Prod.fst)
    (map.nodup_map_fst_toList.of_map Prod.fst)).mpr ?_
  rintro ⟨key, value⟩
  rw [mem_toList_iff, mem_toList_iff, get?_sort]

theorem ordered_keys_sort (map : OrderedMap κ α) :
    map.sort.keys.toList.Pairwise fun first second => compare first second = .lt := by
  rw [sort, Std.TreeMap.toList_keysArray]
  exact Std.TreeMap.ordered_keys

theorem ascending_toList_sort (map : OrderedMap Int α) :
    (map.sort.toList.map Prod.fst).Pairwise (· < ·) := by
  rw [toList_sort, List.pairwise_map]
  exact Std.TreeMap.ordered_keys_toList.imp Int.compare_eq_lt.mp

/-- Maps with the same values are sorted into the same list. -/
theorem toList_sort_congr {first second : OrderedMap κ α}
    (same : ∀ key, first.get? key = second.get? key) : first.sort.toList = second.sort.toList := by
  rw [toList_sort, toList_sort]
  exact (Std.TreeMap.Equiv.of_forall_constGet?_eq same).toList_eq

@[simp] theorem get?_mapValues (f : α → β) (map : OrderedMap κ α) (key : κ) :
    (map.mapValues f).get? key = (map.get? key).map f :=
  Std.TreeMap.getElem?_map

theorem toList_sort_mapValues (f : α → β) (map : OrderedMap κ α) :
    (map.mapValues f).sort.toList = map.sort.toList.map fun pair => (pair.1, f pair.2) := by
  rw [toList_sort, toList_sort]
  exact Std.TreeMap.toList_map

end OrderedMap

end CharacterTables
