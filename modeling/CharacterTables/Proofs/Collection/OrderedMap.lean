import Mathlib
import CharacterTables.Collection.OrderedMap

/-!
# The pairs of an ordered map

The list of a map pairs every key with its value, once and in the order of the keys.
-/

set_option autoImplicit false

namespace CharacterTables.OrderedMap

variable {κ α : Type} [Ord κ] [Std.TransOrd κ]

theorem mem_keys_iff_exists {map : OrderedMap κ α} {key : κ} :
    key ∈ map.keys ↔ ∃ value, map.get? key = some value := by
  unfold get?
  rw [map.mem_keys_iff, Std.TreeMap.mem_iff_isSome_getElem?, Option.isSome_iff_exists]

theorem mem_toList_iff {map : OrderedMap κ α} {key : κ} {value : α} :
    (key, value) ∈ map.toList ↔ map.get? key = some value := by
  unfold toList
  rw [List.mem_filterMap]
  constructor
  · rintro ⟨other, _, paired⟩
    obtain ⟨found, same, pair⟩ := Option.map_eq_some_iff.mp paired
    cases pair
    exact same
  · intro found
    have listed : key ∈ map.keys := mem_keys_iff_exists.mpr ⟨value, found⟩
    exact ⟨key, Array.mem_toList_iff.mpr listed, by rw [found]; rfl⟩

theorem map_fst_toList (map : OrderedMap κ α) : map.toList.map Prod.fst = map.keys.toList := by
  have valued : ∀ key ∈ map.keys.toList, ∃ value, map.get? key = some value := by
    intro key listed
    exact mem_keys_iff_exists.mp (Array.mem_toList_iff.mp listed)
  unfold toList
  revert valued
  induction map.keys.toList with
  | nil => exact fun _ => rfl
  | cons key rest ih =>
      intro valued
      obtain ⟨value, found⟩ := valued key List.mem_cons_self
      rw [List.filterMap_cons, found, Option.map_some, List.map_cons,
        ih fun other listed => valued other (List.mem_cons_of_mem key listed)]

theorem nodup_map_fst_toList (map : OrderedMap κ α) : (map.toList.map Prod.fst).Nodup := by
  rw [map_fst_toList]
  exact map.nodup_keys

/-- Of the keys that pass a test there is one, and its value is the given one. -/
theorem filter_toList_eq_singleton_iff (map : OrderedMap κ α) (test : κ → Bool) {key : κ}
    {value : α} :
    (map.toList.filter fun pair => test pair.1) = [(key, value)] ↔
      map.keys.toList.filter test = [key] ∧ map.get? key = some value := by
  have keys : map.keys.toList.filter test =
      (map.toList.filter fun pair => test pair.1).map Prod.fst := by
    rw [← map_fst_toList, List.filter_map]
    rfl
  have found {held : α} (only : (map.toList.filter fun pair => test pair.1) = [(key, held)]) :
      map.get? key = some held := by
    have listed : (key, held) ∈ map.toList.filter fun pair => test pair.1 :=
      only ▸ List.mem_singleton_self _
    exact mem_toList_iff.mp (List.mem_of_mem_filter listed)
  rw [keys]
  constructor
  · intro only
    exact ⟨by rw [only]; rfl, found only⟩
  · rintro ⟨single, given⟩
    obtain ⟨⟨_, held⟩, only, rfl⟩ := List.map_eq_singleton_iff.mp single
    rw [only, Option.some.inj ((found only).symm.trans given)]

theorem toList_eq_singleton_iff (map : OrderedMap κ α) {key : κ} {value : α} :
    map.toList = [(key, value)] ↔ map.keys.toList = [key] ∧ map.get? key = some value := by
  simpa using filter_toList_eq_singleton_iff map fun _ => true

/-- The list of a map tells which keys it has, and in which order. -/
theorem keys_congr {first second : OrderedMap κ α} (same : first.toList = second.toList) :
    first.keys.toList = second.keys.toList := by
  rw [← map_fst_toList, ← map_fst_toList, same]

theorem get?_congr {first second : OrderedMap κ α} (same : first.toList = second.toList)
    (key : κ) : first.get? key = second.get? key := by
  refine Option.ext fun value => ?_
  rw [← mem_toList_iff, ← mem_toList_iff, same]

end CharacterTables.OrderedMap
