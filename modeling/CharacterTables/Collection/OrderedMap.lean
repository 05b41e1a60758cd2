import Std.Data.TreeMap.Lemmas

/-!
# Maps that keep the order of insertion

Every key stands at the place where it was first inserted; inserting it again replaces its
value and leaves its place.
-/

set_option autoImplicit false

namespace CharacterTables

/-- A map whose keys are listed in the order of their first insertion. -/
structure OrderedMap (κ α : Type) [Ord κ] where
  keys : Array κ
  values : Std.TreeMap κ α
  mem_keys_iff : ∀ key, key ∈ keys ↔ key ∈ values
  nodup_keys : keys.toList.Nodup

namespace OrderedMap

variable {κ α : Type} [Ord κ]

def get? (map : OrderedMap κ α) (key : κ) : Option α :=
  map.values[key]?

def contains (map : OrderedMap κ α) (key : κ) : Bool :=
  map.values.contains key

def size (map : OrderedMap κ α) : Nat :=
  map.keys.size

def toList (map : OrderedMap κ α) : List (κ × α) :=
  map.keys.toList.filterMap fun key => (map.get? key).map (key, ·)

private theorem nodup_push_keys (map : OrderedMap κ α) {key : κ} (fresh : key ∉ map.values) :
    (map.keys.push key).toList.Nodup := by
  rw [Array.toList_push, List.nodup_append]
  refine ⟨map.nodup_keys, by simp, ?_⟩
  rintro other listed _ (single : _ ∈ [key]) rfl
  rw [List.mem_singleton.mp single] at listed
  exact fresh ((map.mem_keys_iff key).mp (Array.mem_toList_iff.mp listed))

variable [Std.TransOrd κ]

def empty : OrderedMap κ α where
  keys := #[]
  values := ∅
  mem_keys_iff := by simp
  nodup_keys := by simp

@[simp] theorem get?_empty (key : κ) : (empty : OrderedMap κ α).get? key = none := by
  simp [empty, get?]

variable [Std.LawfulEqOrd κ]

private theorem mem_keys_iff_of_mem (map : OrderedMap κ α) {key : κ} (value : α)
    (known : key ∈ map.values) (other : κ) :
    other ∈ map.keys ↔ other ∈ map.values.insert key value := by
  rw [Std.TreeMap.mem_insert, Std.LawfulEqCmp.compare_eq_iff_eq, map.mem_keys_iff]
  constructor
  · exact Or.inr
  · rintro (rfl | found)
    · exact known
    · exact found

private theorem mem_push_keys_iff (map : OrderedMap κ α) (key : κ) (value : α) (other : κ) :
    other ∈ map.keys.push key ↔ other ∈ map.values.insert key value := by
  rw [Array.mem_push, Std.TreeMap.mem_insert, Std.LawfulEqCmp.compare_eq_iff_eq,
    map.mem_keys_iff, or_comm, eq_comm]

/-- Gives a key a value. A new key is listed last. -/
def insert (map : OrderedMap κ α) (key : κ) (value : α) : OrderedMap κ α :=
  if known : key ∈ map.values then
    { keys := map.keys
      values := map.values.insert key value
      mem_keys_iff := map.mem_keys_iff_of_mem value known
      nodup_keys := map.nodup_keys }
  else
    { keys := map.keys.push key
      values := map.values.insert key value
      mem_keys_iff := map.mem_push_keys_iff key value
      nodup_keys := map.nodup_push_keys known }

def ofList (pairs : List (κ × α)) : OrderedMap κ α :=
  pairs.foldl (fun map pair => map.insert pair.1 pair.2) empty

def sort (map : OrderedMap κ α) : OrderedMap κ α where
  keys := map.values.keysArray
  values := map.values
  mem_keys_iff := by
    intro key
    rw [← Std.TreeMap.toArray_keys, List.mem_toArray, Std.TreeMap.mem_keys]
  nodup_keys := by
    rw [← Std.TreeMap.toArray_keys]
    simpa using Std.TreeMap.nodup_keys

def mapValues {β : Type} (f : α → β) (map : OrderedMap κ α) : OrderedMap κ β where
  keys := map.keys
  values := map.values.map fun _ value => f value
  mem_keys_iff := by
    intro key
    simpa using map.mem_keys_iff key
  nodup_keys := map.nodup_keys

theorem get?_insert (map : OrderedMap κ α) (key other : κ) (value : α) [DecidableEq κ] :
    (map.insert key value).get? other = if key = other then some value else map.get? other := by
  unfold insert get?
  split <;> simp [Std.TreeMap.getElem?_insert, Std.LawfulEqCmp.compare_eq_iff_eq]

theorem keys_insert (map : OrderedMap κ α) (key : κ) (value : α) :
    (map.insert key value).keys =
      if map.contains key then map.keys else map.keys.push key := by
  unfold insert contains
  split <;> simp_all

@[simp] theorem get?_sort (map : OrderedMap κ α) (key : κ) :
    map.sort.get? key = map.get? key := rfl

end OrderedMap

end CharacterTables
