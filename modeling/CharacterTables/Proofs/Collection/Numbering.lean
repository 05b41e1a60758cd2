import Mathlib
import CharacterTables.Collection.Catalog

/-!
# Numbering by first use

A catalog that took some values lists each of them once, in the order of first use, and
gives a value the place of its first use among the distinct values. Values taken later
never change a number given before.
-/

set_option autoImplicit false

namespace CharacterTables

/-! ## Values without repetitions -/

section Values

variable {κ : Type} [BEq κ] [LawfulBEq κ]

theorem eraseDups_append_singleton (values : List κ) (value : κ) :
    (values ++ [value]).eraseDups =
      if value ∈ values then values.eraseDups else values.eraseDups ++ [value] := by
  rw [List.eraseDups_append]
  by_cases known : value ∈ values
  · simp [known, List.cons_removeAll]
  · simp [known, List.cons_removeAll, List.eraseDups_cons]

theorem nodup_eraseDups (values : List κ) : values.eraseDups.Nodup := by
  induction values using List.reverseRecOn with
  | nil => exact List.nodup_nil
  | append_singleton values value ih =>
      rw [eraseDups_append_singleton]
      by_cases known : value ∈ values
      · rwa [if_pos known]
      · rw [if_neg known, List.nodup_append]
        refine ⟨ih, List.nodup_singleton value, ?_⟩
        rintro earlier member _ (single : _ ∈ [value]) rfl
        rw [List.mem_singleton.mp single] at member
        exact known (List.mem_eraseDups.mp member)

theorem length_eraseDups_le (values : List κ) : values.eraseDups.length ≤ values.length :=
  (List.subperm_of_subset (nodup_eraseDups values)
    fun _ member => List.mem_eraseDups.mp member).length_le

/-- The number of a value among values that are numbered by first use. -/
def numberIn (values : List κ) (value : κ) : Nat :=
  values.eraseDups.idxOf value

theorem numberIn_lt {values : List κ} {value : κ} (taken : value ∈ values) :
    numberIn values value < values.eraseDups.length :=
  List.idxOf_lt_length_iff.mpr (List.mem_eraseDups.mpr taken)

theorem getElem?_numberIn {values : List κ} {value : κ} (taken : value ∈ values) :
    values.eraseDups[numberIn values value]? = some value :=
  List.getElem?_idxOf (List.mem_eraseDups.mpr taken)

theorem numberIn_inj {values : List κ} {first second : κ} (firstTaken : first ∈ values)
    (secondTaken : second ∈ values) :
    numberIn values first = numberIn values second ↔ first = second := by
  constructor
  · intro same
    have found := getElem?_numberIn firstTaken
    rw [same, getElem?_numberIn secondTaken] at found
    exact (Option.some.inj found).symm
  · exact congrArg (numberIn values)

/-- Values that are taken later leave the numbers of those taken before. -/
theorem numberIn_append {values : List κ} {value : κ} (taken : value ∈ values)
    (later : List κ) : numberIn (values ++ later) value = numberIn values value := by
  unfold numberIn
  rw [List.eraseDups_append, List.idxOf_append, if_pos (List.mem_eraseDups.mpr taken)]

/-- Every number below the count of distinct values is given to one of the values. -/
theorem exists_numberIn_eq {values : List κ} {number : Nat}
    (bound : number < values.eraseDups.length) :
    ∃ value ∈ values, numberIn values value = number := by
  refine ⟨values.eraseDups[number], List.mem_eraseDups.mp (List.getElem_mem bound), ?_⟩
  exact (nodup_eraseDups values).idxOf_getElem number bound

end Values

/-! ## Catalogs -/

namespace Catalog

variable {κ : Type} [Ord κ]

theorem nodup_entries (catalog : Catalog κ) : catalog.entries.toList.Nodup := by
  rw [List.nodup_iff_getElem?_ne_getElem?]
  intro first second before bound same
  have entry : catalog.entries[first]? = some catalog.entries[second] := by
    rw [← Array.getElem?_toList, same, Array.getElem?_toList]
    exact Array.getElem?_eq_getElem _
  have inside : second < catalog.entries.size := by simpa using bound
  have other : catalog.entries[second]? = some catalog.entries[second] :=
    Array.getElem?_eq_getElem inside
  rw [← number?_eq_some_iff] at entry other
  have equal : first = second := Option.some.inj (entry.symm.trans other)
  omega

theorem number?_eq_none_iff {catalog : Catalog κ} {value : κ} :
    catalog.number? value = none ↔ value ∉ catalog.entries.toList := by
  rw [Option.eq_none_iff_forall_ne_some, List.mem_iff_getElem?, not_exists]
  refine forall_congr' fun number => not_congr ?_
  rw [number?_eq_some_iff, Array.getElem?_toList]

variable [BEq κ]

/-- A catalog that took some values: it lists the distinct ones in the order of first
use. -/
def Took (catalog : Catalog κ) (values : List κ) : Prop :=
  catalog.entries.toList = values.eraseDups

theorem took_empty [Std.TransOrd κ] : (empty : Catalog κ).Took [] := rfl

theorem Took.size_eq {catalog : Catalog κ} {values : List κ} (took : catalog.Took values) :
    catalog.size = values.eraseDups.length := by
  rw [← took]
  exact Array.length_toList.symm

variable [LawfulBEq κ]

theorem number?_eq_idxOf {catalog : Catalog κ} {value : κ} {number : Nat}
    (found : catalog.number? value = some number) :
    number = catalog.entries.toList.idxOf value := by
  have entry := number?_eq_some_iff.mp found
  rw [← Array.getElem?_toList] at entry
  obtain ⟨bound, same⟩ := List.getElem?_eq_some_iff.mp entry
  rw [← same, catalog.nodup_entries.idxOf_getElem number bound]

variable [Std.TransOrd κ] [Std.LawfulEqOrd κ]

/-- One more value leaves a catalog that took it too, and gets its number there. -/
theorem Took.intern {catalog : Catalog κ} {values : List κ} (took : catalog.Took values)
    (value : κ) :
    (catalog.intern value).2.Took (values ++ [value]) ∧
      (catalog.intern value).1 = numberIn (values ++ [value]) value := by
  unfold Took at took ⊢
  unfold Catalog.intern numberIn
  rw [eraseDups_append_singleton]
  split
  · rename_i number found
    have known : value ∈ values := by
      have entry := number?_eq_some_iff.mp found
      rw [← List.mem_eraseDups, ← took]
      exact Array.mem_toList_iff.mpr (Array.mem_of_getElem? entry)
    rw [if_pos known]
    exact ⟨took, took ▸ number?_eq_idxOf found⟩
  · rename_i fresh
    have unknown : value ∉ values := by
      rw [← List.mem_eraseDups, ← took]
      exact number?_eq_none_iff.mp fresh
    rw [if_neg unknown]
    constructor
    · simp [push, took]
    · rw [List.idxOf_append, if_neg (by rwa [List.mem_eraseDups]), ← took]
      simp [size]

end Catalog

end CharacterTables
