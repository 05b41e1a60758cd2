import Mathlib
import CharacterTables.Proofs.Collection.Placement

/-!
# Numbering in another order

The same values taken in another order get other numbers, but the number of a value in one order
tells its number in the other, so the numbers are only permuted. Values that are changed without
two of them becoming equal keep their numbers.
-/

set_option autoImplicit false

namespace CharacterTables

/-! ## Changed values -/

section Changed

variable {κ ι : Type} [BEq κ] [LawfulBEq κ] [BEq ι] [LawfulBEq ι] {values : List κ} {value : κ}
  {change : κ → ι}

theorem numberIn_of_getElem? {number : Nat} (found : values.eraseDups[number]? = some value) :
    numberIn values value = number := by
  obtain ⟨bound, rfl⟩ := List.getElem?_eq_some_iff.mp found
  exact (nodup_eraseDups values).idxOf_getElem number bound

theorem eraseDups_map (injective : Set.InjOn change {value | value ∈ values}) :
    (values.map change).eraseDups = values.eraseDups.map change := by
  induction values using List.reverseRecOn with
  | nil => rfl
  | append_singleton earlier last ih =>
      have changed : change last ∈ earlier.map change ↔ last ∈ earlier := by
        constructor
        · intro member
          obtain ⟨other, listed, same⟩ := List.mem_map.mp member
          have equal : other = last :=
            injective (List.mem_append_left _ listed) (List.mem_append_right _ (by simp)) same
          rwa [← equal]
        · exact List.mem_map_of_mem
      have before := ih (injective.mono fun _ listed => List.mem_append_left _ listed)
      rw [List.map_append, List.map_cons, List.map_nil, eraseDups_append_singleton,
        eraseDups_append_singleton, before]
      by_cases known : last ∈ earlier
      · rw [if_pos known, if_pos (changed.mpr known)]
      · rw [if_neg known, if_neg (mt changed.mp known), List.map_append]
        rfl

theorem numberIn_map (injective : Set.InjOn change {value | value ∈ values})
    (taken : value ∈ values) :
    numberIn (values.map change) (change value) = numberIn values value := by
  apply numberIn_of_getElem?
  rw [eraseDups_map injective, List.getElem?_map, getElem?_numberIn taken, Option.map_some]

end Changed

/-! ## The same values in another order -/

section Reordered

variable {κ : Type} [BEq κ] [LawfulBEq κ] {values others : List κ} {value : κ}

/-- The number of a value among others, from its number among some values. A number that no value
has stays as it is. -/
def renumber (values others : List κ) (number : Nat) : Nat :=
  (values.eraseDups[number]?).elim number (numberIn others)

omit [LawfulBEq κ] in
theorem renumber_of_some {number : Nat} (found : values.eraseDups[number]? = some value) :
    renumber values others number = numberIn others value := by
  rw [renumber, found, Option.elim_some]

omit [LawfulBEq κ] in
theorem renumber_of_none {number : Nat} (unused : values.eraseDups[number]? = none) :
    renumber values others number = number := by
  rw [renumber, unused, Option.elim_none]

variable (same : ∀ value, value ∈ values ↔ value ∈ others)
include same

theorem length_eraseDups_eq : others.eraseDups.length = values.eraseDups.length := by
  refine List.Perm.length_eq ((List.perm_ext_iff_of_nodup (nodup_eraseDups others)
    (nodup_eraseDups values)).mpr fun value => ?_)
  rw [List.mem_eraseDups, List.mem_eraseDups, same]

theorem getElem?_renumber (number : Nat) :
    others.eraseDups[renumber values others number]? = values.eraseDups[number]? := by
  cases found : values.eraseDups[number]? with
  | none =>
      rw [renumber_of_none found, List.getElem?_eq_none_iff, length_eraseDups_eq same]
      exact List.getElem?_eq_none_iff.mp found
  | some value =>
      have taken : value ∈ values := List.mem_eraseDups.mp (List.mem_of_getElem? found)
      rw [renumber_of_some found]
      exact getElem?_numberIn ((same value).mp taken)

theorem renumber_renumber (number : Nat) :
    renumber others values (renumber values others number) = number := by
  have kept := getElem?_renumber same number
  cases found : values.eraseDups[number]? with
  | none =>
      rw [renumber_of_none found] at kept ⊢
      exact renumber_of_none (kept.trans found)
  | some value => rw [renumber_of_some (kept.trans found), numberIn_of_getElem? found]

/-- The permutation of numbers that leads from one order of values to another. -/
def renumbering : Equiv.Perm Nat where
  toFun := renumber values others
  invFun := renumber others values
  left_inv := renumber_renumber same
  right_inv := renumber_renumber fun value => (same value).symm

end Reordered

/-! ## Places filled in another order -/

section Places

variable {κ : Type} {blank : κ} {placed others : List (Nat × κ)}

/-- No place is given two different values. -/
def Consistent (placed : List (Nat × κ)) : Prop :=
  ∀ place first second, (place, first) ∈ placed → (place, second) ∈ placed → first = second

theorem Consistent.valueAt_eq (consistent : Consistent placed) {place : Nat} {value : κ}
    (member : (place, value) ∈ placed) : valueAt blank placed place = value := by
  rcases valueAt_mem_or blank placed place with own | ⟨_, absent⟩
  · exact consistent place _ _ own member
  · exact absurd member (absent value)

theorem Consistent.valueAt_perm (consistent : Consistent placed) (same : placed.Perm others)
    (place : Nat) : valueAt blank others place = valueAt blank placed place := by
  rcases valueAt_mem_or blank others place with own | ⟨unchanged, absent⟩
  · exact (consistent.valueAt_eq (same.mem_iff.mpr own)).symm
  · rcases valueAt_mem_or blank placed place with own | ⟨blank, _⟩
    · exact absurd (same.mem_iff.mp own) (absent _)
    · rw [unchanged, blank]

theorem consistent_placements {α : Type} {size : Nat} {code : α → Int} {value : α → κ}
    {items : List α} (distinct : (items.map code).Nodup) (nonneg : ∀ item ∈ items, 0 ≤ code item) :
    Consistent (placements size code value items) := by
  intro place first second own other
  obtain ⟨item, listed, found, rfl⟩ := mem_placements_iff.mp own
  obtain ⟨another, alsoListed, alsoFound, rfl⟩ := mem_placements_iff.mp other
  have codes : code item = code another := by
    rw [eq_of_placeOf (nonneg item listed) found,
      eq_of_placeOf (nonneg another alsoListed) alsoFound]
  rw [List.inj_on_of_nodup_map distinct listed alsoListed codes]

/-! ## Catalogs in another order -/

variable [BEq κ] [LawfulBEq κ] [Ord κ]

/-- A catalog and the numbers of places lead to another catalog and its numbers when all numbers
are permuted; zero stays, and so does every number without an entry. -/
structure Renumbered (change : Equiv.Perm Nat) (catalog other : Catalog κ)
    (numbers otherNumbers : Std.TreeMap Nat Nat) : Prop where
  zero : change 0 = 0
  beyond : ∀ number, catalog.size ≤ number → change number = number
  size : other.size = catalog.size
  entry : ∀ number, other.entries[change number]? = catalog.entries[number]?
  number : ∀ place, otherNumbers.getD place 0 = change (numbers.getD place 0)

variable {catalog other : Catalog κ} {numbers otherNumbers : Std.TreeMap Nat Nat}

theorem Placed.renumbered (holds : Placed blank placed catalog numbers)
    (again : Placed blank others other otherNumbers) (consistent : Consistent placed)
    (same : placed.Perm others) :
    ∃ change, Renumbered change catalog other numbers otherNumbers := by
  have taken : ∀ value, value ∈ blank :: placed.map Prod.snd ↔
      value ∈ blank :: others.map Prod.snd :=
    fun value => ((same.map Prod.snd).cons blank).mem_iff
  refine ⟨renumbering taken, ?_, ?_, ?_, ?_, ?_⟩
  · have first : (blank :: placed.map Prod.snd).eraseDups[0]? = some blank := by
      rw [List.eraseDups_cons, List.getElem?_cons_zero]
    exact (renumber_of_some first).trans (numberIn_cons_self blank _)
  · intro number beyond
    rw [holds.took.size_eq] at beyond
    exact renumber_of_none (List.getElem?_eq_none_iff.mpr beyond)
  · rw [holds.took.size_eq, again.took.size_eq, length_eraseDups_eq taken]
  · intro number
    rw [← Array.getElem?_toList, ← Array.getElem?_toList, holds.took, again.took]
    exact getElem?_renumber taken number
  · intro place
    rw [again.number, holds.number, consistent.valueAt_perm same]
    exact (renumber_of_some (getElem?_numberIn (valueAt_mem blank placed place))).symm

/-- Every number but that of the blank value is the number of some place. -/
theorem Placed.exists_number_eq (holds : Placed blank placed catalog numbers)
    (consistent : Consistent placed) {number : Nat} (positive : 0 < number)
    (bound : number < catalog.size) :
    ∃ place value, (place, value) ∈ placed ∧ numbers.getD place 0 = number := by
  rw [holds.took.size_eq] at bound
  obtain ⟨value, taken, rfl⟩ := exists_numberIn_eq bound
  rcases List.mem_cons.mp taken with rfl | put
  · rw [numberIn_cons_self] at positive
    exact absurd positive (Nat.lt_irrefl 0)
  · obtain ⟨⟨place, _⟩, member, rfl⟩ := List.mem_map.mp put
    refine ⟨place, _, member, ?_⟩
    rw [holds.number, consistent.valueAt_eq member]

end Places

namespace Listing

variable {κ : Type} [BEq κ] [LawfulBEq κ] [Ord κ] {α : Type} {size : Nat} {code : α → Int}
  {value : α → κ} {fits : α → Prop} {blank : κ} {items others : List α}
  {catalog other : Catalog κ} {numbers otherNumbers : Std.TreeMap Nat Nat}

/-- The order in which items with different codes are listed only permutes the numbers. -/
theorem renumbered (listing : Listing size code value fits blank items catalog numbers)
    (again : Listing size code value fits blank others other otherNumbers)
    (distinct : (items.map code).Nodup) (nonneg : ∀ item ∈ items, 0 ≤ code item)
    (same : items.Perm others) :
    ∃ change, Renumbered change catalog other numbers otherNumbers :=
  listing.placed.renumbered again.placed (consistent_placements distinct nonneg)
    (same.filterMap _)

/-- Every number but zero is the number of some place. -/
theorem exists_number_eq (listing : Listing size code value fits blank items catalog numbers)
    (distinct : (items.map code).Nodup) (nonneg : ∀ item ∈ items, 0 ≤ code item) {number : Nat}
    (positive : 0 < number) (bound : number < catalog.size) :
    ∃ place < size, numbers.getD place 0 = number := by
  obtain ⟨place, value, member, found⟩ :=
    listing.placed.exists_number_eq (consistent_placements distinct nonneg) positive bound
  obtain ⟨item, _, named, _⟩ := mem_placements_iff.mp member
  exact ⟨place, lt_of_placeOf named, found⟩

end Listing

end CharacterTables
