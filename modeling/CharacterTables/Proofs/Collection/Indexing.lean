import Mathlib
import CharacterTables.Proofs.Collection.Renumbering

/-!
# Tables with an index

Values that are put at places make a table of the distinct values and an index that leads every
place to its value. No position of the table is without use, but for the first, where the blank
value stands.
-/

set_option autoImplicit false

namespace CharacterTables

/-! ## The list of the numbers of all places -/

section Index

variable {size place : Nat} {number : Nat → Nat}

theorem mem_map_range_iff {entry : Int} :
    entry ∈ (Array.range size).map (fun place => (number place : Int)) ↔
      ∃ place < size, (number place : Int) = entry := by
  rw [Array.mem_map]
  refine exists_congr fun place => and_congr_left fun _ => ?_
  rw [Array.mem_range]

theorem entryAt_map_range (inside : place < size) (small : (place : Int) < wordLimit) :
    entryAt ((Array.range size).map fun place => (number place : Int)) place =
      .ok (number place : Int) := by
  refine entryAt_natCast small ?_
  rw [Array.getElem?_map, Array.getElem?_range, if_pos inside, Option.map_some]

end Index

variable {κ : Type} [BEq κ] [LawfulBEq κ] [Ord κ]

/-- A table lists the values in use once, in the order of their first use behind the blank value.
The index has a position in it for every place, and has all of them but perhaps the first. -/
structure Table (size : Nat) (blank : κ) (values : List κ) (catalog : Catalog κ)
    (index : Array Int) : Prop where
  first : catalog.entries[0]? = some blank
  entries : catalog.entries.toList = (blank :: values).eraseDups
  distinct : catalog.entries.toList.Nodup
  size_index : index.size = size
  valid : ∀ number ∈ index, 0 ≤ number ∧ number < catalog.size
  used : ∀ number : Nat, 0 < number → number < catalog.size → (number : Int) ∈ index

namespace Listing

variable {α : Type} {size : Nat} {code : α → Int} {value : α → κ} {fits : α → Prop} {blank : κ}
  {items : List α} {catalog : Catalog κ} {numbers : Std.TreeMap Nat Nat}
  (listing : Listing size code value fits blank items catalog numbers)
include listing

/-- Items with different codes, none of them negative, make a table. -/
theorem table (distinct : (items.map code).Nodup) (nonneg : ∀ item ∈ items, 0 ≤ code item)
    (small : (size : Int) ≤ wordLimit) :
    Table size blank ((items.filter fun item => code item < size).map value) catalog
      ((Array.range size).map fun place => (numbers.getD place 0 : Int)) := by
  have took : catalog.entries.toList =
      (blank :: (items.filter fun item => code item < size).map value).eraseDups := by
    have placed := listing.placed.took
    rwa [map_snd_placements nonneg small] at placed
  refine ⟨?first, took, catalog.nodup_entries, ?size, ?valid, ?used⟩
  case first =>
    rw [← Array.getElem?_toList, took, List.eraseDups_cons, List.getElem?_cons_zero]
  case size => rw [Array.size_map, Array.size_range]
  case valid =>
    intro number listed
    obtain ⟨place, _, rfl⟩ := mem_map_range_iff.mp listed
    exact ⟨Int.natCast_nonneg _, Int.ofNat_lt.mpr (listing.number_lt_size place)⟩
  case used =>
    intro number positive bound
    obtain ⟨place, inside, found⟩ := listing.exists_number_eq distinct nonneg positive bound
    exact mem_map_range_iff.mpr ⟨place, inside, congrArg Int.ofNat found⟩

end Listing

end CharacterTables
