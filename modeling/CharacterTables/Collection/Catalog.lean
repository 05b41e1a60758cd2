import Std.Data.TreeMap.Lemmas

/-!
# Catalogs

Distinct values, numbered from zero in the order of their first use.
-/

set_option autoImplicit false

namespace CharacterTables

/-- Distinct values with their numbers. A value has a number exactly if the entry at that
number is the value. -/
structure Catalog (κ : Type) [Ord κ] where
  numbers : Std.TreeMap κ Nat
  entries : Array κ
  number_iff : ∀ (value : κ) (number : Nat),
    numbers[value]? = some number ↔ entries[number]? = some value

namespace Catalog

variable {κ : Type} [Ord κ]

def size (catalog : Catalog κ) : Nat :=
  catalog.entries.size

def number? (catalog : Catalog κ) (value : κ) : Option Nat :=
  catalog.numbers[value]?

theorem number?_eq_some_iff {catalog : Catalog κ} {value : κ} {number : Nat} :
    catalog.number? value = some number ↔ catalog.entries[number]? = some value :=
  catalog.number_iff value number

variable [Std.TransOrd κ]

def empty : Catalog κ where
  numbers := ∅
  entries := #[]
  number_iff := by simp

variable [Std.LawfulEqOrd κ]

/-- Adds a value that the catalog does not have, under the next number. -/
def push (catalog : Catalog κ) (value : κ) (fresh : catalog.number? value = none) :
    Catalog κ where
  numbers := catalog.numbers.insert value catalog.entries.size
  entries := catalog.entries.push value
  number_iff := by
    intro other number
    simp only [Std.TreeMap.getElem?_insert, Array.getElem?_push,
      Std.LawfulEqCmp.compare_eq_iff_eq]
    have old := catalog.number_iff other number
    have new := catalog.number_iff value number
    have bounded : ∀ entry, catalog.entries[number]? = some entry → number < catalog.entries.size :=
      fun entry found => (Array.getElem?_eq_some_iff.mp found).1
    simp only [number?] at *
    grind

/-- The number of a value, and a catalog that has it. A new value gets the next number. -/
def intern (catalog : Catalog κ) (value : κ) : Nat × Catalog κ :=
  match known : catalog.number? value with
  | some number => (number, catalog)
  | none => (catalog.size, catalog.push value known)

end Catalog

end CharacterTables
