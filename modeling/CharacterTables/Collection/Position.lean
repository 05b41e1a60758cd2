/-!
# Positions counted from either end

A position from zero on counts from the beginning of a sequence; a negative one counts
from its end, with -1 for the last entry. Positions are signed machine words of 64 bits,
and a number that is no such word is not even compared with the size of the sequence.
-/

set_option autoImplicit false

namespace CharacterTables

/-- The first number above all signed machine words. -/
def wordLimit : Int := 0x8000000000000000

def isWord (value : Int) : Bool :=
  decide (-wordLimit ≤ value) && decide (value < wordLimit)

theorem isWord_iff {value : Int} :
    isWord value = true ↔ -wordLimit ≤ value ∧ value < wordLimit := by
  simp [isWord]

/-- Why a position names no entry. -/
inductive PositionFault where
  | outside
  | notWord
  deriving DecidableEq, Repr

def notWordMessage : String :=
  let quote := String.singleton (Char.ofNat 0x27)
  "cannot fit " ++ quote ++ "int" ++ quote ++ " into an index-sized integer"

def PositionFault.lookupMessage : PositionFault → String
  | outside => "list index out of range"
  | notWord => notWordMessage

def PositionFault.storeMessage : PositionFault → String
  | outside => "list assignment index out of range"
  | notWord => notWordMessage

/-- The place that a position names in a sequence of the given size. -/
def placeOf (size : Nat) (position : Int) : Except PositionFault Nat :=
  if isWord position then
    if 0 ≤ position then
      if position < size then .ok position.toNat else .error .outside
    else
      if -(size : Int) ≤ position then .ok (position + size).toNat else .error .outside
  else .error .notWord

/-- The entry at a position counted from either end. -/
def entryAt {α : Type} (entries : Array α) (position : Int) : Except PositionFault α := do
  let place ← placeOf entries.size position
  match entries[place]? with
  | some entry => return entry
  | none => throw .outside

theorem lt_of_placeOf {size place : Nat} {position : Int}
    (found : placeOf size position = .ok place) : place < size := by
  unfold placeOf at found
  grind

theorem bounds_of_placeOf {size place : Nat} {position : Int}
    (found : placeOf size position = .ok place) :
    -(size : Int) ≤ position ∧ position < size := by
  unfold placeOf at found
  grind

theorem eq_of_placeOf {size place : Nat} {position : Int} (nonneg : 0 ≤ position)
    (found : placeOf size position = .ok place) : position = place := by
  unfold placeOf at found
  grind

theorem placeOf_of_lt {size position : Nat} (bound : position < size)
    (small : (position : Int) < wordLimit) : placeOf size position = .ok position := by
  have word : isWord position = true := by
    rw [isWord_iff]
    unfold wordLimit at *
    omega
  simp [placeOf, word, bound]

/-- A position short of the end names the same place as its counterpart from the
beginning. -/
theorem placeOf_sub_size {size position : Nat} (bound : position < size)
    (small : (size : Int) ≤ wordLimit) :
    placeOf size ((position : Int) - size) = .ok position := by
  have word : isWord ((position : Int) - size) = true := by
    rw [isWord_iff]
    unfold wordLimit at *
    omega
  have negative : ¬ 0 ≤ (position : Int) - size := by omega
  have inside : -(size : Int) ≤ (position : Int) - size := by omega
  unfold placeOf
  rw [if_pos word, if_neg negative, if_pos inside, Int.sub_add_cancel, Int.toNat_natCast]

/-- A position short of either end names the place that it leaves as a remainder. -/
theorem placeOf_eq_emod {size : Nat} {position : Int} (small : (size : Int) ≤ wordLimit)
    (low : -(size : Int) ≤ position) (high : position < size) :
    placeOf size position = .ok (position % size).toNat := by
  by_cases nonneg : 0 ≤ position
  · obtain ⟨place, rfl⟩ := Int.eq_ofNat_of_zero_le nonneg
    rw [Int.emod_eq_of_lt nonneg high, Int.toNat_natCast]
    exact placeOf_of_lt (Int.ofNat_lt.mp high) (Int.lt_of_lt_of_le high small)
  · have counterpart : 0 ≤ position + size := by omega
    have bound : position + size < size := by omega
    have rest : position % size = position + size := by
      rw [← Int.add_emod_right, Int.emod_eq_of_lt counterpart bound]
    obtain ⟨place, same⟩ := Int.eq_ofNat_of_zero_le counterpart
    have counted : position = (place : Int) - size := by omega
    rw [rest, same, Int.toNat_natCast, counted]
    exact placeOf_sub_size (by omega) small

theorem placeOf_of_outside {size : Nat} {position : Int}
    (outside : position < -(size : Int) ∨ (size : Int) ≤ position) :
    ∃ fault, placeOf size position = .error fault := by
  cases found : placeOf size position with
  | error fault => exact ⟨fault, rfl⟩
  | ok place =>
      unfold placeOf at found
      grind

theorem entryAt_eq_ok {α : Type} {entries : Array α} {position : Int} {place : Nat}
    {entry : α} (named : placeOf entries.size position = .ok place)
    (found : entries[place]? = some entry) : entryAt entries position = .ok entry := by
  unfold entryAt
  rw [named]
  simp only [bind, Except.bind, found]
  rfl

theorem entryAt_natCast {α : Type} {entries : Array α} {place : Nat} {entry : α}
    (small : (place : Int) < wordLimit) (found : entries[place]? = some entry) :
    entryAt entries place = .ok entry :=
  entryAt_eq_ok (placeOf_of_lt (Array.getElem?_eq_some_iff.mp found).1 small) found

theorem entryAt_eq_error {α : Type} {entries : Array α} {position : Int}
    {fault : PositionFault} (unnamed : placeOf entries.size position = .error fault) :
    entryAt entries position = .error fault := by
  unfold entryAt
  rw [unnamed]
  rfl

end CharacterTables
