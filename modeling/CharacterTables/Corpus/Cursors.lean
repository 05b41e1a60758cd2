import Std.Data.TreeMap.Lemmas
import CharacterTables.Corpus.Reading

/-!
# Several cursors on one reading

A data file may be read by several cursors at the same time. Each begins at the first
record and goes on at its own pace; none of them notices the others.
-/

set_option autoImplicit false

namespace CharacterTables

/-- Cursors on a reading, told apart by numbers: what each of them has left. A cursor that
has not been asked yet has the whole reading left. -/
structure Cursors (α : Type) where
  reading : Reading α
  left : Std.TreeMap Int (Reading α)

namespace Cursors

variable {α : Type}

/-- No cursor has been asked. -/
def start (reading : Reading α) : Cursors α :=
  { reading, left := ∅ }

/-- What a cursor has left. -/
def remaining (cursors : Cursors α) (cursor : Int) : Reading α :=
  cursors.left.getD cursor cursors.reading

def pull (cursors : Cursors α) (cursor : Int) (limit : Option Nat) :
    Reading.Delivery α × Cursors α :=
  let (delivery, left) := (cursors.remaining cursor).pull limit
  (delivery, { cursors with left := cursors.left.insert cursor left })

@[simp] theorem remaining_start (reading : Reading α) (cursor : Int) :
    (start reading).remaining cursor = reading := by
  simp [start, remaining]

theorem remaining_pull (cursors : Cursors α) (cursor other : Int) (limit : Option Nat) :
    (cursors.pull cursor limit).2.remaining other =
      if other = cursor then ((cursors.remaining cursor).pull limit).2
      else cursors.remaining other := by
  simp only [pull, remaining, Std.TreeMap.getD_insert, Std.LawfulEqCmp.compare_eq_iff_eq]
  grind

end Cursors

end CharacterTables
