import Mathlib
import CharacterTables.Corpus.CharacterRecord
import CharacterTables.Proofs.Outcome

/-!
# Lines of characters

What a line with fifteen fields states, said field by field, and what it has to state to close a
range.
-/

set_option autoImplicit false

namespace CharacterTables

open Text

namespace Line

/-- The field at a position, where there is one. -/
def field (line : Line) (position : Nat) : List Char :=
  line.fields.getD position []

/-- A line of fifteen fields states a code, and what holds of its character. -/
structure States (line : Line) (code : Int) (traits : CharacterTraits) : Prop where
  count : line.fields.length = 15
  code : readCode (line.field 0) = .ok code
  name : traits.name = line.field 1
  category : traits.category = line.field 2
  formerName : traits.formerName = line.field 10
  uppercase : readCaseMapping (line.field 12) = .ok traits.uppercase
  lowercase : readCaseMapping (line.field 13) = .ok traits.lowercase

/-- A line can close a range that begins with a code. -/
structure Closes (line : Line) (first last : Int) : Prop where
  count : line.fields.length = 15
  marked : "Last>".toList <:+ line.field 1
  code : readCode (line.field 0) = .ok last
  forward : first ≤ last

end Line

variable {line : Line} {code first last : Int} {traits : CharacterTraits}

theorem Line.fields_eq (count : line.fields.length = 15) :
    line.fields = [line.field 0, line.field 1, line.field 2, line.field 3, line.field 4,
      line.field 5, line.field 6, line.field 7, line.field 8, line.field 9, line.field 10,
      line.field 11, line.field 12, line.field 13, line.field 14] := by
  unfold Line.field
  match line.fields, count with
  | [_, _, _, _, _, _, _, _, _, _, _, _, _, _, _], _ => rfl

theorem readCharacter_eq_ok_iff :
    readCharacter line = .ok (code, traits) ↔ line.States code traits := by
  constructor
  · intro read
    unfold readCharacter at read
    split at read
    · rename_i shape
      obtain ⟨code, coded, read⟩ := bind_eq_ok_iff.mp read
      obtain ⟨uppercase, raised, read⟩ := bind_eq_ok_iff.mp read
      obtain ⟨lowercase, lowered, read⟩ := bind_eq_ok_iff.mp read
      cases read
      constructor <;> simp [Line.field, shape, coded, raised, lowered]
    · cases read
  · intro states
    unfold readCharacter
    rw [Line.fields_eq states.count]
    simp only [states.code, states.uppercase, states.lowercase, ok_bind, ← states.name,
      ← states.category, ← states.formerName]
    rfl

theorem readRangeEnd_eq_ok_iff : readRangeEnd first line = .ok last ↔ line.Closes first last := by
  constructor
  · intro read
    unfold readRangeEnd at read
    split at read
    · rename_i shape
      split at read
      · rename_i marked
        obtain ⟨code, coded, read⟩ := bind_eq_ok_iff.mp read
        split at read
        · cases read
        · rename_i forward
          cases read
          constructor
          · simp [shape]
          · simpa [Line.field, shape] using List.isSuffixOf_iff_suffix.mp marked
          · simp [Line.field, shape, coded]
          · exact Int.not_lt.mp forward
      · cases read
    · cases read
  · intro closes
    unfold readRangeEnd
    rw [Line.fields_eq closes.count]
    dsimp only
    rw [if_pos (List.isSuffixOf_iff_suffix.mpr closes.marked), closes.code, ok_bind,
      if_neg (Int.not_lt.mpr closes.forward)]
    rfl

theorem Line.States.unique {other : Int} {others : CharacterTraits}
    (states : line.States code traits) (again : line.States other others) :
    other = code ∧ others = traits := by
  have same := (readCharacter_eq_ok_iff.mpr again).symm.trans (readCharacter_eq_ok_iff.mpr states)
  cases same
  exact ⟨rfl, rfl⟩

end CharacterTables
