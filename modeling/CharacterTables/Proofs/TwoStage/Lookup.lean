import Mathlib
import CharacterTables.Proofs.Outcome
import CharacterTables.Proofs.TwoStage.Contents

/-!
# Looking entries up

An index leads to an entry of the second stage through its quotient and its remainder by
the block size, both rounded toward the floor. So negative indices count from the end of the
whole table, and a split of the stages of a builder gives back what the builder took.
-/

set_option autoImplicit false

namespace CharacterTables.TwoStage

namespace Split

variable {split : Split} {shift : Nat}

/-- A shift of at most a word is used as it is, whatever the index. -/
theorem lookup_eq (shifted : split.shift = shift) (small : shift ≤ wordBits) (index : Int) :
    split.lookup index = (do
      let block ← entryAt split.index1 (index / 2 ^ shift)
      entryAt split.index2 (block * 2 ^ shift + index % 2 ^ shift)).mapError .lookup := by
  have checked : checkShift split.shift = .ok () := by
    unfold wordBits at small
    unfold checkShift maxShift
    rw [shifted, if_neg (by omega), if_neg (by omega)]
  have used : shiftFor index split.shift.toNat = shift := by
    unfold shiftFor
    rw [shifted, Int.toNat_natCast]
    omega
  have length : ((blockLength shift : Nat) : Int) = 2 ^ shift := by
    simp [blockLength, Nat.one_shiftLeft]
  unfold lookup
  rw [checked, used, length]
  rfl

/-- The quotient selects a block number, the remainder an entry of that block. -/
theorem lookup_eq_ok (shifted : split.shift = shift) (small : shift ≤ wordBits)
    (room1 : (split.index1.size : Int) ≤ wordLimit)
    (room2 : (split.index2.size : Int) ≤ wordLimit) {index number : Nat} {entry : Int}
    (named : split.index1[index / 2 ^ shift]? = some (number : Int))
    (found : split.index2[2 ^ shift * number + index % 2 ^ shift]? = some entry) :
    split.lookup index = .ok entry := by
  have size1 := (Array.getElem?_eq_some_iff.mp named).1
  have size2 := (Array.getElem?_eq_some_iff.mp found).1
  have quotient : (index : Int) / 2 ^ shift = ((index / 2 ^ shift : Nat) : Int) := by
    push_cast
    rfl
  have place : (number : Int) * 2 ^ shift + (index : Int) % 2 ^ shift =
      ((2 ^ shift * number + index % 2 ^ shift : Nat) : Int) := by
    push_cast
    rw [Int.mul_comm]
  have block : entryAt split.index1 ((index : Int) / 2 ^ shift) = .ok (number : Int) := by
    rw [quotient]
    exact entryAt_natCast ((Int.ofNat_lt.mpr size1).trans_le room1) named
  have inside : entryAt split.index2 ((number : Int) * 2 ^ shift + (index : Int) % 2 ^ shift) =
      .ok entry := by
    rw [place]
    exact entryAt_natCast ((Int.ofNat_lt.mpr size2).trans_le room2) found
  rw [lookup_eq shifted small, block, ok_bind, inside, mapError_ok]

/-- An index beyond either end of the blocks that the first stage names is a fault. -/
theorem lookup_of_outside (shifted : split.shift = shift) (small : shift ≤ wordBits)
    {index : Int}
    (outside : index < -(2 ^ shift * split.index1.size) ∨ 2 ^ shift * split.index1.size ≤ index) :
    ∃ fault, split.lookup index = .error (.lookup fault) := by
  have positive : (0 : Int) < 2 ^ shift := Int.pow_pos (by decide)
  have beyond : index / 2 ^ shift < -(split.index1.size : Int) ∨
      (split.index1.size : Int) ≤ index / 2 ^ shift := by
    rcases outside with before | behind
    · refine .inl (Int.ediv_lt_of_lt_mul positive ?_)
      rw [Int.neg_mul, Int.mul_comm]
      exact before
    · refine .inr (Int.le_ediv_of_mul_le positive ?_)
      rw [Int.mul_comm]
      exact behind
  obtain ⟨fault, unnamed⟩ := placeOf_of_outside beyond
  refine ⟨fault, ?_⟩
  rw [lookup_eq shifted small, entryAt_eq_error unnamed, error_bind, mapError_error]

/-- An index counted from the end finds the same entry as its counterpart from the
beginning. -/
theorem lookup_sub_length (shifted : split.shift = shift) (small : shift ≤ wordBits)
    (room : (split.index1.size : Int) ≤ wordLimit) {index : Nat}
    (inside : index < 2 ^ shift * split.index1.size) :
    split.lookup ((index : Int) - (2 ^ shift * split.index1.size : Nat)) =
      split.lookup index := by
  have bound : index / 2 ^ shift < split.index1.size := Nat.div_lt_of_lt_mul inside
  have quotient : ((index : Int) - (2 ^ shift * split.index1.size : Nat)) / 2 ^ shift =
      ((index / 2 ^ shift : Nat) : Int) - split.index1.size := by
    push_cast
    rw [Int.sub_mul_ediv_left _ _ (by positivity)]
  have remainder : ((index : Int) - (2 ^ shift * split.index1.size : Nat)) % 2 ^ shift =
      (index : Int) % 2 ^ shift := by
    push_cast
    rw [Int.sub_mul_emod_self_left]
  have direct : (index : Int) / 2 ^ shift = ((index / 2 ^ shift : Nat) : Int) := by
    push_cast
    rfl
  rw [lookup_eq shifted small, lookup_eq shifted small, quotient, remainder, direct,
    entryAt_eq_ok (placeOf_sub_size bound room) (Array.getElem?_eq_getElem bound),
    entryAt_natCast ((Int.ofNat_lt.mpr bound).trans_le room) (Array.getElem?_eq_getElem bound)]

end Split

namespace Builder

variable {builder : Builder} {stored listed : List (List Int)} {split : Split} {shift : Nat}

/-- A split of the stages of a builder finds the entries of the blocks listed. The element
types of the split do not matter here, so it may have been taken earlier. -/
theorem Holds.lookup (holds : builder.Holds (2 ^ shift) stored listed)
    (first : split.index1 = builder.stage1) (second : split.index2 = builder.stage2)
    (shifted : split.shift = shift) (small : shift ≤ wordBits)
    (room1 : (listed.length : Int) ≤ wordLimit)
    (room2 : ((2 ^ shift * stored.eraseDups.length : Nat) : Int) ≤ wordLimit)
    {index : Nat} {entry : Int} (found : listed.flatten[index]? = some entry) :
    split.lookup index = .ok entry := by
  have inside := (List.getElem?_eq_some_iff.mp found).1
  have whole := length_flatten_of_uniform holds.length_of_mem_listed
  have bound : index / 2 ^ shift < listed.length := Nat.div_lt_of_lt_mul (whole ▸ inside)
  have rest : index % 2 ^ shift < 2 ^ shift := Nat.mod_lt index (Nat.two_pow_pos shift)
  have listing : listed[index / 2 ^ shift]? = some listed[index / 2 ^ shift] :=
    List.getElem?_eq_getElem bound
  have own : listed[index / 2 ^ shift][index % 2 ^ shift]? = some entry := by
    calc listed[index / 2 ^ shift][index % 2 ^ shift]?
        = listed.flatten[2 ^ shift * (index / 2 ^ shift) + index % 2 ^ shift]? :=
          (getElem?_flatten_of_uniform holds.length_of_mem_listed listing rest).symm
      _ = some entry := by rw [Nat.div_add_mod, found]
  refine Split.lookup_eq_ok shifted small ?_ ?_
    (first ▸ holds.getElem?_stage1 listing) ?_
  · rwa [first, holds.size_stage1]
  · rwa [second, holds.size_stage2]
  · rw [second, holds.getElem?_stage2 (holds.known _ (List.getElem_mem bound)) rest, own]

end Builder

end CharacterTables.TwoStage
