import Mathlib
import CharacterTables.TwoStage.Builder

/-!
# Cutting tables into blocks

A table is filled up with zeros to the next multiple of the block size and cut into blocks.
The blocks behind one another give the filled table back, and an entry of theirs is found
by dividing its position by the block size.
-/

set_option autoImplicit false

namespace CharacterTables.TwoStage

/-! ## Pieces of a list -/

/-- The piece of a list with a given number, when it is cut every `size` entries. -/
def piece (size : Nat) (entries : List Int) (number : Nat) : List Int :=
  (entries.drop (size * number)).take size

theorem flatten_pieces (size : Nat) (entries : List Int) (count : Nat) :
    ((List.range count).map (piece size entries)).flatten = entries.take (size * count) := by
  induction count with
  | zero => simp
  | succ count ih =>
      rw [List.range_succ, List.map_append, List.flatten_append, ih, Nat.mul_succ,
        List.take_add]
      simp [piece]

theorem length_flatten_of_uniform {size : Nat} {blocks : List (List Int)}
    (uniform : ∀ block ∈ blocks, block.length = size) :
    blocks.flatten.length = size * blocks.length := by
  induction blocks with
  | nil => rfl
  | cons block rest ih =>
      have first := uniform block List.mem_cons_self
      have others := ih fun other member => uniform other (List.mem_cons_of_mem block member)
      rw [List.flatten_cons, List.length_append, first, others, List.length_cons,
        Nat.mul_succ, Nat.add_comm]

/-- Blocks of one size behind one another are cut apart again. -/
theorem piece_flatten {size : Nat} {blocks : List (List Int)}
    (uniform : ∀ block ∈ blocks, block.length = size) {number : Nat} {block : List Int}
    (found : blocks[number]? = some block) : piece size blocks.flatten number = block := by
  induction blocks generalizing number with
  | nil => simp at found
  | cons first rest ih =>
      have size_first := uniform first List.mem_cons_self
      unfold piece at ih ⊢
      cases number with
      | zero =>
          have same : first = block := by simpa using found
          rw [List.flatten_cons, Nat.mul_zero, List.drop_zero, ← size_first,
            List.take_left, same]
      | succ number =>
          have later := ih (fun other member => uniform other (List.mem_cons_of_mem first member))
            (by simpa using found)
          rw [List.flatten_cons, Nat.mul_succ, Nat.add_comm, ← size_first, List.drop_append,
            List.drop_of_length_le (by omega), List.nil_append,
            Nat.add_sub_cancel_left, size_first]
          exact later

theorem getElem?_flatten_of_uniform {size : Nat} {blocks : List (List Int)}
    (uniform : ∀ block ∈ blocks, block.length = size) {number : Nat} {block : List Int}
    (found : blocks[number]? = some block) {offset : Nat} (inside : offset < size) :
    blocks.flatten[size * number + offset]? = block[offset]? := by
  rw [← piece_flatten uniform found]
  unfold piece
  rw [List.getElem?_take_of_lt inside, List.getElem?_drop]

/-! ## Whole blocks -/

/-- How many blocks it takes to hold so many entries. -/
def blockCount (length size : Nat) : Nat :=
  (length + size - 1) / size

/-- A table with the zeros that fill up its last block. -/
def padded (table : Array Int) (size : Nat) : List Int :=
  table.toList ++ List.replicate (size * blockCount table.size size - table.size) 0

/-- The blocks of a table, the last one filled up with zeros. -/
def blocksOf (table : Array Int) (size : Nat) : List (List Int) :=
  (List.range (blockCount table.size size)).map (piece size (padded table size))

theorem le_mul_blockCount (length : Nat) {size : Nat} (positive : 0 < size) :
    length ≤ size * blockCount length size := by
  unfold blockCount
  have parts := Nat.div_add_mod (length + size - 1) size
  have rest := Nat.mod_lt (length + size - 1) positive
  omega

theorem mul_blockCount_lt (length : Nat) {size : Nat} (positive : 0 < size) :
    size * blockCount length size < length + size := by
  unfold blockCount
  have parts := Nat.mul_div_le (length + size - 1) size
  omega

theorem blockCount_pos {length size : Nat} (positive : 0 < size) (filled : 0 < length) :
    0 < blockCount length size :=
  Nat.div_pos (by omega) positive

theorem blockCount_le (length : Nat) {size : Nat} (positive : 0 < size) :
    blockCount length size ≤ length := by
  unfold blockCount
  rw [Nat.div_le_iff_le_mul_add_pred positive]
  have scaled := Nat.le_mul_of_pos_left length positive
  omega

theorem length_padded (table : Array Int) {size : Nat} (positive : 0 < size) :
    (padded table size).length = size * blockCount table.size size := by
  have enough := le_mul_blockCount table.size positive
  simp only [padded, List.length_append, Array.length_toList, List.length_replicate]
  omega

theorem mem_padded {table : Array Int} {size : Nat} {value : Int}
    (member : value ∈ padded table size) : value ∈ table ∨ value = 0 := by
  unfold padded at member
  rcases List.mem_append.mp member with own | filled
  · exact .inl (Array.mem_toList_iff.mp own)
  · exact .inr (List.eq_of_mem_replicate filled)

@[simp] theorem length_blocksOf (table : Array Int) (size : Nat) :
    (blocksOf table size).length = blockCount table.size size := by
  simp [blocksOf]

theorem flatten_blocksOf (table : Array Int) {size : Nat} (positive : 0 < size) :
    (blocksOf table size).flatten = padded table size := by
  unfold blocksOf
  rw [flatten_pieces, ← length_padded table positive, List.take_length]

theorem length_of_mem_blocksOf {table : Array Int} {size : Nat} (positive : 0 < size)
    {block : List Int} (member : block ∈ blocksOf table size) : block.length = size := by
  obtain ⟨number, listed, rfl⟩ := List.mem_map.mp member
  have bound : size * (number + 1) ≤ size * blockCount table.size size :=
    Nat.mul_le_mul_left size (List.mem_range.mp listed)
  have whole := length_padded table positive
  rw [Nat.mul_succ] at bound
  simp only [piece, List.length_take, List.length_drop]
  omega

/-- What a builder takes as a block of a table is a piece of the filled table. -/
theorem blockOf_eq_piece (table : Array Int) {size number : Nat} (positive : 0 < size)
    (listed : number < blockCount table.size size) :
    Builder.blockOf table size number = piece size (padded table size) number := by
  have bound : size * (number + 1) ≤ size * blockCount table.size size :=
    Nat.mul_le_mul_left size listed
  have whole := length_padded table positive
  rw [Nat.mul_succ] at bound
  refine List.ext_getElem (by simp [Builder.blockOf, piece]; omega) ?_
  intro offset inside _
  have small : offset < size := by simpa [Builder.blockOf] using inside
  simp only [Builder.blockOf, piece, padded, List.getElem_map, List.getElem_range,
    List.getElem_take, List.getElem_drop, Nat.mul_comm number size]
  by_cases own : size * number + offset < table.size
  · rw [List.getElem_append_left (by simpa using own)]
    simp [own]
  · rw [List.getElem_append_right (by simpa using own)]
    simp [own]

theorem map_blockOf (table : Array Int) {size : Nat} (positive : 0 < size) :
    (List.range (blockCount table.size size)).map (Builder.blockOf table size) =
      blocksOf table size :=
  List.map_congr_left fun _ listed =>
    blockOf_eq_piece table positive (List.mem_range.mp listed)

end CharacterTables.TwoStage
