import Mathlib
import CharacterTables.Proofs.Collection.Numbering
import CharacterTables.Proofs.TwoStage.Blocks

/-!
# What a builder holds

A builder is determined by the blocks that were stored in it and by those that were listed:
its second stage has the distinct stored blocks in the order of their first appearance, and
its first stage the number of each listed block. Every operation appends to both.
-/

set_option autoImplicit false

namespace CharacterTables.TwoStage

/-! ## What a list can hold -/

/-- Whether a list can hold so many repetitions. A count below zero asks for none, but has to be
a machine word too. -/
def Repeatable (count : Int) : Prop :=
  -wordLimit ≤ count ∧ count ≤ maxEntries

instance (count : Int) : Decidable (Repeatable count) :=
  inferInstanceAs (Decidable (_ ∧ _))

theorem checkRepetition_eq_ok_iff {count : Int} :
    checkRepetition count = .ok () ↔ Repeatable count := by
  have room : maxEntries < wordLimit := by decide
  unfold checkRepetition Repeatable
  by_cases word : isWord count = true
  · have bounds := isWord_iff.mp word
    by_cases large : maxEntries < count
    · simp [word, large]
    · simp [word, large]
      omega
  · have bounds := mt isWord_iff.mpr word
    simp [word]
    omega

/-- Whether a list can hold the zeros that fill up the last block of a table. Only a table
shorter than one block can need more than it has entries itself. -/
def Fillable (table : Array Int) (size : Nat) : Prop :=
  table.size = 0 ∨ (size : Int) - table.size ≤ maxEntries

instance (table : Array Int) (size : Nat) : Decidable (Fillable table size) :=
  inferInstanceAs (Decidable (_ ∨ _))

theorem fillable_of_le {table : Array Int} {size : Nat} (bound : size ≤ table.size) :
    Fillable table size := by
  refine .inr (le_trans (b := 0) ?_ (by decide))
  omega

namespace Builder

/-! ## The invariant -/

/-- A builder for blocks of `size` entries in which blocks were stored and listed, in the
orders given. Blocks are stored before they are listed, but need not be listed. -/
structure Holds (builder : Builder) (size : Nat) (stored listed : List (List Int)) : Prop where
  blockSize : builder.blockSize = size
  blocks : builder.blocks.Took stored
  stage1 : builder.stage1.toList = listed.map fun block => (numberIn stored block : Int)
  known : ∀ block ∈ listed, block ∈ stored
  uniform : ∀ block ∈ stored, block.length = size

theorem holds_empty (size : Nat) : (empty size).Holds size [] [] where
  blockSize := rfl
  blocks := Catalog.took_empty
  stage1 := rfl
  known := by simp
  uniform := by simp

variable {builder : Builder} {size : Nat} {stored listed : List (List Int)}

/-! ## Storing and listing blocks -/

theorem Holds.store (holds : builder.Holds size stored listed) (positive : 0 < size)
    {block : List Int} (fits : block.length = size) :
    ∃ next, builder.store block = .ok (numberIn (stored ++ [block]) block, next) ∧
      next.Holds size (stored ++ [block]) listed := by
  obtain ⟨took, number⟩ := holds.blocks.intern block
  refine ⟨{ builder with blocks := (builder.blocks.intern block).2 }, ?_, ?_⟩
  · have nonzero : builder.blockSize ≠ 0 := by rw [holds.blockSize]; omega
    unfold Builder.store
    rw [if_neg (by rw [holds.blockSize, fits]; simp), if_neg nonzero, ← number]
  · refine ⟨holds.blockSize, took, ?_, ?_, ?_⟩
    · rw [holds.stage1]
      refine List.map_congr_left fun other member => ?_
      rw [numberIn_append (holds.known other member)]
    · intro other member
      exact List.mem_append_left _ (holds.known other member)
    · intro other member
      rcases List.mem_append.mp member with earlier | added
      · exact holds.uniform other earlier
      · rw [List.mem_singleton.mp added, fits]

theorem store_of_length_ne {block : List Int}
    (misfit : (block.length : Int) ≠ builder.blockSize) :
    builder.store block = .error (.blockSize block.length builder.blockSize) := by
  unfold store
  rw [if_pos misfit]

theorem Holds.list (holds : builder.Holds size stored listed) {block : List Int}
    (member : block ∈ stored) (count : Int) :
    (builder.list (numberIn stored block) count).Holds size stored
      (listed ++ List.replicate count.toNat block) := by
  refine ⟨holds.blockSize, holds.blocks, ?_, ?_, holds.uniform⟩
  · simp [Builder.list, holds.stage1]
  · intro other listing
    rcases List.mem_append.mp listing with earlier | added
    · exact holds.known other earlier
    · rwa [List.eq_of_mem_replicate added]

theorem Holds.push (holds : builder.Holds size stored listed) (positive : 0 < size)
    {block : List Int} (fits : block.length = size) :
    ∃ next, builder.push block = .ok next ∧
      next.Holds size (stored ++ [block]) (listed ++ [block]) := by
  obtain ⟨middle, done, held⟩ := holds.store positive fits
  refine ⟨middle.list (numberIn (stored ++ [block]) block) 1, ?_, ?_⟩
  · simp only [Builder.push, done, bind, Except.bind, pure, Except.pure]
  · exact held.list (by simp) 1

theorem Holds.pushAll (holds : builder.Holds size stored listed) (positive : 0 < size)
    {blocks : List (List Int)} (fits : ∀ block ∈ blocks, block.length = size) :
    ∃ next, blocks.foldlM Builder.push builder = .ok next ∧
      next.Holds size (stored ++ blocks) (listed ++ blocks) := by
  induction blocks generalizing builder stored listed with
  | nil => exact ⟨builder, rfl, by simpa using holds⟩
  | cons block rest ih =>
      obtain ⟨middle, first, held⟩ := holds.push positive (fits block List.mem_cons_self)
      obtain ⟨next, others, kept⟩ :=
        ih held fun other member => fits other (List.mem_cons_of_mem block member)
      refine ⟨next, ?_, by simpa using kept⟩
      rw [List.foldlM_cons, first]
      exact others

/-! ## Taking a table -/

theorem Holds.addTable (holds : builder.Holds size stored listed) (positive : 0 < size)
    {table : Array Int} (room : Fillable table size) :
    ∃ next, builder.addTable table = .ok next ∧
      next.Holds size (stored ++ blocksOf table size) (listed ++ blocksOf table size) := by
  unfold Builder.addTable
  rw [if_neg (by rw [holds.blockSize]; omega)]
  by_cases isEmpty : table.size = 0
  · have nothing : blocksOf table size = [] := by
      apply List.eq_nil_of_length_eq_zero
      rw [length_blocksOf, isEmpty]
      exact Nat.div_eq_of_lt (by omega)
    refine ⟨builder, ?_, by simpa [nothing] using holds⟩
    rw [if_pos (by simp [Array.isEmpty, isEmpty])]
  · have checked : checkRepetition (max 0 (builder.blockSize - table.size)) = .ok () := by
      rw [checkRepetition_eq_ok_iff, holds.blockSize]
      have small := room.resolve_left isEmpty
      unfold Repeatable maxEntries wordLimit at *
      omega
    obtain ⟨next, taken, held⟩ :=
      holds.pushAll positive fun _ member => length_of_mem_blocksOf positive member
    refine ⟨next, ?_, held⟩
    rw [← map_blockOf table positive, List.foldlM_map] at taken
    rw [if_neg (by simp [Array.isEmpty, isEmpty, holds.blockSize]), checked]
    simp only [holds.blockSize, Int.toNat_natCast]
    exact taken

theorem Holds.addTable_of_not_fillable (holds : builder.Holds size stored listed)
    (positive : 0 < size) {table : Array Int} (full : ¬ Fillable table size) :
    ∃ fault, builder.addTable table = .error fault := by
  obtain ⟨filled, large⟩ := not_or.mp full
  unfold Builder.addTable
  rw [if_neg (by rw [holds.blockSize]; omega),
    if_neg (by simp [Array.isEmpty, filled, holds.blockSize])]
  cases checked : checkRepetition (max 0 (builder.blockSize - table.size)) with
  | error fault => exact ⟨fault, rfl⟩
  | ok =>
      have bounds := (checkRepetition_eq_ok_iff.mp checked).2
      rw [holds.blockSize] at bounds
      omega

/-! ## Both stages -/

theorem toList_stage2 (builder : Builder) :
    builder.stage2.toList = builder.blocks.entries.toList.flatten := by
  have behind : ∀ (blocks : List (List Int)) (found : Array Int),
      (blocks.foldl (fun found block => found ++ block.toArray) found).toList =
        found.toList ++ blocks.flatten := by
    intro blocks
    induction blocks with
    | nil => simp
    | cons block rest ih =>
        intro found
        rw [List.foldl_cons, ih, Array.toList_append, List.flatten_cons, List.append_assoc]
  unfold stage2
  rw [← Array.foldl_toList, behind, List.nil_append]

theorem Holds.toList_stage2_eq (holds : builder.Holds size stored listed) :
    builder.stage2.toList = stored.eraseDups.flatten := by
  rw [builder.toList_stage2, holds.blocks]

theorem Holds.length_of_mem_eraseDups (holds : builder.Holds size stored listed) :
    ∀ block ∈ stored.eraseDups, block.length = size :=
  fun block member => holds.uniform block (List.mem_eraseDups.mp member)

theorem Holds.size_stage2 (holds : builder.Holds size stored listed) :
    builder.stage2.size = size * stored.eraseDups.length := by
  rw [← Array.length_toList, holds.toList_stage2_eq,
    length_flatten_of_uniform holds.length_of_mem_eraseDups]

theorem Holds.length_of_mem_listed (holds : builder.Holds size stored listed) :
    ∀ block ∈ listed, block.length = size :=
  fun block member => holds.uniform block (holds.known block member)

theorem Holds.size_stage1 (holds : builder.Holds size stored listed) :
    builder.stage1.size = listed.length := by
  rw [← Array.length_toList, holds.stage1, List.length_map]

theorem Holds.getElem?_stage1 (holds : builder.Holds size stored listed) {position : Nat}
    {block : List Int} (found : listed[position]? = some block) :
    builder.stage1[position]? = some (numberIn stored block : Int) := by
  rw [← Array.getElem?_toList, holds.stage1, List.getElem?_map, found, Option.map_some]

theorem Holds.getElem?_stage2 (holds : builder.Holds size stored listed) {block : List Int}
    (member : block ∈ stored) {offset : Nat} (inside : offset < size) :
    builder.stage2[size * numberIn stored block + offset]? = block[offset]? := by
  rw [← Array.getElem?_toList, holds.toList_stage2_eq]
  exact getElem?_flatten_of_uniform holds.length_of_mem_eraseDups (getElem?_numberIn member)
    inside

theorem Holds.mem_stage1 (holds : builder.Holds size stored listed) {number : Int}
    (member : number ∈ builder.stage1) : 0 ≤ number ∧ number < stored.eraseDups.length := by
  rw [← Array.mem_toList_iff, holds.stage1] at member
  obtain ⟨block, listing, rfl⟩ := List.mem_map.mp member
  have bound := numberIn_lt (holds.known block listing)
  omega

end Builder

end CharacterTables.TwoStage
