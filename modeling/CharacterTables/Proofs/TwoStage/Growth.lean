import Mathlib
import CharacterTables.Proofs.TwoStage.Cost
import CharacterTables.Proofs.TwoStage.History
import CharacterTables.Proofs.TwoStage.Lookup

/-!
# Splits of a growing builder

A split shares the stages of its builder. Whatever the builder takes later is only appended to
both stages, so a split taken earlier still gives what it gave, and gives what was added too. This
is so for blocks whose size is a power of two. For blocks of any other size the shift of the split
stands for smaller blocks, and the last entries are beyond its reach.
-/

set_option autoImplicit false

namespace CharacterTables.TwoStage

/-! ## Entries of a history -/

/-- The entries that a step brings along. -/
def Step.entries : Step → List Int
  | .block entries _ => entries
  | .table entries => entries.toList

theorem Step.mem_entries_of_mem_stored {step : Step} {size : Nat} (positive : 0 < size)
    {block : List Int} (known : block ∈ step.stored size) {entry : Int} (own : entry ∈ block) :
    entry ∈ step.entries ∨ entry = 0 := by
  cases step with
  | block entries count =>
      by_cases fits : entries.length = size
      · rw [stored, if_pos fits] at known
        cases List.mem_singleton.mp known
        exact .inl own
      · rw [stored, if_neg fits] at known
        cases known
  | table entries =>
      by_cases room : Fillable entries size
      · rw [stored, if_pos room] at known
        have member := List.mem_flatten.mpr ⟨block, known, own⟩
        rw [flatten_blocksOf entries positive] at member
        cases mem_padded member with
        | inl listed => exact .inl (Array.mem_toList_iff.mpr listed)
        | inr zero => exact .inr zero
      · rw [stored, if_neg room] at known
        cases known

/-! ## Giving entries back -/

/-- Looking up the indices of a list gives its entries. -/
def Split.Gives (split : Split) (entries : List Int) : Prop :=
  ∀ (index : Nat) (entry : Int), entries[index]? = some entry → split.lookup index = .ok entry

theorem Split.Gives.of_append {split : Split} {entries more : List Int}
    (gives : split.Gives (entries ++ more)) : split.Gives entries := by
  intro index entry found
  have inside := (List.getElem?_eq_some_iff.mp found).1
  exact gives index entry ((List.getElem?_append_left inside).trans found)

theorem Split.Gives.lookup_eq {first second : Split} {entries : List Int}
    (gives : first.Gives entries) (others : second.Gives entries) {index : Nat}
    (inside : index < entries.length) : first.lookup index = second.lookup index := by
  have found := List.getElem?_eq_getElem inside
  rw [gives index _ found, others index _ found]

namespace Builder

/-- Every entry of both stages has a position that is a machine word, as in all lists that a machine
can hold. -/
structure Addressable (builder : Builder) : Prop where
  stage1 : (builder.stage1.size : Int) ≤ wordLimit
  stage2 : (builder.stage2.size : Int) ≤ wordLimit

section Splitting

variable {builder : Builder} {size : Nat} {stored listed : List (List Int)} {split : Split}

/-- The shift of a split is the logarithm of the block size, rounded down. -/
theorem shift_toSplit (positive : 0 < size) : (bitLength (size : Int) : Int) - 1 = size.log2 := by
  unfold bitLength
  rw [if_neg (by omega), Int.natAbs_natCast]
  omega

/-- What a split shares with its builder. -/
structure Shares (split : Split) (builder : Builder) (size : Nat) : Prop where
  index1 : split.index1 = builder.stage1
  index2 : split.index2 = builder.stage2
  shift : split.shift = size.log2

theorem Shares.follow {later : Builder} (shares : Shares split builder size) :
    Shares (later.follow split) later size :=
  ⟨rfl, rfl, shares.shift⟩

theorem Holds.size_le_stage2 (holds : builder.Holds size stored listed)
    (filled : 0 < builder.stage1.size) : size ≤ builder.stage2.size := by
  rw [holds.size_stage1] at filled
  obtain ⟨block, listing⟩ := List.exists_mem_of_length_pos filled
  rw [holds.size_stage2]
  have known := List.mem_eraseDups.mpr (holds.known block listing)
  exact Nat.le_mul_of_pos_right size (List.length_pos_of_mem known)

theorem Holds.exists_toSplit (holds : builder.Holds size stored listed) (positive : 0 < size)
    (filled : 0 < builder.stage1.size)
    (unsigned : ∀ block ∈ stored, ∀ entry ∈ block, 0 ≤ entry ∧ entry < 2 ^ 32)
    (few : builder.blocks.size ≤ 2 ^ 32) :
    ∃ split, builder.toSplit = .ok split ∧ Shares split builder size := by
  have numbers : ∀ number ∈ builder.stage1, 0 ≤ number ∧ number < 2 ^ 32 := by
    intro number named
    obtain ⟨nonneg, bound⟩ := holds.mem_stage1 named
    rw [holds.blocks.size_eq] at few
    omega
  have entries : ∀ entry ∈ builder.stage2, 0 ≤ entry ∧ entry < 2 ^ 32 := by
    intro entry member
    rw [← Array.mem_toList_iff, holds.toList_stage2_eq] at member
    obtain ⟨block, known, own⟩ := List.mem_flatten.mp member
    exact unsigned block (List.mem_eraseDups.mp known) entry own
  obtain ⟨width1, first, _⟩ := ofEntries_of_unsigned filled numbers
  obtain ⟨width2, second, _⟩ :=
    ofEntries_of_unsigned (positive.trans_le (holds.size_le_stage2 filled)) entries
  refine ⟨⟨builder.stage1, builder.stage2, size.log2, width1, width2⟩, ?_, rfl, rfl, rfl⟩
  unfold toSplit Split.ofStages
  rw [first, second, holds.blockSize, shift_toSplit positive]
  rfl

/-- A block that fits into a stage is so short that its shift is used as it is. -/
theorem Holds.log2_le (holds : builder.Holds size stored listed) (positive : 0 < size)
    (filled : 0 < builder.stage1.size) (addressable : builder.Addressable) :
    size.log2 ≤ wordBits := by
  have short := holds.size_le_stage2 filled
  have room := addressable.stage2
  have power := Nat.log2_self_le positive.ne'
  have bound : 2 ^ size.log2 ≤ 2 ^ 63 := by
    unfold wordLimit at room
    omega
  have digits := (Nat.pow_le_pow_iff_right (by decide)).mp bound
  unfold wordBits
  omega

theorem Holds.gives {shift : Nat} (holds : builder.Holds (2 ^ shift) stored listed)
    (shares : Shares split builder (2 ^ shift)) (addressable : builder.Addressable) :
    split.Gives listed.flatten := by
  intro index entry found
  have inside := (List.getElem?_eq_some_iff.mp found).1
  have filled : 0 < builder.stage1.size := by
    rw [length_flatten_of_uniform holds.length_of_mem_listed] at inside
    rw [holds.size_stage1]
    exact Nat.pos_of_mul_pos_left (Nat.zero_lt_of_lt inside)
  have small := holds.log2_le (Nat.two_pow_pos shift) filled addressable
  have shifted := shares.shift
  rw [Nat.log2_two_pow] at small shifted
  refine holds.lookup shares.index1 shares.index2 shifted small ?_ ?_ found
  · rw [← holds.size_stage1]
    exact addressable.stage1
  · rw [← holds.size_stage2]
    exact addressable.stage2

/-- If the blocks are longer than the shift says, the last entry is behind the first stage. -/
theorem Holds.size_eq_of_gives (holds : builder.Holds size stored listed) (positive : 0 < size)
    (filled : 0 < builder.stage1.size) (addressable : builder.Addressable)
    (shares : Shares split builder size) (gives : split.Gives listed.flatten) :
    size = 2 ^ size.log2 := by
  by_contra other
  have shorter : 2 ^ size.log2 + 1 ≤ size :=
    Nat.lt_of_le_of_ne (Nat.log2_self_le positive.ne') (Ne.symm other)
  have whole := length_flatten_of_uniform holds.length_of_mem_listed
  rw [← holds.size_stage1] at whole
  have some := Nat.mul_pos positive filled
  have last : size * builder.stage1.size - 1 < listed.flatten.length := by omega
  -- Each block named is longer by one at least, so the blocks of the shift end before this index.
  have behind : 2 ^ size.log2 * builder.stage1.size ≤ size * builder.stage1.size - 1 := by
    have scaled := Nat.mul_le_mul_right builder.stage1.size shorter
    rw [Nat.add_mul, Nat.one_mul] at scaled
    omega
  have outside : (2 : Int) ^ size.log2 * split.index1.size ≤
      ((size * builder.stage1.size - 1 : Nat) : Int) := by
    rw [shares.index1]
    exact_mod_cast behind
  have found := gives _ _ (List.getElem?_eq_getElem last)
  obtain ⟨fault, failed⟩ := Split.lookup_of_outside shares.shift
    (holds.log2_le positive filled addressable) (.inr outside)
  rw [failed] at found
  cases found

end Splitting

/-- A split of a builder that names blocks gives back what the builder took just if the block size
is a power of two. Then it gives it back whatever the builder takes later, and gives that back too;
its element types are not affected. -/
theorem toSplit_recovers (size : Nat) (positive : 0 < size) (steps : List Step)
    (filled : 0 < ((empty size).run steps).stage1.size)
    (unsigned : ∀ step ∈ steps, ∀ entry ∈ step.entries, 0 ≤ entry ∧ entry < 2 ^ 32)
    (few : ((empty size).run steps).blocks.size ≤ 2 ^ 32)
    (addressable : ((empty size).run steps).Addressable) :
    ∃ split, ((empty size).run steps).toSplit = .ok split ∧
      (split.Gives (steps.flatMap (Step.content size)) ↔ ∃ shift, size = 2 ^ shift) ∧
      ∀ shift, size = 2 ^ shift → ∀ later, (((empty size).run steps).run later).Addressable →
        let now := (((empty size).run steps).run later).follow split
        (∀ index < (steps.flatMap (Step.content size)).length,
            now.lookup index = split.lookup index) ∧
          now.Gives ((steps ++ later).flatMap (Step.content size)) ∧
          now.width1 = split.width1 ∧ now.width2 = split.width2 := by
  have holds := (holds_empty size).run positive steps
  rw [List.nil_append, List.nil_append] at holds
  have bounded : ∀ block ∈ steps.flatMap (Step.stored size), ∀ entry ∈ block,
      0 ≤ entry ∧ entry < 2 ^ 32 := by
    intro block known entry own
    obtain ⟨step, member, known⟩ := List.mem_flatMap.mp known
    cases Step.mem_entries_of_mem_stored positive known own with
    | inl brought => exact unsigned step member entry brought
    | inr zero => simp [zero]
  obtain ⟨split, taken, shares⟩ := holds.exists_toSplit positive filled bounded few
  have contents := Step.flatten_flatMap_listed steps positive
  refine ⟨split, taken, ⟨?_, ?_⟩, ?_⟩
  · intro gives
    rw [← contents] at gives
    exact ⟨size.log2, holds.size_eq_of_gives positive filled addressable shares gives⟩
  · rintro ⟨shift, rfl⟩
    rw [← contents]
    exact holds.gives shares addressable
  · rintro shift rfl later roomy
    -- The grown builder still holds what was taken before, with what was taken since behind it.
    have grown := (holds.run positive later).gives shares.follow roomy
    rw [List.flatten_append, contents, Step.flatten_flatMap_listed later positive] at grown
    have before : split.Gives (steps.flatMap (Step.content (2 ^ shift))) := by
      rw [← contents]
      exact holds.gives shares addressable
    refine ⟨fun index inside => grown.of_append.lookup_eq before inside, ?_, rfl, rfl⟩
    rw [List.flatMap_append]
    exact grown

/-- A split taken before a block is added finds its own entries and the first one added. -/
theorem toSplit_recovers_pairs :
    let steps := [Step.block [5, 5] 2, .table #[1, 2, 3]]
    let builder := (empty 2).run steps
    0 < builder.stage1.size ∧ (∀ step ∈ steps, ∀ entry ∈ step.entries, 0 ≤ entry ∧ entry < 2 ^ 32) ∧
      builder.blocks.size ≤ 2 ^ 32 ∧ builder.Addressable ∧
      ∃ split, builder.toSplit = .ok split ∧ split.lookup 6 = .ok 3 ∧
        ((builder.run [.block [700, 7] 1]).follow split).lookup 6 = .ok 3 ∧
        ((builder.run [.block [700, 7] 1]).follow split).lookup 8 = .ok 700 := by
  have filled : 0 < ((empty 2).run [.block [5, 5] 2, .table #[1, 2, 3]]).stage1.size := by
    decide +kernel
  have unsigned : ∀ step ∈ [Step.block [5, 5] 2, .table #[1, 2, 3]],
      ∀ entry ∈ step.entries, 0 ≤ entry ∧ entry < 2 ^ 32 := by
    decide +kernel
  have few : ((empty 2).run [.block [5, 5] 2, .table #[1, 2, 3]]).blocks.size ≤ 2 ^ 32 := by
    decide +kernel
  have addressable : ((empty 2).run [.block [5, 5] 2, .table #[1, 2, 3]]).Addressable :=
    ⟨by decide +kernel, by decide +kernel⟩
  obtain ⟨split, taken, gives, grows⟩ :=
    toSplit_recovers 2 (by decide) _ filled unsigned few addressable
  obtain ⟨_, now, _⟩ := grows 1 rfl [.block [700, 7] 1] ⟨by decide +kernel, by decide +kernel⟩
  exact ⟨filled, unsigned, few, addressable, split, taken,
    gives.mpr ⟨1, rfl⟩ 6 3 (by decide +kernel), now 6 3 (by decide +kernel),
    now 8 700 (by decide +kernel)⟩

end Builder

end CharacterTables.TwoStage
