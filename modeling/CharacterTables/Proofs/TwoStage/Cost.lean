import Mathlib
import CharacterTables.Proofs.Outcome
import CharacterTables.Proofs.TwoStage.Contents
import CharacterTables.TwoStage.Search

/-!
# What a split costs

The bytes of a candidate depend on the table only through the number of its distinct blocks
and its greatest entry. The search keeps the first of the cheapest candidates.
-/

set_option autoImplicit false

namespace CharacterTables.TwoStage

/-! ## Element widths -/

/-- The bytes of the narrowest unsigned type for values from zero up to `greatest`, if a
type of 32 bits is wide enough. -/
def bytesFor (greatest : Int) : Nat :=
  if greatest < 2 ^ 8 then 1 else if greatest < 2 ^ 16 then 2 else 4

theorem foldl_max_le_iff {entries : List Int} {start bound : Int} :
    entries.foldl max start ≤ bound ↔ start ≤ bound ∧ ∀ entry ∈ entries, entry ≤ bound := by
  induction entries generalizing start with
  | nil => simp
  | cons entry rest ih =>
      rw [List.foldl_cons, ih, Int.max_le, List.forall_mem_cons, and_assoc]

theorem ofEntries_eq_ofGreatest {entries : Array Int} {greatest : Int}
    (member : greatest ∈ entries) (upper : ∀ entry ∈ entries, entry ≤ greatest)
    (nonneg : ∀ entry ∈ entries, 0 ≤ entry) :
    ElementWidth.ofEntries entries = ElementWidth.ofGreatest greatest := by
  have filled : entries.isEmpty = false := by
    rw [Array.isEmpty_eq_false_iff]
    rintro rfl
    simp at member
  have unsigned : entries.any (· < 0) = false := by
    rw [Array.any_eq_false']
    intro entry listed
    have bound := nonneg entry listed
    simpa using bound
  have same : entries.foldl max 0 = greatest := by
    rw [← Array.foldl_toList]
    refine le_antisymm (foldl_max_le_iff.mpr ⟨nonneg greatest member, ?_⟩) ?_
    · intro entry listed
      exact upper entry (Array.mem_toList_iff.mp listed)
    · exact (foldl_max_le_iff.mp le_rfl).2 greatest (Array.mem_toList_iff.mpr member)
  unfold ElementWidth.ofEntries
  rw [filled, unsigned, same]
  rfl

theorem ofGreatest_of_lt {greatest : Int} (bound : greatest < 2 ^ 32) :
    ∃ width, ElementWidth.ofGreatest greatest = .ok width ∧ width.size = bytesFor greatest := by
  unfold ElementWidth.ofGreatest bytesFor ElementWidth.limit
  by_cases first : greatest ≤ 0xFF
  · exact ⟨.u8, by rw [if_pos first], by rw [if_pos (by omega)]; rfl⟩
  · by_cases second : greatest ≤ 0xFFFF
    · refine ⟨.u16, by rw [if_neg first, if_pos second], ?_⟩
      rw [if_neg (by omega), if_pos (by omega)]
      rfl
    · have third : greatest ≤ 0xFFFFFFFF := by omega
      refine ⟨.u32, by rw [if_neg first, if_neg second, if_pos third], ?_⟩
      rw [if_neg (by omega), if_neg (by omega)]
      rfl

/-! ## Tables that can be split -/

/-- A table with entries, as many as 32 bits can count, each an unsigned number of 32
bits. -/
structure Splittable (table : Array Int) : Prop where
  filled : 0 < table.size
  short : table.size ≤ 2 ^ 32
  unsigned : ∀ entry ∈ table, 0 ≤ entry ∧ entry < 2 ^ 32

/-- The greatest entry of a table that has any. -/
def greatest (table : Array Int) : Int :=
  table.toList.max?.getD 0

theorem greatest_spec {table : Array Int} (filled : 0 < table.size) :
    greatest table ∈ table ∧ ∀ entry ∈ table, entry ≤ greatest table := by
  cases found : table.toList.max? with
  | none =>
      rw [List.max?_eq_none_iff] at found
      rw [← Array.length_toList, found] at filled
      simp at filled
  | some value =>
      obtain ⟨member, upper⟩ := List.max?_eq_some_iff.mp found
      unfold greatest
      rw [found, Option.getD_some]
      exact ⟨Array.mem_toList_iff.mp member, fun entry listed =>
        upper entry (Array.mem_toList_iff.mpr listed)⟩

theorem ofEntries_of_unsigned {entries : Array Int} (filled : 0 < entries.size)
    (unsigned : ∀ entry ∈ entries, 0 ≤ entry ∧ entry < 2 ^ 32) :
    ∃ width, ElementWidth.ofEntries entries = .ok width ∧
      width.size = bytesFor (greatest entries) := by
  obtain ⟨member, upper⟩ := greatest_spec filled
  rw [ofEntries_eq_ofGreatest member upper fun entry listed => (unsigned entry listed).1]
  exact ofGreatest_of_lt (unsigned _ member).2

/-- A negative entry is reported whatever the other entries are. -/
theorem ofEntries_of_negative {entries : Array Int} {entry : Int} (listed : entry ∈ entries)
    (negative : entry < 0) : ElementWidth.ofEntries entries = .error .negativeValue := by
  have filled : entries.isEmpty = false := by
    rw [Array.isEmpty_eq_false_iff]
    rintro rfl
    simp at listed
  have signed : entries.any (· < 0) = true :=
    Array.any_eq_true'.mpr ⟨entry, listed, by simpa using negative⟩
  unfold ElementWidth.ofEntries
  rw [filled, signed]
  rfl

theorem ofEntries_of_large {entries : Array Int} (nonneg : ∀ entry ∈ entries, 0 ≤ entry)
    {entry : Int} (listed : entry ∈ entries) (large : 2 ^ 32 ≤ entry) :
    ElementWidth.ofEntries entries = .error .valueTooLarge := by
  obtain ⟨member, upper⟩ := greatest_spec (Array.size_pos_of_mem listed)
  have above := upper entry listed
  have first : ¬ greatest entries ≤ 0xFF := by omega
  have second : ¬ greatest entries ≤ 0xFFFF := by omega
  have third : ¬ greatest entries ≤ 0xFFFFFFFF := by omega
  rw [ofEntries_eq_ofGreatest member upper nonneg]
  unfold ElementWidth.ofGreatest ElementWidth.limit
  rw [if_neg first, if_neg second, if_neg third]

/-- How many different blocks a table has when it is cut at a shift. -/
def distinctBlocks (table : Array Int) (shift : Nat) : Nat :=
  (blocksOf table (2 ^ shift)).eraseDups.length

/-- The bytes that a table takes when it is split at a shift: for each block a number below
the count of different blocks, and each different block once. -/
def splitCost (table : Array Int) (shift : Nat) : Nat :=
  blockCount table.size (2 ^ shift) * bytesFor (distinctBlocks table shift - 1) +
    distinctBlocks table shift * 2 ^ shift * bytesFor (greatest table)

theorem distinctBlocks_pos {table : Array Int} (filled : 0 < table.size) (shift : Nat) :
    0 < distinctBlocks table shift := by
  have positive := Nat.two_pow_pos shift
  have listed := blockCount_pos positive filled
  rw [← length_blocksOf table] at listed
  obtain ⟨block, member⟩ := List.exists_mem_of_length_pos listed
  exact List.length_pos_of_mem (List.mem_eraseDups.mpr member)

theorem distinctBlocks_le (table : Array Int) (shift : Nat) :
    distinctBlocks table shift ≤ table.size := by
  refine (length_eraseDups_le _).trans ?_
  rw [length_blocksOf]
  exact blockCount_le table.size (Nat.two_pow_pos shift)

/-! ## Candidates -/

section Candidates

variable {table : Array Int} {shift : Nat} {builder : Builder}

/-- The first stage of a builder that took a table needs the width of the count of different
blocks. -/
theorem width_stage1 (fits : Splittable table)
    (holds : builder.Holds (2 ^ shift) (blocksOf table (2 ^ shift))
      (blocksOf table (2 ^ shift))) :
    ∃ width, ElementWidth.ofEntries builder.stage1 = .ok width ∧
      width.size = bytesFor (distinctBlocks table shift - 1) := by
  have positive := distinctBlocks_pos fits.filled shift
  have few := (distinctBlocks_le table shift).trans fits.short
  have last : ((distinctBlocks table shift : Int) - 1) ∈ builder.stage1 := by
    obtain ⟨block, member, number⟩ :=
      exists_numberIn_eq (Nat.sub_lt positive Nat.one_pos)
    rw [← Array.mem_toList_iff, holds.stage1]
    refine List.mem_map.mpr ⟨block, member, ?_⟩
    rw [number]
    exact Int.natCast_sub positive
  rw [ofEntries_eq_ofGreatest last ?_ fun number listed => (holds.mem_stage1 listed).1]
  · exact ofGreatest_of_lt (by omega)
  · intro number listed
    have bound : number < distinctBlocks table shift := (holds.mem_stage1 listed).2
    omega

/-- The second stage needs the width of the table itself: filling up with zeros does not
change it, and every entry of the table is in some block. -/
theorem width_stage2 (fits : Splittable table)
    (holds : builder.Holds (2 ^ shift) (blocksOf table (2 ^ shift))
      (blocksOf table (2 ^ shift))) :
    ElementWidth.ofEntries builder.stage2 = ElementWidth.ofEntries table := by
  have entries : ∀ entry, entry ∈ builder.stage2 ↔ entry ∈ padded table (2 ^ shift) := by
    intro entry
    rw [← Array.mem_toList_iff, holds.toList_stage2_eq, List.mem_flatten,
      ← flatten_blocksOf table (Nat.two_pow_pos shift), List.mem_flatten]
    simp only [List.mem_eraseDups]
  obtain ⟨member, upper⟩ := greatest_spec fits.filled
  have nonneg := (fits.unsigned _ member).1
  rw [ofEntries_eq_ofGreatest member upper fun entry listed => (fits.unsigned entry listed).1]
  refine ofEntries_eq_ofGreatest ?_ ?_ ?_
  · rw [entries]
    exact List.mem_append_left _ (Array.mem_toList_iff.mpr member)
  · intro entry listed
    rcases mem_padded ((entries entry).mp listed) with own | rfl
    · exact upper entry own
    · exact nonneg
  · intro entry listed
    rcases mem_padded ((entries entry).mp listed) with own | rfl
    · exact (fits.unsigned entry own).1
    · exact le_rfl

theorem ofEntries_table (fits : Splittable table) :
    ∃ width, ElementWidth.ofEntries table = .ok width ∧
      width.size = bytesFor (greatest table) :=
  ofEntries_of_unsigned fits.filled fits.unsigned

theorem byteSize_eq (fits : Splittable table)
    (holds : builder.Holds (2 ^ shift) (blocksOf table (2 ^ shift))
      (blocksOf table (2 ^ shift))) : builder.byteSize = .ok (splitCost table shift) := by
  obtain ⟨width1, first, size1⟩ := width_stage1 fits holds
  obtain ⟨width2, own, size2⟩ := ofEntries_table fits
  have second := (width_stage2 fits holds).trans own
  unfold Builder.byteSize tableBytes splitCost
  rw [first, second, ok_bind, ok_bind]
  simp only [ok_bind, pure, Except.pure, holds.size_stage1, holds.size_stage2, length_blocksOf,
    size1, size2]
  rw [Nat.mul_comm (2 ^ shift)]
  rfl

/-- A candidate whose blocks are no longer than the table can be made. -/
theorem candidate_eq (fits : Splittable table) (short : 2 ^ shift ≤ table.size) :
    ∃ builder, candidate table shift = .ok (builder, splitCost table shift) ∧
      builder.Holds (2 ^ shift) (blocksOf table (2 ^ shift)) (blocksOf table (2 ^ shift)) := by
  obtain ⟨builder, taken, holds⟩ :=
    (Builder.holds_empty (2 ^ shift)).addTable (Nat.two_pow_pos shift) (fillable_of_le short)
  rw [List.nil_append] at holds
  refine ⟨builder, ?_, holds⟩
  unfold candidate blockLength
  rw [Nat.one_shiftLeft, taken, ok_bind, byteSize_eq fits holds, ok_bind]
  rfl

end Candidates

/-! ## The first of the cheapest -/

/-- The least of the numbers up to `last` at which a cost is least. -/
def FirstLeast (cost : Nat → Nat) (last winner : Nat) : Prop :=
  winner ≤ last ∧ (∀ other ≤ last, cost winner ≤ cost other) ∧
    ∀ other < winner, cost winner < cost other

theorem firstLeast_zero (cost : Nat → Nat) : FirstLeast cost 0 0 := by
  refine ⟨le_rfl, ?_, by simp⟩
  intro other bound
  rw [Nat.le_zero.mp bound]

/-- One more number wins only if it is cheaper than all before. -/
theorem FirstLeast.succ {cost : Nat → Nat} {last winner : Nat}
    (least : FirstLeast cost last winner) :
    FirstLeast cost (last + 1)
      (if cost (last + 1) < cost winner then last + 1 else winner) := by
  obtain ⟨inside, below, before⟩ := least
  by_cases cheaper : cost (last + 1) < cost winner
  · rw [if_pos cheaper]
    refine ⟨le_rfl, ?_, ?_⟩
    · intro other bound
      rcases Nat.le_succ_iff.mp bound with earlier | rfl
      · exact cheaper.le.trans (below other earlier)
      · exact le_rfl
    · intro other earlier
      exact cheaper.trans_le (below other (Nat.le_of_lt_succ earlier))
  · rw [if_neg cheaper]
    refine ⟨inside.trans (Nat.le_succ last), ?_, before⟩
    intro other bound
    rcases Nat.le_succ_iff.mp bound with earlier | rfl
    · exact below other earlier
    · exact Nat.le_of_not_lt cheaper

/-- The search over the shifts behind `last` goes on from the winner so far. -/
theorem bestCandidate_eq {table : Array Int} {builderAt : Nat → Builder} {cost : Nat → Nat}
    (last count : Nat) {winner : Nat}
    (made : ∀ shift ≤ last + count, candidate table shift = .ok (builderAt shift, cost shift))
    (least : FirstLeast cost last winner) :
    ∃ final, FirstLeast cost (last + count) final ∧
      bestCandidate table (builderAt winner, cost winner) (List.range' (last + 1) count) =
        .ok (builderAt final, cost final) := by
  induction count generalizing last winner with
  | zero => exact ⟨winner, least, rfl⟩
  | succ count ih =>
      obtain ⟨final, isLeast, searched⟩ := ih (last + 1)
        (fun shift bound => made shift (by omega)) least.succ
      refine ⟨final, ?_, ?_⟩
      · rwa [Nat.add_right_comm, Nat.add_assoc] at isLeast
      · rw [List.range'_succ, bestCandidate, made (last + 1) (by omega), ok_bind, ← searched]
        unfold better
        split <;> rfl

/-! ## The largest shift -/

/-- The largest shift tried for a table of a given length: the last one that leaves more
than one block, or zero for a single entry. -/
def IsTopShift (length top : Nat) : Prop :=
  (length = 1 ∧ top = 0) ∨ (2 ^ top < length ∧ length ≤ 2 ^ (top + 1))

theorem IsTopShift.unique {length top other : Nat} (first : IsTopShift length top)
    (second : IsTopShift length other) : top = other := by
  have power : ∀ {left right : Nat}, 2 ^ left < 2 ^ (right + 1) → left ≤ right := by
    intro left right bound
    exact Nat.le_of_lt_succ ((Nat.pow_lt_pow_iff_right (by decide)).mp bound)
  have large : ∀ shift : Nat, 1 ≤ 2 ^ shift := fun shift => Nat.two_pow_pos shift
  rcases first with ⟨single, rfl⟩ | ⟨below, above⟩
  · rcases second with ⟨_, rfl⟩ | ⟨below', _⟩
    · rfl
    · exact absurd (large other) (by omega)
  · rcases second with ⟨single, rfl⟩ | ⟨below', above'⟩
    · exact absurd (large top) (by omega)
    · exact le_antisymm (power (below.trans_le above')) (power (below'.trans_le above))

theorem IsTopShift.pow_le {length top shift : Nat} (isTop : IsTopShift length top)
    (bound : shift ≤ top) : 2 ^ shift ≤ length := by
  have smaller : 2 ^ shift ≤ 2 ^ top := Nat.pow_le_pow_right (by decide) bound
  rcases isTop with ⟨rfl, rfl⟩ | ⟨below, _⟩
  · simpa using smaller
  · omega

theorem maximumShift_eq {length : Nat} (filled : 0 < length) :
    ∃ top, maximumShift length = .ok top ∧ IsTopShift length top := by
  refine ⟨bitLength ((length : Int) - 1) - 1, ?_, ?_⟩
  · unfold maximumShift
    rw [if_neg (by omega)]
  · by_cases single : length = 1
    · exact .inl ⟨single, by subst single; rfl⟩
    · have nonzero : length - 1 ≠ 0 := by omega
      have digits : bitLength ((length : Int) - 1) - 1 = (length - 1).log2 := by
        unfold bitLength
        rw [if_neg (by omega), Nat.add_sub_cancel]
        congr 1
        omega
      have bounds := (Nat.log2_eq_iff nonzero).mp rfl
      rw [digits]
      exact .inr (by omega)

/-! ## The search -/

/-- The first of the cheapest shifts is found, with the stages of the builder that took the
table at that shift. -/
theorem search_eq {table : Array Int} (fits : Splittable table) :
    ∃ (top shift : Nat) (found : Found) (builder : Builder), IsTopShift table.size top ∧
      FirstLeast (splitCost table) top shift ∧ search table = .ok found ∧
      found.bytes = splitCost table shift ∧
      builder.Holds (2 ^ shift) (blocksOf table (2 ^ shift)) (blocksOf table (2 ^ shift)) ∧
      found.split.index1 = builder.stage1 ∧ found.split.index2 = builder.stage2 ∧
      found.split.shift = shift ∧
      found.split.width1.size = bytesFor (distinctBlocks table shift - 1) ∧
      ElementWidth.ofEntries table = .ok found.split.width2 := by
  obtain ⟨top, maximum, isTop⟩ := maximumShift_eq fits.filled
  have candidates : ∀ shift, ∃ builder, shift ≤ top →
      candidate table shift = .ok (builder, splitCost table shift) ∧
        builder.Holds (2 ^ shift) (blocksOf table (2 ^ shift))
          (blocksOf table (2 ^ shift)) := by
    intro shift
    by_cases bound : shift ≤ top
    · obtain ⟨builder, made, holds⟩ := candidate_eq fits (isTop.pow_le bound)
      exact ⟨builder, fun _ => ⟨made, holds⟩⟩
    · exact ⟨Builder.empty 0, fun inside => absurd inside bound⟩
  choose builderAt made using candidates
  obtain ⟨shift, least, searched⟩ := bestCandidate_eq 0 top
    (fun shift bound => (made shift (by omega)).1) (firstLeast_zero (splitCost table))
  rw [Nat.zero_add] at least
  obtain ⟨-, holds⟩ := made shift least.1
  obtain ⟨width1, first, size1⟩ := width_stage1 fits holds
  obtain ⟨width2, own, size2⟩ := ofEntries_table fits
  have second := (width_stage2 fits holds).trans own
  refine ⟨top, shift, ⟨⟨(builderAt shift).stage1, (builderAt shift).stage2, shift, width1, width2⟩,
    splitCost table shift, table.size * width2.size⟩, builderAt shift, isTop, least, ?_, rfl,
    holds, rfl, rfl, rfl, size1, own⟩
  have size : bitLength (builderAt shift).blockSize = shift + 1 := by
    rw [holds.blockSize]
    unfold bitLength
    rw [if_neg (by simp), Int.natAbs_natCast, Nat.log2_two_pow]
  unfold search
  rw [maximum, ok_bind]
  unfold tableBytes
  rw [own, ok_bind, (made 0 (Nat.zero_le top)).1]
  simp only [pure, Except.pure, ok_bind]
  rw [searched, ok_bind]
  unfold Builder.toSplit Split.ofStages
  rw [first, second, size, ok_bind, ok_bind]
  simp

theorem search_of_empty {table : Array Int} (empty : table.size = 0) :
    search table = .error .emptySplit := by
  unfold search maximumShift
  rw [empty]
  rfl

/-- A table with an entry that no element type holds is refused for that reason. -/
theorem search_of_unfit {table : Array Int} {fault : TableFault} (filled : 0 < table.size)
    (unfit : ElementWidth.ofEntries table = .error fault) : search table = .error fault := by
  obtain ⟨top, maximum, _⟩ := maximumShift_eq filled
  unfold search
  rw [maximum, ok_bind]
  unfold tableBytes
  rw [unfit]
  rfl

end CharacterTables.TwoStage
