import Mathlib
import CharacterTables.Generation
import CharacterTables.Proofs.Session.Outcome
import CharacterTables.Proofs.TwoStage.Checking
import CharacterTables.Proofs.TwoStage.Cost
import CharacterTables.Proofs.TwoStage.Lookup

/-!
# Splitting a table

Splitting succeeds for every table of unsigned 32-bit entries, the split passes its own
check, and looking an index up in it is looking it up in the table filled up to whole
blocks, from either end. The shift is the first of those at which the table takes the fewest
bytes.
-/

set_option autoImplicit false

namespace CharacterTables.TwoStage

/-! ## Splits that give a table back -/

namespace Split

/-- How long the table is that a split stands for: its entries filled up to whole blocks. -/
def wholeLength (split : Split) (table : Array Int) : Nat :=
  2 ^ split.shift.toNat * blockCount table.size (2 ^ split.shift.toNat)

/-- A split gives back the entries of a table, zeros in the rest of the last block, the
same from the end of that block, and a fault beyond either end. -/
structure Recovers (split : Split) (table : Array Int) : Prop where
  shifted : 0 ≤ split.shift
  entry : ∀ (index : Nat) (inside : index < table.size), split.lookup index = .ok table[index]
  filling : ∀ index : Nat, table.size ≤ index → index < split.wholeLength table →
    split.lookup index = .ok 0
  fromEnd : ∀ index : Int, -(split.wholeLength table) ≤ index → index < 0 →
    split.lookup index = split.lookup (index + split.wholeLength table)
  outside : ∀ index : Int,
    index < -(split.wholeLength table) ∨ split.wholeLength table ≤ index →
      ∃ fault, split.lookup index = .error (.lookup fault)

theorem Recovers.verify {split : Split} {table : Array Int} (recovers : split.Recovers table) :
    split.verify table = .ok () :=
  verify_eq_ok_iff.mpr (gives_toList_iff.mpr recovers.entry)

end Split

/-- The stages of a builder that took a table give the table back. -/
theorem recovers_of_holds {table : Array Int} {split : Split} {builder : Builder}
    {shift : Nat} (fits : Splittable table) (short : 2 ^ shift ≤ table.size)
    (holds : builder.Holds (2 ^ shift) (blocksOf table (2 ^ shift))
      (blocksOf table (2 ^ shift)))
    (first : split.index1 = builder.stage1) (second : split.index2 = builder.stage2)
    (shifted : split.shift = shift) : split.Recovers table := by
  have positive := Nat.two_pow_pos shift
  have few := fits.short
  have small : shift ≤ wordBits := by
    have bound : 2 ^ shift ≤ 2 ^ 32 := short.trans few
    have := (Nat.pow_le_pow_iff_right (by decide)).mp bound
    unfold wordBits
    omega
  have whole : split.wholeLength table = 2 ^ shift * split.index1.size := by
    unfold Split.wholeLength
    rw [shifted, Int.toNat_natCast, first, holds.size_stage1, length_blocksOf]
  have count := blockCount_le table.size positive
  have long := mul_blockCount_lt table.size positive
  have room1 : ((blocksOf table (2 ^ shift)).length : Int) ≤ wordLimit := by
    rw [length_blocksOf]
    unfold wordLimit
    omega
  have room2 : ((2 ^ shift * (blocksOf table (2 ^ shift)).eraseDups.length : Nat) : Int) ≤
      wordLimit := by
    have fewer := Nat.mul_le_mul_left (2 ^ shift) (length_eraseDups_le (blocksOf table (2 ^ shift)))
    rw [length_blocksOf] at fewer
    unfold wordLimit
    omega
  have found : ∀ {index : Nat} {entry : Int}, (padded table (2 ^ shift))[index]? = some entry →
      split.lookup index = .ok entry := by
    intro index entry listed
    rw [← flatten_blocksOf table positive] at listed
    exact holds.lookup first second shifted small room1 room2 listed
  have size1 : split.index1.size = blockCount table.size (2 ^ shift) := by
    rw [first, holds.size_stage1, length_blocksOf]
  refine ⟨by omega, ?_, ?_, ?_, ?_⟩
  · intro index inside
    apply found
    unfold padded
    rw [List.getElem?_append_left (by simpa using inside)]
    simp [inside]
  · intro index behind inside
    apply found
    rw [whole, size1] at inside
    unfold padded
    rw [List.getElem?_append_right (by simpa using behind), List.getElem?_replicate,
      Array.length_toList, if_pos (by omega)]
  · intro index inside negative
    have counterpart : 0 ≤ index + split.wholeLength table := by omega
    obtain ⟨place, same⟩ := Int.eq_ofNat_of_zero_le counterpart
    have counted : index = (place : Int) - (split.wholeLength table : Nat) := by omega
    have bound : place < 2 ^ shift * split.index1.size := by rw [← whole]; omega
    rw [same, counted, whole]
    refine Split.lookup_sub_length shifted small ?_ bound
    rwa [first, holds.size_stage1]
  · intro index outside
    refine Split.lookup_of_outside shifted small ?_
    rw [whole] at outside
    push_cast at outside
    exact outside

/-! ## Splitting as work -/

theorem outcome_split {table : Array Int} {found : Found} (searched : search table = .ok found)
    (recovers : found.split.Recovers table) (session : Session) :
    ∃ text, (Work.split table).outcome session = (.ok found.split, session.told text) := by
  obtain ⟨text, told⟩ := Work.outcome_forM_tellLine found.report session
  refine ⟨text, ?_⟩
  unfold Work.split
  rw [searched, mapError_ok, Work.outcome_bind_of_ok (Work.outcome_ofExcept _ session),
    Work.outcome_bind_of_ok told, recovers.verify, mapError_ok,
    Work.outcome_bind_of_ok (Work.outcome_ofExcept _ _)]
  rfl

theorem outcome_split_of_fault {table : Array Int} {fault : TableFault}
    (searched : search table = .error fault) (session : Session) :
    (Work.split table).outcome session = (.error (.table fault), session) := by
  unfold Work.split
  rw [searched, mapError_error]
  exact Work.outcome_bind_of_error (Work.outcome_ofExcept _ session) _

theorem exists_split {table : Array Int} (fits : Splittable table) (session : Session) :
    ∃ split text, (Work.split table).outcome session = (.ok split, session.told text) ∧
      split.Recovers table := by
  obtain ⟨top, shift, found, builder, isTop, least, searched, _, holds, first, second, shifted,
    _⟩ := search_eq fits
  have recovers := recovers_of_holds fits (isTop.pow_le least.1) holds first second shifted
  obtain ⟨text, ended⟩ := outcome_split searched recovers session
  exact ⟨found.split, text, ended, recovers⟩

/-- A table of unsigned 32-bit entries is split, and the split gives the table back. A table
without entries, or with an entry that no element type holds, is refused before anything is
told. -/
theorem split_recovers (table : Array Int) (session : Session) :
    (Splittable table → ∃ split text,
      (Work.split table).outcome session = (.ok split, session.told text) ∧
        split.Recovers table ∧ split.verify table = .ok ()) ∧
      (table.size = 0 →
        (Work.split table).outcome session = (.error (.table .emptySplit), session)) ∧
      ((∃ entry ∈ table, entry < 0) →
        (Work.split table).outcome session = (.error (.table .negativeValue), session)) ∧
      ((∀ entry ∈ table, 0 ≤ entry) → (∃ entry ∈ table, 2 ^ 32 ≤ entry) →
        (Work.split table).outcome session = (.error (.table .valueTooLarge), session)) := by
  refine ⟨?_, ?_, ?_, ?_⟩
  · intro fits
    obtain ⟨split, text, ended, recovers⟩ := exists_split fits session
    exact ⟨split, text, ended, recovers, recovers.verify⟩
  · intro empty
    exact outcome_split_of_fault (search_of_empty empty) session
  · rintro ⟨entry, listed, negative⟩
    have unfit := ofEntries_of_negative listed negative
    exact outcome_split_of_fault
      (search_of_unfit (Array.size_pos_of_mem listed) unfit) session
  · rintro nonneg ⟨entry, listed, large⟩
    have unfit := ofEntries_of_large nonneg listed large
    exact outcome_split_of_fault
      (search_of_unfit (Array.size_pos_of_mem listed) unfit) session

/-- A table whose length is no power of two, with a block that appears twice. -/
theorem split_recovers_repeated_block :
    Splittable #[1, 2, 1, 2, 3] ∧ ∃ split text,
      (Work.split #[1, 2, 1, 2, 3]).outcome ⟨.absent, ""⟩ =
        (.ok split, Session.told ⟨.absent, ""⟩ text) ∧
      split.Recovers #[1, 2, 1, 2, 3] ∧ split.verify #[1, 2, 1, 2, 3] = .ok () := by
  have fits : Splittable #[1, 2, 1, 2, 3] := ⟨by decide, by decide, by decide⟩
  exact ⟨fits, (split_recovers #[1, 2, 1, 2, 3] ⟨.absent, ""⟩).1 fits⟩

/-! ## The first of the cheapest splits -/

/-- A split of a table at a shift that is the first of the cheapest up to a largest one. -/
structure Split.Cheapest (split : Split) (table : Array Int) (top shift : Nat) : Prop where
  isTop : IsTopShift table.size top
  shifted : split.shift = shift
  least : FirstLeast (splitCost table) top shift
  byteSize : split.byteSize = splitCost table shift
  size1 : split.index1.size = blockCount table.size (2 ^ shift)
  size2 : split.index2.size = distinctBlocks table shift * 2 ^ shift
  width2 : ElementWidth.ofEntries table = .ok split.width2

/-- Of the shifts up to the largest one worth trying, the split of a table has the first at
which the table takes the fewest bytes, and it takes just these. -/
theorem split_cheapest (table : Array Int) (fits : Splittable table) (session : Session) :
    ∃ split text top shift,
      (Work.split table).outcome session = (.ok split, session.told text) ∧
        split.Cheapest table top shift ∧ split.byteSize ≤ splitCost table 0 ∧
        ∀ other, IsTopShift table.size other → other = top := by
  obtain ⟨top, shift, found, builder, isTop, least, searched, _, holds, first, second, shifted,
    width1, width2⟩ := search_eq fits
  have recovers :=
    recovers_of_holds fits (isTop.pow_le least.1) holds first second shifted
  obtain ⟨text, ended⟩ := outcome_split searched recovers session
  have size1 : found.split.index1.size = blockCount table.size (2 ^ shift) := by
    rw [first, holds.size_stage1, length_blocksOf]
  have size2 : found.split.index2.size = distinctBlocks table shift * 2 ^ shift := by
    rw [second, holds.size_stage2, Nat.mul_comm]
    rfl
  obtain ⟨width, own, entryBytes⟩ := ofEntries_table fits
  have same : width = found.split.width2 := Except.ok.inj (own.symm.trans width2)
  have bytes : found.split.byteSize = splitCost table shift := by
    unfold Split.byteSize splitCost
    rw [size1, size2, width1, ← same, entryBytes]
  refine ⟨found.split, text, top, shift, ended,
    ⟨isTop, shifted, least, bytes, size1, size2, width2⟩, ?_, ?_⟩
  · rw [bytes]
    exact least.2.1 0 (Nat.zero_le top)
  · intro other isOther
    exact isOther.unique isTop

/-- Four equal pairs of entries. -/
theorem split_cheapest_pairs :
    ∃ split text top shift,
      (Work.split #[1, 2, 1, 2, 1, 2, 1, 2]).outcome ⟨.absent, ""⟩ =
          (.ok split, Session.told ⟨.absent, ""⟩ text) ∧
        split.Cheapest #[1, 2, 1, 2, 1, 2, 1, 2] top shift ∧
        split.byteSize ≤ splitCost #[1, 2, 1, 2, 1, 2, 1, 2] 0 ∧
        ∀ other, IsTopShift 8 other → other = top :=
  split_cheapest #[1, 2, 1, 2, 1, 2, 1, 2] ⟨by decide, by decide, by decide⟩ ⟨.absent, ""⟩

end CharacterTables.TwoStage
