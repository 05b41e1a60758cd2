import Mathlib
import CharacterTables.Proofs.Collection.Renumbering
import CharacterTables.Proofs.TwoStage.Recovery

/-!
# Splitting a renumbered table

A change of entries that keeps zero, keeps different entries apart and needs no wider element type
keeps the equalities between blocks at every shift. So the same shift wins, the first stage stays as
it is, and only the entries of the second stage are changed.
-/

set_option autoImplicit false

namespace CharacterTables.TwoStage

/-! ## Blocks -/

section Blocks

variable {table : Array Int} {size : Nat} {change : Int → Int}

theorem piece_map (change : Int → Int) (size : Nat) (entries : List Int) (number : Nat) :
    piece size (entries.map change) number = (piece size entries number).map change := by
  rw [piece, piece, List.map_take, List.map_drop]

theorem blocksOf_map (zero : change 0 = 0) :
    blocksOf (table.map change) size = (blocksOf table size).map (List.map change) := by
  have filled : padded (table.map change) size = (padded table size).map change := by
    simp [padded, zero]
  rw [blocksOf, blocksOf, filled, Array.size_map, List.map_map]
  exact List.map_congr_left fun number _ => piece_map change size _ number

theorem mem_of_mem_blocksOf {block : List Int} {entry : Int} (positive : 0 < size)
    (listed : block ∈ blocksOf table size) (member : entry ∈ block) :
    entry ∈ table ∨ entry = 0 := by
  have filled : entry ∈ padded table size := by
    rw [← flatten_blocksOf table positive]
    exact List.mem_flatten.mpr ⟨block, listed, member⟩
  exact mem_padded filled

/-- A change that keeps apart the entries of two lists keeps the lists apart. -/
theorem eq_of_map_eq {entries : Set Int} (injective : Set.InjOn change entries) :
    ∀ {first second : List Int}, (∀ entry ∈ first, entry ∈ entries) →
      (∀ entry ∈ second, entry ∈ entries) → first.map change = second.map change → first = second
  | [], [], _, _, _ => rfl
  | _ :: _, _ :: _, own, others, same => by
      rw [List.map_cons, List.map_cons, List.cons.injEq] at same
      rw [List.forall_mem_cons] at own others
      rw [injective own.1 others.1 same.1, eq_of_map_eq injective own.2 others.2 same.2]

/-- A change of entries that keeps zero and keeps the entries of a table and zero apart. -/
structure Renumbers (change : Int → Int) (table : Array Int) : Prop where
  zero : change 0 = 0
  injective : Set.InjOn change {entry | entry ∈ table ∨ entry = 0}

theorem Renumbers.injOn_blocks (renumbers : Renumbers change table) (positive : 0 < size) :
    Set.InjOn (List.map change) {block | block ∈ blocksOf table size} :=
  fun _ first _ second same => eq_of_map_eq renumbers.injective
    (fun _ member => mem_of_mem_blocksOf positive first member)
    (fun _ member => mem_of_mem_blocksOf positive second member) same

end Blocks

/-! ## Costs -/

section Costs

variable {table : Array Int} {change : Int → Int} (renumbers : Renumbers change table)
include renumbers

theorem distinctBlocks_map (shift : Nat) :
    distinctBlocks (table.map change) shift = distinctBlocks table shift := by
  unfold distinctBlocks
  rw [blocksOf_map renumbers.zero, eraseDups_map (renumbers.injOn_blocks (Nat.two_pow_pos shift)),
    List.length_map]

theorem splitCost_map (fits : Splittable table) (changed : Splittable (table.map change))
    (width : ElementWidth.ofEntries (table.map change) = ElementWidth.ofEntries table) :
    splitCost (table.map change) = splitCost table := by
  obtain ⟨own, found, size⟩ := ofEntries_table fits
  obtain ⟨other, alsoFound, alsoSize⟩ := ofEntries_table changed
  have same : own = other := Except.ok.inj (found.symm.trans (width.symm.trans alsoFound))
  funext shift
  unfold splitCost
  rw [distinctBlocks_map renumbers, Array.size_map, ← size, ← alsoSize, same]

end Costs

/-! ## Splits -/

theorem FirstLeast.unique {cost : Nat → Nat} {last winner other : Nat}
    (least : FirstLeast cost last winner) (again : FirstLeast cost last other) :
    winner = other := by
  rcases Nat.lt_trichotomy winner other with earlier | same | later
  · exact absurd (again.2.2 winner earlier) (least.2.1 other again.1).not_gt
  · exact same
  · exact absurd (least.2.2 other later) (again.2.1 winner least.1).not_gt

theorem ElementWidth.eq_of_size_eq {first second : ElementWidth}
    (same : first.size = second.size) : first = second := by
  cases first <;> cases second <;> first | rfl | cases same

/-- A split whose second stage has changed entries. -/
def Split.renumber (change : Int → Int) (split : Split) : Split :=
  { split with index2 := split.index2.map change }

theorem Split.eq_renumber {change : Int → Int} {split other : Split}
    (index1 : other.index1 = split.index1) (index2 : other.index2 = split.index2.map change)
    (shift : other.shift = split.shift) (width1 : other.width1 = split.width1)
    (width2 : other.width2 = split.width2) : other = split.renumber change := by
  cases other
  subst index1 index2 shift width1 width2
  rfl

theorem Split.byteSize_renumber (change : Int → Int) (split : Split) :
    (split.renumber change).byteSize = split.byteSize := by
  simp [Split.byteSize, Split.renumber]

/-- The stages of builders that took a table and the renumbered table. -/
theorem Builder.Holds.renumbered {table : Array Int} {change : Int → Int} {size : Nat}
    {builder other : Builder} (holds : builder.Holds size (blocksOf table size) (blocksOf table size))
    (renumbers : Renumbers change table) (positive : 0 < size)
    (again : other.Holds size (blocksOf (table.map change) size)
      (blocksOf (table.map change) size)) :
    other.stage1 = builder.stage1 ∧ other.stage2 = builder.stage2.map change := by
  have injective := renumbers.injOn_blocks positive
  have blocks : blocksOf (table.map change) size = (blocksOf table size).map (List.map change) :=
    blocksOf_map renumbers.zero
  constructor
  · rw [← Array.toList_inj, again.stage1, holds.stage1, blocks, List.map_map]
    refine List.map_congr_left fun block listed => ?_
    exact congrArg Int.ofNat (numberIn_map injective listed)
  · rw [← Array.toList_inj, again.toList_stage2_eq, Array.toList_map, holds.toList_stage2_eq,
      blocks, eraseDups_map injective, List.map_flatten]

/-- The search finds the same split of a renumbered table, but for the entries. -/
theorem search_map {table : Array Int} {change : Int → Int} (fits : Splittable table)
    (changed : Splittable (table.map change)) (renumbers : Renumbers change table)
    (width : ElementWidth.ofEntries (table.map change) = ElementWidth.ofEntries table) :
    ∃ found other, search table = .ok found ∧ search (table.map change) = .ok other ∧
      found.split.Recovers table ∧ other.split.Recovers (table.map change) ∧
      other.split = found.split.renumber change := by
  obtain ⟨top, shift, found, builder, isTop, least, searched, _, holds, first, second, shifted,
    width1, width2⟩ := search_eq fits
  obtain ⟨otherTop, otherShift, other, otherBuilder, otherIsTop, otherLeast, otherSearched, _,
    otherHolds, otherFirst, otherSecond, otherShifted, otherWidth1, otherWidth2⟩ :=
    search_eq changed
  have tops : otherTop = top := by
    rw [Array.size_map] at otherIsTop
    exact otherIsTop.unique isTop
  have shifts : otherShift = shift := by
    rw [splitCost_map renumbers fits changed width, tops] at otherLeast
    exact otherLeast.unique least
  subst tops shifts
  have recovers := recovers_of_holds fits (isTop.pow_le least.1) holds first second shifted
  have otherRecovers := recovers_of_holds changed (otherIsTop.pow_le otherLeast.1) otherHolds
    otherFirst otherSecond otherShifted
  obtain ⟨stage1, stage2⟩ := holds.renumbered renumbers (Nat.two_pow_pos _) otherHolds
  rw [distinctBlocks_map renumbers, ← width1] at otherWidth1
  refine ⟨found, other, searched, otherSearched, recovers, otherRecovers, ?_⟩
  refine Split.eq_renumber ?_ ?_ (otherShifted.trans shifted.symm)
    (ElementWidth.eq_of_size_eq otherWidth1)
    (Except.ok.inj (otherWidth2.symm.trans (width.trans width2)))
  · rw [otherFirst, stage1, first]
  · rw [otherSecond, stage2, second]

end CharacterTables.TwoStage
