import Mathlib
import CharacterTables.Proofs.FoldClasses

/-!
# When equivalents are mutual

Nothing keeps a file from folding a code twice, to itself, or to a code that folds further. The
lists of equivalents then need not be mutual: a code may stand in its own list, stand twice in
another, or stand in the list of a code that does not stand in its own. Which folds keep the lists
in order is said in terms of the folds alone.
-/

set_option autoImplicit false

namespace CharacterTables

/-- Lists of equivalents in order: whoever lists a code is listed by it, no code lists itself, and
none is listed twice. -/
structure Folding.Mutual (folding : Folding) : Prop where
  symmetric : ∀ code other,
    other ∈ folding.equivalentsOf code ↔ code ∈ folding.equivalentsOf other
  apart : ∀ code, code ∉ folding.equivalentsOf code
  nodup : ∀ code, (folding.equivalentsOf code).Nodup

/-- Folds that do not get in each other's way. What a code folds to is decided by the last of its
folds, but all of them are listed. -/
structure Coherent (folds : List CaseFold) : Prop where
  /-- Nothing folds to a code of which some fold leads to itself. -/
  own : ∀ fold ∈ folds, fold.mapping = fold.code →
    ∀ code, mappingOf folds code ≠ some fold.code
  /-- Where a code folds to a code that folds further, this leads back, or to where another fold
  of the first code leads. -/
  chained : ∀ code mapping target, mappingOf folds code = some mapping →
    mappingOf folds mapping = some target → target = code ∨ code ∈ codesTo folds target
  /-- A fold that is not the last of its code leads to a code that folds further. Each code that
  folds there at last is where the last fold leads, or has a fold that leads to the same. -/
  replaced : ∀ fold ∈ folds, ∀ target, mappingOf folds fold.code = some target →
    target ≠ fold.mapping → mappingOf folds fold.mapping ≠ none ∧
      ∀ code, mappingOf folds code = some fold.mapping →
        target = code ∨ code ∈ codesTo folds target
  /-- Where a code folds twice to the same mapping, this folds further and nothing else folds
  there. -/
  repeated : ∀ code mapping, 1 < (codesTo folds mapping).count code →
    mappingOf folds mapping ≠ none ∧
      ∀ other, mappingOf folds other = some mapping → other = code

/-- A mapping that folds further folds straight back to another code. -/
def FoldsBack (folds : List CaseFold) : Prop :=
  ∀ fold ∈ folds, ∀ target ∈ mappingOf folds fold.mapping,
    target = fold.code ∧ fold.mapping ≠ fold.code

instance (folds : List CaseFold) : Decidable (FoldsBack folds) :=
  inferInstanceAs (Decidable (∀ fold ∈ folds, ∀ target ∈ mappingOf folds fold.mapping,
    target = fold.code ∧ fold.mapping ≠ fold.code))

variable {folds : List CaseFold} {code other mapping target : Int}

open FoldMaps

/-! ## Folds and relatives -/

theorem exists_mappingOf (member : code ∈ codesTo folds mapping) :
    ∃ target, mappingOf folds code = some target := by
  obtain ⟨fold, listed, own, _⟩ := mem_codesTo.mp member
  cases folded : mappingOf folds code with
  | some target => exact ⟨target, rfl⟩
  | none =>
      have absent := lastWith_eq_none_iff.mp (Option.map_eq_none_iff.mp folded) fold listed
      simp [own] at absent

theorem mem_codesTo_of_mappingOf (folded : mappingOf folds code = some mapping) :
    code ∈ codesTo folds mapping :=
  mem_codesTo.mpr (exists_of_mappingOf folded)

theorem mem_relatives_of_some (folded : mappingOf folds code = some mapping) :
    other ∈ relatives folds code ↔
      other = mapping ∨ other ∈ codesTo folds mapping ∧ other ≠ code := by
  rw [relatives_of_some folded, List.mem_cons, List.mem_filter, bne_iff_ne]

theorem mem_relatives_of_none (unfolded : mappingOf folds code = none) :
    other ∈ relatives folds code ↔ other ∈ codesTo folds code := by
  rw [relatives_of_none unfolded]

/-- A code is its own relative just if it folds to itself at last. -/
theorem mem_relatives_self_iff :
    code ∈ relatives folds code ↔ mappingOf folds code = some code := by
  cases folded : mappingOf folds code with
  | some mapping =>
      rw [mem_relatives_of_some folded, Option.some.injEq, eq_comm]
      exact or_iff_left fun both => both.2 rfl
  | none =>
      rw [mem_relatives_of_none folded]
      constructor
      · intro member
        obtain ⟨target, again⟩ := exists_mappingOf member
        cases folded.symm.trans again
      · intro absurd
        cases absurd

/-! ## From the folds to the lists -/

namespace Coherent

variable (coherent : Coherent folds)
include coherent

theorem mappingOf_ne_self (code : Int) : mappingOf folds code ≠ some code := by
  intro folded
  obtain ⟨fold, listed, rfl, same⟩ := exists_of_mappingOf folded
  exact coherent.own fold listed same fold.code folded

theorem mem_relatives_symm (related : other ∈ relatives folds code) :
    code ∈ relatives folds other := by
  cases folded : mappingOf folds code with
  | none =>
      obtain ⟨fold, listed, rfl, rfl⟩ := mem_codesTo.mp ((mem_relatives_of_none folded).mp related)
      obtain ⟨target, last⟩ := exists_mappingOf (mem_codesTo.mpr ⟨fold, listed, rfl, rfl⟩)
      rw [mem_relatives_of_some last]
      by_cases same : target = fold.mapping
      · exact .inl same.symm
      · exact absurd folded (coherent.replaced fold listed target last same).1
  | some mapping =>
      rcases (mem_relatives_of_some folded).mp related with rfl | ⟨member, different⟩
      · cases further : mappingOf folds other with
        | none =>
            exact (mem_relatives_of_none further).mpr (mem_codesTo_of_mappingOf folded)
        | some target =>
            rw [mem_relatives_of_some further]
            rcases coherent.chained code other target folded further with rfl | back
            · exact .inl rfl
            · refine .inr ⟨back, ?_⟩
              rintro rfl
              exact coherent.mappingOf_ne_self code folded
      · obtain ⟨fold, listed, rfl, rfl⟩ := mem_codesTo.mp member
        obtain ⟨target, last⟩ := exists_mappingOf member
        rw [mem_relatives_of_some last]
        by_cases same : target = fold.mapping
        · rw [same]
          exact .inr ⟨mem_codesTo_of_mappingOf folded, different.symm⟩
        · rcases (coherent.replaced fold listed target last same).2 code folded with rfl | back
          · exact .inl rfl
          · exact .inr ⟨back, different.symm⟩

theorem nodup_relatives (code : Int) : (relatives folds code).Nodup := by
  cases folded : mappingOf folds code with
  | none =>
      rw [relatives_of_none folded, List.nodup_iff_count_le_one]
      intro other
      by_contra twice
      exact (coherent.repeated other code (Nat.not_le.mp twice)).1 folded
  | some mapping =>
      rw [relatives_of_some folded, List.nodup_cons, List.mem_filter]
      constructor
      · rintro ⟨member, _⟩
        obtain ⟨fold, listed, same, rfl⟩ := mem_codesTo.mp member
        exact coherent.own fold listed same.symm code (same ▸ folded)
      · rw [List.nodup_iff_count_le_one]
        intro other
        by_contra twice
        have listed : other ∈ (codesTo folds mapping).filter (· != code) :=
          List.count_pos_iff.mp (Nat.zero_lt_of_lt (Nat.not_le.mp twice))
        have different := (List.mem_filter.mp listed).2
        have more : 1 < (codesTo folds mapping).count other := by
          rw [List.count_filter (p := (· != code)) different] at twice
          exact Nat.not_le.mp twice
        rw [(coherent.repeated other mapping more).2 code folded] at different
        simp at different

end Coherent

/-! ## From the lists to the folds -/

section Lists

variable (symmetric : ∀ code other, other ∈ relatives folds code → code ∈ relatives folds other)
  (apart : ∀ code, code ∉ relatives folds code) (nodup : ∀ code, (relatives folds code).Nodup)

include symmetric in
theorem target_of_symmetric (related : other ∈ relatives folds code)
    (last : mappingOf folds other = some mapping) :
    mapping = code ∨ code ∈ codesTo folds mapping := by
  rcases (mem_relatives_of_some last).mp (symmetric code other related) with rfl | ⟨member, _⟩
  · exact .inl rfl
  · exact .inr member

include symmetric apart nodup in
theorem coherent_of_relatives : Coherent folds where
  own := by
    intro fold listed same code folded
    have member : fold.code ∈ codesTo folds fold.code :=
      mem_codesTo.mpr ⟨fold, listed, rfl, same⟩
    by_cases self : fold.code = code
    · exact apart code (mem_relatives_self_iff.mpr (self ▸ folded))
    · have distinct := nodup code
      rw [relatives_of_some folded, List.nodup_cons, List.mem_filter, bne_iff_ne] at distinct
      exact distinct.1 ⟨member, self⟩
  chained := by
    intro code mapping target folded further
    exact target_of_symmetric symmetric ((mem_relatives_of_some folded).mpr (.inl rfl)) further
  replaced := by
    intro fold listed target last different
    have member : fold.code ∈ codesTo folds fold.mapping :=
      mem_codesTo.mpr ⟨fold, listed, rfl, rfl⟩
    constructor
    · intro unfolded
      have back := symmetric fold.mapping fold.code ((mem_relatives_of_none unfolded).mpr member)
      rcases (mem_relatives_of_some last).mp back with same | ⟨source, _⟩
      · exact different same.symm
      · obtain ⟨further, folded⟩ := exists_mappingOf source
        cases unfolded.symm.trans folded
    · intro code folded
      have apartFrom : fold.code ≠ code := by
        rintro rfl
        exact different (Option.some.inj (last.symm.trans folded))
      exact target_of_symmetric symmetric
        ((mem_relatives_of_some folded).mpr (.inr ⟨member, apartFrom⟩)) last
  repeated := by
    intro code mapping twice
    constructor
    · intro unfolded
      have once := List.nodup_iff_count_le_one.mp (nodup mapping) code
      rw [relatives_of_none unfolded] at once
      exact absurd once (Nat.not_le.mpr twice)
    · intro other folded
      by_contra different
      have distinct := nodup other
      rw [relatives_of_some folded, List.nodup_cons] at distinct
      have once := List.nodup_iff_count_le_one.mp distinct.2 code
      rw [List.count_filter (p := (· != other)) (by simpa using Ne.symm different)] at once
      exact absurd once (Nat.not_le.mpr twice)

end Lists

/-! ## Folds of which each code has one, and folds that end -/

theorem mappingOf_of_distinct (distinct : (folds.map CaseFold.code).Nodup) {fold : CaseFold}
    (listed : fold ∈ folds) : mappingOf folds fold.code = some fold.mapping :=
  (mappingOf_eq_some_iff distinct).mpr ⟨fold, listed, rfl, rfl⟩

theorem coherent_iff_foldsBack (distinct : (folds.map CaseFold.code).Nodup) :
    Coherent folds ↔ FoldsBack folds := by
  constructor
  · intro coherent fold listed target further
    have folded := mappingOf_of_distinct distinct listed
    have moved : fold.mapping ≠ fold.code :=
      fun same => coherent.own fold listed same fold.code (same ▸ folded)
    refine ⟨?_, moved⟩
    rcases coherent.chained fold.code fold.mapping target folded further with back | member
    · exact back
    · obtain ⟨other, otherListed, own, rfl⟩ := mem_codesTo.mp member
      have same := List.inj_on_of_nodup_map distinct otherListed listed own
      rw [same] at further
      exact absurd further (coherent.mappingOf_ne_self fold.mapping)
  · intro back
    refine ⟨?_, ?_, ?_, ?_⟩
    · intro fold listed same
      have folded := mappingOf_of_distinct distinct listed
      exact absurd same (back fold listed fold.mapping (same ▸ folded)).2
    · intro code mapping target folded further
      obtain ⟨fold, listed, rfl, rfl⟩ := exists_of_mappingOf folded
      exact .inl (back fold listed target further).1
    · intro fold listed target folded different
      exact absurd (Option.some.inj (folded.symm.trans (mappingOf_of_distinct distinct listed)))
        different
    · intro code mapping twice
      have once := List.nodup_iff_count_le_one.mp (nodup_codesTo distinct mapping) code
      exact absurd once (Nat.not_le.mpr twice)

/-- Where no mapping folds further. -/
theorem coherent_iff_distinct
    (final : ∀ fold ∈ folds, ∀ other ∈ folds, fold.mapping ≠ other.code) :
    Coherent folds ↔ (folds.map CaseFold.code).Nodup := by
  have unfolded : ∀ fold ∈ folds, mappingOf folds fold.mapping = none := by
    intro fold listed
    refine Option.eq_none_iff_forall_ne_some.mpr fun target further => ?_
    obtain ⟨other, otherListed, own, _⟩ := exists_of_mappingOf further
    exact final fold listed other otherListed own.symm
  constructor
  · intro coherent
    rw [List.nodup_iff_count_le_one]
    intro code
    by_contra twice
    obtain ⟨fold, listed, rfl⟩ := List.mem_map.mp
      (List.count_pos_iff.mp (Nat.zero_lt_of_lt (Nat.not_le.mp twice)))
    have member : fold.code ∈ codesTo folds fold.mapping :=
      mem_codesTo.mpr ⟨fold, listed, rfl, rfl⟩
    obtain ⟨target, folded⟩ := exists_mappingOf member
    -- no fold of the code is replaced, so all of them lead to the same mapping
    have same : ∀ other ∈ folds, other.code = fold.code → other.mapping = target := by
      intro other otherListed own
      by_contra different
      exact (coherent.replaced other otherListed target (own ▸ folded) (Ne.symm different)).1
        (unfolded other otherListed)
    have all : (folds.map CaseFold.code).count fold.code =
        (codesTo folds target).count fold.code := by
      unfold codesTo
      rw [List.count_eq_countP, List.count_eq_countP, List.countP_map, List.countP_map,
        List.countP_filter]
      refine List.countP_congr fun other otherListed => ?_
      simpa using same other otherListed
    rw [all, Nat.not_le] at twice
    exact (coherent.repeated fold.code target twice).1
      (same fold listed rfl ▸ unfolded fold listed)
  · intro distinct
    refine (coherent_iff_foldsBack distinct).mpr fun fold listed target further => ?_
    cases (unfolded fold listed).symm.trans further

/-! ## Compiled foldings -/

namespace Folding

variable {folding : Folding}

theorem mem_equivalentsOf_iff (compiled : ofFolds folds = .ok folding) :
    other ∈ folding.equivalentsOf code ↔ other ∈ relatives folds code := by
  rw [equivalentsOf_eq compiled, List.mem_mergeSort]

theorem nodup_equivalentsOf_iff (compiled : ofFolds folds = .ok folding) :
    (folding.equivalentsOf code).Nodup ↔ (relatives folds code).Nodup := by
  rw [equivalentsOf_eq compiled]
  exact (List.mergeSort_perm _ _).nodup_iff

theorem mutual_iff_coherent (compiled : ofFolds folds = .ok folding) :
    folding.Mutual ↔ Coherent folds := by
  constructor
  · intro lawful
    refine coherent_of_relatives ?_ ?_ ?_
    · intro code other related
      rw [← mem_equivalentsOf_iff compiled] at related ⊢
      exact (lawful.symmetric code other).mp related
    · intro code related
      exact lawful.apart code ((mem_equivalentsOf_iff compiled).mpr related)
    · intro code
      exact (nodup_equivalentsOf_iff compiled).mp (lawful.nodup code)
  · intro coherent
    refine ⟨?_, ?_, ?_⟩
    · intro code other
      rw [mem_equivalentsOf_iff compiled, mem_equivalentsOf_iff compiled]
      exact ⟨coherent.mem_relatives_symm, coherent.mem_relatives_symm⟩
    · intro code related
      exact coherent.mappingOf_ne_self code
        (mem_relatives_self_iff.mp ((mem_equivalentsOf_iff compiled).mp related))
    · intro code
      exact (nodup_equivalentsOf_iff compiled).mpr (coherent.nodup_relatives code)

/-- The lists of equivalents are in order just if the folds do not get in each other's way. Where
no code folds twice, this means that a mapping folds further only straight back; where no mapping
folds further, it means that no code folds twice. -/
theorem ofText_mutual_iff {text : List Char} (read : ofText text = .ok folding) :
    (folding.Mutual ↔ Coherent (readFolds text).records) ∧
      (∀ code, code ∈ folding.equivalentsOf code ↔
        mappingOf (readFolds text).records code = some code) ∧
      (((readFolds text).records.map CaseFold.code).Nodup →
        (folding.Mutual ↔ FoldsBack (readFolds text).records)) ∧
      ((∀ fold ∈ (readFolds text).records, ∀ other ∈ (readFolds text).records,
          fold.mapping ≠ other.code) →
        (folding.Mutual ↔ ((readFolds text).records.map CaseFold.code).Nodup)) := by
  have compiled := ofFolds_of_ofText read
  have lawful := mutual_iff_coherent compiled
  refine ⟨lawful, ?_, ?_, ?_⟩
  · intro code
    rw [mem_equivalentsOf_iff compiled, mem_relatives_self_iff]
  · intro distinct
    rw [lawful, coherent_iff_foldsBack distinct]
  · intro final
    rw [lawful, coherent_iff_distinct final]

/-- Two letters that fold to each other. -/
def swappedFolds : List Char := "0041; C; 0061;\n0061; C; 0041;\n".toList

theorem ofText_mutual_iff_swapped :
    ∃ folding, ofText swappedFolds = .ok folding ∧
      ((readFolds swappedFolds).records.map CaseFold.code).Nodup ∧ folding.Mutual ∧
      folding.equivalentsOf 0x41 = [0x61] := by
  have evaluated : (ofText swappedFolds).toOption.map (·.equivalentsOf 0x41) = some [0x61] := by
    decide +kernel
  obtain ⟨folding, read, listed⟩ := exists_of_toOption_map evaluated
  have distinct : ((readFolds swappedFolds).records.map CaseFold.code).Nodup := by decide +kernel
  obtain ⟨_, _, once, _⟩ := ofText_mutual_iff read
  exact ⟨folding, read, distinct, (once distinct).mpr (by decide +kernel), listed⟩

/-- A letter that folds to itself stands in its own list; a letter on the way to another does not
stand in the list of the code to which it leads; a fold that is replaced is listed for its mapping
only; and a fold that is repeated is listed twice. -/
theorem equivalentsOf_astray :
    (∃ folding, ofText "0041; C; 0041;\n".toList = .ok folding ∧
        folding.equivalentsOf 0x41 = [0x41]) ∧
      (∃ folding, ofText "0041; C; 0061;\n0061; C; 0062;\n".toList = .ok folding ∧
        (folding.equivalentsOf 0x41, folding.equivalentsOf 0x61) = ([0x61], [0x62])) ∧
      (∃ folding, ofText "0041; C; 0061;\n0041; C; 0062;\n".toList = .ok folding ∧
        (folding.equivalentsOf 0x61, folding.equivalentsOf 0x41) = ([0x41], [0x62])) ∧
      ∃ folding, ofText "0041; C; 0061;\n0041; C; 0061;\n".toList = .ok folding ∧
        ¬ (folding.equivalentsOf 0x61).Nodup := by
  refine ⟨?_, ?_, ?_, ?_⟩
  · exact exists_of_toOption_map (by decide +kernel)
  · exact exists_of_toOption_map (by decide +kernel)
  · exact exists_of_toOption_map (by decide +kernel)
  · have evaluated : (ofText "0041; C; 0061;\n0041; C; 0061;\n".toList).toOption.map
        (·.equivalentsOf 0x41) = some [0x61] := by
      decide +kernel
    obtain ⟨folding, read, _⟩ := exists_of_toOption_map evaluated
    refine ⟨folding, read, ?_⟩
    rw [nodup_equivalentsOf_iff (ofFolds_of_ofText read)]
    decide +kernel

end Folding

end CharacterTables
