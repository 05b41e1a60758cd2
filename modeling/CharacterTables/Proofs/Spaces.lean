import Mathlib
import CharacterTables.Proofs.BasicPlane
import CharacterTables.Proofs.CharacterFlags
import CharacterTables.Proofs.SupplementaryPlanes
import CharacterTables.WhiteSpace

/-!
# Three ways to find the spaces

White space is refused if there is a space separator outside the basic plane. Whatever the
supplementary planes accept is accepted here too, and the characters found are those that the
basic plane marks as spaces.
-/

set_option autoImplicit false

namespace CharacterTables

variable {registry : Registry} {sets : PropertySets} {spaces after : CodeSet}
  {character : CharacterRecord}

/-! ## Finding white space -/

/-- A space separator outside the basic plane. -/
def CharacterRecord.StraySpace (character : CharacterRecord) : Prop :=
  Code.maxBasic < character.code ∧ character.category = Code.spaceCategory

instance (character : CharacterRecord) : Decidable character.StraySpace :=
  inferInstanceAs (Decidable (_ ∧ _))

theorem CharacterRecord.straySpace_iff :
    character.StraySpace ↔
      Code.maxBasic < character.code ∧ Code.isSpace character.code character.category = true :=
  and_congr_right fun supplementary => (Code.isSpace_iff_of_supplementary supplementary).symm

theorem insertWhiteSpace_cases (spaces : CodeSet) (character : CharacterRecord) :
    (Code.isSpace character.code character.category = false ∧
        insertWhiteSpace spaces character = .ok spaces) ∨
      (Code.isSpace character.code character.category = true ∧
        character.code ≤ Code.maxBasic ∧
        insertWhiteSpace spaces character = .ok (spaces.insert character.code)) ∨
      (character.StraySpace ∧ insertWhiteSpace spaces character =
        .error (.shape (.supplementaryWhiteSpace character.code))) := by
  unfold insertWhiteSpace
  cases spacing : Code.isSpace character.code character.category with
  | false => exact .inl ⟨rfl, rfl⟩
  | true =>
      by_cases basic : character.code ≤ Code.maxBasic
      · exact .inr (.inl ⟨rfl, basic, if_pos basic⟩)
      · have stray := CharacterRecord.straySpace_iff.mpr ⟨Int.not_le.mp basic, spacing⟩
        exact .inr (.inr ⟨stray, if_neg basic⟩)

theorem insertWhiteSpace_eq_error_iff {failure : Failure} :
    insertWhiteSpace spaces character = .error failure ↔
      character.StraySpace ∧ failure = .shape (.supplementaryWhiteSpace character.code) := by
  rcases insertWhiteSpace_cases spaces character with
    ⟨other, taken⟩ | ⟨_, basic, taken⟩ | ⟨stray, refused⟩
  · rw [taken, CharacterRecord.straySpace_iff, other]
    simp
  · rw [taken]
    simp [CharacterRecord.StraySpace, basic.not_gt]
  · rw [refused, Except.error.injEq, eq_comm]
    exact (and_iff_right stray).symm

theorem exists_insertWhiteSpace_iff (spaces : CodeSet) (character : CharacterRecord) :
    (∃ after, insertWhiteSpace spaces character = .ok after) ↔ ¬ character.StraySpace := by
  rw [← not_iff_not, ← exists_error_iff, not_not]
  simp only [insertWhiteSpace_eq_error_iff, exists_eq_right]

theorem exists_whiteSpace_iff (registry : Registry) :
    (∃ spaces, whiteSpace registry = .ok spaces) ↔
      ∀ character ∈ registry.toList, ¬ character.StraySpace :=
  exists_foldlM_iff exists_insertWhiteSpace_iff registry.toList ∅

/-- The first stray space is named. -/
theorem whiteSpace_eq_error_iff {failure : Failure} :
    whiteSpace registry = .error failure ↔
      ∃ before character after, registry.toList = before ++ character :: after ∧
        (∀ earlier ∈ before, ¬ earlier.StraySpace) ∧ character.StraySpace ∧
          failure = .shape (.supplementaryWhiteSpace character.code) := by
  unfold whiteSpace
  rw [foldlM_eq_error_iff]
  refine exists_congr fun before => exists_congr fun character => exists_congr fun after => ?_
  rw [← exists_foldlM_iff exists_insertWhiteSpace_iff before ∅]
  simp only [insertWhiteSpace_eq_error_iff]
  constructor
  · rintro ⟨spaces, split, reached, refused⟩
    exact ⟨split, ⟨spaces, reached⟩, refused⟩
  · rintro ⟨split, ⟨spaces, reached⟩, refused⟩
    exact ⟨spaces, split, reached, refused⟩

theorem mem_insertWhiteSpace_iff (inserted : insertWhiteSpace spaces character = .ok after)
    (code : Int) :
    code ∈ after ↔ code ∈ spaces ∨
      character.code = code ∧ Code.isSpace code character.category = true := by
  rcases insertWhiteSpace_cases spaces character with
    ⟨other, passed⟩ | ⟨spacing, _, taken⟩ | ⟨_, refused⟩
  · rw [passed] at inserted
    cases inserted
    constructor
    · exact .inl
    · rintro (earlier | ⟨rfl, spacing⟩)
      · exact earlier
      · exact absurd spacing (Bool.eq_false_iff.mp other)
  · rw [taken] at inserted
    cases inserted
    rw [Std.TreeSet.mem_insert, Std.LawfulEqCmp.compare_eq_iff_eq, or_comm]
    refine or_congr_right ⟨?_, And.left⟩
    rintro rfl
    exact ⟨rfl, spacing⟩
  · rw [refused] at inserted
    cases inserted

theorem mem_whiteSpace_iff (found : whiteSpace registry = .ok spaces) (code : Int) :
    code ∈ spaces ↔ ∃ character ∈ registry.toList, character.code = code ∧
      Code.isSpace code character.category = true := by
  revert code
  refine foldlM_induction found (fun seen spaces => ∀ code, code ∈ spaces ↔
    ∃ character ∈ seen, character.code = code ∧ Code.isSpace code character.category = true) ?_ ?_
  · intro code
    simp
  · intro seen character rest spaces after _ members inserted code
    rw [mem_insertWhiteSpace_iff inserted, members code]
    simp only [List.mem_append, List.mem_singleton, or_and_right, exists_or, exists_eq_left]

/-! ## The other tables -/

theorem SupplementaryPlanes.mem_spaces_iff {planes : SupplementaryPlanes}
    (collected : Collected sets planes registry.toList) (code : Int) :
    code ∈ planes.spaces ↔
      ∃ character ∈ registry.toList, character.code = code ∧ character.StraySpace := by
  rw [collected.spaces code]
  constructor
  · rintro ⟨supplementary, character, listed, rfl, spacing⟩
    exact ⟨character, listed, rfl, supplementary, beq_iff_eq.mp spacing⟩
  · rintro ⟨character, listed, rfl, supplementary, spacing⟩
    exact ⟨supplementary, character, listed, rfl, beq_iff_eq.mpr spacing⟩

theorem SupplementaryPlanes.isEmpty_spaces_iff {planes : SupplementaryPlanes}
    (collected : Collected sets planes registry.toList) :
    planes.spaces.isEmpty = true ↔ ∀ character ∈ registry.toList, ¬ character.StraySpace := by
  rw [Std.TreeSet.isEmpty_iff_forall_not_mem]
  constructor
  · intro absent character listed stray
    exact absent character.code ((mem_spaces_iff collected _).mpr ⟨character, listed, rfl, stray⟩)
  · intro none code member
    obtain ⟨character, listed, _, stray⟩ := (mem_spaces_iff collected code).mp member
    exact none character listed stray

theorem SupplementaryPlanes.not_straySpace {planes : SupplementaryPlanes}
    (compiled : ofRegistry registry sets = .ok planes) :
    ∀ character ∈ registry.toList, ¬ character.StraySpace := by
  obtain ⟨recorded, spaceless⟩ := ofRegistry_eq_ok_iff.mp compiled
  exact (isEmpty_spaces_iff (collected_foldlM recorded)).mp spaceless

/-- The basic plane marks the codes of its spaces, and no others. -/
theorem BasicPlane.exists_info_space_iff {plane : BasicPlane}
    (compiled : ofRegistry registry sets = .ok plane)
    (distinct : (registry.toList.map CharacterRecord.code).Nodup)
    (nonneg : ∀ character ∈ registry.toList, 0 ≤ character.code) {code : Int}
    (unsigned : 0 ≤ code) (basic : code ≤ Code.maxBasic) :
    (∃ info, plane.info code = .ok info ∧ info.flags.has .space = true) ↔
      ∃ character ∈ registry.toList, character.code = code ∧
        Code.isSpace code character.category = true := by
  have lists := lists_ofRegistry compiled
  obtain ⟨place, inside, rfl⟩ := exists_place unsigned basic
  rw [info_eq plane inside]
  constructor
  · rintro ⟨info, found, marked⟩
    cases found
    cases lists.infoAt_cases nonneg inside with
    | inl named =>
        obtain ⟨character, listed, own, shown⟩ := named
        rw [shown] at marked
        refine ⟨character, listed, own, ?_⟩
        rw [← own, ← has_space_characterFlags sets]
        exact marked
    | inr unnamed =>
        rw [unnamed.1] at marked
        cases marked
  · rintro ⟨character, listed, own, spacing⟩
    refine ⟨characterInfo sets character, ?_, ?_⟩
    · rw [lists.infoAt_of_mem nonneg distinct listed inside own]
    · rw [← own, ← has_space_characterFlags sets] at spacing
      exact spacing

/-- White space is found just if no space separator lies outside the basic plane, in particular
whenever the supplementary planes are compiled, and is then what the basic plane marks. -/
theorem whiteSpace_agrees (registry : Registry)
    (distinct : (registry.toList.map CharacterRecord.code).Nodup)
    (nonneg : ∀ character ∈ registry.toList, 0 ≤ character.code) (sets : PropertySets) :
    ((∃ failure, whiteSpace registry = .error failure ∧ failure.isCorpusFault = true) ↔
        ∃ character ∈ registry.toList, character.StraySpace) ∧
      ((∀ character ∈ registry.toList, ¬ character.StraySpace) →
        ∃ spaces, whiteSpace registry = .ok spaces) ∧
      (∀ planes, SupplementaryPlanes.ofRegistry registry sets = .ok planes →
        ∃ spaces, whiteSpace registry = .ok spaces) ∧
      ∀ plane spaces, BasicPlane.ofRegistry registry sets = .ok plane →
        whiteSpace registry = .ok spaces → ∀ code, code ∈ spaces ↔
          0 ≤ code ∧ code ≤ Code.maxBasic ∧
            ∃ info, plane.info code = .ok info ∧ info.flags.has .space = true := by
  have accepted := exists_whiteSpace_iff registry
  refine ⟨⟨?_, ?_⟩, accepted.mpr, ?_, ?_⟩
  · rintro ⟨failure, failed, _⟩
    obtain ⟨before, character, after, split, _, stray, _⟩ := whiteSpace_eq_error_iff.mp failed
    refine ⟨character, ?_, stray⟩
    rw [split]
    exact List.mem_append_right before List.mem_cons_self
  · rintro ⟨character, listed, stray⟩
    cases found : whiteSpace registry with
    | ok spaces => exact absurd stray (accepted.mp ⟨spaces, found⟩ character listed)
    | error failure =>
        obtain ⟨_, _, _, _, _, _, named⟩ := whiteSpace_eq_error_iff.mp found
        exact ⟨failure, rfl, named ▸ rfl⟩
  · intro planes compiled
    exact accepted.mpr (SupplementaryPlanes.not_straySpace compiled)
  · intro plane spaces compiled found code
    rw [mem_whiteSpace_iff found]
    constructor
    · rintro ⟨character, listed, rfl, spacing⟩
      -- A space behind the basic plane would have been refused.
      have basic : character.code ≤ Code.maxBasic := by
        by_contra supplementary
        exact accepted.mp ⟨spaces, found⟩ character listed
          (CharacterRecord.straySpace_iff.mpr ⟨Int.not_le.mp supplementary, spacing⟩)
      have unsigned := nonneg character listed
      refine ⟨unsigned, basic, ?_⟩
      rw [BasicPlane.exists_info_space_iff compiled distinct nonneg unsigned basic]
      exact ⟨character, listed, rfl, spacing⟩
    · rintro ⟨unsigned, basic, marked⟩
      exact (BasicPlane.exists_info_space_iff compiled distinct nonneg unsigned basic).mp marked

/-- A space separator, a tabulation, and a letter outside the basic plane. -/
def someSpaces : Registry :=
  Registry.ofRecords [⟨0x3000, "IDEOGRAPHIC SPACE", "Zs", "", 0x3000, 0x3000⟩,
    ⟨0x9, "TABULATION", "Cc", "", 0x9, 0x9⟩, ⟨0x10400, "LONG I", "Lu", "", 0x10400, 0x10428⟩]

theorem whiteSpace_agrees_someSpaces :
    (someSpaces.toList.map CharacterRecord.code).Nodup ∧
      (∀ character ∈ someSpaces.toList, 0 ≤ character.code) ∧
      ∃ planes plane spaces, SupplementaryPlanes.ofRegistry someSpaces .empty = .ok planes ∧
        BasicPlane.ofRegistry someSpaces .empty = .ok plane ∧
        whiteSpace someSpaces = .ok spaces ∧
        ∃ info, plane.info 0x3000 = .ok info ∧ info.flags.has .space = true := by
  have distinct : (someSpaces.toList.map CharacterRecord.code).Nodup := by decide +kernel
  have nonneg : ∀ character ∈ someSpaces.toList, 0 ≤ character.code := by decide +kernel
  have recorded : (SupplementaryPlanes.ofRegistry someSpaces .empty).toOption.map
      (·.lowercase.toList) = some [(0x10400, 0x10428)] := by
    decide +kernel
  have tabled : (BasicPlane.ofRegistry someSpaces .empty).toOption.map (·.infos.size) =
      some 2 := by
    decide +kernel
  have evaluated : (whiteSpace someSpaces).toOption.map Std.TreeSet.toList =
      some [0x9, 0x3000] := by
    decide +kernel
  obtain ⟨_, _, accepts, agrees⟩ := whiteSpace_agrees someSpaces distinct nonneg .empty
  obtain ⟨planes, supplementary, _⟩ := exists_of_toOption_map recorded
  obtain ⟨plane, compiled, _⟩ := exists_of_toOption_map tabled
  obtain ⟨spaces, found⟩ := accepts planes supplementary
  rw [found] at evaluated
  have listed : (0x3000 : Int) ∈ spaces := by
    rw [← Std.TreeSet.mem_toList, Option.some.inj evaluated]
    decide
  exact ⟨distinct, nonneg, planes, plane, spaces, supplementary, compiled, found,
    ((agrees plane spaces compiled found 0x3000).mp listed).2.2⟩

end CharacterTables
