import Mathlib
import CharacterTables.Proofs.BasicPlane
import CharacterTables.Proofs.CharacterFlags
import CharacterTables.Proofs.Collection.Indexing

/-!
# The table of distinct infos

A registry without negative codes is refused just if a basic character maps out of the plane.
Otherwise each info in use stands in the table once, in the order of first use behind the blank
info. Two characters have the same number in the index just if nothing the table records tells
them apart, although their codes and case forms may be different.
-/

set_option autoImplicit false

namespace CharacterTables

/-! ## Characters with the same info -/

theorem CaseDelta.between_eq_iff {code mapping other target : Int} :
    between code mapping = between other target ↔
      mapping - code ≡ target - other [ZMOD Code.basicCount] := by
  unfold between
  rw [CaseDelta.mk.injEq]
  rfl

/-- The case forms of two characters are equally far away, up to whole planes, and their flags
are the same. -/
structure CharacterRecord.LooksLike (sets : PropertySets) (first second : CharacterRecord) :
    Prop where
  lowercase :
    first.lowercase - first.code ≡ second.lowercase - second.code [ZMOD Code.basicCount]
  uppercase :
    first.uppercase - first.code ≡ second.uppercase - second.code [ZMOD Code.basicCount]
  flags : characterFlags sets first.code first.category =
    characterFlags sets second.code second.category

theorem characterInfo_eq_iff {sets : PropertySets} {first second : CharacterRecord} :
    characterInfo sets first = characterInfo sets second ↔ first.LooksLike sets second := by
  unfold characterInfo
  rw [CharacterInfo.mk.injEq, CaseDelta.between_eq_iff, CaseDelta.between_eq_iff]
  constructor
  · intro same
    exact ⟨same.1, same.2.1, same.2.2⟩
  · intro alike
    exact ⟨alike.lowercase, alike.uppercase, alike.flags⟩

namespace BasicPlane

/-! ## The table and its index -/

/-- A plane tabulates a registry: the table has every info in use once, and the index leads each
code of the plane to its info. -/
structure Tabulates (plane : BasicPlane) (registry : Registry) (sets : PropertySets) : Prop where
  blank : plane.infos.entries[0]? = some CharacterInfo.blank
  entries : plane.infos.entries.toList =
    (CharacterInfo.blank :: (registry.toList.filter fun character =>
      character.code ≤ Code.maxBasic).map (characterInfo sets)).eraseDups
  distinct : plane.infos.entries.toList.Nodup
  size_index : plane.index.size = Code.basicCount
  valid : ∀ number ∈ plane.index, 0 ≤ number ∧ number < plane.infos.size
  used : ∀ number : Nat, 0 < number → number < plane.infos.size → (number : Int) ∈ plane.index
  unassigned : ∀ code, 0 ≤ code → code ≤ Code.maxBasic →
    (∀ character ∈ registry.toList, character.code ≠ code) → entryAt plane.index code = .ok 0
  shared : ∀ first ∈ registry.toList, ∀ second ∈ registry.toList,
    first.code ≤ Code.maxBasic → second.code ≤ Code.maxBasic →
      (entryAt plane.index first.code = entryAt plane.index second.code ↔
        first.LooksLike sets second)
  flags : ∀ character ∈ registry.toList, character.code ≤ Code.maxBasic →
    ∃ info, plane.info character.code = .ok info ∧ info.flags.Mark sets character

section Tabulates

variable {registry : Registry} {sets : PropertySets} {plane : BasicPlane}

theorem Lists.tabulates (lists : plane.Lists sets registry.toList)
    (distinct : (registry.toList.map CharacterRecord.code).Nodup)
    (nonneg : ∀ character ∈ registry.toList, 0 ≤ character.code) :
    plane.Tabulates registry sets := by
  have table : Table Code.basicCount CharacterInfo.blank ((registry.toList.filter fun character =>
      character.code ≤ Code.maxBasic).map (characterInfo sets)) plane.infos plane.index := by
    simp only [← Code.lt_basicCount_iff]
    exact Listing.table lists distinct nonneg (by decide)
  refine ⟨table.first, table.entries, table.distinct, table.size_index, table.valid, table.used,
    ?unassigned, ?shared, ?flags⟩
  case unassigned =>
    intro code unsigned basic absent
    obtain ⟨place, inside, rfl⟩ := exists_place unsigned basic
    have blank := lists.infoAt_of_unassigned nonneg inside absent
    rw [entryAt_index plane inside, lists.number_eq_zero_iff.mpr blank]
    rfl
  case shared =>
    intro first firstListed second secondListed firstBasic secondBasic
    obtain ⟨left, leftInside, leftOwn⟩ := exists_place (nonneg first firstListed) firstBasic
    obtain ⟨right, rightInside, rightOwn⟩ := exists_place (nonneg second secondListed) secondBasic
    rw [leftOwn, rightOwn, entryAt_index plane leftInside, entryAt_index plane rightInside,
      Except.ok.injEq, Int.natCast_inj, lists.number_eq_iff,
      lists.infoAt_of_mem nonneg distinct firstListed leftInside leftOwn,
      lists.infoAt_of_mem nonneg distinct secondListed rightInside rightOwn,
      characterInfo_eq_iff]
  case flags =>
    intro character listed basic
    obtain ⟨place, inside, own⟩ := exists_place (nonneg character listed) basic
    refine ⟨characterInfo sets character, ?_, mark_characterFlags sets character⟩
    rw [own, info_eq plane inside, lists.infoAt_of_mem nonneg distinct listed inside own]

end Tabulates

/-! ## Compiling a registry -/

/-- A basic character of the registry has a case form outside the plane. -/
def LeavesPlane (registry : Registry) : Prop :=
  ∃ character ∈ registry.toList, character.code ≤ Code.maxBasic ∧
    (Code.maxBasic < character.lowercase ∨ Code.maxBasic < character.uppercase)

instance (registry : Registry) : Decidable (LeavesPlane registry) :=
  inferInstanceAs (Decidable (∃ character ∈ registry.toList, character.code ≤ Code.maxBasic ∧
    (Code.maxBasic < character.lowercase ∨ Code.maxBasic < character.uppercase)))

/-- A registry that lists each code once and none below zero is refused as faulty data just if a
basic character maps out of the plane, and is tabulated otherwise. -/
theorem ofRegistry_tabulates (registry : Registry) (sets : PropertySets)
    (distinct : (registry.toList.map CharacterRecord.code).Nodup)
    (nonneg : ∀ character ∈ registry.toList, 0 ≤ character.code) :
    ((∃ failure, ofRegistry registry sets = .error failure ∧ failure.isCorpusFault = true) ↔
        LeavesPlane registry) ∧
      (¬ LeavesPlane registry →
        ∃ plane, ofRegistry registry sets = .ok plane ∧ plane.Tabulates registry sets) := by
  have accepted : ¬ LeavesPlane registry → ∃ plane, ofRegistry registry sets = .ok plane := by
    intro stays
    refine (exists_ofRegistry_iff registry sets).mpr fun character listed => ?_
    refine listable_iff.mpr fun basic => ⟨le_trans (by decide) (nonneg character listed), ?_⟩
    by_contra away
    exact stays ⟨character, listed, basic, not_staysBasic_iff.mp away⟩
  refine ⟨⟨?_, ?_⟩, ?_⟩
  · rintro ⟨failure, failed, corpus⟩
    by_contra stays
    obtain ⟨plane, compiled⟩ := accepted stays
    rw [compiled] at failed
    cases failed
  · rintro ⟨character, listed, basic, away⟩
    cases compiled : ofRegistry registry sets with
    | ok plane =>
        have listable := (exists_ofRegistry_iff registry sets).mp ⟨plane, compiled⟩
        have stays := (listable_iff.mp (listable character listed) basic).2
        exact absurd stays (not_staysBasic_iff.mpr away)
    | error failure =>
        obtain ⟨refused, member, refusal⟩ := exists_refusal compiled
        exact ⟨failure, rfl, refusal.isCorpusFault (nonneg refused member)⟩
  · intro stays
    obtain ⟨plane, compiled⟩ := accepted stays
    exact ⟨plane, compiled, (lists_ofRegistry compiled).tabulates distinct nonneg⟩

/-- A letter whose small form is ahead, and one whose small form is as far ahead across the end of
the plane. -/
def lettersAtEnds : Registry :=
  Registry.ofRecords [⟨0x41, "A", "Lu", "", 0x41, 0x61⟩, ⟨0xFFFF, "Z", "Lu", "", 0xFFFF, 0x1F⟩]

theorem ofRegistry_tabulates_lettersAtEnds :
    (lettersAtEnds.toList.map CharacterRecord.code).Nodup ∧
      (∀ character ∈ lettersAtEnds.toList, 0 ≤ character.code) ∧ ¬ LeavesPlane lettersAtEnds ∧
      ∃ plane, ofRegistry lettersAtEnds .empty = .ok plane ∧
        plane.Tabulates lettersAtEnds .empty ∧
        entryAt plane.index 0x41 = entryAt plane.index 0xFFFF := by
  have distinct : (lettersAtEnds.toList.map CharacterRecord.code).Nodup := by decide +kernel
  have nonneg : ∀ character ∈ lettersAtEnds.toList, 0 ≤ character.code := by decide +kernel
  have stays : ¬ LeavesPlane lettersAtEnds := by decide +kernel
  obtain ⟨plane, compiled, tabulates⟩ :=
    (ofRegistry_tabulates lettersAtEnds .empty distinct nonneg).2 stays
  refine ⟨distinct, nonneg, stays, plane, compiled, tabulates, ?_⟩
  have ends : ∀ first ∈ lettersAtEnds.toList, ∀ second ∈ lettersAtEnds.toList,
      first.LooksLike .empty second := by
    intro first firstListed second secondListed
    rw [← characterInfo_eq_iff]
    revert first second
    decide +kernel
  have small : (⟨0x41, "A", "Lu", "", 0x41, 0x61⟩ : CharacterRecord) ∈ lettersAtEnds.toList := by
    decide +kernel
  have last : (⟨0xFFFF, "Z", "Lu", "", 0xFFFF, 0x1F⟩ : CharacterRecord) ∈
      lettersAtEnds.toList := by
    decide +kernel
  exact (tabulates.shared _ small _ last (by decide) (by decide)).mpr (ends _ small _ last)

end BasicPlane

end CharacterTables
