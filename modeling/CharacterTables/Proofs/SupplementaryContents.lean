import Mathlib
import CharacterTables.Proofs.Collection.Ascending
import CharacterTables.Proofs.Spaces

/-!
# What the supplementary planes admit

A registry is refused if a supplementary character has another case form in the basic plane, and
else if one is a space separator. Otherwise the case maps and sets have what the registry has
behind the basic plane, and the order of the registry does not show.
-/

set_option autoImplicit false

namespace CharacterTables

/-- A supplementary character of which another case form is basic. -/
def CharacterRecord.FallsBack (character : CharacterRecord) : Prop :=
  Code.maxBasic < character.code ∧
    (character.lowercase ≠ character.code ∧ character.lowercase ≤ Code.maxBasic ∨
      character.uppercase ≠ character.code ∧ character.uppercase ≤ Code.maxBasic)

instance (character : CharacterRecord) : Decidable character.FallsBack :=
  inferInstanceAs (Decidable (_ ∧ _))

namespace SupplementaryPlanes

variable {registry other : Registry} {sets : PropertySets}
  {planes after others : SupplementaryPlanes} {character : CharacterRecord} {failure : Failure}

/-! ## Case forms in the basic plane -/

/-- The first case form that is in the way, and how it is reported. -/
inductive Refusal (character : CharacterRecord) : Failure → Prop
  | lowercase : Code.maxBasic < character.code → character.lowercase ≠ character.code →
      character.lowercase ≤ Code.maxBasic →
      Refusal character (.shape (.basicLowercase character.code character.lowercase))
  | uppercase : Code.maxBasic < character.code →
      (character.lowercase = character.code ∨ Code.maxBasic < character.lowercase) →
      character.uppercase ≠ character.code → character.uppercase ≤ Code.maxBasic →
      Refusal character (.shape (.basicUppercase character.code character.uppercase))

theorem insertMapping_cases (map : Std.TreeMap Int Int) (code mapping : Int)
    (fault : ShapeFault) :
    ((mapping = code ∨ Code.maxBasic < mapping) ∧
        ∃ next, insertMapping map code mapping fault = .ok next) ∨
      (mapping ≠ code ∧ mapping ≤ Code.maxBasic ∧
        insertMapping map code mapping fault = .error (.shape fault)) := by
  by_cases same : mapping = code
  · exact .inl ⟨.inl same, map, insertMapping_eq_ok_iff.mpr (.inl ⟨same, rfl⟩)⟩
  · by_cases supplementary : Code.maxBasic < mapping
    · exact .inl ⟨.inr supplementary, _,
        insertMapping_eq_ok_iff.mpr (.inr ⟨same, supplementary, rfl⟩)⟩
    · refine .inr ⟨same, Int.not_lt.mp supplementary, ?_⟩
      unfold insertMapping
      rw [if_neg same, if_neg supplementary]

theorem insert_cases (sets : PropertySets) (planes : SupplementaryPlanes)
    (character : CharacterRecord) :
    (¬ character.FallsBack ∧ ∃ after, insert sets planes character = .ok after) ∨
      ∃ failure, Refusal character failure ∧ insert sets planes character = .error failure := by
  by_cases basic : character.code ≤ Code.maxBasic
  · exact .inl ⟨fun falls => absurd basic falls.1.not_ge, planes,
      insert_eq_ok_iff.mpr (.inl ⟨basic, rfl⟩)⟩
  · have supplementary := Int.not_le.mp basic
    have opened := insert.eq_def sets planes character
    simp only [if_neg basic] at opened
    rw [opened]
    rcases insertMapping_cases planes.lowercase character.code character.lowercase
        (.basicLowercase character.code character.lowercase) with
      ⟨lower, lowercase, lowered⟩ | ⟨moved, lower, refused⟩
    · rw [lowered, ok_bind]
      rcases insertMapping_cases planes.uppercase character.code character.uppercase
          (.basicUppercase character.code character.uppercase) with
        ⟨upper, uppercase, uppered⟩ | ⟨moved, upper, refused⟩
      · rw [uppered, ok_bind]
        refine .inl ⟨?_, _, rfl⟩
        rintro ⟨_, ⟨moved, below⟩ | ⟨moved, below⟩⟩
        · exact lower.elim moved below.not_gt
        · exact upper.elim moved below.not_gt
      · rw [refused, error_bind]
        exact .inr ⟨_, .uppercase supplementary lower moved upper, rfl⟩
    · rw [refused, error_bind]
      exact .inr ⟨_, .lowercase supplementary moved lower, rfl⟩

theorem Refusal.fallsBack (refusal : Refusal character failure) : character.FallsBack := by
  cases refusal with
  | lowercase supplementary moved below => exact ⟨supplementary, .inl ⟨moved, below⟩⟩
  | uppercase supplementary _ moved below => exact ⟨supplementary, .inr ⟨moved, below⟩⟩

theorem Refusal.isCorpusFault (refusal : Refusal character failure) :
    failure.isCorpusFault = true := by
  cases refusal with
  | lowercase => rfl
  | uppercase => rfl

theorem exists_insert_iff (sets : PropertySets) (planes : SupplementaryPlanes)
    (character : CharacterRecord) :
    (∃ after, insert sets planes character = .ok after) ↔ ¬ character.FallsBack := by
  cases insert_cases sets planes character with
  | inl taken => exact ⟨fun _ => taken.1, fun _ => taken.2⟩
  | inr refused =>
      obtain ⟨failure, refusal, failed⟩ := refused
      rw [failed]
      simp [refusal.fallsBack]

theorem refusal_of_insert (failed : insert sets planes character = .error failure) :
    Refusal character failure := by
  cases insert_cases sets planes character with
  | inl taken =>
      obtain ⟨after, inserted⟩ := taken.2
      cases failed.symm.trans inserted
  | inr refused =>
      obtain ⟨other, refusal, again⟩ := refused
      cases failed.symm.trans again
      exact refusal

/-! ## Recording all characters -/

/-- Why a registry is refused: the first character that falls back, or else all stray spaces. -/
inductive Refused (registry : Registry) : Failure → Prop
  | fallsBack {before after : List CharacterRecord} {character : CharacterRecord}
      {failure : Failure} : registry.toList = before ++ character :: after →
      (∀ earlier ∈ before, ¬ earlier.FallsBack) → Refusal character failure →
      Refused registry failure
  | spaces {codes : List Int} : (∀ character ∈ registry.toList, ¬ character.FallsBack) →
      codes ≠ [] → codes.Pairwise (· < ·) →
      (∀ code, code ∈ codes ↔
        ∃ character ∈ registry.toList, character.code = code ∧ character.StraySpace) →
      Refused registry (.shape (.supplementarySpaces codes))

theorem exists_recorded_iff (registry : Registry) (sets : PropertySets) :
    (∃ planes, registry.toList.foldlM (insert sets) empty = .ok planes) ↔
      ∀ character ∈ registry.toList, ¬ character.FallsBack :=
  exists_foldlM_iff (exists_insert_iff sets) registry.toList empty

theorem exists_ofRegistry_iff (registry : Registry) (sets : PropertySets) :
    (∃ planes, ofRegistry registry sets = .ok planes) ↔
      ∀ character ∈ registry.toList, ¬ (character.StraySpace ∨ character.FallsBack) := by
  constructor
  · rintro ⟨planes, compiled⟩ character listed (stray | falls)
    · exact not_straySpace compiled character listed stray
    · have recorded := (ofRegistry_eq_ok_iff.mp compiled).1
      exact (exists_recorded_iff registry sets).mp ⟨planes, recorded⟩ character listed falls
  · intro admitted
    obtain ⟨planes, recorded⟩ := (exists_recorded_iff registry sets).mpr
      fun character listed falls => admitted character listed (.inr falls)
    have spaceless := (isEmpty_spaces_iff (collected_foldlM recorded)).mpr
      fun character listed stray => admitted character listed (.inl stray)
    exact ⟨planes, ofRegistry_eq_ok_iff.mpr ⟨recorded, spaceless⟩⟩

theorem refused_of_ofRegistry (failed : ofRegistry registry sets = .error failure) :
    Refused registry failure := by
  unfold ofRegistry at failed
  cases recorded : registry.toList.foldlM (insert sets) empty with
  | error fault =>
      rw [recorded] at failed
      cases failed
      obtain ⟨before, character, after, planes, split, reached, refused⟩ :=
        foldlM_eq_error_iff.mp recorded
      exact .fallsBack split ((exists_foldlM_iff (exists_insert_iff sets) before empty).mp
        ⟨planes, reached⟩) (refusal_of_insert refused)
  | ok planes =>
      rw [recorded, ok_bind] at failed
      cases spaceless : planes.spaces.isEmpty with
      | true =>
          rw [if_pos spaceless] at failed
          cases failed
      | false =>
          rw [if_neg (by simp [spaceless])] at failed
          cases failed
          refine .spaces ((exists_recorded_iff registry sets).mp ⟨planes, recorded⟩) ?_
            (ascending_toList _) fun code => ?_
          · rw [Ne, ← List.isEmpty_iff, Std.TreeSet.isEmpty_toList, spaceless]
            exact Bool.false_ne_true
          · rw [Std.TreeSet.mem_toList, mem_spaces_iff (collected_foldlM recorded)]

theorem Refused.isCorpusFault (refused : Refused registry failure) :
    failure.isCorpusFault = true := by
  cases refused with
  | fallsBack _ _ refusal => exact refusal.isCorpusFault
  | spaces => rfl

/-! ## What is recorded -/

/-- The planes have the case mappings of the supplementary characters of a registry, all of which
lead to supplementary codes, and those of their codes that have a property; they have no spaces. -/
structure Contents (planes : SupplementaryPlanes) (registry : Registry) (sets : PropertySets) :
    Prop where
  lowercase : Maps CharacterRecord.lowercase planes.lowercase registry.toList
  uppercase : Maps CharacterRecord.uppercase planes.uppercase registry.toList
  above : ∀ code target,
    planes.lowercase[code]? = some target ∨ planes.uppercase[code]? = some target →
      Code.maxBasic < code ∧ Code.maxBasic < target
  spaces : planes.spaces.toList = []
  idStart : ∀ code, code ∈ planes.idStart ↔ Code.maxBasic < code ∧
    (∃ character ∈ registry.toList, character.code = code) ∧ code ∈ sets.idStart
  idContinue : ∀ code, code ∈ planes.idContinue ↔ Code.maxBasic < code ∧
    (∃ character ∈ registry.toList, character.code = code) ∧ code ∈ sets.idContinue

theorem Collects.mem_iff {set having : CodeSet} {seen : List CharacterRecord}
    (collects : Collects (fun character => having.contains character.code) set seen)
    (code : Int) :
    code ∈ set ↔ Code.maxBasic < code ∧
      (∃ character ∈ seen, character.code = code) ∧ code ∈ having := by
  rw [collects code]
  refine and_congr_right fun _ => ?_
  constructor
  · rintro ⟨character, listed, rfl, has⟩
    exact ⟨⟨character, listed, rfl⟩, Std.TreeSet.contains_iff_mem.mp has⟩
  · rintro ⟨⟨character, listed, rfl⟩, has⟩
    exact ⟨character, listed, rfl, Std.TreeSet.contains_iff_mem.mpr has⟩

theorem contents_ofRegistry (distinct : (registry.toList.map CharacterRecord.code).Nodup)
    (compiled : ofRegistry registry sets = .ok planes) : planes.Contents registry sets := by
  obtain ⟨recorded, spaceless⟩ := ofRegistry_eq_ok_iff.mp compiled
  have records := records_ofRegistry distinct compiled
  have collected := collected_foldlM recorded
  have stays := (exists_recorded_iff registry sets).mp ⟨planes, recorded⟩
  refine ⟨records.lowercase, records.uppercase, ?_, ?_, collected.idStart.mem_iff,
    collected.idContinue.mem_iff⟩
  · intro code target mapped
    cases mapped with
    | inl lower =>
        obtain ⟨supplementary, moved, character, listed, rfl, rfl⟩ :=
          (records.lowercase code target).mp lower
        refine ⟨supplementary, ?_⟩
        by_contra basic
        exact stays character listed ⟨supplementary, .inl ⟨moved, Int.not_lt.mp basic⟩⟩
    | inr upper =>
        obtain ⟨supplementary, moved, character, listed, rfl, rfl⟩ :=
          (records.uppercase code target).mp upper
        refine ⟨supplementary, ?_⟩
        by_contra basic
        exact stays character listed ⟨supplementary, .inr ⟨moved, Int.not_lt.mp basic⟩⟩
  · rw [← List.isEmpty_iff, Std.TreeSet.isEmpty_toList, spaceless]

/-! ## The order of the registry -/

/-- Planes that show no difference: their maps and their sets list the same. -/
structure Alike (first second : SupplementaryPlanes) : Prop where
  lowercase : first.lowercase.toList = second.lowercase.toList
  uppercase : first.uppercase.toList = second.uppercase.toList
  spaces : first.spaces.toList = second.spaces.toList
  idStart : first.idStart.toList = second.idStart.toList
  idContinue : first.idContinue.toList = second.idContinue.toList

theorem Maps.toList_eq {mapping : CharacterRecord → Int} {map next : Std.TreeMap Int Int}
    {seen listed : List CharacterRecord} (maps : Maps mapping map seen)
    (again : Maps mapping next listed) (same : seen.Perm listed) : map.toList = next.toList := by
  refine (Std.TreeMap.Equiv.of_forall_constGet?_eq fun code => ?_).toList_eq
  refine Option.ext fun target => ?_
  rw [maps code target, again code target]
  simp only [same.mem_iff]

theorem toList_eq_of_mem_iff {first second : CodeSet}
    (same : ∀ code, code ∈ first ↔ code ∈ second) : first.toList = second.toList := by
  refine (ascending_toList first).eq_of_mem_iff (ascending_toList second) fun code => ?_
  rw [Std.TreeSet.mem_toList, Std.TreeSet.mem_toList]
  exact same code

theorem Contents.alike (contents : planes.Contents registry sets)
    (again : others.Contents other sets) (same : registry.toList.Perm other.toList) :
    planes.Alike others := by
  refine ⟨contents.lowercase.toList_eq again.lowercase same,
    contents.uppercase.toList_eq again.uppercase same, contents.spaces.trans again.spaces.symm,
    toList_eq_of_mem_iff fun code => ?_, toList_eq_of_mem_iff fun code => ?_⟩
  · rw [contents.idStart code, again.idStart code]
    simp only [same.mem_iff]
  · rw [contents.idContinue code, again.idContinue code]
    simp only [same.mem_iff]

/-- A registry that lists each code once is refused just if it has a stray space or a character
that falls back; the failure is always one of the data. Any other registry is recorded as it is,
and another order of its characters makes no difference. -/
theorem ofRegistry_admits (registry : Registry) (sets : PropertySets)
    (distinct : (registry.toList.map CharacterRecord.code).Nodup) :
    ((∃ failure, ofRegistry registry sets = .error failure ∧ failure.isCorpusFault = true) ↔
        ∃ character ∈ registry.toList, character.StraySpace ∨ character.FallsBack) ∧
      (∀ failure, ofRegistry registry sets = .error failure → Refused registry failure) ∧
      ((¬ ∃ character ∈ registry.toList, character.StraySpace ∨ character.FallsBack) →
        ∃ planes, ofRegistry registry sets = .ok planes ∧ planes.Contents registry sets) ∧
      ∀ other : Registry, registry.toList.Perm other.toList →
        ((∃ failure, ofRegistry other sets = .error failure) ↔
            ∃ failure, ofRegistry registry sets = .error failure) ∧
          ∀ planes others, ofRegistry registry sets = .ok planes →
            ofRegistry other sets = .ok others → planes.Alike others := by
  have refused (listed : Registry) : (∃ failure, ofRegistry listed sets = .error failure) ↔
      ∃ character ∈ listed.toList, character.StraySpace ∨ character.FallsBack := by
    rw [exists_error_iff, exists_ofRegistry_iff]
    simp only [not_forall, not_not, exists_prop]
  refine ⟨⟨?_, ?_⟩, fun failure => refused_of_ofRegistry, ?_, ?_⟩
  · rintro ⟨failure, failed, _⟩
    exact (refused registry).mp ⟨failure, failed⟩
  · intro unfit
    obtain ⟨failure, failed⟩ := (refused registry).mpr unfit
    exact ⟨failure, failed, (refused_of_ofRegistry failed).isCorpusFault⟩
  · intro fit
    rw [← refused registry, exists_error_iff, not_not] at fit
    obtain ⟨planes, compiled⟩ := fit
    exact ⟨planes, compiled, contents_ofRegistry distinct compiled⟩
  · intro other same
    constructor
    · rw [refused other, refused registry]
      simp only [same.mem_iff]
    · intro planes others compiled again
      have otherDistinct := (same.map CharacterRecord.code).nodup_iff.mp distinct
      exact (contents_ofRegistry distinct compiled).alike (contents_ofRegistry otherDistinct again)
        same

/-- Two letters behind the basic plane and a space in it. -/
def capitalSpaceSmall : Registry :=
  Registry.ofRecords [⟨0x10400, "CAPITAL LONG I", "Lu", "", 0x10400, 0x10428⟩,
    ⟨0x20, "SPACE", "Zs", "", 0x20, 0x20⟩, ⟨0x10428, "SMALL LONG I", "Ll", "", 0x10400, 0x10428⟩]

def smallCapitalSpace : Registry :=
  Registry.ofRecords [⟨0x10428, "SMALL LONG I", "Ll", "", 0x10400, 0x10428⟩,
    ⟨0x10400, "CAPITAL LONG I", "Lu", "", 0x10400, 0x10428⟩, ⟨0x20, "SPACE", "Zs", "", 0x20, 0x20⟩]

theorem ofRegistry_admits_letters :
    (capitalSpaceSmall.toList.map CharacterRecord.code).Nodup ∧
      capitalSpaceSmall.toList.Perm smallCapitalSpace.toList ∧
      ∃ planes others, ofRegistry capitalSpaceSmall .empty = .ok planes ∧
        ofRegistry smallCapitalSpace .empty = .ok others ∧
        planes.lowercase[(0x10400 : Int)]? = some 0x10428 ∧ planes.Alike others := by
  have distinct : (capitalSpaceSmall.toList.map CharacterRecord.code).Nodup := by decide +kernel
  have same : capitalSpaceSmall.toList.Perm smallCapitalSpace.toList := by decide +kernel
  have fit : ¬ ∃ character ∈ capitalSpaceSmall.toList,
      character.StraySpace ∨ character.FallsBack := by
    decide +kernel
  obtain ⟨_, _, recorded, reordered⟩ := ofRegistry_admits capitalSpaceSmall .empty distinct
  obtain ⟨planes, compiled, contents⟩ := recorded fit
  obtain ⟨together, alike⟩ := reordered smallCapitalSpace same
  cases again : ofRegistry smallCapitalSpace .empty with
  | error failure =>
      obtain ⟨_, failed⟩ := together.mp ⟨failure, again⟩
      cases failed.symm.trans compiled
  | ok others =>
      refine ⟨distinct, same, planes, others, compiled, rfl, ?_, alike planes others compiled again⟩
      refine (contents.lowercase 0x10400 0x10428).mpr ⟨by decide, by decide,
        ⟨0x10400, "CAPITAL LONG I", "Lu", "", 0x10400, 0x10428⟩, by decide +kernel, rfl, rfl⟩

end SupplementaryPlanes

end CharacterTables
