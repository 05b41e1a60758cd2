import Mathlib
import CharacterTables.Proofs.Outcome
import CharacterTables.Proofs.Registry
import CharacterTables.SupplementaryPlanes

/-!
# What the supplementary planes record

The case maps have just the pairs of a supplementary character and the other character that
it maps to, and the sets have just the supplementary characters with their property.
-/

set_option autoImplicit false

namespace CharacterTables.SupplementaryPlanes

variable {registry : Registry} {sets : PropertySets} {planes after : SupplementaryPlanes}
  {character : CharacterRecord} {seen : List CharacterRecord}

/-! ## Case maps -/

/-- A map has the mappings of the supplementary characters seen, other than to themselves. -/
def Maps (mapping : CharacterRecord → Int) (map : Std.TreeMap Int Int)
    (seen : List CharacterRecord) : Prop :=
  ∀ code target, map[code]? = some target ↔
    Code.maxBasic < code ∧ target ≠ code ∧
      ∃ character ∈ seen, character.code = code ∧ mapping character = target

section Maps

variable {mapping : CharacterRecord → Int} {map next : Std.TreeMap Int Int}

theorem insertMapping_eq_ok_iff {code target : Int} {fault : ShapeFault} :
    insertMapping map code target fault = .ok next ↔
      (target = code ∧ next = map) ∨
        (target ≠ code ∧ Code.maxBasic < target ∧ next = map.insert code target) := by
  unfold insertMapping
  by_cases same : target = code
  · simp [same, eq_comm]
  · by_cases supplementary : Code.maxBasic < target
    · simp [same, supplementary, eq_comm]
    · simp [same, supplementary]

theorem maps_empty (mapping : CharacterRecord → Int) : Maps mapping ∅ [] := by
  intro code target
  simp

/-- A character whose pair has no place in the map leaves it as it is. -/
theorem Maps.skip (maps : Maps mapping map seen)
    (unlisted : character.code ≤ Code.maxBasic ∨ mapping character = character.code) :
    Maps mapping map (seen ++ [character]) := by
  intro code target
  rw [maps code target]
  refine and_congr_right fun supplementary => and_congr_right fun other => ?_
  constructor
  · rintro ⟨found, member, own⟩
    exact ⟨found, List.mem_append_left _ member, own⟩
  · rintro ⟨found, member, own, target⟩
    rcases List.mem_append.mp member with earlier | last
    · exact ⟨found, earlier, own, target⟩
    · cases List.mem_singleton.mp last
      rcases unlisted with basic | same
      · omega
      · omega

theorem Maps.insertMapping {fault : ShapeFault} (maps : Maps mapping map seen)
    (fresh : character.code ∉ seen.map CharacterRecord.code)
    (supplementary : Code.maxBasic < character.code)
    (inserted : insertMapping map character.code (mapping character) fault = .ok next) :
    Maps mapping next (seen ++ [character]) := by
  rcases insertMapping_eq_ok_iff.mp inserted with ⟨same, rfl⟩ | ⟨moved, _, rfl⟩
  · exact maps.skip (.inr same)
  · intro code target
    rw [Std.TreeMap.getElem?_insert]
    by_cases own : character.code = code
    · have unseen : ∀ found ∈ seen, found.code ≠ code := by
        intro found member same
        exact fresh (own ▸ same ▸ List.mem_map.mpr ⟨found, member, rfl⟩)
      rw [if_pos (Std.LawfulEqCmp.compare_eq_iff_eq.mpr own)]
      constructor
      · intro same
        cases same
        exact ⟨own ▸ supplementary, own ▸ moved, character,
          List.mem_append_right _ List.mem_cons_self, own, rfl⟩
      · rintro ⟨_, _, found, member, same, rfl⟩
        rcases List.mem_append.mp member with earlier | last
        · exact absurd same (unseen found earlier)
        · rw [List.mem_singleton.mp last]
    · rw [if_neg (mt Std.LawfulEqCmp.compare_eq_iff_eq.mp own), maps code target]
      refine and_congr_right fun _ => and_congr_right fun _ => ?_
      constructor
      · rintro ⟨found, member, own⟩
        exact ⟨found, List.mem_append_left _ member, own⟩
      · rintro ⟨found, member, same, target⟩
        rcases List.mem_append.mp member with earlier | last
        · exact ⟨found, earlier, same, target⟩
        · cases List.mem_singleton.mp last
          exact absurd same own

/-- Where the map has no pair, the code maps to itself. -/
theorem Maps.getD_eq (maps : Maps mapping map registry.toList) (keyed : registry.Keyed)
    {code : Int} (supplementary : Code.maxBasic < code) :
    map.getD code code = ((registry.get? code).map mapping).getD code := by
  rw [Std.TreeMap.getD_eq_getD_getElem?]
  cases found : map[code]? with
  | some target =>
      obtain ⟨_, _, character, listed, own, rfl⟩ := (maps code target).mp found
      rw [keyed.get?_eq_some_iff.mpr ⟨listed, own⟩]
      rfl
  | none =>
      cases known : registry.get? code with
      | none => rfl
      | some character =>
          obtain ⟨listed, own⟩ := keyed.get?_eq_some_iff.mp known
          by_cases same : mapping character = code
          · rw [Option.map_some, Option.getD_some, same]
            rfl
          · have pair :=
              (maps code _).mpr ⟨supplementary, same, character, listed, own, rfl⟩
            rw [found] at pair
            cases pair

end Maps

/-! ## Sets -/

/-- A set has the supplementary characters seen that pass a test. -/
def Collects (test : CharacterRecord → Bool) (set : CodeSet) (seen : List CharacterRecord) :
    Prop :=
  ∀ code, code ∈ set ↔
    Code.maxBasic < code ∧ ∃ character ∈ seen, character.code = code ∧ test character = true

section Collects

variable {test : CharacterRecord → Bool} {set : CodeSet}

theorem mem_insertIf_iff {code other : Int} {condition : Bool} :
    other ∈ insertIf set code condition ↔ other ∈ set ∨ code = other ∧ condition = true := by
  unfold insertIf
  cases condition with
  | false => simp
  | true => simp [Std.TreeSet.mem_insert, or_comm]

theorem collects_empty (test : CharacterRecord → Bool) : Collects test ∅ [] := by
  intro code
  simp

theorem Collects.skip (collects : Collects test set seen)
    (basic : character.code ≤ Code.maxBasic) : Collects test set (seen ++ [character]) := by
  intro code
  rw [collects code]
  refine and_congr_right fun supplementary => ?_
  constructor
  · rintro ⟨found, member, own⟩
    exact ⟨found, List.mem_append_left _ member, own⟩
  · rintro ⟨found, member, own, passes⟩
    cases List.mem_append.mp member with
    | inl earlier => exact ⟨found, earlier, own, passes⟩
    | inr last =>
        cases List.mem_singleton.mp last
        exact absurd supplementary (own ▸ basic).not_gt

theorem Collects.insertIf (collects : Collects test set seen)
    (supplementary : Code.maxBasic < character.code) :
    Collects test (insertIf set character.code (test character)) (seen ++ [character]) := by
  intro code
  rw [mem_insertIf_iff, collects code]
  constructor
  · rintro (⟨above, found, member, own⟩ | ⟨rfl, passes⟩)
    · exact ⟨above, found, List.mem_append_left _ member, own⟩
    · exact ⟨supplementary, character, List.mem_append_right _ List.mem_cons_self, rfl, passes⟩
  · rintro ⟨above, found, member, own, passes⟩
    cases List.mem_append.mp member with
    | inl earlier => exact .inl ⟨above, found, earlier, own, passes⟩
    | inr last =>
        cases List.mem_singleton.mp last
        exact .inr ⟨own, passes⟩

end Collects

/-! ## Recording all characters -/

theorem insert_eq_ok_iff :
    insert sets planes character = .ok after ↔
      (character.code ≤ Code.maxBasic ∧ after = planes) ∨
        (Code.maxBasic < character.code ∧
          insertMapping planes.lowercase character.code character.lowercase
            (.basicLowercase character.code character.lowercase) = .ok after.lowercase ∧
          insertMapping planes.uppercase character.code character.uppercase
            (.basicUppercase character.code character.uppercase) = .ok after.uppercase ∧
          after.spaces = insertIf planes.spaces character.code
            (character.category == Code.spaceCategory) ∧
          after.idStart = insertIf planes.idStart character.code
            (sets.idStart.contains character.code) ∧
          after.idContinue = insertIf planes.idContinue character.code
            (sets.idContinue.contains character.code)) := by
  unfold insert
  by_cases basic : character.code ≤ Code.maxBasic
  · simp [basic, basic.not_gt, eq_comm]
  · simp only [if_neg basic, bind_eq_ok_iff]
    constructor
    · rintro ⟨lowercase, lower, uppercase, upper, made⟩
      cases made
      exact .inr ⟨Int.not_le.mp basic, lower, upper, rfl, rfl, rfl⟩
    · rintro (⟨below, _⟩ | ⟨_, lower, upper, spaces, idStart, idContinue⟩)
      · exact absurd below basic
      · refine ⟨after.lowercase, lower, after.uppercase, upper, ?_⟩
        rw [← spaces, ← idStart, ← idContinue]
        rfl

/-- The planes have the case mappings of the characters seen. -/
structure Records (planes : SupplementaryPlanes) (seen : List CharacterRecord) : Prop where
  lowercase : Maps CharacterRecord.lowercase planes.lowercase seen
  uppercase : Maps CharacterRecord.uppercase planes.uppercase seen

theorem Records.insert (records : planes.Records seen)
    (fresh : character.code ∉ seen.map CharacterRecord.code)
    (inserted : insert sets planes character = .ok after) :
    after.Records (seen ++ [character]) := by
  rcases insert_eq_ok_iff.mp inserted with ⟨basic, rfl⟩ | ⟨supplementary, lower, upper, _⟩
  · exact ⟨records.lowercase.skip (.inl basic), records.uppercase.skip (.inl basic)⟩
  · exact ⟨records.lowercase.insertMapping fresh supplementary lower,
      records.uppercase.insertMapping fresh supplementary upper⟩

/-- Compiling records all characters, and then there must be no space among them. -/
theorem ofRegistry_eq_ok_iff :
    ofRegistry registry sets = .ok planes ↔
      registry.toList.foldlM (insert sets) empty = .ok planes ∧ planes.spaces.isEmpty = true := by
  unfold ofRegistry
  rw [bind_eq_ok_iff]
  constructor
  · rintro ⟨recorded, folded, checked⟩
    by_cases spaceless : recorded.spaces.isEmpty = true
    · rw [if_pos spaceless] at checked
      cases checked
      exact ⟨folded, spaceless⟩
    · rw [if_neg spaceless] at checked
      cases checked
  · rintro ⟨folded, spaceless⟩
    refine ⟨planes, folded, ?_⟩
    rw [if_pos spaceless]
    rfl

theorem records_ofRegistry (distinct : (registry.toList.map CharacterRecord.code).Nodup)
    (compiled : ofRegistry registry sets = .ok planes) : planes.Records registry.toList := by
  refine foldlM_induction (ofRegistry_eq_ok_iff.mp compiled).1
    (fun seen planes => planes.Records seen) ⟨maps_empty _, maps_empty _⟩ ?_
  intro seen character rest planes after split records inserted
  refine records.insert ?_ inserted
  rw [split, List.map_append, List.nodup_append] at distinct
  intro repeated
  exact distinct.2.2 _ repeated _ List.mem_cons_self rfl

/-- The planes have the supplementary spaces seen, and the codes seen with either property. -/
structure Collected (sets : PropertySets) (planes : SupplementaryPlanes)
    (seen : List CharacterRecord) : Prop where
  spaces : Collects (fun character => character.category == Code.spaceCategory) planes.spaces seen
  idStart : Collects (fun character => sets.idStart.contains character.code) planes.idStart seen
  idContinue : Collects (fun character => sets.idContinue.contains character.code)
    planes.idContinue seen

theorem Collected.insert (collected : Collected sets planes seen)
    (inserted : insert sets planes character = .ok after) :
    Collected sets after (seen ++ [character]) := by
  cases insert_eq_ok_iff.mp inserted with
  | inl basic =>
      obtain ⟨basic, rfl⟩ := basic
      exact ⟨collected.spaces.skip basic, collected.idStart.skip basic,
        collected.idContinue.skip basic⟩
  | inr supplementary =>
      obtain ⟨supplementary, _, _, spaces, idStart, idContinue⟩ := supplementary
      constructor
      · rw [spaces]
        exact collected.spaces.insertIf supplementary
      · rw [idStart]
        exact collected.idStart.insertIf supplementary
      · rw [idContinue]
        exact collected.idContinue.insertIf supplementary

theorem collected_foldlM (recorded : registry.toList.foldlM (insert sets) empty = .ok planes) :
    Collected sets planes registry.toList :=
  foldlM_induction recorded (fun seen planes => Collected sets planes seen)
    ⟨collects_empty _, collects_empty _, collects_empty _⟩
    fun _ _ _ _ _ _ collected inserted => collected.insert inserted

end CharacterTables.SupplementaryPlanes
