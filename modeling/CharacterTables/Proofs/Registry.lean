import Mathlib
import CharacterTables.Proofs.Collection.OrderedMap
import CharacterTables.Registry

/-!
# Characters under their codes

A registry made from records has every character under its own code, and lists it once.
-/

set_option autoImplicit false

namespace CharacterTables.Registry

/-- Every character of a registry stands under its own code. -/
def Keyed (registry : Registry) : Prop :=
  ∀ code character, registry.get? code = some character → character.code = code

/-- The lowercase form of a code; a code without a character is its own. -/
def lowercaseOf (registry : Registry) (code : Int) : Int :=
  ((registry.get? code).map CharacterRecord.lowercase).getD code

/-- The uppercase form of a code; a code without a character is its own. -/
def uppercaseOf (registry : Registry) (code : Int) : Int :=
  ((registry.get? code).map CharacterRecord.uppercase).getD code

/-- No character of a registry has a negative code or case form. -/
def Unsigned (registry : Registry) : Prop :=
  ∀ character ∈ registry.toList,
    0 ≤ character.code ∧ 0 ≤ character.lowercase ∧ 0 ≤ character.uppercase

instance (registry : Registry) : Decidable registry.Unsigned :=
  inferInstanceAs (Decidable (∀ character ∈ registry.toList,
    0 ≤ character.code ∧ 0 ≤ character.lowercase ∧ 0 ≤ character.uppercase))

theorem ofRecords_append_singleton (characters : List CharacterRecord)
    (character : CharacterRecord) :
    ofRecords (characters ++ [character]) = (ofRecords characters).insert character := by
  unfold ofRecords
  rw [List.foldl_append]
  rfl

theorem get?_insert (registry : Registry) (character : CharacterRecord) (code : Int) :
    (registry.insert character).get? code =
      if character.code = code then some character else registry.get? code :=
  OrderedMap.get?_insert registry.characters character.code code character

theorem keyed_ofRecords (characters : List CharacterRecord) : (ofRecords characters).Keyed := by
  induction characters using List.reverseRecOn with
  | nil =>
      intro code character found
      cases (OrderedMap.get?_empty code).symm.trans found
  | append_singleton characters last ih =>
      intro code character found
      rw [ofRecords_append_singleton, get?_insert] at found
      by_cases same : last.code = code
      · rw [if_pos same] at found
        cases found
        exact same
      · rw [if_neg same] at found
        exact ih code character found

theorem keyed_ofText {text : List Char} {registry : Registry}
    (read : ofText text = .ok registry) : registry.Keyed := by
  unfold ofText at read
  cases complete : (readCharacters text).complete with
  | error fault =>
      rw [complete] at read
      cases read
  | ok characters =>
      rw [complete] at read
      cases read
      exact keyed_ofRecords characters

theorem Keyed.get?_eq_some_iff {registry : Registry} (keyed : registry.Keyed) {code : Int}
    {character : CharacterRecord} :
    registry.get? code = some character ↔
      character ∈ registry.toList ∧ character.code = code := by
  unfold toList
  constructor
  · intro found
    have pair := OrderedMap.mem_toList_iff.mpr found
    exact ⟨List.mem_map.mpr ⟨_, pair, rfl⟩, keyed code character found⟩
  · rintro ⟨listed, rfl⟩
    obtain ⟨⟨code, _⟩, pair, rfl⟩ := List.mem_map.mp listed
    have found : registry.get? code = some _ := OrderedMap.mem_toList_iff.mp pair
    rwa [keyed code _ found]

theorem Keyed.map_code_toList {registry : Registry} (keyed : registry.Keyed) :
    registry.toList.map CharacterRecord.code = registry.codes := by
  unfold toList codes
  rw [List.map_map, ← OrderedMap.map_fst_toList]
  refine List.map_congr_left ?_
  rintro ⟨code, character⟩ pair
  exact keyed code character (OrderedMap.mem_toList_iff.mp pair)

theorem Keyed.nodup_codes {registry : Registry} (keyed : registry.Keyed) :
    (registry.toList.map CharacterRecord.code).Nodup := by
  rw [keyed.map_code_toList]
  exact registry.characters.nodup_keys

end CharacterTables.Registry
