import Mathlib
import CharacterTables.BasicPlane
import CharacterTables.Proofs.Collection.Indexing
import CharacterTables.Proofs.Outcome
import CharacterTables.Proofs.Registry

/-!
# What the basic plane records

A plane compiled from a registry has, at the place of every basic character, the number of
the info of that character, and the blank info at all other places.
-/

set_option autoImplicit false

namespace CharacterTables

theorem CharacterInfo.apply_blank {code : Int} (nonneg : 0 ≤ code)
    (basic : code ≤ Code.maxBasic) : blank.apply code = ⟨code, code, Flags.none⟩ := by
  unfold apply blank
  rw [CaseDelta.apply_zero nonneg basic]

namespace BasicPlane

variable {registry : Registry} {sets : PropertySets} {plane after : BasicPlane}
  {character : CharacterRecord}

/-! ## Listing a character -/

theorem insert_eq_ok_iff :
    insert sets plane character = .ok after ↔
      (Code.maxBasic < character.code ∧ after = plane) ∨
        (character.code ≤ Code.maxBasic ∧ character.lowercase ≤ Code.maxBasic ∧
          character.uppercase ≤ Code.maxBasic ∧
          ∃ place, placeOf Code.basicCount character.code = .ok place ∧
            after =
              { infos := (plane.infos.intern (characterInfo sets character)).2
                numbers := plane.numbers.insert place
                  (plane.infos.intern (characterInfo sets character)).1 }) := by
  unfold insert
  by_cases supplementary : Code.maxBasic < character.code
  · rw [if_pos supplementary]
    constructor
    · intro same
      cases same
      exact .inl ⟨supplementary, rfl⟩
    · rintro (⟨_, rfl⟩ | ⟨basic, _⟩)
      · rfl
      · exact absurd supplementary (Int.not_lt.mpr basic)
  · have basic := Int.not_lt.mp supplementary
    rw [if_neg supplementary]
    by_cases mapped : character.lowercase ≤ Code.maxBasic ∧ character.uppercase ≤ Code.maxBasic
    · rw [if_pos mapped]
      cases found : placeOf Code.basicCount character.code with
      | error fault => simp [supplementary]
      | ok place => simp [basic, supplementary, mapped, eq_comm]
    · rw [if_neg mapped]
      constructor
      · intro failed
        cases failed
      · rintro (⟨above, _⟩ | ⟨_, lower, upper, _⟩)
        · exact absurd above supplementary
        · exact absurd ⟨lower, upper⟩ mapped

/-- The case forms of a character are basic. -/
def StaysBasic (character : CharacterRecord) : Prop :=
  character.lowercase ≤ Code.maxBasic ∧ character.uppercase ≤ Code.maxBasic

instance (character : CharacterRecord) : Decidable (StaysBasic character) :=
  inferInstanceAs (Decidable (_ ∧ _))

/-! ## Success and failure -/

theorem not_staysBasic_iff :
    ¬ StaysBasic character ↔
      Code.maxBasic < character.lowercase ∨ Code.maxBasic < character.uppercase := by
  unfold StaysBasic
  rw [not_and_or, Int.not_le, Int.not_le]

/-- A character that can be listed: it is supplementary, or its code has a place in the plane and
its case forms are basic. -/
def Listable (character : CharacterRecord) : Prop :=
  Code.maxBasic < character.code ∨
    StaysBasic character ∧ ∃ place, placeOf Code.basicCount character.code = .ok place

theorem exists_insert_iff (sets : PropertySets) (plane : BasicPlane)
    (character : CharacterRecord) :
    (∃ after, insert sets plane character = .ok after) ↔ Listable character := by
  constructor
  · rintro ⟨after, inserted⟩
    rcases insert_eq_ok_iff.mp inserted with
      ⟨supplementary, _⟩ | ⟨_, lower, upper, place, found, _⟩
    · exact .inl supplementary
    · exact .inr ⟨⟨lower, upper⟩, place, found⟩
  · rintro (supplementary | ⟨⟨lower, upper⟩, place, found⟩)
    · exact ⟨plane, insert_eq_ok_iff.mpr (.inl ⟨supplementary, rfl⟩)⟩
    · have basic := Code.lt_basicCount_iff.mp (bounds_of_placeOf found).2
      exact ⟨_, insert_eq_ok_iff.mpr (.inr ⟨basic, lower, upper, place, found, rfl⟩)⟩

theorem exists_ofRegistry_iff (registry : Registry) (sets : PropertySets) :
    (∃ plane, ofRegistry registry sets = .ok plane) ↔
      ∀ character ∈ registry.toList, Listable character :=
  exists_foldlM_iff (exists_insert_iff sets) registry.toList blank

theorem exists_place {code : Int} (nonneg : 0 ≤ code) (basic : code ≤ Code.maxBasic) :
    ∃ place < Code.basicCount, code = (place : Int) := by
  obtain ⟨place, rfl⟩ := Int.eq_ofNat_of_zero_le nonneg
  exact ⟨place, Int.ofNat_lt.mp (Code.lt_basicCount_iff.mpr basic), rfl⟩

/-- A code that is no more than a whole plane below zero names the place of its remainder. -/
theorem placeOf_code {code : Int} (low : -(Code.basicCount : Int) ≤ code)
    (basic : code ≤ Code.maxBasic) :
    placeOf Code.basicCount code = .ok (code % Code.basicCount).toNat :=
  placeOf_eq_emod (by decide) low (Code.lt_basicCount_iff.mpr basic)

theorem listable_iff :
    Listable character ↔ (character.code ≤ Code.maxBasic →
      -(Code.basicCount : Int) ≤ character.code ∧ StaysBasic character) := by
  constructor
  · intro listable basic
    cases listable with
    | inl supplementary => exact absurd basic supplementary.not_ge
    | inr placed =>
        obtain ⟨stays, place, found⟩ := placed
        exact ⟨(bounds_of_placeOf found).1, stays⟩
  · intro fits
    by_cases basic : character.code ≤ Code.maxBasic
    · obtain ⟨low, stays⟩ := fits basic
      exact .inr ⟨stays, _, placeOf_code low basic⟩
    · exact .inl (Int.not_le.mp basic)

/-- Why a character cannot be listed: a case form of it is not basic, or its code has no place. -/
inductive Refusal (character : CharacterRecord) : Failure → Prop where
  | leaves : character.code ≤ Code.maxBasic → ¬ StaysBasic character →
      Refusal character (.shape (.mappingLeavesPlane character.code))
  | unplaced {fault : PositionFault} : character.code ≤ Code.maxBasic → StaysBasic character →
      placeOf Code.basicCount character.code = .error fault → Refusal character (.store fault)

theorem Refusal.basic {failure : Failure} (refusal : Refusal character failure) :
    character.code ≤ Code.maxBasic := by
  cases refusal with
  | leaves basic _ => exact basic
  | unplaced basic _ _ => exact basic

/-- Without a code below zero, only a case form outside the plane is in the way. -/
theorem Refusal.isCorpusFault {failure : Failure} (refusal : Refusal character failure)
    (nonneg : 0 ≤ character.code) : failure.isCorpusFault = true := by
  cases refusal with
  | leaves _ _ => rfl
  | unplaced basic _ unplaced =>
      rw [placeOf_code (le_trans (by decide) nonneg) basic] at unplaced
      cases unplaced

theorem insert_eq_error_iff {failure : Failure} :
    insert sets plane character = .error failure ↔ Refusal character failure := by
  constructor
  · intro failed
    unfold insert at failed
    split at failed
    · cases failed
    · rename_i basic
      split at failed
      · rename_i stays
        split at failed
        · rename_i fault found
          cases failed
          exact .unplaced (Int.not_lt.mp basic) stays found
        · cases failed
      · rename_i away
        cases failed
        exact .leaves (Int.not_lt.mp basic) away
  · intro refusal
    unfold insert
    cases refusal with
    | leaves basic away => rw [if_neg basic.not_gt, if_neg (show ¬ (_ ∧ _) from away)]
    | unplaced basic stays found =>
        rw [if_neg basic.not_gt, if_pos (show _ ∧ _ from stays), found]

/-- The first character that cannot be listed decides the failure. -/
theorem ofRegistry_eq_error_iff {failure : Failure} :
    ofRegistry registry sets = .error failure ↔
      ∃ before character after, registry.toList = before ++ character :: after ∧
        (∀ earlier ∈ before, Listable earlier) ∧ Refusal character failure := by
  unfold ofRegistry
  rw [foldlM_eq_error_iff]
  constructor
  · rintro ⟨before, character, after, plane, split, reached, refused⟩
    exact ⟨before, character, after, split,
      (exists_foldlM_iff (exists_insert_iff sets) before blank).mp ⟨plane, reached⟩,
      insert_eq_error_iff.mp refused⟩
  · rintro ⟨before, character, after, split, listable, refusal⟩
    obtain ⟨plane, reached⟩ :=
      (exists_foldlM_iff (exists_insert_iff sets) before blank).mpr listable
    exact ⟨before, character, after, plane, split, reached, insert_eq_error_iff.mpr refusal⟩

theorem exists_refusal {failure : Failure} (failed : ofRegistry registry sets = .error failure) :
    ∃ character ∈ registry.toList, Refusal character failure := by
  obtain ⟨before, character, after, split, _, refusal⟩ := ofRegistry_eq_error_iff.mp failed
  refine ⟨character, ?_, refusal⟩
  rw [split]
  exact List.mem_append_right before List.mem_cons_self

/-! ## Listing all characters -/

/-- A plane lists characters, none of which maps out of the plane. -/
def Lists (plane : BasicPlane) (sets : PropertySets) (characters : List CharacterRecord) : Prop :=
  Listing Code.basicCount CharacterRecord.code (characterInfo sets) StaysBasic
    CharacterInfo.blank characters plane.infos plane.numbers

theorem Lists.insert {seen : List CharacterRecord} (lists : plane.Lists sets seen)
    (inserted : insert sets plane character = .ok after) :
    after.Lists sets (seen ++ [character]) := by
  rcases insert_eq_ok_iff.mp inserted with
    ⟨supplementary, rfl⟩ | ⟨basic, lower, upper, place, found, rfl⟩
  · exact Listing.skip lists (Int.not_lt.mp (mt Code.lt_basicCount_iff.mp supplementary.not_ge))
  · exact Listing.put lists found ⟨lower, upper⟩

theorem lists_ofRegistry (compiled : ofRegistry registry sets = .ok plane) :
    plane.Lists sets registry.toList :=
  foldlM_induction compiled (fun seen plane => plane.Lists sets seen)
    (Listing.start CharacterInfo.blank) fun _ _ _ _ _ _ lists inserted => lists.insert inserted

/-! ## Reading the plane -/

section Lists

variable {characters : List CharacterRecord} (lists : plane.Lists sets characters)
include lists

/-- The info of a place is the one that was put there last. -/
theorem Lists.infoAt_eq (place : Nat) :
    plane.infoAt place = valueAt CharacterInfo.blank
      (placements Code.basicCount CharacterRecord.code (characterInfo sets) characters) place := by
  have found := lists.placed.getElem?_number place
  unfold infoAt number
  rw [Array.getD_eq_getD_getElem?, found, Option.getD_some]

/-- Places have the same number just if they have the same info. -/
theorem Lists.number_eq_iff {first second : Nat} :
    plane.number first = plane.number second ↔ plane.infoAt first = plane.infoAt second := by
  rw [lists.infoAt_eq, lists.infoAt_eq]
  exact lists.placed.number_eq_iff

theorem Lists.number_eq_zero_iff {place : Nat} :
    plane.number place = 0 ↔ plane.infoAt place = CharacterInfo.blank := by
  rw [lists.infoAt_eq]
  exact lists.placed.number_eq_zero_iff

variable (nonneg : ∀ character ∈ characters, 0 ≤ character.code)
include nonneg

/-- A place shows the character whose code names it, if there is one. -/
theorem Lists.infoAt_cases {place : Nat} (inside : place < Code.basicCount) :
    (∃ character ∈ characters, character.code = place ∧
        plane.infoAt place = characterInfo sets character) ∨
      (plane.infoAt place = CharacterInfo.blank ∧
        ∀ character ∈ characters, character.code ≠ place) := by
  have small : (place : Int) < wordLimit := (Int.ofNat_lt.mpr inside).trans (by decide)
  unfold infoAt number
  rw [Array.getD_eq_getD_getElem?]
  cases lists.getElem?_number nonneg inside small with
  | inl named =>
      obtain ⟨character, listed, own, _, found⟩ := named
      rw [found]
      exact .inl ⟨character, listed, own, rfl⟩
  | inr unnamed =>
      rw [unnamed.1]
      exact .inr ⟨rfl, unnamed.2⟩

theorem Lists.infoAt_of_mem (distinct : (characters.map CharacterRecord.code).Nodup)
    (listed : character ∈ characters) {place : Nat} (inside : place < Code.basicCount)
    (own : character.code = place) : plane.infoAt place = characterInfo sets character := by
  cases lists.infoAt_cases nonneg inside with
  | inl named =>
      obtain ⟨other, otherListed, same, found⟩ := named
      rw [found, List.inj_on_of_nodup_map distinct otherListed listed (same.trans own.symm)]
  | inr unnamed => exact absurd own (unnamed.2 character listed)

theorem Lists.infoAt_of_unassigned {place : Nat} (inside : place < Code.basicCount)
    (absent : ∀ character ∈ characters, character.code ≠ place) :
    plane.infoAt place = CharacterInfo.blank := by
  cases lists.infoAt_cases nonneg inside with
  | inl named =>
      obtain ⟨other, listed, own, _⟩ := named
      exact absurd own (absent other listed)
  | inr unnamed => exact unnamed.1

end Lists

/-- The index is the list of the numbers of all places. -/
theorem entryAt_index (plane : BasicPlane) {place : Nat} (inside : place < Code.basicCount) :
    entryAt plane.index place = .ok (plane.number place : Int) :=
  entryAt_map_range inside ((Int.ofNat_lt.mpr inside).trans (by decide))

theorem info_eq (plane : BasicPlane) {place : Nat} (inside : place < Code.basicCount) :
    plane.info place = .ok (plane.infoAt place) := by
  have found := placeOf_of_lt inside ((Int.ofNat_lt.mpr inside).trans (by decide))
  rw [info, found]

section Compiled

variable (keyed : registry.Keyed) (compiled : ofRegistry registry sets = .ok plane)
include keyed compiled

theorem number_lt (place : Nat) : plane.number place < 2 ^ 32 := by
  have small : 2 * Code.basicCount < 2 ^ 32 := by decide
  exact ((lists_ofRegistry compiled).number_le keyed.nodup_codes place).trans_lt small

/-- What the plane says about a code is what the registry says. -/
theorem apply_entry (unsigned : registry.Unsigned) {code : Nat}
    (basic : (code : Int) ≤ Code.maxBasic) :
    ∃ info, plane.infos.entries[plane.number code]? = some info ∧
      (info.apply code).lower = registry.lowercaseOf code ∧
      (info.apply code).upper = registry.uppercaseOf code ∧
      (registry.get? code = none → (info.apply code).flags = Flags.none) := by
  have inside : code < Code.basicCount := Int.ofNat_lt.mp (Code.lt_basicCount_iff.mpr basic)
  have small : (code : Int) < wordLimit := (Int.ofNat_lt.mpr inside).trans (by decide)
  have nonneg : ∀ character ∈ registry.toList, 0 ≤ character.code :=
    fun character listed => (unsigned character listed).1
  unfold Registry.lowercaseOf Registry.uppercaseOf
  rcases (lists_ofRegistry compiled).getElem?_number nonneg inside small with
    ⟨character, listed, own, ⟨lower, upper⟩, found⟩ | ⟨found, absent⟩
  · obtain ⟨_, lowerNonneg, upperNonneg⟩ := unsigned character listed
    refine ⟨characterInfo sets character, found, ?_⟩
    rw [keyed.get?_eq_some_iff.mpr ⟨listed, own⟩, ← own]
    refine ⟨CaseDelta.apply_between lowerNonneg lower,
      CaseDelta.apply_between upperNonneg upper, ?_⟩
    intro unassigned
    cases unassigned
  · have unassigned : registry.get? code = none := by
      refine Option.eq_none_iff_forall_ne_some.mpr fun character known => ?_
      obtain ⟨listed, own⟩ := keyed.get?_eq_some_iff.mp known
      exact absent character listed own
    refine ⟨CharacterInfo.blank, found, ?_⟩
    rw [unassigned, CharacterInfo.apply_blank (Int.natCast_nonneg code) basic]
    exact ⟨rfl, rfl, fun _ => rfl⟩

end Compiled

end BasicPlane

end CharacterTables
