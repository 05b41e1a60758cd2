import Mathlib
import CharacterTables.Proofs.Corpus.LineByLine
import CharacterTables.Proofs.SpecialCasing.Buckets

/-!
# The special sides of a file

Overrides are sorted before they are checked. So where no two special cases share a place, the
lines of a file may stand in any order: the same sides are kept, in the same order, and the check
comes out the same.
-/

set_option autoImplicit false

namespace CharacterTables

open Text

namespace Overrides

variable {plane : BasicPlane} {first second overrides : Overrides} {specials : List SpecialCase}

/-! ## Sorted overrides -/

def tailoredLists (overrides : Overrides) (side : Side) : List (String × List (Int × Override)) :=
  (overrides.tailored.get side).toList.map fun pair => (pair.1, pair.2.toList)

/-- All buckets list the same in the same order. -/
structure Same (first second : Overrides) : Prop where
  unconditional : ∀ side,
    (first.unconditional.get side).toList = (second.unconditional.get side).toList
  contextual : ∀ side, (first.contextual.get side).toList = (second.contextual.get side).toList
  tailored : ∀ side, first.tailoredLists side = second.tailoredLists side

theorem stored?_sort (overrides : Overrides) (side : Side) (key : BucketKey) :
    overrides.sort.stored? side key = overrides.stored? side key := by
  cases key with
  | unconditional code => simp [stored?, sort, Sides.get_map]
  | contextual code => simp [stored?, sort, Sides.get_map]
  | tailored language code =>
      simp only [stored?, sort, Sides.get_map, OrderedMap.get?_sort, OrderedMap.get?_mapValues]
      cases (overrides.tailored.get side).get? language with
      | none => rfl
      | some bucket => rfl

theorem Occupied.sort (occupied : overrides.Occupied) : overrides.sort.Occupied := by
  intro side language bucket found
  simp only [Overrides.sort, Sides.get_map, OrderedMap.get?_sort, OrderedMap.get?_mapValues,
    Option.map_eq_some_iff] at found
  obtain ⟨unsorted, listed, rfl⟩ := found
  exact occupied side language unsorted listed

theorem Holds.sort (holds : overrides.Holds plane specials) :
    overrides.sort.Holds plane specials :=
  ⟨fun side key => (stored?_sort overrides side key).trans (holds.entries side key),
    holds.occupied.sort⟩

/-- What stands at each place decides everything about sorted overrides. -/
theorem same_sort (stored : ∀ side key, first.stored? side key = second.stored? side key)
    (firstOccupied : first.Occupied) (secondOccupied : second.Occupied) :
    first.sort.Same second.sort := by
  constructor
  case unconditional =>
    intro side
    rw [sort, sort, Sides.get_map, Sides.get_map]
    refine OrderedMap.toList_sort_congr fun code => ?_
    have injective : Function.Injective fun sequence => Override.mk sequence none := by
      intro one other same
      cases same
      rfl
    exact Option.map_injective injective (stored side (.unconditional code))
  case contextual =>
    intro side
    rw [sort, sort, Sides.get_map, Sides.get_map]
    exact OrderedMap.toList_sort_congr fun code => stored side (.contextual code)
  case tailored =>
    intro side
    rw [tailoredLists, tailoredLists, sort, sort, Sides.get_map, Sides.get_map,
      ← OrderedMap.toList_sort_mapValues, ← OrderedMap.toList_sort_mapValues]
    refine OrderedMap.toList_sort_congr fun language => ?_
    simp only [OrderedMap.get?_mapValues, Option.map_map]
    -- A language is listed just if something is kept for it, so both have the same languages.
    have spoken : (first.tailored.get side).get? language = none ↔
        (second.tailored.get side).get? language = none := by
      rw [firstOccupied.get?_eq_none_iff, secondOccupied.get?_eq_none_iff]
      exact forall_congr' fun code => by rw [stored]
    cases firstFound : (first.tailored.get side).get? language with
    | none => rw [spoken.mp firstFound]
    | some firstBucket =>
        cases secondFound : (second.tailored.get side).get? language with
        | none => rw [spoken.mpr secondFound] at firstFound; cases firstFound
        | some secondBucket =>
            refine congrArg some (OrderedMap.toList_sort_congr fun code => ?_)
            have here := stored side (.tailored language code)
            rwa [stored?, stored?, firstFound, secondFound] at here

/-! ## The check -/

theorem conditioned_eq (overrides : Overrides) :
    overrides.conditioned =
      ([overrides.contextual.lower.toList, overrides.contextual.upper.toList] ++
        (overrides.tailoredLists .lower).map Prod.snd ++
        (overrides.tailoredLists .upper).map Prod.snd).flatMap (·.map Prod.snd) := by
  simp [conditioned, tailoredLists, Sides.get, List.flatMap_map]

theorem languages_eq (overrides : Overrides) :
    overrides.languages =
      (overrides.tailoredLists .lower).map Prod.fst ++
        (overrides.tailoredLists .upper).map Prod.fst := by
  simp [languages, tailoredLists, Sides.get, ← OrderedMap.map_fst_toList, Function.comp_def]

/-- The check looks at nothing but the lists of the buckets. -/
theorem Same.check_eq (same : first.Same second) : first.check = second.check := by
  have lower : first.unconditional.lower.toList = second.unconditional.lower.toList :=
    same.unconditional .lower
  have upper : first.unconditional.upper.toList = second.unconditional.upper.toList :=
    same.unconditional .upper
  have contextualLower : first.contextual.lower.toList = second.contextual.lower.toList :=
    same.contextual .lower
  have contextualUpper : first.contextual.upper.toList = second.contextual.upper.toList :=
    same.contextual .upper
  have conditioned : first.conditioned = second.conditioned := by
    rw [conditioned_eq, conditioned_eq, contextualLower, contextualUpper, same.tailored,
      same.tailored]
  have languages : first.languages = second.languages := by
    rw [languages_eq, languages_eq, same.tailored, same.tailored]
  simp only [check, checkLatin1, checkLowercase, checkNames, languageIndependentCodes, codesOf,
    sequences, contexts, conditioned, languages, lower, upper,
    OrderedMap.keys_congr lower, OrderedMap.keys_congr upper,
    OrderedMap.keys_congr contextualLower, OrderedMap.keys_congr contextualUpper,
    OrderedMap.get?_congr lower, OrderedMap.get?_congr upper,
    OrderedMap.get?_congr contextualLower]

/-! ## Whole files -/

theorem ofText_eq_ok_iff {text : List Char} :
    ofText plane text = .ok overrides ↔
      (readSpecialCases text).stop = none ∧
        ∃ unsorted, (readSpecialCases text).records.foldlM (add plane) empty = .ok unsorted ∧
          unsorted.sort.check = .ok () ∧ unsorted.sort = overrides := by
  unfold ofText ofReading
  simp only [bind_eq_ok_iff, Reading.foldRecords_eq_ok_iff, and_assoc, exists_and_left]
  refine and_congr_right fun _ => exists_congr fun unsorted => and_congr_right fun _ => ?_
  cases unsorted.sort.check with
  | error fault => simp [throw, throwThe, MonadExceptOf.throw]
  | ok checked => simp [pure, Except.pure]

theorem readSpecialCases_perm {text other : List Char}
    (reordered : (lines other).Perm (lines text))
    (complete : (readSpecialCases text).stop = none) :
    (readSpecialCases other).stop = none ∧
      (readSpecialCases other).records.Perm (readSpecialCases text).records :=
  Reading.ofLines_perm (fun _ => rfl) (dataLines_perm reordered) complete

/-! ## What a place tells about the special cases -/

section Holds

variable (holds : overrides.Holds plane specials) {side : Side}
include holds

theorem Holds.exists_of_stored? {key : BucketKey} {override : Override}
    (stored : overrides.stored? side key = some override) :
    ∃ special ∈ specials, special.bucketKey = key ∧ special.departs plane side = true ∧
      special.override side = override := by
  rw [holds.entries] at stored
  obtain ⟨special, last, same⟩ := Option.map_eq_some_iff.mp stored
  obtain ⟨listed, fills⟩ := mem_of_lastWith last
  obtain ⟨here, departs⟩ := SpecialCase.fills_iff.mp fills
  exact ⟨special, listed, here, departs, same⟩

/-- A side that departs from the default may be replaced, but its place stays taken. -/
theorem Holds.exists_stored {special : SpecialCase} (listed : special ∈ specials)
    (departs : special.departs plane side = true) :
    ∃ override, overrides.stored? side special.bucketKey = some override := by
  have fills : special.fills plane side special.bucketKey = true :=
    SpecialCase.fills_iff.mpr ⟨rfl, departs⟩
  obtain ⟨last, found⟩ := exists_lastWith_iff.mpr ⟨special, listed, fills⟩
  exact ⟨last.override side, by rw [holds.entries, found, Option.map_some]⟩

theorem Holds.mem_keys_iff {language : String} :
    language ∈ (overrides.tailored.get side).keys ↔
      ∃ special ∈ specials, special.language = some language ∧
        special.departs plane side = true := by
  rw [OrderedMap.mem_keys_iff_exists]
  constructor
  · rintro ⟨bucket, found⟩
    obtain ⟨code, override, held⟩ := holds.occupied side language bucket found
    have stored : overrides.stored? side (.tailored language code) = some override :=
      Option.bind_eq_some_iff.mpr ⟨bucket, found, held⟩
    obtain ⟨special, listed, here, departs, _⟩ := holds.exists_of_stored? stored
    exact ⟨special, listed, SpecialCase.language_of_bucketKey here, departs⟩
  · rintro ⟨special, listed, spoken, departs⟩
    obtain ⟨override, stored⟩ := holds.exists_stored listed departs
    rw [SpecialCase.bucketKey_of_language spoken] at stored
    obtain ⟨bucket, found, _⟩ := Option.bind_eq_some_iff.mp stored
    exact ⟨bucket, found⟩

end Holds

section Distinct

variable (distinct : (specials.map SpecialCase.bucketKey).Nodup)

include distinct

theorem eq_of_fills {side : Side} {key : BucketKey} :
    ∀ one ∈ specials, ∀ other ∈ specials, one.fills plane side key = true →
      other.fills plane side key = true → one = other := by
  intro one oneListed other otherListed oneFills otherFills
  refine List.inj_on_of_nodup_map distinct oneListed otherListed ?_
  rw [(SpecialCase.fills_iff.mp oneFills).1, (SpecialCase.fills_iff.mp otherFills).1]

theorem Holds.stored?_eq_some_iff (holds : overrides.Holds plane specials) {side : Side}
    {key : BucketKey} {override : Override} :
    overrides.stored? side key = some override ↔
      ∃ special ∈ specials, special.bucketKey = key ∧ special.departs plane side = true ∧
        special.override side = override := by
  simp only [holds.entries, Option.map_eq_some_iff, lastWith_eq_some_iff (eq_of_fills distinct),
    SpecialCase.fills_iff, and_assoc]

/-- The side of a special case is at its place just if it departs from the default. -/
theorem Holds.stored?_bucketKey (holds : overrides.Holds plane specials) {special : SpecialCase}
    (listed : special ∈ specials) {cased : CasedCharacter}
    (found : plane.cased special.code = .ok cased) (side : Side) :
    overrides.stored? side special.bucketKey =
      if special.form side = [cased.form side] then none else some (special.override side) := by
  have departs := SpecialCase.departs_of_cased found side
  split
  case isTrue default =>
    refine Option.eq_none_iff_forall_ne_some.mpr fun override stored => ?_
    obtain ⟨other, otherListed, same, otherDeparts, _⟩ :=
      (holds.stored?_eq_some_iff distinct).mp stored
    rw [List.inj_on_of_nodup_map distinct otherListed listed same] at otherDeparts
    exact departs.mp otherDeparts default
  case isFalse own =>
    exact (holds.stored?_eq_some_iff distinct).mpr
      ⟨special, listed, rfl, departs.mpr own, rfl⟩

theorem Holds.exists_of_mem_languages (holds : overrides.Holds plane specials) {side : Side}
    {language : String} (listed : language ∈ (overrides.tailored.get side).keys) :
    ∃ special ∈ specials, special.language = some language ∧
      special.departs plane side = true := by
  obtain ⟨bucket, found⟩ := OrderedMap.mem_keys_iff_exists.mp listed
  obtain ⟨code, override, held⟩ := holds.occupied side language bucket found
  have stored : overrides.stored? side (.tailored language code) = some override := by
    rw [stored?, found]
    exact held
  obtain ⟨special, specialListed, here, departs, _⟩ :=
    (holds.stored?_eq_some_iff distinct).mp stored
  exact ⟨special, specialListed, SpecialCase.language_of_bucketKey here, departs⟩

theorem Holds.stored?_perm (holds : overrides.Holds plane specials) {others : List SpecialCase}
    {reordered : Overrides} (otherHolds : reordered.Holds plane others)
    (perm : others.Perm specials) (side : Side) (key : BucketKey) :
    reordered.stored? side key = overrides.stored? side key := by
  rw [holds.entries, otherHolds.entries, lastWith_perm perm (eq_of_fills distinct)]

end Distinct

theorem exists_accepts {text : List Char} (accepted : ofText plane text = .ok overrides)
    {special : SpecialCase} (listed : special ∈ (readSpecialCases text).records) :
    ∃ cased, Accepts plane special cased := by
  obtain ⟨_, unsorted, added, _, _⟩ := ofText_eq_ok_iff.mp accepted
  exact exists_foldlM_add_iff.mp ⟨unsorted, added⟩ special listed

theorem exists_cased {text : List Char} (accepted : ofText plane text = .ok overrides)
    {special : SpecialCase} (listed : special ∈ (readSpecialCases text).records) :
    ∃ cased, plane.cased special.code = .ok cased := by
  obtain ⟨cased, accepts⟩ := exists_accepts accepted listed
  exact ⟨cased, accepts.found⟩

theorem holds_ofText {text : List Char} (accepted : ofText plane text = .ok overrides) :
    overrides.Holds plane (readSpecialCases text).records := by
  obtain ⟨_, unsorted, added, _, rfl⟩ := ofText_eq_ok_iff.mp accepted
  exact (holds_of_foldlM added).sort

/-- The lines of an accepted file may stand in any order. -/
theorem ofText_perm {text other : List Char} (accepted : ofText plane text = .ok overrides)
    (distinct : ((readSpecialCases text).records.map SpecialCase.bucketKey).Nodup)
    (reordered : (lines other).Perm (lines text)) :
    ∃ others, ofText plane other = .ok others ∧ others.Same overrides := by
  obtain ⟨complete, unsorted, added, checked, rfl⟩ := ofText_eq_ok_iff.mp accepted
  obtain ⟨otherComplete, perm⟩ := readSpecialCases_perm reordered complete
  obtain ⟨others, othersAdded⟩ :
      ∃ others, (readSpecialCases other).records.foldlM (add plane) empty = .ok others := by
    refine exists_foldlM_add_iff.mpr fun special listed => ?_
    exact exists_foldlM_add_iff.mp ⟨unsorted, added⟩ special (perm.mem_iff.mp listed)
  have holds := holds_of_foldlM added
  have otherHolds := holds_of_foldlM othersAdded
  have same : others.sort.Same unsorted.sort :=
    same_sort (holds.stored?_perm distinct otherHolds perm) otherHolds.occupied holds.occupied
  exact ⟨others.sort, ofText_eq_ok_iff.mpr
    ⟨otherComplete, others, othersAdded, same.check_eq.trans checked, rfl⟩, same⟩

/-- Where no two special cases share a place, the overrides are the sides that depart from the
default, each at its place, and nothing else. -/
theorem ofText_special_sides {text : List Char} (accepted : ofText plane text = .ok overrides)
    (distinct : ((readSpecialCases text).records.map SpecialCase.bucketKey).Nodup) :
    (∀ special ∈ (readSpecialCases text).records, ∃ cased, plane.cased special.code = .ok cased ∧
      ∀ side,
        overrides.stored? side special.bucketKey =
          (if special.form side = [cased.form side] then none else some (special.override side)) ∧
        (special.language = none → special.context = none →
          ((overrides.unconditional.get side).get? special.code).getD [cased.form side] =
            special.form side)) ∧
      (∀ side key override, overrides.stored? side key = some override →
        ∃ special ∈ (readSpecialCases text).records, special.bucketKey = key ∧
          special.departs plane side = true ∧ special.override side = override) ∧
      (∀ side, ∀ language ∈ (overrides.tailored.get side).keys,
        ∃ special ∈ (readSpecialCases text).records, special.language = some language ∧
          special.departs plane side = true) ∧
      ∀ other, (lines other).Perm (lines text) →
        ∃ others, ofText plane other = .ok others ∧ others.Same overrides := by
  have holds := holds_ofText accepted
  refine ⟨?_, ?_, ?_, fun other reordered => ofText_perm accepted distinct reordered⟩
  · intro special listed
    obtain ⟨cased, found⟩ := exists_cased accepted listed
    refine ⟨cased, found, fun side => ?_⟩
    have stored := holds.stored?_bucketKey distinct listed found side
    refine ⟨stored, fun unspoken unbound => ?_⟩
    have here : special.bucketKey = .unconditional special.code := by
      rw [SpecialCase.bucketKey, unspoken, unbound]
    rw [here, stored?] at stored
    by_cases default : special.form side = [cased.form side]
    · rw [if_pos default, Option.map_eq_none_iff] at stored
      rw [stored, Option.getD_none, default]
    · rw [if_neg default] at stored
      obtain ⟨sequence, kept, same⟩ := Option.map_eq_some_iff.mp stored
      rw [kept, Option.getD_some]
      exact congrArg Override.sequence same
  · intro side key override stored
    exact (holds.stored?_eq_some_iff distinct).mp stored
  · intro side language listed
    exact holds.exists_of_mem_languages distinct listed

/-- What the check insists on, and an override for a language. -/
def leastCasings : List String :=
  ["00DF; 00DF; 0053 0073; 0053 0053;", "0130; 0069 0307; 0130; 0130;",
    "03A3; 03C2; 03A3; 03A3; Final_Sigma;", "0049; 0131; 0049; 0049; tr;"]

def textOf (contents : List String) : List Char :=
  contents.flatMap fun content => content.toList ++ ['\n']

theorem ofText_special_sides_least :
    ∃ overrides, ofText BasicPlane.blank (textOf leastCasings) = .ok overrides ∧
      (∃ cased, BasicPlane.blank.cased 0x49 = .ok cased ∧
        overrides.stored? .lower (.tailored "tr" 0x49) =
          if [0x131] = [cased.lower] then none else some ⟨[0x131], none⟩) ∧
      ∃ others, ofText BasicPlane.blank (textOf leastCasings.reverse) = .ok others ∧
        others.Same overrides := by
  have evaluated : (ofText BasicPlane.blank (textOf leastCasings)).isOk = true := by
    decide +kernel
  obtain ⟨overrides, accepted⟩ := exists_of_isOk evaluated
  obtain ⟨sides, _, _, orders⟩ := ofText_special_sides accepted (by decide +kernel)
  obtain ⟨cased, found, kept⟩ :=
    sides ⟨0x49, [0x131], [0x49], [0x49], some "tr", none⟩ (by decide +kernel)
  obtain ⟨others, othersAccepted, same⟩ :=
    orders (textOf leastCasings.reverse) (by decide +kernel)
  exact ⟨overrides, accepted, ⟨cased, found, (kept .lower).1⟩, others, othersAccepted, same⟩

end Overrides

end CharacterTables
