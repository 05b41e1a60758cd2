import Mathlib
import CharacterTables.Proofs.Collection.Ascending
import CharacterTables.Proofs.Collection.LastWins
import CharacterTables.Proofs.Outcome
import CharacterTables.SpecialCasing.Check

/-!
# Buckets of overrides

Each side of a special case has its place: a bucket, chosen by the conditions, and the code there.
After any number of special cases, a place holds the side of the last of them that belongs there
and departs from the default.
-/

set_option autoImplicit false

namespace CharacterTables

/-! ## Places -/

/-- The place of a special case on either side. -/
inductive BucketKey where
  | unconditional (code : Int)
  | contextual (code : Int)
  | tailored (language : String) (code : Int)
  deriving DecidableEq, Repr

namespace SpecialCase

def bucketKey (special : SpecialCase) : BucketKey :=
  match special.language, special.context with
  | none, none => .unconditional special.code
  | none, some _ => .contextual special.code
  | some language, _ => .tailored language special.code

theorem bucketKey_of_language {special : SpecialCase} {language : String}
    (spoken : special.language = some language) :
    special.bucketKey = .tailored language special.code := by
  unfold bucketKey
  rw [spoken]

theorem language_of_bucketKey {special : SpecialCase} {language : String} {code : Int}
    (tailored : special.bucketKey = .tailored language code) :
    special.language = some language := by
  unfold bucketKey at tailored
  cases spoken : special.language with
  | none =>
      rw [spoken] at tailored
      cases context : special.context with
      | none => simp [context] at tailored
      | some context => simp [context] at tailored
  | some tongue =>
      rw [spoken] at tailored
      cases tailored
      rfl

def override (special : SpecialCase) (side : Side) : Override :=
  { sequence := special.form side, context := special.context }

/-- The form on this side is not just the default form of the character. -/
def departs (plane : BasicPlane) (side : Side) (special : SpecialCase) : Bool :=
  match plane.cased special.code with
  | .ok cased => special.form side != [cased.form side]
  | .error _ => false

theorem departs_of_cased {plane : BasicPlane} {special : SpecialCase} {cased : CasedCharacter}
    (found : plane.cased special.code = .ok cased) (side : Side) :
    special.departs plane side = true ↔ special.form side ≠ [cased.form side] := by
  rw [departs, found]
  exact bne_iff_ne

def fills (plane : BasicPlane) (side : Side) (key : BucketKey) (special : SpecialCase) : Bool :=
  special.bucketKey == key && special.departs plane side

theorem fills_iff {plane : BasicPlane} {side : Side} {key : BucketKey} {special : SpecialCase} :
    special.fills plane side key = true ↔
      special.bucketKey = key ∧ special.departs plane side = true := by
  simp [fills]

end SpecialCase

theorem Sides.get_modify {α : Type} (sides : Sides α) (side other : Side) (change : α → α) :
    (sides.modify side change).get other =
      if side = other then change (sides.get other) else sides.get other := by
  cases side with
  | lower => cases other <;> rfl
  | upper => cases other <;> rfl

theorem Sides.get_map {α β : Type} (sides : Sides α) (change : α → β) (side : Side) :
    (sides.map change).get side = change (sides.get side) := by
  cases side <;> rfl

namespace Overrides

variable {plane : BasicPlane} {overrides after : Overrides} {special : SpecialCase}

/-! ## What stands at a place -/

def stored? (overrides : Overrides) (side : Side) : BucketKey → Option Override
  | .unconditional code =>
      ((overrides.unconditional.get side).get? code).map ({ sequence := ·, context := none })
  | .contextual code => (overrides.contextual.get side).get? code
  | .tailored language code =>
      ((overrides.tailored.get side).get? language).bind fun bucket => bucket.get? code

/-- Every language that is listed has overrides. -/
def Occupied (overrides : Overrides) : Prop :=
  ∀ side language bucket, (overrides.tailored.get side).get? language = some bucket →
    ∃ code override, bucket.get? code = some override

theorem Occupied.get?_eq_none_iff (occupied : overrides.Occupied) {side : Side}
    {language : String} :
    (overrides.tailored.get side).get? language = none ↔
      ∀ code, overrides.stored? side (.tailored language code) = none := by
  unfold stored?
  cases found : (overrides.tailored.get side).get? language with
  | none => simp [found]
  | some bucket =>
      obtain ⟨code, override, held⟩ := occupied side language bucket found
      simp only [found, reduceCtorEq, Option.bind_some, false_iff, not_forall]
      exact ⟨code, by rw [held]; exact Option.some_ne_none override⟩

theorem stored?_empty (side : Side) (key : BucketKey) : empty.stored? side key = none := by
  cases side <;> cases key <;> simp [stored?, empty, Sides.get]

theorem occupied_empty : empty.Occupied := by
  intro side language bucket found
  cases side <;> simp [empty, Sides.get] at found

/-! ## Inserting a side -/

theorem get?_modify_insert {α : Type} (buckets : Sides (OrderedMap Int α)) (side other : Side)
    (code key : Int) (value : α) :
    ((buckets.modify side (·.insert code value)).get other).get? key =
      if side = other ∧ code = key then some value else (buckets.get other).get? key := by
  rw [Sides.get_modify]
  by_cases same : side = other
  · simp [same, OrderedMap.get?_insert]
  · simp [same]

/-- A new language begins with an empty bucket. -/
theorem get?_modify_insert_language {α : Type}
    (buckets : Sides (OrderedMap String (OrderedMap Int α))) (side other : Side)
    (language key : String) (code inner : Int) (value : α) :
    ((buckets.modify side fun languages => languages.insert language
        (((languages.get? language).getD OrderedMap.empty).insert code value)).get other).get? key
        >>= (·.get? inner) =
      if side = other ∧ language = key ∧ code = inner then some value
      else (buckets.get other).get? key >>= (·.get? inner) := by
  rw [Sides.get_modify]
  by_cases same : side = other
  · by_cases own : language = key
    · subst own
      cases (buckets.get other).get? language with
      | none => simp [same, OrderedMap.get?_insert]
      | some bucket => simp [same, OrderedMap.get?_insert]
    · simp [same, own, OrderedMap.get?_insert]
  · simp [same]

theorem stored?_insert (overrides : Overrides) (special : SpecialCase) (side other : Side)
    (key : BucketKey) :
    (overrides.insert special side).stored? other key =
      if side = other ∧ special.bucketKey = key then some (special.override side)
      else overrides.stored? other key := by
  unfold insert SpecialCase.bucketKey SpecialCase.override
  cases special.language with
  | none =>
      cases special.context with
      | none =>
          cases key with
          | unconditional code =>
              simp only [stored?, get?_modify_insert, BucketKey.unconditional.injEq]
              exact apply_ite (Option.map _) _ _ _
          | contextual code => simp [stored?]
          | tailored language code => simp [stored?]
      | some context =>
          cases key with
          | unconditional code => simp [stored?]
          | contextual code => simp [stored?, get?_modify_insert]
          | tailored language code => simp [stored?]
  | some language =>
      cases key with
      | unconditional code => simp [stored?]
      | contextual code => simp [stored?]
      | tailored tongue code =>
          simp only [BucketKey.tailored.injEq]
          exact get?_modify_insert_language overrides.tailored side other language tongue
            special.code code _

theorem tailored_insert_of_none (unspoken : special.language = none) (side : Side) :
    (overrides.insert special side).tailored = overrides.tailored := by
  unfold insert
  rw [unspoken]
  cases special.context with
  | none => rfl
  | some context => rfl

theorem Occupied.insert (occupied : overrides.Occupied) (special : SpecialCase) (side : Side) :
    (overrides.insert special side).Occupied := by
  intro other language bucket found
  cases spoken : special.language with
  | none =>
      rw [tailored_insert_of_none spoken] at found
      exact occupied other language bucket found
  | some tongue =>
      simp only [Overrides.insert, spoken, Sides.get_modify] at found
      by_cases same : side = other
      · rw [if_pos same, OrderedMap.get?_insert] at found
        by_cases own : tongue = language
        · rw [if_pos own] at found
          cases found
          exact ⟨special.code, _, by rw [OrderedMap.get?_insert, if_pos rfl]⟩
        · rw [if_neg own] at found
          exact occupied other language bucket found
      · rw [if_neg same] at found
        exact occupied other language bucket found

/-! ## Adding special cases -/

theorem stored?_insertSpecial (cased : CasedCharacter) (special : SpecialCase)
    (overrides : Overrides) (side other : Side) (key : BucketKey) :
    (insertSpecial cased special overrides side).stored? other key =
      if side = other ∧ special.bucketKey = key ∧ special.form side ≠ [cased.form side] then
        some (special.override side)
      else overrides.stored? other key := by
  unfold insertSpecial
  by_cases default : special.form side = [cased.form side]
  · simp [default]
  · simp [default, stored?_insert]

theorem Occupied.insertSpecial (occupied : overrides.Occupied) (cased : CasedCharacter)
    (special : SpecialCase) (side : Side) :
    (Overrides.insertSpecial cased special overrides side).Occupied := by
  unfold Overrides.insertSpecial
  split
  · exact occupied
  · exact occupied.insert special side

structure Accepts (plane : BasicPlane) (special : SpecialCase) (cased : CasedCharacter) : Prop where
  basic : special.code ≤ Code.maxBasic
  found : plane.cased special.code = .ok cased
  lower : special.code = cased.lower ∨ special.lower ≠ [special.code]
  upper : special.code = cased.upper ∨ special.upper ≠ [special.code]

/-- Whether a special case is added does not depend on those before it. -/
theorem add_eq_ok_iff :
    add plane overrides special = .ok after ↔
      ∃ cased, Accepts plane special cased ∧
        [Side.lower, Side.upper].foldl (insertSpecial cased special) overrides = after := by
  unfold add
  simp only [bind_eq_ok_iff, require_eq_ok_iff, decide_eq_true_eq, pure, Except.pure,
    Except.ok.injEq]
  constructor
  · rintro ⟨_, basic, cased, found, _, lower, _, upper, same⟩
    exact ⟨cased, ⟨basic, found, lower, upper⟩, same⟩
  · rintro ⟨cased, ⟨basic, found, lower, upper⟩, same⟩
    exact ⟨(), basic, cased, found, (), lower, (), upper, same⟩

theorem stored?_add (added : add plane overrides special = .ok after) (side : Side)
    (key : BucketKey) :
    after.stored? side key =
      if special.fills plane side key then some (special.override side)
      else overrides.stored? side key := by
  obtain ⟨cased, accepts, rfl⟩ := add_eq_ok_iff.mp added
  have departs := SpecialCase.departs_of_cased accepts.found side
  simp only [SpecialCase.fills_iff, departs, List.foldl_cons, List.foldl_nil,
    stored?_insertSpecial]
  cases side with
  | lower => simp
  | upper => simp

theorem Occupied.add (occupied : overrides.Occupied)
    (added : Overrides.add plane overrides special = .ok after) : after.Occupied := by
  obtain ⟨cased, accepts, rfl⟩ := add_eq_ok_iff.mp added
  exact (occupied.insertSpecial cased special .lower).insertSpecial cased special .upper

/-! ## All special cases -/

/-- The overrides hold the last departing side for each place, and nothing else. -/
structure Holds (plane : BasicPlane) (specials : List SpecialCase) (overrides : Overrides) :
    Prop where
  entries : ∀ side key, overrides.stored? side key =
    (lastWith (SpecialCase.fills plane side key) specials).map fun special =>
      special.override side
  occupied : overrides.Occupied

theorem holds_empty : empty.Holds plane [] :=
  ⟨stored?_empty, occupied_empty⟩

theorem Holds.add {specials : List SpecialCase} (holds : overrides.Holds plane specials)
    (added : Overrides.add plane overrides special = .ok after) :
    after.Holds plane (specials ++ [special]) := by
  refine ⟨fun side key => ?_, holds.occupied.add added⟩
  rw [stored?_add added, lastWith_append_singleton, holds.entries]
  cases special.fills plane side key with
  | true => rfl
  | false => rfl

theorem holds_of_foldlM {specials : List SpecialCase}
    (added : specials.foldlM (add plane) empty = .ok overrides) :
    overrides.Holds plane specials := by
  refine foldlM_induction added (fun seen state => state.Holds plane seen) holds_empty ?_
  intro seen special rest state after split holds stepped
  exact holds.add stepped

theorem exists_foldlM_add_iff {specials : List SpecialCase} :
    (∃ overrides, specials.foldlM (add plane) empty = .ok overrides) ↔
      ∀ special ∈ specials, ∃ cased, Accepts plane special cased := by
  refine exists_foldlM_iff (fun overrides special => ?_) specials empty
  simp [add_eq_ok_iff]

end Overrides

end CharacterTables
