import Mathlib
import CharacterTables.Folding
import CharacterTables.Proofs.Collection.OrderedMap
import CharacterTables.Proofs.Collection.Placement
import CharacterTables.Proofs.Outcome

/-!
# What the fold index records

An index compiled from folds has, at the place of every basic code that folds, the number of
the delta that leads to its mapping, and the zero delta at all other places.
-/

set_option autoImplicit false

namespace CharacterTables

theorem CaseDelta.between_self (code : Int) : between code code = zero := by
  rw [between, sub_self]
  rfl

namespace FoldIndex

variable {index after : FoldIndex} {fold : Int × Int}

/-- The delta of a fold. -/
def foldDelta (fold : Int × Int) : CaseDelta :=
  CaseDelta.between fold.1 fold.2

theorem insert_eq_ok_iff :
    insert index fold = .ok after ↔
      (Code.maxBasic < fold.1 ∧ after = index) ∨
        (fold.1 ≤ Code.maxBasic ∧ fold.2 ≤ Code.maxBasic ∧
          ∃ place, placeOf Code.basicCount fold.1 = .ok place ∧
            after =
              { deltas := (index.deltas.intern (foldDelta fold)).2
                numbers := index.numbers.insert place
                  (index.deltas.intern (foldDelta fold)).1 }) := by
  obtain ⟨code, mapping⟩ := fold
  unfold insert foldDelta
  by_cases supplementary : Code.maxBasic < code
  · simp only [if_pos supplementary]
    constructor
    · intro same
      cases same
      exact .inl ⟨supplementary, rfl⟩
    · rintro (⟨_, rfl⟩ | ⟨basic, _⟩)
      · rfl
      · exact absurd supplementary (Int.not_lt.mpr basic)
  · have basic := Int.not_lt.mp supplementary
    simp only [if_neg supplementary]
    by_cases mapped : mapping ≤ Code.maxBasic
    · simp only [if_pos mapped]
      cases found : placeOf Code.basicCount code with
      | error fault => simp [supplementary]
      | ok place => simp [basic, supplementary, mapped, eq_comm]
    · simp only [if_neg mapped]
      constructor
      · intro failed
        cases failed
      · rintro (⟨above, _⟩ | ⟨_, small, _⟩)
        · exact absurd above supplementary
        · exact absurd small mapped

/-- An index lists folds, none of which leads out of the plane. -/
def Lists (index : FoldIndex) (folds : List (Int × Int)) : Prop :=
  Listing Code.basicCount Prod.fst foldDelta (fun fold => fold.2 ≤ Code.maxBasic)
    CaseDelta.zero folds index.deltas index.numbers

theorem Lists.insert {seen : List (Int × Int)} (lists : index.Lists seen)
    (inserted : insert index fold = .ok after) : after.Lists (seen ++ [fold]) := by
  rcases insert_eq_ok_iff.mp inserted with
    ⟨supplementary, rfl⟩ | ⟨basic, mapped, place, found, rfl⟩
  · exact Listing.skip lists (Int.not_lt.mp (mt Code.lt_basicCount_iff.mp supplementary.not_ge))
  · exact Listing.put lists found mapped

theorem lists_ofFolds {folds : List (Int × Int)} (compiled : ofFolds folds = .ok index) :
    index.Lists folds :=
  foldlM_induction compiled (fun seen index => index.Lists seen) (Listing.start CaseDelta.zero)
    fun _ _ _ _ _ _ lists inserted => lists.insert inserted

end FoldIndex

namespace Folding

variable {folding : Folding}

/-- No code of a folding or of its mappings is negative. -/
def Unsigned (folding : Folding) : Prop :=
  ∀ fold ∈ folding.folds.toList, 0 ≤ fold.1 ∧ 0 ≤ fold.2

instance (folding : Folding) : Decidable folding.Unsigned :=
  inferInstanceAs (Decidable (∀ fold ∈ folding.folds.toList, 0 ≤ fold.1 ∧ 0 ≤ fold.2))

/-- A folding whose index is compiled from its folds in ascending order. -/
def Indexed (folding : Folding) : Prop :=
  FoldIndex.ofFolds folding.folds.sort.toList = .ok folding.index

theorem indexed_ofFolds {folds : List CaseFold} (compiled : ofFolds folds = .ok folding) :
    folding.Indexed := by
  unfold ofFolds at compiled
  obtain ⟨equivalents, _, compiled⟩ := bind_eq_ok_iff.mp compiled
  obtain ⟨index, made, compiled⟩ := bind_eq_ok_iff.mp compiled
  cases compiled
  exact made

theorem ofText_of_complete {text : List Char} (complete : (readFolds text).stop = none) :
    ofText text = ofFolds (readFolds text).records := by
  unfold ofText Reading.complete
  rw [complete]

theorem ofFolds_of_ofText {text : List Char} (read : ofText text = .ok folding) :
    ofFolds (readFolds text).records = .ok folding := by
  cases stop : (readFolds text).stop with
  | some fault =>
      unfold ofText Reading.complete at read
      rw [stop] at read
      cases read
  | none => rwa [ofText_of_complete stop] at read

theorem indexed_ofText {text : List Char} (read : ofText text = .ok folding) :
    folding.Indexed :=
  indexed_ofFolds (ofFolds_of_ofText read)

theorem Indexed.number_lt (indexed : folding.Indexed) (place : Nat) :
    folding.index.number place < 2 ^ 32 := by
  have small : 2 * Code.basicCount < 2 ^ 32 := by decide
  have distinct := folding.folds.sort.nodup_map_fst_toList
  exact ((FoldIndex.lists_ofFolds indexed).number_le distinct place).trans_lt small

/-- The delta stored for a code is the one that leads to where the code folds to, which is in the
plane too. -/
theorem Indexed.getElem?_number (indexed : folding.Indexed) (unsigned : folding.Unsigned)
    {code : Nat} (inside : code < Code.basicCount) :
    0 ≤ folding.fold code ∧ folding.fold code ≤ Code.maxBasic ∧
      folding.index.deltas.entries[folding.index.number code]? =
        some (CaseDelta.between code (folding.fold code)) := by
  have small : (code : Int) < wordLimit := (Int.ofNat_lt.mpr inside).trans (by decide)
  have pairs : ∀ fold ∈ folding.folds.sort.toList, folding.folds.get? fold.1 = some fold.2 := by
    intro fold listed
    rw [← OrderedMap.get?_sort]
    exact OrderedMap.mem_toList_iff.mp listed
  have nonneg : ∀ fold ∈ folding.folds.sort.toList, 0 ≤ fold.1 ∧ 0 ≤ fold.2 :=
    fun fold listed => unsigned fold (OrderedMap.mem_toList_iff.mpr (pairs fold listed))
  unfold fold
  rcases (FoldIndex.lists_ofFolds indexed).getElem?_number
      (fun fold listed => (nonneg fold listed).1) inside small with
    ⟨fold, listed, own, mapped, found⟩ | ⟨found, absent⟩
  · rw [← own, pairs fold listed, Option.getD_some]
    exact ⟨(nonneg fold listed).2, mapped, found⟩
  · have unfolded : folding.folds.get? code = none := by
      refine Option.eq_none_iff_forall_ne_some.mpr fun mapping known => ?_
      have listed : ((code : Int), mapping) ∈ folding.folds.sort.toList :=
        OrderedMap.mem_toList_iff.mpr known
      exact absent _ listed rfl
    rw [unfolded, Option.getD_none, CaseDelta.between_self]
    exact ⟨Int.natCast_nonneg code, Code.lt_basicCount_iff.mp (Int.ofNat_lt.mpr inside), found⟩

/-- The delta stored for a code leads to where the code folds to. -/
theorem Indexed.apply_entry (indexed : folding.Indexed) (unsigned : folding.Unsigned)
    {code : Nat} (basic : (code : Int) ≤ Code.maxBasic) :
    ∃ delta, folding.index.deltas.entries[folding.index.number code]? = some delta ∧
      delta.apply code = folding.fold code := by
  have inside : code < Code.basicCount := Int.ofNat_lt.mp (Code.lt_basicCount_iff.mpr basic)
  obtain ⟨nonneg, stays, found⟩ := indexed.getElem?_number unsigned inside
  exact ⟨_, found, CaseDelta.apply_between nonneg stays⟩

end Folding

end CharacterTables
