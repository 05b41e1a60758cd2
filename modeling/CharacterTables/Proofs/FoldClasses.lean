import Mathlib
import CharacterTables.Proofs.Collection.Ascending
import CharacterTables.Proofs.Collection.LastWins
import CharacterTables.Proofs.Folding

/-!
# Classes of codes that fold together

A code that folds somewhere is listed with its mapping and all else that folds there; any other
code with what folds to it. Where no code folds twice and no mapping folds further, both lists are
the rest of one class: the codes that fold to the same code.
-/

set_option autoImplicit false

namespace CharacterTables

/-! ## Folds in both directions -/

/-- The codes that fold to a code, in the order of the folds. -/
def codesTo (folds : List CaseFold) (mapping : Int) : List Int :=
  (folds.filter fun fold => fold.mapping == mapping).map CaseFold.code

/-- Where a code folds to: the mapping of the last of its folds. -/
def mappingOf (folds : List CaseFold) (code : Int) : Option Int :=
  (lastWith (fun fold => fold.code == code) folds).map CaseFold.mapping

theorem mem_codesTo {folds : List CaseFold} {code mapping : Int} :
    code ∈ codesTo folds mapping ↔ ∃ fold ∈ folds, fold.code = code ∧ fold.mapping = mapping := by
  simp only [codesTo, List.mem_map, List.mem_filter, beq_iff_eq]
  exact exists_congr fun fold => by rw [and_assoc, and_comm (a := fold.mapping = mapping)]

theorem codesTo_append_singleton (folds : List CaseFold) (fold : CaseFold) (mapping : Int) :
    codesTo (folds ++ [fold]) mapping =
      if fold.mapping = mapping then codesTo folds mapping ++ [fold.code]
      else codesTo folds mapping := by
  unfold codesTo
  by_cases same : fold.mapping = mapping
  · simp [same]
  · simp [same]

namespace FoldMaps

theorem ofFolds_append_singleton (folds : List CaseFold) (fold : CaseFold) :
    ofFolds (folds ++ [fold]) = (ofFolds folds).insert fold := by
  rw [ofFolds, ofFolds, List.foldl_append]
  rfl

theorem get?_folds (folds : List CaseFold) (code : Int) :
    (ofFolds folds).folds.get? code = mappingOf folds code := by
  induction folds using List.reverseRecOn with
  | nil => exact OrderedMap.get?_empty code
  | append_singleton folds fold ih =>
      unfold mappingOf at ih ⊢
      rw [ofFolds_append_singleton, insert, OrderedMap.get?_insert, ih, lastWith_append_singleton]
      by_cases same : fold.code = code
      · simp [same]
      · simp [same]

/-- A code to which nothing folds is not listed; any other has what folds to it. -/
theorem get?_sources (folds : List CaseFold) (mapping : Int) :
    (ofFolds folds).sources.get? mapping =
      if codesTo folds mapping = [] then none else some (codesTo folds mapping) := by
  induction folds using List.reverseRecOn generalizing mapping with
  | nil => exact OrderedMap.get?_empty mapping
  | append_singleton folds fold ih =>
      rw [ofFolds_append_singleton, insert, OrderedMap.get?_insert, codesTo_append_singleton]
      by_cases same : fold.mapping = mapping
      · rw [if_pos same, if_pos same, if_neg (by simp), same, ih]
        by_cases first : codesTo folds mapping = []
        · simp [first]
        · simp [first]
      · rw [if_neg same, if_neg same, ih]

theorem mem_codes_iff {folds : List CaseFold} {code : Int} :
    code ∈ (ofFolds folds).codes ↔ ∃ fold ∈ folds, fold.code = code ∨ fold.mapping = code := by
  have source : code ∈ (ofFolds folds).folds.keys ↔ ∃ fold ∈ folds, fold.code = code := by
    rw [OrderedMap.mem_keys_iff_exists, ← Option.isSome_iff_exists, get?_folds, mappingOf,
      Option.isSome_map, ← not_iff_not, Bool.not_eq_true, Option.isSome_eq_false_iff,
      Option.isNone_iff_eq_none, lastWith_eq_none_iff]
    simp
  have target : code ∈ (ofFolds folds).sources.keys ↔ ∃ fold ∈ folds, fold.mapping = code := by
    rw [OrderedMap.mem_keys_iff_exists, get?_sources]
    simp [codesTo]
  unfold codes
  rw [Std.TreeSet.mem_toList, mem_foldl_insert, mem_foldl_insert, source, target]
  simp [and_or_left, exists_or]

/-! ## Lists of equivalents -/

/-- What is listed with a code: where it folds to and what else folds there, or else what folds
to it. -/
def relatives (folds : List CaseFold) (code : Int) : List Int :=
  match mappingOf folds code with
  | some mapping => mapping :: (codesTo folds mapping).filter (· != code)
  | none => codesTo folds code

theorem relatives_of_some {folds : List CaseFold} {code mapping : Int}
    (folded : mappingOf folds code = some mapping) :
    relatives folds code = mapping :: (codesTo folds mapping).filter (· != code) := by
  rw [relatives, folded]

theorem relatives_of_none {folds : List CaseFold} {code : Int}
    (unfolded : mappingOf folds code = none) : relatives folds code = codesTo folds code := by
  rw [relatives, unfolded]

theorem exists_of_mappingOf {folds : List CaseFold} {code mapping : Int}
    (folded : mappingOf folds code = some mapping) :
    ∃ fold ∈ folds, fold.code = code ∧ fold.mapping = mapping := by
  obtain ⟨fold, last, same⟩ := Option.map_eq_some_iff.mp folded
  obtain ⟨listed, own⟩ := mem_of_lastWith last
  exact ⟨fold, listed, by simpa using own, same⟩

theorem sourcesOf_eq {folds : List CaseFold} {code mapping : Int}
    (member : code ∈ codesTo folds mapping) :
    (ofFolds folds).sourcesOf mapping = .ok (codesTo folds mapping) := by
  rw [sourcesOf, get?_sources, if_neg (List.ne_nil_of_mem member)]

/-- The equivalents of every code that takes part in folding are found. -/
theorem equivalentsOf_eq {folds : List CaseFold} {code : Int}
    (member : code ∈ (ofFolds folds).codes) :
    (ofFolds folds).equivalentsOf code = .ok ((relatives folds code).mergeSort (· ≤ ·)) := by
  unfold equivalentsOf
  rw [get?_folds]
  cases folded : mappingOf folds code with
  | some mapping =>
      have source : code ∈ codesTo folds mapping :=
        mem_codesTo.mpr (exists_of_mappingOf folded)
      simp only [sourcesOf_eq source, ok_bind, relatives_of_some folded]
      rfl
  | none =>
      obtain ⟨fold, listed, own⟩ := mem_codes_iff.mp member
      have target : fold.code ∈ codesTo folds code := by
        rcases own with own | own
        · have last := (Option.map_eq_none_iff.mp folded)
          have absent := lastWith_eq_none_iff.mp last fold listed
          simp [own] at absent
        · exact mem_codesTo.mpr ⟨fold, listed, rfl, own⟩
      simp only [sourcesOf_eq target, ok_bind, relatives_of_none folded]
      rfl

theorem relatives_of_not_mem {folds : List CaseFold} {code : Int}
    (absent : code ∉ (ofFolds folds).codes) : relatives folds code = [] := by
  have unused := mt mem_codes_iff.mpr absent
  have unfolded : mappingOf folds code = none := by
    refine Option.eq_none_iff_forall_ne_some.mpr fun mapping folded => unused ?_
    obtain ⟨fold, listed, own, _⟩ := exists_of_mappingOf folded
    exact ⟨fold, listed, .inl own⟩
  rw [relatives_of_none unfolded, List.eq_nil_iff_forall_not_mem]
  intro source member
  obtain ⟨fold, listed, _, own⟩ := mem_codesTo.mp member
  exact unused ⟨fold, listed, .inr own⟩

/-- Every code that takes part in folding, with its relatives in ascending order. -/
def listing (folds : List CaseFold) : List (Int × List Int) :=
  (ofFolds folds).codes.map fun code => (code, (relatives folds code).mergeSort (· ≤ ·))

theorem equivalents_eq (folds : List CaseFold) :
    (ofFolds folds).equivalents = .ok (listing folds) := by
  refine mapM_eq_ok fun code member => ?_
  rw [equivalentsOf_eq member]
  rfl

theorem map_fst_listing (folds : List CaseFold) :
    (listing folds).map Prod.fst = (ofFolds folds).codes := by
  simp [listing, Function.comp_def]

theorem ascending_listing (folds : List CaseFold) :
    ((listing folds).map Prod.fst).Pairwise (· < ·) := by
  rw [map_fst_listing]
  exact ascending_toList _

end FoldMaps

namespace Folding

open FoldMaps

variable {folding : Folding} {folds : List CaseFold}

/-- The lists of equivalents are always found, so only the index may fail. -/
theorem ofFolds_eq (folds : List CaseFold) :
    ofFolds folds =
      (FoldIndex.ofFolds (FoldMaps.ofFolds folds).folds.sort.toList).map fun index =>
        { folds := (FoldMaps.ofFolds folds).folds
          equivalents := Std.TreeMap.ofList (listing folds)
          index } := by
  unfold ofFolds
  simp only [equivalents_eq, ok_bind]
  cases FoldIndex.ofFolds (FoldMaps.ofFolds folds).folds.sort.toList with
  | error failure => rfl
  | ok index => rfl

theorem folds_of_ofFolds (compiled : ofFolds folds = .ok folding) :
    folding.folds = (FoldMaps.ofFolds folds).folds ∧
      folding.equivalents = Std.TreeMap.ofList (listing folds) := by
  unfold ofFolds at compiled
  obtain ⟨equivalents, listed, compiled⟩ := bind_eq_ok_iff.mp compiled
  obtain ⟨index, _, compiled⟩ := bind_eq_ok_iff.mp compiled
  cases (equivalents_eq folds).symm.trans listed
  cases compiled
  exact ⟨rfl, rfl⟩

theorem fold_eq (compiled : ofFolds folds = .ok folding) (code : Int) :
    folding.fold code = (mappingOf folds code).getD code := by
  rw [fold, (folds_of_ofFolds compiled).1, get?_folds]

theorem toList_equivalents (compiled : ofFolds folds = .ok folding) :
    folding.equivalents.toList = listing folds := by
  rw [(folds_of_ofFolds compiled).2]
  exact toList_ofList (ascending_listing folds)

/-- The equivalents of a code are what is listed with it, in ascending order. -/
theorem equivalentsOf_eq (compiled : ofFolds folds = .ok folding) (code : Int) :
    folding.equivalentsOf code = (relatives folds code).mergeSort (· ≤ ·) := by
  rw [equivalentsOf, (folds_of_ofFolds compiled).2, Std.TreeMap.getD_eq_getD_getElem?]
  by_cases known : code ∈ (FoldMaps.ofFolds folds).codes
  · rw [(getElem?_ofList (ascending_listing folds)).mpr (List.mem_map.mpr ⟨code, known, rfl⟩),
      Option.getD_some]
  · rw [relatives_of_not_mem known, List.mergeSort_nil]
    cases found : (Std.TreeMap.ofList (listing folds))[code]? with
    | none => rfl
    | some others =>
        obtain ⟨own, member, same⟩ :=
          List.mem_map.mp ((getElem?_ofList (ascending_listing folds)).mp found)
        cases same
        exact absurd member known

end Folding

/-! ## Classes -/

section Distinct

variable {folds : List CaseFold} {code mapping : Int}
  (distinct : (folds.map CaseFold.code).Nodup)
include distinct

open FoldMaps in
theorem mappingOf_eq_some_iff :
    mappingOf folds code = some mapping ↔
      ∃ fold ∈ folds, fold.code = code ∧ fold.mapping = mapping := by
  constructor
  · exact exists_of_mappingOf
  · rintro ⟨fold, listed, own, same⟩
    have last : lastWith (fun fold => fold.code == code) folds = some fold := by
      refine (lastWith_eq_some_iff ?_).mpr ⟨listed, by simpa using own⟩
      intro first firstListed second secondListed firstOwn secondOwn
      refine List.inj_on_of_nodup_map distinct firstListed secondListed ?_
      exact (beq_iff_eq.mp firstOwn).trans (beq_iff_eq.mp secondOwn).symm
    rw [mappingOf, last, Option.map_some, same]

theorem nodup_codesTo (mapping : Int) : (codesTo folds mapping).Nodup :=
  (List.filter_sublist.map CaseFold.code).nodup distinct

end Distinct

/-- Folds as the standard has them: no code folds twice, and no mapping folds further. -/
structure Settled (folds : List CaseFold) : Prop where
  distinct : (folds.map CaseFold.code).Nodup
  final : ∀ fold ∈ folds, ∀ other ∈ folds, fold.mapping ≠ other.code

namespace Settled

open FoldMaps

variable {folds : List CaseFold} {code other mapping : Int} (settled : Settled folds)
include settled

theorem mem_codesTo_iff : code ∈ codesTo folds mapping ↔ mappingOf folds code = some mapping := by
  rw [mem_codesTo, mappingOf_eq_some_iff settled.distinct]

theorem mappingOf_mapping (folded : mappingOf folds code = some mapping) :
    mappingOf folds mapping = none := by
  obtain ⟨fold, listed, _, same⟩ := exists_of_mappingOf folded
  refine Option.eq_none_iff_forall_ne_some.mpr fun further again => ?_
  obtain ⟨next, nextListed, own, _⟩ := exists_of_mappingOf again
  exact settled.final fold listed next nextListed (same.trans own.symm)

theorem nodup_relatives : (relatives folds code).Nodup := by
  cases folded : mappingOf folds code with
  | none =>
      rw [relatives_of_none folded]
      exact nodup_codesTo settled.distinct code
  | some mapping =>
      rw [relatives_of_some folded, List.nodup_cons]
      refine ⟨fun member => ?_, (nodup_codesTo settled.distinct mapping).filter _⟩
      have further := settled.mem_codesTo_iff.mp (List.mem_filter.mp member).1
      rw [settled.mappingOf_mapping folded] at further
      cases further

/-- The relatives of a code are the other codes that fold where it folds. A code without a fold
counts as its own mapping. -/
theorem mem_relatives_iff :
    other ∈ relatives folds code ↔
      code ≠ other ∧ (mappingOf folds code).getD code = (mappingOf folds other).getD other := by
  cases folded : mappingOf folds code with
  | none =>
      rw [relatives_of_none folded, settled.mem_codesTo_iff, Option.getD_none]
      cases otherFolded : mappingOf folds other with
      | none => simp
      | some target =>
          rw [Option.getD_some, Option.some.injEq]
          constructor
          · rintro rfl
            refine ⟨?_, rfl⟩
            rintro rfl
            rw [folded] at otherFolded
            cases otherFolded
          · exact fun same => same.2.symm
  | some mapping =>
      rw [relatives_of_some folded, List.mem_cons, List.mem_filter, settled.mem_codesTo_iff,
        Option.getD_some, bne_iff_ne, ne_comm (a := other)]
      have unfolded := settled.mappingOf_mapping folded
      cases otherFolded : mappingOf folds other with
      | none =>
          have apart : code ≠ other := by
            rintro rfl
            rw [folded] at otherFolded
            cases otherFolded
          simp [apart, eq_comm]
      | some target =>
          have different : other ≠ mapping := by
            rintro rfl
            rw [unfolded] at otherFolded
            cases otherFolded
          simp [different, and_comm, eq_comm]

end Settled

/-- The equivalents in a folding are the classes of codes that fold together, and they are listed
for the codes of the folds and their mappings. -/
structure Folding.Classes (folding : Folding) (folds : List CaseFold) : Prop where
  mem_iff : ∀ code other, other ∈ folding.equivalentsOf code ↔
    code ≠ other ∧ folding.fold code = folding.fold other
  ascending : ∀ code, (folding.equivalentsOf code).Pairwise (· < ·)
  listed : (FoldMaps.ofFolds folds).equivalents = .ok folding.equivalents.toList
  codes_ascending : (folding.equivalents.toList.map Prod.fst).Pairwise (· < ·)
  mem_codes_iff : ∀ code, code ∈ folding.equivalents.toList.map Prod.fst ↔
    ∃ fold ∈ folds, fold.code = code ∨ fold.mapping = code

/-- Where no code folds twice and no mapping folds further, a code is equivalent to just the other
codes that fold to the same code. -/
theorem Folding.classes_ofText (text : List Char) (folding : Folding)
    (read : ofText text = .ok folding) (settled : Settled (readFolds text).records) :
    folding.Classes (readFolds text).records := by
  have compiled := ofFolds_of_ofText read
  have entries := toList_equivalents compiled
  refine ⟨?_, ?_, ?_, ?_, ?_⟩
  · intro code other
    rw [equivalentsOf_eq compiled, List.mem_mergeSort, settled.mem_relatives_iff, fold_eq compiled,
      fold_eq compiled]
  · intro code
    rw [equivalentsOf_eq compiled]
    exact ascending_mergeSort settled.nodup_relatives
  · rw [entries]
    exact FoldMaps.equivalents_eq _
  · rw [entries]
    exact FoldMaps.ascending_listing _
  · intro code
    rw [entries, FoldMaps.map_fst_listing]
    exact FoldMaps.mem_codes_iff

/-- Two forms of sigma that fold to a third, a letter with its small form, and a full folding,
which is passed over. -/
def sigmaFolds : List Char :=
  "03A3; C; 03C3; # SIGMA\n03C2; C; 03C3;\n\n0041; C; 0061;\n00DF; F; 0073 0073;".toList

theorem Folding.classes_ofText_sigma :
    ∃ folding, ofText sigmaFolds = .ok folding ∧ Settled (readFolds sigmaFolds).records ∧
      folding.Classes (readFolds sigmaFolds).records ∧ 0x3A3 ∈ folding.equivalentsOf 0x3C2 := by
  have settled : Settled (readFolds sigmaFolds).records := ⟨by decide +kernel, by decide +kernel⟩
  have evaluated : (ofText sigmaFolds).toOption.map
      (fun folding => decide (folding.fold 0x3C2 = folding.fold 0x3A3)) = some true := by
    decide +kernel
  obtain ⟨folding, read, viewed⟩ := exists_of_toOption_map evaluated
  have together := of_decide_eq_true viewed
  have classes := classes_ofText sigmaFolds folding read settled
  exact ⟨folding, read, settled, classes, (classes.mem_iff _ _).mpr ⟨by decide, together⟩⟩

end CharacterTables
