import Mathlib
import CharacterTables.Generation
import CharacterTables.Proofs.BasicPlane
import CharacterTables.Proofs.Folding
import CharacterTables.Proofs.SupplementaryPlanes
import CharacterTables.Proofs.TwoStage.Recovery

/-!
# What the tables say

Once the data files are compiled, both indexes can be split, whatever the data. If no code
of the data is negative, a code looked up in the tables has the case forms of the registry
and folds to where the foldings lead it.
-/

set_option autoImplicit false

namespace CharacterTables

open TwoStage

/-! ## Compiling four texts -/

/-- What is compiled from four texts. -/
structure Compiled.OfTexts (compiled : Compiled)
    (properties characters foldings specialCasings : List Char) : Prop where
  version : databaseVersion properties = .ok compiled.version
  registry : Registry.ofText characters = .ok compiled.registry
  properties : PropertySets.ofText properties = .ok compiled.properties
  basic : BasicPlane.ofRegistry compiled.registry compiled.properties = .ok compiled.basic
  supplementary : SupplementaryPlanes.ofRegistry compiled.registry compiled.properties =
    .ok compiled.supplementary
  whiteSpace : CharacterTables.whiteSpace compiled.registry = .ok compiled.whiteSpace
  folding : Folding.ofText foldings = .ok compiled.folding
  overrides : Overrides.ofText compiled.basic specialCasings = .ok compiled.overrides

theorem Work.exists_ofTexts {surroundings : Surroundings} {session after : Session}
    {compiled : Compiled}
    (ended : (compile surroundings).outcome session = (.ok compiled, after)) :
    ∃ properties characters foldings specialCasings,
      compiled.OfTexts properties characters foldings specialCasings := by
  unfold compile loadRegistry loadFolding loadOverrides at ended
  obtain ⟨properties, _, _, ended⟩ := outcome_bind_eq_ok_iff.mp ended
  obtain ⟨version, _, versioned, ended⟩ := outcome_bind_eq_ok_iff.mp ended
  obtain ⟨_, _, _, ended⟩ := outcome_bind_eq_ok_iff.mp ended
  obtain ⟨registry, _, registered, ended⟩ := outcome_bind_eq_ok_iff.mp ended
  obtain ⟨characters, _, _, registered⟩ := outcome_bind_eq_ok_iff.mp registered
  obtain ⟨sets, _, noted, ended⟩ := outcome_bind_eq_ok_iff.mp ended
  obtain ⟨basic, _, listed, ended⟩ := outcome_bind_eq_ok_iff.mp ended
  obtain ⟨supplementary, _, recorded, ended⟩ := outcome_bind_eq_ok_iff.mp ended
  obtain ⟨whiteSpace, _, spaced, ended⟩ := outcome_bind_eq_ok_iff.mp ended
  obtain ⟨folding, _, folded, ended⟩ := outcome_bind_eq_ok_iff.mp ended
  obtain ⟨foldings, _, _, folded⟩ := outcome_bind_eq_ok_iff.mp folded
  obtain ⟨overrides, _, overridden, ended⟩ := outcome_bind_eq_ok_iff.mp ended
  obtain ⟨specialCasings, _, _, overridden⟩ := outcome_bind_eq_ok_iff.mp overridden
  cases ended
  exact ⟨properties, characters, foldings, specialCasings,
    (outcome_ofExcept_eq_ok versioned).1, (outcome_ofExcept_eq_ok registered).1,
    (outcome_ofExcept_eq_ok noted).1, (outcome_ofExcept_eq_ok listed).1,
    (outcome_ofExcept_eq_ok recorded).1, (outcome_ofExcept_eq_ok spaced).1,
    (outcome_ofExcept_eq_ok folded).1, (outcome_ofExcept_eq_ok overridden).1⟩

/-! ## Splitting the indexes -/

/-- The numbers of the codes of the basic plane make a table that can be split. -/
theorem splittable_numbers {number : Nat → Nat} (small : ∀ place, number place < 2 ^ 32) :
    Splittable ((Array.range Code.basicCount).map fun place => (number place : Int)) := by
  have size : ((Array.range Code.basicCount).map fun place => (number place : Int)).size =
      Code.basicCount := by simp
  refine ⟨?_, ?_, ?_⟩
  · rw [size]
    decide
  · rw [size]
    decide
  · intro entry listed
    obtain ⟨place, _, rfl⟩ := Array.mem_map.mp listed
    exact ⟨Int.natCast_nonneg _, mod_cast small place⟩

/-- A split of such a table finds the number of a code of the basic plane. -/
theorem lookup_numbers {number : Nat → Nat} {split : Split}
    (recovers : split.Recovers
      ((Array.range Code.basicCount).map fun place => (number place : Int)))
    {code : Nat} (basic : (code : Int) ≤ Code.maxBasic) :
    split.lookup code = .ok (number code : Int) := by
  have inside : code < Code.basicCount := Int.ofNat_lt.mp (Code.lt_basicCount_iff.mpr basic)
  rw [recovers.entry code (by simpa using inside)]
  simp

namespace Compiled.OfTexts

variable {compiled : Compiled} {properties characters foldings specialCasings : List Char}
  (made : compiled.OfTexts properties characters foldings specialCasings)
include made

theorem splittable_basic : Splittable compiled.basic.index :=
  splittable_numbers (BasicPlane.number_lt (Registry.keyed_ofText made.registry) made.basic)

theorem splittable_folding : Splittable compiled.folding.index.toArray :=
  splittable_numbers (Folding.indexed_ofText made.folding).number_lt

end Compiled.OfTexts

/-- Once the data files are compiled, nothing fails any more. -/
theorem Work.outcome_generate {surroundings : Surroundings} {session after : Session}
    {compiled : Compiled}
    (ended : (compile surroundings).outcome session = (.ok compiled, after)) :
    ∃ tables text, (generate surroundings).outcome session = (.ok tables, after.told text) ∧
      tables.toCompiled = compiled ∧ tables.basicSplit.Recovers compiled.basic.index ∧
      tables.foldSplit.Recovers compiled.folding.index.toArray := by
  obtain ⟨_, _, _, _, made⟩ := exists_ofTexts ended
  obtain ⟨basicSplit, basicText, basicEnded, basicRecovers⟩ :=
    exists_split made.splittable_basic
      (after.told ("Splitting the BMP character info index." ++ "\n"))
  rw [Session.told_told] at basicEnded
  obtain ⟨foldSplit, foldText, foldEnded, foldRecovers⟩ :=
    exists_split made.splittable_folding
      (after.told ("Splitting the BMP character info index." ++ "\n" ++ basicText ++
        ("Splitting the BMP case folding index." ++ "\n")))
  rw [Session.told_told] at foldEnded
  refine ⟨{ compiled with basicSplit, foldSplit },
    "Splitting the BMP character info index." ++ "\n" ++ basicText ++
      ("Splitting the BMP case folding index." ++ "\n") ++ foldText,
    ?_, rfl, basicRecovers, foldRecovers⟩
  unfold generate
  rw [outcome_bind_of_ok ended, outcome_bind_of_ok (outcome_tellLine _ _),
    outcome_bind_of_ok basicEnded, outcome_bind_of_ok (outcome_tellLine _ _), Session.told_told,
    outcome_bind_of_ok foldEnded, outcome_pure]

/-! ## Reading the tables -/

namespace Tables

/-- The case forms and flags of a code of the basic plane, found through the split index. -/
def cased (tables : Tables) (code : Int) : Except Failure CasedCharacter := do
  let number ← (tables.basicSplit.lookup code).mapError Failure.table
  let info ← (entryAt tables.basic.infos.entries number).mapError Failure.lookup
  return info.apply code

/-- Where a code of the basic plane folds to, found through the split index. -/
def folded (tables : Tables) (code : Int) : Except Failure Int := do
  let number ← (tables.foldSplit.lookup code).mapError Failure.table
  let delta ← (entryAt tables.folding.index.deltas.entries number).mapError Failure.lookup
  return delta.apply code

/-- Tables agree with the data on a code: its case forms are those of the registry, and it
folds to where the foldings lead it. A code that the registry does not have is its own in
both cases and has no flags. -/
structure Agrees (tables : Tables) (code : Int) : Prop where
  cased : code ≤ Code.maxBasic → ∃ cased, tables.cased code = .ok cased ∧
    cased.lower = tables.registry.lowercaseOf code ∧
    cased.upper = tables.registry.uppercaseOf code ∧
    (tables.registry.get? code = none → cased.flags = Flags.none)
  folded : code ≤ Code.maxBasic → tables.folded code = .ok (tables.folding.fold code)
  lowercase : Code.maxBasic < code →
    tables.supplementary.lowercase.getD code code = tables.registry.lowercaseOf code
  uppercase : Code.maxBasic < code →
    tables.supplementary.uppercase.getD code code = tables.registry.uppercaseOf code

variable {tables : Tables} {properties characters foldings specialCasings : List Char}
  (made : tables.OfTexts properties characters foldings specialCasings)
include made

theorem exists_cased (recovers : tables.basicSplit.Recovers tables.basic.index)
    (unsigned : tables.registry.Unsigned) {code : Nat} (basic : (code : Int) ≤ Code.maxBasic) :
    ∃ cased, tables.cased code = .ok cased ∧
      cased.lower = tables.registry.lowercaseOf code ∧
      cased.upper = tables.registry.uppercaseOf code ∧
      (tables.registry.get? code = none → cased.flags = Flags.none) := by
  have keyed := Registry.keyed_ofText made.registry
  obtain ⟨info, found, forms⟩ := BasicPlane.apply_entry keyed made.basic unsigned basic
  have number := lookup_numbers recovers basic
  have word : ((tables.basic.number code : Nat) : Int) < wordLimit :=
    (Int.ofNat_lt.mpr (BasicPlane.number_lt keyed made.basic code)).trans (by decide)
  refine ⟨info.apply code, ?_, forms⟩
  unfold cased
  rw [number, mapError_ok, ok_bind, entryAt_natCast word found, mapError_ok, ok_bind]
  rfl

theorem folded_eq (recovers : tables.foldSplit.Recovers tables.folding.index.toArray)
    (unsigned : tables.folding.Unsigned) {code : Nat} (basic : (code : Int) ≤ Code.maxBasic) :
    tables.folded code = .ok (tables.folding.fold code) := by
  have indexed := Folding.indexed_ofText made.folding
  obtain ⟨delta, found, leads⟩ := indexed.apply_entry unsigned basic
  have number := lookup_numbers recovers basic
  have word : ((tables.folding.index.number code : Nat) : Int) < wordLimit :=
    (Int.ofNat_lt.mpr (indexed.number_lt code)).trans (by decide)
  unfold folded
  rw [number, mapError_ok, ok_bind, entryAt_natCast word found, mapError_ok, ok_bind, leads]
  rfl

theorem agrees (basicRecovers : tables.basicSplit.Recovers tables.basic.index)
    (foldRecovers : tables.foldSplit.Recovers tables.folding.index.toArray)
    (unsignedCharacters : tables.registry.Unsigned) (unsignedFolds : tables.folding.Unsigned)
    {code : Int} (nonneg : 0 ≤ code) : tables.Agrees code := by
  have keyed := Registry.keyed_ofText made.registry
  have records := SupplementaryPlanes.records_ofRegistry keyed.nodup_codes made.supplementary
  obtain ⟨code, rfl⟩ := Int.eq_ofNat_of_zero_le nonneg
  constructor
  · exact exists_cased made basicRecovers unsignedCharacters
  · exact folded_eq made foldRecovers unsignedFolds
  · exact records.lowercase.getD_eq keyed
  · exact records.uppercase.getD_eq keyed

end Tables

/-- Tables are made whenever the data files can be compiled, and they agree with the data on
every code if no code is negative in the last record and the last fold of each code. -/
theorem Work.generate_agrees (surroundings : Surroundings) (session : Session) :
    (∀ compiled after, (compile surroundings).outcome session = (.ok compiled, after) →
      ∃ tables text, (generate surroundings).outcome session = (.ok tables, after.told text) ∧
        tables.toCompiled = compiled) ∧
      ∀ tables after, (generate surroundings).outcome session = (.ok tables, after) →
        tables.registry.Unsigned → tables.folding.Unsigned →
        ∀ code, 0 ≤ code → tables.Agrees code := by
  constructor
  · intro compiled after ended
    obtain ⟨tables, text, made, same, _⟩ := outcome_generate ended
    exact ⟨tables, text, made, same⟩
  · intro tables after ended unsignedCharacters unsignedFolds code nonneg
    have opened := ended
    unfold generate at opened
    obtain ⟨compiled, middle, compiledEnded, _⟩ := outcome_bind_eq_ok_iff.mp opened
    obtain ⟨others, text, otherEnded, same, basicRecovers, foldRecovers⟩ :=
      outcome_generate compiledEnded
    cases ended.symm.trans otherEnded
    subst same
    obtain ⟨_, _, _, _, made⟩ := exists_ofTexts compiledEnded
    exact tables.agrees made basicRecovers foldRecovers unsignedCharacters unsignedFolds nonneg

/-- A network with short files: a letter with its lowercase form, the fold between them, and
the special casings that are asked for. -/
def letterNetwork (file : DataFile) : Answer :=
  let text := match file with
    | .properties => "# DerivedCoreProperties-13.0.0.txt"
    | .characters => "0041;A;Lu;;;;;;;;;;;0061;"
    | .foldings => "0041; C; 0061;"
    | .specialCasings =>
        "0130; 0069 0307; 0130; 0130;\n00DF; 00DF; 0053; 0053 0053;\n" ++
          "03A3; 03C2; 03A3; 03A3; Final_Sigma;"
  .content (text.toList.map fun c => c.toNat.toUInt8)

theorem Work.generate_agrees_letter :
    ∃ tables after,
      (generate ⟨letterNetwork, [], ""⟩).outcome ⟨.absent, ""⟩ = (.ok tables, after) ∧
        tables.registry.Unsigned ∧ tables.folding.Unsigned ∧
        tables.Agrees 0x41 ∧ tables.Agrees 0x10400 := by
  have evaluated :
      (match (compile ⟨letterNetwork, [], ""⟩).outcome ⟨.absent, ""⟩ with
        | (.ok compiled, _) => decide (compiled.registry.Unsigned ∧ compiled.folding.Unsigned)
        | (.error _, _) => false) = true := by
    decide +kernel
  cases ended : (compile ⟨letterNetwork, [], ""⟩).outcome ⟨.absent, ""⟩ with
  | mk result after =>
      rw [ended] at evaluated
      cases result with
      | error failure => cases evaluated
      | ok compiled =>
          obtain ⟨characters, folds⟩ := of_decide_eq_true evaluated
          obtain ⟨made, agree⟩ := generate_agrees ⟨letterNetwork, [], ""⟩ ⟨.absent, ""⟩
          obtain ⟨tables, text, generated, rfl⟩ := made compiled after ended
          exact ⟨tables, after.told text, generated, characters, folds,
            agree tables _ generated characters folds 0x41 (by decide),
            agree tables _ generated characters folds 0x10400 (by decide)⟩

end CharacterTables
