import Mathlib
import CharacterTables.Proofs.Collection.LastWins
import CharacterTables.Proofs.Collection.Numbering
import CharacterTables.Proofs.Corpus.LineByLine
import CharacterTables.Proofs.Registry

/-!
# Last record, first place

The registry of a text has the last of the records that were read with a code, and lists the code at
the place of the first of them.
-/

set_option autoImplicit false

namespace CharacterTables

/-! ## The order of first occurrences -/

section FirstOccurrences

variable {κ : Type} [BEq κ] [LawfulBEq κ]

/-- Values without their repetitions stand in the order in which each of them first occurs. -/
theorem pairwise_idxOf_eraseDups (values : List κ) :
    values.eraseDups.Pairwise fun first second => values.idxOf first < values.idxOf second := by
  induction values using List.reverseRecOn with
  | nil => exact .nil
  | append_singleton values value ih =>
      -- What occurs among the earlier values keeps its first place.
      have kept {other : κ} (known : other ∈ values) :
          (values ++ [value]).idxOf other = values.idxOf other := by
        rw [List.idxOf_append, if_pos known]
      have before : values.eraseDups.Pairwise fun first second =>
          (values ++ [value]).idxOf first < (values ++ [value]).idxOf second := by
        refine ih.imp_of_mem fun firstListed secondListed earlier => ?_
        rwa [kept (List.mem_eraseDups.mp firstListed), kept (List.mem_eraseDups.mp secondListed)]
      rw [eraseDups_append_singleton]
      by_cases known : value ∈ values
      · rwa [if_pos known]
      · rw [if_neg known, List.pairwise_append]
        refine ⟨before, List.pairwise_singleton _ value, fun first listed last single => ?_⟩
        rw [List.mem_singleton.mp single, kept (List.mem_eraseDups.mp listed), List.idxOf_append,
          if_neg known]
        exact Nat.lt_of_lt_of_le (List.idxOf_lt_length_iff.mpr (List.mem_eraseDups.mp listed))
          (Nat.le_add_left _ _)

theorem length_eraseDups_eq_card [DecidableEq κ] (values : List κ) :
    values.eraseDups.length = values.toFinset.card := by
  rw [← List.toFinset_card_of_nodup (nodup_eraseDups values)]
  congr 1
  ext value
  simp

end FirstOccurrences

namespace Registry

variable {registry : Registry} {records : List CharacterRecord} {code : Int}

/-! ## Step by step -/

theorem contains_iff_exists : registry.contains code = true ↔
    ∃ character, registry.get? code = some character := by
  unfold contains get? OrderedMap.contains OrderedMap.get?
  rw [Std.TreeMap.contains_eq_isSome_getElem?, Option.isSome_iff_exists]

theorem codes_insert (registry : Registry) (character : CharacterRecord) :
    (registry.insert character).codes =
      if registry.contains character.code then registry.codes
      else registry.codes ++ [character.code] := by
  unfold codes insert
  rw [OrderedMap.keys_insert, apply_ite Array.toList, Array.toList_push]
  rfl

theorem get?_ofRecords (records : List CharacterRecord) (code : Int) :
    (ofRecords records).get? code = lastWith (fun record => record.code == code) records := by
  induction records using List.reverseRecOn with
  | nil => exact OrderedMap.get?_empty code
  | append_singleton records last ih =>
      rw [ofRecords_append_singleton, get?_insert, lastWith_append_singleton, ih]
      simp only [beq_iff_eq]

theorem contains_ofRecords_iff :
    (ofRecords records).contains code = true ↔ ∃ record ∈ records, record.code = code := by
  rw [contains_iff_exists, get?_ofRecords, exists_lastWith_iff]
  simp only [beq_iff_eq]

/-- A code that is listed already keeps its place. -/
theorem codes_ofRecords (records : List CharacterRecord) :
    (ofRecords records).codes = (records.map CharacterRecord.code).eraseDups := by
  induction records using List.reverseRecOn with
  | nil => rfl
  | append_singleton records last ih =>
      rw [ofRecords_append_singleton, codes_insert, ih, List.map_append, List.map_singleton,
        eraseDups_append_singleton]
      refine if_congr ?_ rfl rfl
      rw [contains_ofRecords_iff, List.mem_map]

/-! ## The records of a text -/

/-- The registry has the last of the records with a code, at the place of the first of them. -/
structure Keeps (registry : Registry) (records : List CharacterRecord) : Prop where
  contains_iff : ∀ code,
    registry.contains code = true ↔ ∃ record ∈ records, record.code = code
  get?_iff : ∀ code record, registry.get? code = some record ↔
    ∃ before after, records = before ++ record :: after ∧ record.code = code ∧
      ∀ other ∈ after, other.code ≠ code
  get : ∀ code, registry.get code = (registry.get? code).elim (.error (.missing code)) .ok
  size : registry.size = (records.map CharacterRecord.code).toFinset.card
  mem_codes_iff : ∀ code, code ∈ registry.codes ↔ ∃ record ∈ records, record.code = code
  ordered : registry.codes.Pairwise fun first second =>
    (records.map CharacterRecord.code).idxOf first <
      (records.map CharacterRecord.code).idxOf second
  toList : registry.toList.map some = registry.codes.map registry.get?
  codes : registry.toList.map CharacterRecord.code = registry.codes

theorem keeps_ofRecords (records : List CharacterRecord) : (ofRecords records).Keeps records where
  contains_iff code := contains_ofRecords_iff
  get?_iff code record := by
    rw [get?_ofRecords, lastWith_eq_some_iff_append]
    simp only [beq_iff_eq, beq_eq_false_iff_ne]
  get code := by
    unfold get
    cases (ofRecords records).get? code with
    | none => rfl
    | some record => rfl
  size := by
    rw [← length_eraseDups_eq_card, ← codes_ofRecords]
    rfl
  mem_codes_iff code := by
    rw [codes_ofRecords, List.mem_eraseDups, List.mem_map]
  ordered := by
    rw [codes_ofRecords]
    exact pairwise_idxOf_eraseDups _
  toList := by
    rw [← (keyed_ofRecords records).map_code_toList, List.map_map]
    refine List.map_congr_left fun record listed => ?_
    exact ((keyed_ofRecords records).get?_eq_some_iff.mpr ⟨listed, rfl⟩).symm
  codes := (keyed_ofRecords records).map_code_toList

/-- A text whose reading stops at a fault is refused for this fault. Any other makes a registry: it
knows just the codes that were read, has the last record read with a code, and lists each code once,
in the order in which they first occur. -/
theorem ofText_keeps (text : List Char) :
    (∀ fault, (readCharacters text).stop = some fault → ofText text = .error (.read fault)) ∧
      ((readCharacters text).stop = none → ∃ registry, ofText text = .ok registry ∧
        registry.Keeps (readCharacters text).records) := by
  constructor
  · intro fault stopped
    rw [ofText, Reading.complete, stopped]
  · intro complete
    refine ⟨ofRecords (readCharacters text).records, ?_, keeps_ofRecords _⟩
    rw [ofText, Reading.complete, complete]

/-- A single line, a range around its code, and a line for the end of the range. -/
def lettersTwice : List Char :=
  ("0041;LETTER;Lu;0;L;;;;;N;;;;0061;\n" ++ "0040;<Signs, First>;So;0;L;;;;;N;;;;;\n" ++
    "0042;<Signs, Last>;So;0;L;;;;;N;;;;;\n" ++ "0042;LETTER;Lu;0;L;;;;;N;;;;0062;\n").toList

theorem ofText_keeps_lettersTwice :
    (readCharacters lettersTwice).stop = none ∧ ∃ registry, ofText lettersTwice = .ok registry ∧
      registry.Keeps (readCharacters lettersTwice).records ∧ registry.size = 3 ∧
      registry.codes = [0x41, 0x40, 0x42] ∧
      registry.toList.map CharacterRecord.name = ["Signs", "Signs", "LETTER"] := by
  have complete : (readCharacters lettersTwice).stop = none := by decide +kernel
  obtain ⟨registry, read, keeps⟩ := (ofText_keeps lettersTwice).2 complete
  have seen : (ofText lettersTwice).toOption.map (fun registry =>
      (registry.size, registry.codes, registry.toList.map CharacterRecord.name)) =
        some (3, [0x41, 0x40, 0x42], ["Signs", "Signs", "LETTER"]) := by
    decide +kernel
  rw [read] at seen
  have views := Option.some.inj seen
  exact ⟨complete, registry, read, keeps, congrArg Prod.fst views,
    congrArg (fun view => view.2.1) views, congrArg (fun view => view.2.2) views⟩

end Registry

end CharacterTables
