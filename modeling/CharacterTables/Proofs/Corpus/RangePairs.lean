import Mathlib
import CharacterTables.Proofs.Corpus.WrittenCharacters

/-!
# The two lines of a range

The line behind one that opens a range closes it. Of what it states only the code and the end of
the name are looked at, so that it may as well have been written to close another range; all else
is taken from the line that opens the range.
-/

set_option autoImplicit false

namespace CharacterTables

open Text

/-! ## What lines have in common -/

/-- A record has the category, former name and case mappings that a line states. -/
def Line.Backs (line : Line) (record : CharacterRecord) : Prop :=
  ∃ code traits, line.States code traits ∧
    record = { traits.record record.code with name := record.name }

/-- Two lines are written for one range: they give it the same name, and state the same
category, former name and case mappings. -/
structure BelongTogether (opening closing : Line) : Prop where
  name : ∃ name, opening.field 1 = rangeName name firstMark ∧
    closing.field 1 = rangeName name lastMark
  category : closing.field 2 = opening.field 2
  formerName : closing.field 10 = opening.field 10
  uppercase : closing.field 12 = opening.field 12
  lowercase : closing.field 13 = opening.field 13

section Backs

variable {line : Line} {code : Int} {traits : CharacterTraits}

theorem Line.Backs.category_eq {record : CharacterRecord} (backed : line.Backs record) :
    record.category = String.ofList (line.field 2) := by
  obtain ⟨code, traits, states, carried⟩ := backed
  rw [carried, ← states.category]
  rfl

theorem Line.States.backs_iff (states : line.States code traits) {record : CharacterRecord} :
    line.Backs record ↔ record = { traits.record record.code with name := record.name } := by
  constructor
  · intro ⟨other, others, again, carried⟩
    obtain ⟨rfl, rfl⟩ := states.unique again
    exact carried
  · intro carried
    exact ⟨code, traits, states, carried⟩

end Backs

/-! ## Lines that are read together -/

/-- A line with a character of its own, or a line that opens a range and the line that closes
it. -/
inductive CharacterLines
  | alone (line : Line) (code : Int) (traits : CharacterTraits)
      (states : line.States code traits) (proper : traits.opensRange = false)
  | pair (opening closing : Line) (first last : Int) (traits : CharacterTraits)
      (states : opening.States first traits) (opens : traits.opensRange = true)
      (closes : closing.Closes first last)

namespace CharacterLines

def lines : CharacterLines → List Line
  | alone line _ _ _ _ => [line]
  | pair opening closing _ _ _ _ _ _ => [opening, closing]

def leading : CharacterLines → Line
  | alone line _ _ _ _ => line
  | pair opening _ _ _ _ _ _ _ => opening

def records : CharacterLines → List CharacterRecord
  | alone _ code traits _ _ => [traits.record code]
  | pair _ _ first last traits _ _ _ => (Int.range first (last + 1)).map traits.ofRange.record

def run : CharacterLines → Run CharacterRecord
  | alone _ code traits _ _ => Run.single (traits.record code)
  | pair _ _ first last traits _ _ _ => Run.between first last traits.ofRange.record

/-- The two lines of a range are written for one range. -/
def Together : CharacterLines → Prop
  | alone _ _ _ _ _ => True
  | pair opening closing _ _ _ _ _ _ => BelongTogether opening closing

/-- The two lines of a range state the same of every code between them. -/
def Agree : CharacterLines → Prop
  | alone _ _ _ _ _ => True
  | pair _ closing first last traits _ _ _ => ∃ others, closing.States last others ∧
      others.category = traits.category ∧ others.formerName = traits.formerName ∧
      ∀ code, first ≤ code → code ≤ last →
        others.uppercase.getD code = traits.uppercase.getD code ∧
          others.lowercase.getD code = traits.lowercase.getD code

variable {entry : CharacterLines} {entries : List CharacterLines}

theorem records_run (entry : CharacterLines) : entry.run.records = entry.records := by
  cases entry with
  | alone line code traits states proper => rfl
  | pair opening closing first last traits states opens closes =>
      exact Run.records_between first last traits.ofRange.record

theorem mem_records_pair {opening closing : Line} {first last : Int} {traits : CharacterTraits}
    {states : opening.States first traits} {opens : traits.opensRange = true}
    {closes : closing.Closes first last} {record : CharacterRecord} :
    record ∈ (pair opening closing first last traits states opens closes).records ↔
      ∃ code, first ≤ code ∧ code ≤ last ∧ traits.ofRange.record code = record := by
  simp [records, Int.mem_range_iff, and_assoc]

/-- Whatever the second line of a range states, the records have what the first one states. -/
theorem leading_backs (entry : CharacterLines) :
    ∀ record ∈ entry.records, entry.leading.Backs record := by
  intro record listed
  cases entry with
  | alone line code traits states proper =>
      cases List.mem_singleton.mp listed
      exact states.backs_iff.mpr rfl
  | pair opening closing first last traits states opens closes =>
      obtain ⟨code, _, _, rfl⟩ := mem_records_pair.mp listed
      exact states.backs_iff.mpr rfl

theorem backs_iff_agree (entry : CharacterLines) :
    (∀ record ∈ entry.records, ∀ line ∈ entry.lines, line.Backs record) ↔ entry.Agree := by
  cases entry with
  | alone line code traits states proper =>
      refine ⟨fun _ => trivial, fun _ record listed other own => ?_⟩
      cases List.mem_singleton.mp own
      exact leading_backs (alone line code traits states proper) record listed
  | pair opening closing first last traits states opens closes =>
      constructor
      · intro backed
        have carried (code : Int) (above : first ≤ code) (below : code ≤ last) :
            closing.Backs (traits.ofRange.record code) :=
          backed _ (mem_records_pair.mpr ⟨code, above, below, rfl⟩) closing (by simp [lines])
        -- The range has a first code, so that the second line states something.
        obtain ⟨code, others, stated, _⟩ := carried first (Int.le_refl first) closes.forward
        obtain rfl : last = code := Except.ok.inj (closes.code.symm.trans stated.code)
        have same (code : Int) (above : first ≤ code) (below : code ≤ last) :=
          stated.backs_iff.mp (carried code above below)
        have equal := same first (Int.le_refl first) closes.forward
        simp only [CharacterTraits.record, CharacterTraits.ofRange, CharacterRecord.mk.injEq,
          String.ofList_inj] at equal same
        exact ⟨others, stated, equal.2.2.1.symm, equal.2.2.2.1.symm, fun code above below =>
          ⟨(same code above below).2.2.2.2.1.symm, (same code above below).2.2.2.2.2.symm⟩⟩
      · rintro ⟨others, stated, category, formerName, mappings⟩ record listed line own
        obtain rfl | rfl : line = opening ∨ line = closing := by simpa [lines] using own
        · exact leading_backs (pair line closing first last traits states opens closes) record listed
        · obtain ⟨code, above, below, rfl⟩ := mem_records_pair.mp listed
          obtain ⟨uppercase, lowercase⟩ := mappings code above below
          rw [stated.backs_iff]
          simp [CharacterTraits.record, CharacterTraits.ofRange, category, formerName, uppercase,
            lowercase]

theorem Together.agree (together : entry.Together) : entry.Agree := by
  cases entry with
  | alone line code traits states proper => trivial
  | pair opening closing first last traits states opens closes =>
      have stated : closing.States last { traits with name := closing.field 1 } :=
        { count := closes.count
          code := closes.code
          name := rfl
          category := states.category.trans together.category.symm
          formerName := states.formerName.trans together.formerName.symm
          uppercase := together.uppercase ▸ states.uppercase
          lowercase := together.lowercase ▸ states.lowercase }
      exact ⟨_, stated, rfl, rfl, fun _ _ _ => ⟨rfl, rfl⟩⟩

/-! ## Files that are read to their end -/

theorem readCharacterLines_flatMap (entries : List CharacterLines)
    (found : List (Run CharacterRecord)) :
    readCharacterLines (entries.flatMap lines) found =
      { runs := found.reverse ++ entries.map run, stop := none } := by
  induction entries generalizing found with
  | nil => simp [readCharacterLines]
  | cons entry rest ih =>
      cases entry with
      | alone line code traits states proper =>
          simp [lines, run, readCharacterLines, readCharacter_eq_ok_iff.mpr states, proper, ih]
      | pair opening closing first last traits states opens closes =>
          simp [lines, run, readCharacterLines, readCharacter_eq_ok_iff.mpr states, opens,
            readRangeEnd_eq_ok_iff.mpr closes, ih]

theorem exists_entries {lines : List Line} {found : List (Run CharacterRecord)}
    (complete : (readCharacterLines lines found).stop = none) :
    ∃ entries : List CharacterLines, lines = entries.flatMap CharacterLines.lines := by
  fun_induction readCharacterLines lines found with
  | case1 found => exact ⟨[], rfl⟩
  | case2 line rest found cause seen => cases complete
  | case3 line found first traits seen opens => cases complete
  | case4 line found first traits seen opens closing rest cause bad => cases complete
  | case5 line found first traits seen opens closing rest last closed ih =>
      obtain ⟨entries, rfl⟩ := ih complete
      exact ⟨pair line closing first last traits (readCharacter_eq_ok_iff.mp seen) opens
        (readRangeEnd_eq_ok_iff.mp closed) :: entries, rfl⟩
  | case6 line rest found code traits seen proper ih =>
      obtain ⟨entries, rfl⟩ := ih complete
      exact ⟨alone line code traits (readCharacter_eq_ok_iff.mp seen)
        (Bool.eq_false_iff.mpr proper) :: entries, rfl⟩

end CharacterLines

/-- A file is read to its end just if its lines with data are single lines and pairs, and gives
their records. The records of a pair have what its first line states. They have what both lines
state just if these agree, as lines do that are written for one range. -/
theorem readCharacters_complete_iff (text : List Char) (records : List CharacterRecord) :
    ((readCharacters text).complete = .ok records ↔
        ∃ entries : List CharacterLines,
          dataLines text = entries.flatMap CharacterLines.lines ∧
            records = entries.flatMap CharacterLines.records) ∧
      ∀ entry : CharacterLines,
        (∀ record ∈ entry.records, entry.leading.Backs record) ∧
          ((∀ record ∈ entry.records, ∀ line ∈ entry.lines, line.Backs record) ↔ entry.Agree) ∧
          (entry.Together → entry.Agree) := by
  have given (entries : List CharacterLines)
      (split : dataLines text = entries.flatMap CharacterLines.lines) :
      (readCharacters text).stop = none ∧
        (readCharacters text).records = entries.flatMap CharacterLines.records := by
    unfold readCharacters
    rw [split, CharacterLines.readCharacterLines_flatMap]
    simp [Reading.records, List.flatMap_map, CharacterLines.records_run]
  refine ⟨?_, fun entry =>
    ⟨entry.leading_backs, entry.backs_iff_agree, CharacterLines.Together.agree⟩⟩
  rw [Reading.complete_eq_ok_iff]
  constructor
  · rintro ⟨complete, rfl⟩
    obtain ⟨entries, split⟩ := CharacterLines.exists_entries complete
    exact ⟨entries, split, (given entries split).2⟩
  · rintro ⟨entries, split, rfl⟩
    exact given entries split

/-- What is left of two ranges when the lines between their first and last one are lost. -/
def crossedRanges : List Char :=
  ("3400;<CJK Ideograph, First>;Lo;0;L;;;;;N;;;;;\n" ++
    "3403;<Private Use, Last>;Co;0;L;;;;;N;;;;;\n").toList

/-- Such lines are read as one range, with nothing of what the second one states but its code. -/
theorem readCharacters_crossed :
    (readCharacters crossedRanges).complete =
        .ok [⟨0x3400, "CJK Ideograph", "Lo", "", 0x3400, 0x3400⟩,
          ⟨0x3401, "CJK Ideograph", "Lo", "", 0x3401, 0x3401⟩,
          ⟨0x3402, "CJK Ideograph", "Lo", "", 0x3402, 0x3402⟩,
          ⟨0x3403, "CJK Ideograph", "Lo", "", 0x3403, 0x3403⟩] ∧
      ∃ opening closing, dataLines crossedRanges = [opening, closing] ∧
        opening.field 1 = rangeName "CJK Ideograph".toList firstMark ∧
        closing.field 1 ≠ rangeName "CJK Ideograph".toList lastMark ∧
        closing.field 2 ≠ opening.field 2 ∧
        ∀ record ∈ (readCharacters crossedRanges).records, ¬ closing.Backs record := by
  have found : dataLines crossedRanges =
      [⟨1, "3400;<CJK Ideograph, First>;Lo;0;L;;;;;N;;;;;".toList⟩,
        ⟨2, "3403;<Private Use, Last>;Co;0;L;;;;;N;;;;;".toList⟩] := by
    decide +kernel
  have category : ∀ record ∈ (readCharacters crossedRanges).records, record.category = "Lo" := by
    decide +kernel
  refine ⟨by decide +kernel, _, _, found, by decide +kernel, by decide +kernel,
    by decide +kernel, fun record listed backed => ?_⟩
  have other := backed.category_eq.symm.trans (category record listed)
  exact absurd other (by decide +kernel)

end CharacterTables
