import Mathlib
import CharacterTables.Corpus.DerivedProperty

/-!
# Totals of sections

A stated total is held against the sizes of the ranges since the total before it, and a range that
runs backward has a negative size there although it gives no records. So a total that is accepted
is the number of records in its section just where no range of the section runs backward.
-/

set_option autoImplicit false

namespace CharacterTables

open Text

/-! ## What a line contributes -/

namespace Line

variable {line : Line} {first last : Int} {property : String}

def property? (line : Line) : Option (Int × Int × String) :=
  if line.isData then (readProperty line).toOption else none

def propertyRun? (line : Line) : Option (Run PropertyRecord) :=
  line.property?.map fun (first, last, property) =>
    Run.between first last fun code => { code, property }

def propertyRecords (line : Line) : List PropertyRecord :=
  line.propertyRun?.elim [] Run.records

/-- What a line adds to the count of its section. -/
def rise (line : Line) : Int :=
  line.property?.elim 0 fun (first, last, _) => last + 1 - first

theorem flatMap_propertyRuns (lines : List Line) :
    (lines.filterMap propertyRun?).flatMap Run.records = lines.flatMap propertyRecords := by
  rw [List.filterMap_eq_flatMap_toList, List.flatMap_assoc]
  refine congrArg (List.flatMap · lines) (funext fun line => ?_)
  unfold propertyRecords
  cases line.propertyRun? with
  | none => rfl
  | some run => simp

/-- The range on the line ends before the code that precedes it. -/
def RunsBackward (line : Line) : Prop :=
  ∃ first last property, line.property? = some (first, last, property) ∧ last + 1 < first

theorem runsBackward_iff : line.RunsBackward ↔ line.rise < 0 := by
  unfold RunsBackward rise
  cases line.property? with
  | none => simp
  | some range =>
      obtain ⟨first, last, property⟩ := range
      simp

theorem length_propertyRecords : (line.propertyRecords.length : Int) = max 0 line.rise := by
  unfold propertyRecords propertyRun? rise
  cases line.property? with
  | none => rfl
  | some range =>
      obtain ⟨first, last, property⟩ := range
      simp only [Option.map_some, Option.elim_some, Run.length_records, Run.between]
      omega

theorem isData_of_total? {total : List Char} (marked : line.total? = some total) :
    line.isData = false := by
  unfold total? at marked
  split at marked
  case isTrue opened =>
    obtain ⟨rest, same⟩ := List.isPrefixOf_iff_prefix.mp opened
    -- The mark opens a comment, so nothing on the line is content.
    have sign : totalMark = '#' :: totalMark.tail := by decide +kernel
    have comment : line.content = [] := by
      rw [content, ← same, sign]
      simp
    simp [isData, comment, isBlankText]
  case isFalse => cases marked

end Line

/-! ## Sections -/

/-- The lines behind the last total. -/
def openSection (lines : List Line) : List Line :=
  lines.rtakeWhile fun line => line.total?.isNone

def countAfter (count : Int) (line : Line) : Int :=
  if line.total?.isSome then 0 else count + line.rise

theorem foldl_countAfter (lines : List Line) :
    lines.foldl countAfter 0 = ((openSection lines).map Line.rise).sum := by
  induction lines using List.reverseRecOn with
  | nil => rfl
  | append_singleton lines line ih =>
      rw [List.foldl_append, ih, List.foldl_cons, List.foldl_nil, countAfter, openSection, openSection,
        List.rtakeWhile_concat]
      cases line.total? with
      | some total => simp
      | none => simp

theorem sum_rise_le (lines : List Line) :
    (lines.map Line.rise).sum ≤ (lines.flatMap Line.propertyRecords).length := by
  induction lines with
  | nil => simp
  | cons line rest ih =>
      have own := line.length_propertyRecords
      simp only [List.map_cons, List.sum_cons, List.flatMap_cons, List.length_append]
      omega

/-- What backward ranges take away is not made up for by other lines. -/
theorem sum_rise_eq_iff (lines : List Line) :
    (lines.map Line.rise).sum = (lines.flatMap Line.propertyRecords).length ↔
      ∀ line ∈ lines, ¬ line.RunsBackward := by
  induction lines with
  | nil => simp
  | cons line rest ih =>
      have own := line.length_propertyRecords
      have others := sum_rise_le rest
      rw [List.forall_mem_cons, ← ih, Line.runsBackward_iff]
      simp only [List.map_cons, List.sum_cons, List.flatMap_cons, List.length_append]
      omega

/-! ## Reading line by line -/

theorem checkTotal_eq_ok {line : Line} {count : Int} {total : List Char}
    (accepted : checkTotal line count total = .ok ()) :
    ∃ stated, readDecimal? total = some stated ∧ (stated : Int) = count := by
  unfold checkTotal at accepted
  split at accepted
  · cases accepted
  · split at accepted
    · cases accepted
    · cases read : readDecimal? total with
      | none => simp [read] at accepted
      | some stated =>
          by_cases same : (stated : Int) = count
          · exact ⟨stated, rfl, same⟩
          · simp [read, same] at accepted

section

variable {count : Int} {found : List (Run PropertyRecord)} {line : Line} {rest : List Line}

theorem total_of_complete {total : List Char} (marked : line.total? = some total)
    (complete : (readPropertyLines count (line :: rest) found).stop = none) :
    ∃ stated, readDecimal? total = some stated ∧ (stated : Int) = count := by
  rw [readPropertyLines, marked] at complete
  cases checked : checkTotal line count total with
  | error fault => simp [checked] at complete
  | ok accepted => exact checkTotal_eq_ok checked

theorem readPropertyLines_cons
    (complete : (readPropertyLines count (line :: rest) found).stop = none) :
    readPropertyLines count (line :: rest) found =
      readPropertyLines (countAfter count line) rest (line.propertyRun?.toList ++ found) := by
  rw [readPropertyLines] at complete ⊢
  unfold countAfter Line.rise Line.propertyRun? Line.property?
  cases marked : line.total? with
  | some total =>
      rw [marked] at complete
      cases checked : checkTotal line count total with
      | error fault => simp [checked] at complete
      | ok accepted => simp [checked, Line.isData_of_total? marked]
  | none =>
      rw [marked] at complete
      by_cases data : line.isData
      · cases read : readProperty line with
        | error cause => simp [data, read] at complete
        | ok range => simp [data, Except.toOption]
      · simp [data]

theorem readPropertyLines_append {before : List Line}
    (complete : (readPropertyLines count (before ++ rest) found).stop = none) :
    readPropertyLines count (before ++ rest) found =
      readPropertyLines (before.foldl countAfter count) rest
        ((before.filterMap Line.propertyRun?).reverse ++ found) := by
  induction before generalizing count found with
  | nil => rfl
  | cons line before ih =>
      rw [List.cons_append] at complete ⊢
      have stepped := readPropertyLines_cons complete
      rw [stepped] at complete ⊢
      rw [ih complete, List.foldl_cons, List.filterMap_cons]
      cases line.propertyRun? with
      | none => rfl
      | some run => simp

end

/-! ## Whole texts -/

/-- In a text that is read to its end, every stated total is the sum of the sizes of the ranges
in its section. It is the number of records that the section gives unless a range runs
backward. -/
theorem readProperties_totals {text : List Char}
    (complete : (readProperties text).stop = none) :
    (readProperties text).records = (numberedLines text).flatMap Line.propertyRecords ∧
      ∀ before line after total, numberedLines text = before ++ line :: after →
        line.total? = some total →
        ∃ stated, readDecimal? total = some stated ∧
          (stated : Int) = ((openSection before).map Line.rise).sum ∧
          (stated = ((openSection before).flatMap Line.propertyRecords).length ↔
            ∀ other ∈ openSection before, ¬ other.RunsBackward) := by
  unfold readProperties at complete ⊢
  constructor
  · rw [← List.append_nil (numberedLines text)] at complete
    have all := readPropertyLines_append complete
    rw [List.append_nil] at all
    rw [all, readPropertyLines, Reading.records, List.append_nil, List.reverse_reverse]
    exact Line.flatMap_propertyRuns (numberedLines text)
  · intro before line after total split marked
    -- When the reader comes to the line, its count is that of the open section.
    rw [split] at complete
    rw [readPropertyLines_append complete, foldl_countAfter] at complete
    obtain ⟨stated, read, same⟩ := total_of_complete marked complete
    refine ⟨stated, read, same, ?_⟩
    rw [← sum_rise_eq_iff, ← same]
    exact Nat.cast_inj.symm

def lettersText : List Char :=
  "0041..0043 ; ID_Start\n\n# Total code points: 3\n".toList

def lettersSection : List Line :=
  [⟨1, "0041..0043 ; ID_Start".toList⟩, ⟨2, []⟩]

theorem readProperties_totals_letters :
    (readProperties lettersText).stop = none ∧
      ∃ stated, readDecimal? "3".toList = some stated ∧
        stated = (lettersSection.flatMap Line.propertyRecords).length := by
  have complete : (readProperties lettersText).stop = none := by decide +kernel
  have split : numberedLines lettersText =
      lettersSection ++ ⟨3, "# Total code points: 3".toList⟩ :: [] := by
    decide +kernel
  have whole : openSection lettersSection = lettersSection := by decide +kernel
  have forward : ∀ other ∈ lettersSection, 0 ≤ other.rise := by decide +kernel
  obtain ⟨stated, read, _, counted⟩ :=
    (readProperties_totals complete).2 _ _ _ "3".toList split (by decide +kernel)
  rw [whole] at counted
  refine ⟨complete, stated, read, counted.mpr fun other listed backward => ?_⟩
  exact absurd (Line.runsBackward_iff.mp backward) (Int.not_lt.mpr (forward other listed))

/-- Behind a range that runs backward, a section of three records passes for one of none. -/
theorem readProperties_empty_total_of_three :
    let text := "0005..0001 ; ID_Start\n0001..0003 ; ID_Start\n# Total code points: 0\n".toList
    (readProperties text).stop = none ∧
      ∃ before line after total, numberedLines text = before ++ line :: after ∧
        line.total? = some total ∧ readDecimal? total = some 0 ∧
        ((openSection before).flatMap Line.propertyRecords).length = 3 := by
  refine ⟨by decide +kernel,
    [⟨1, "0005..0001 ; ID_Start".toList⟩, ⟨2, "0001..0003 ; ID_Start".toList⟩],
    ⟨3, "# Total code points: 0".toList⟩, [], "0".toList, ?_⟩
  decide +kernel

end CharacterTables
