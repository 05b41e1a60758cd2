import Mathlib
import CharacterTables.Corpus.Reading

/-!
# Files read line by line

Where a line gives at most one record and its number is of no matter, a file is read to its end
just if each of its lines can be read, and the order of the records is that of the lines.
-/

set_option autoImplicit false

namespace CharacterTables

open Text

/-! ## The lines of a text -/

theorem map_text_numberedLines (text : List Char) :
    (numberedLines text).map Line.text = lines text := by
  unfold numberedLines
  rw [List.map_map]
  exact List.zipIdx_map_fst 1 (lines text)

/-- Texts with the same lines in another order have the same lines with data. -/
theorem dataLines_perm {text other : List Char} (reordered : (lines other).Perm (lines text)) :
    ((dataLines other).map Line.text).Perm ((dataLines text).map Line.text) := by
  have filtered : ∀ text, (dataLines text).map Line.text =
      (lines text).filter fun content => Line.isData ⟨0, content⟩ := by
    intro text
    rw [← map_text_numberedLines, List.filter_map]
    rfl
  rw [filtered, filtered]
  exact reordered.filter _

/-! ## Records for consecutive codes -/

theorem Run.records_between {α : Type} (first last : Int) (record : Int → α) :
    (between first last record).records = (Int.range first (last + 1)).map record := by
  simp [between, records, Int.range]

namespace Reading

variable {α : Type} {file : DataFile} {read : Line → Except LineFault (Option α)}
  {lines : List Line} {found : List (Run α)}

/-! ## Faults and records -/

theorem complete_eq_ok_iff {reading : Reading α} {records : List α} :
    reading.complete = .ok records ↔ reading.stop = none ∧ reading.records = records := by
  unfold complete
  cases reading.stop with
  | some fault => simp
  | none => simp

theorem foldRecords_eq_ok_iff {ε σ : Type} {reading : Reading α} {ofFault : ReadFault → ε}
    {step : σ → α → Except ε σ} {start final : σ} :
    reading.foldRecords ofFault step start = .ok final ↔
      reading.stop = none ∧ reading.records.foldlM step start = .ok final := by
  unfold foldRecords
  cases reading.records.foldlM step start with
  | error cause => simp
  | ok reached =>
      cases reading.stop with
      | some fault => simp
      | none => simp

theorem stop_ofLines_eq_none_iff :
    (ofLines file read lines found).stop = none ↔
      ∀ line ∈ lines, ∃ record, read line = .ok record := by
  induction lines generalizing found with
  | nil => simp [ofLines]
  | cons line rest ih =>
      rw [ofLines, List.forall_mem_cons]
      cases read line with
      | error cause => simp
      | ok record =>
          cases record with
          | none => simp [ih]
          | some record => simp [ih]

/-- The record on a line, if the line has one. -/
def recordOn (read : Line → Except LineFault (Option α)) (line : Line) : Option α :=
  (read line).toOption.join

theorem records_ofLines (complete : (ofLines file read lines found).stop = none) :
    (ofLines file read lines found).records =
      found.reverse.flatMap Run.records ++ lines.filterMap (recordOn read) := by
  induction lines generalizing found with
  | nil => simp [ofLines, records]
  | cons line rest ih =>
      rw [ofLines] at complete ⊢
      rw [List.filterMap_cons, recordOn]
      cases seen : read line with
      | error cause =>
          rw [seen] at complete
          cases complete
      | ok record =>
          rw [seen] at complete
          cases record with
          | none => exact ih complete
          | some record => simpa [Except.toOption] using ih complete

/-! ## Reordered lines -/

theorem ofLines_perm (unnumbered : ∀ line, read line = read ⟨0, line.text⟩) {others : List Line}
    (reordered : (others.map Line.text).Perm (lines.map Line.text))
    (complete : (ofLines file read lines []).stop = none) :
    (ofLines file read others []).stop = none ∧
      (ofLines file read others []).records.Perm (ofLines file read lines []).records := by
  have readable := stop_ofLines_eq_none_iff.mp complete
  have reread : (ofLines file read others []).stop = none := by
    refine stop_ofLines_eq_none_iff.mpr fun line listed => ?_
    obtain ⟨other, otherListed, same⟩ :=
      List.mem_map.mp (reordered.mem_iff.mp (List.mem_map_of_mem listed))
    rw [unnumbered line, ← same, ← unnumbered other]
    exact readable other otherListed
  have byText : ∀ lines : List Line, lines.filterMap (recordOn read) =
      (lines.map Line.text).filterMap fun content => recordOn read ⟨0, content⟩ := by
    intro lines
    rw [List.filterMap_map]
    exact List.filterMap_congr fun line _ => congrArg (·.toOption.join) (unnumbered line)
  refine ⟨reread, ?_⟩
  rw [records_ofLines reread, records_ofLines complete, byText, byText lines]
  exact reordered.filterMap _

end Reading

end CharacterTables
