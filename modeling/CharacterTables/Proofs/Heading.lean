import Mathlib
import CharacterTables.Proofs.Text.Newlines
import CharacterTables.PropertySets

/-!
# The heading that states the version

What stands between the opening and the closing of the heading is the version, so the version
tells the whole heading. With unified line breaks the heading is the same just if nothing but
blanks stands between a carriage return in the first line and the line feed that ends it.
-/

set_option autoImplicit false

namespace CharacterTables

open Text

variable {line text : List Char} {version : String}

/-- The first line of a text, which only a line feed ends, without the blanks around it. -/
def heading (text : List Char) : List Char :=
  trim (text.takeWhile (· != '\n'))

/-- The opening of a heading and its closing do not overlap. -/
theorem exists_between (opened : versionOpening <+: line) (closed : versionClosing <:+ line) :
    ∃ between, line = versionOpening ++ between ++ versionClosing := by
  obtain ⟨rest, rfl⟩ := opened
  have ending : rest <:+ versionOpening ++ rest := List.suffix_append versionOpening rest
  rcases List.suffix_or_suffix_of_suffix closed ending with ⟨between, rfl⟩ | ⟨start, shorter⟩
  · exact ⟨between, by rw [List.append_assoc]⟩
  · cases start with
    | nil => exact ⟨[], by simp [← shorter]⟩
    | cons c others =>
        -- The closing would begin within the opening, which has no full stop.
        have stop : c = '.' := by
          have first := congrArg List.head? shorter
          simpa [versionClosing] using first
        obtain ⟨before, overlap⟩ := closed
        rw [← shorter, ← List.append_assoc] at overlap
        have inside : c ∈ versionOpening := by
          rw [← List.append_cancel_right overlap]
          simp
        rw [stop] at inside
        exact absurd inside (by decide)

theorem heading_of_databaseVersion (stated : databaseVersion text = .ok version) :
    heading text = versionOpening ++ version.toList ++ versionClosing := by
  unfold databaseVersion at stated
  dsimp only at stated
  split at stated
  · rename_i framed
    rw [Bool.and_eq_true, List.isPrefixOf_iff_prefix, List.isSuffixOf_iff_suffix] at framed
    obtain ⟨between, same⟩ := exists_between framed.1 framed.2
    cases stated
    unfold heading
    rw [same, String.toList_ofList]
    simp
  · cases stated

theorem databaseVersion_of_error {failure : Failure}
    (failed : databaseVersion text = .error failure) :
    failure = .shape (.noVersion (heading text)) := by
  unfold databaseVersion at failed
  dsimp only at failed
  split at failed
  · cases failed
  · cases failed
    rfl

theorem databaseVersion_eq_iff (text other : List Char) :
    databaseVersion text = databaseVersion other ↔ heading text = heading other := by
  constructor
  · intro same
    cases stated : databaseVersion text with
    | ok version =>
        rw [heading_of_databaseVersion stated,
          heading_of_databaseVersion (same.symm.trans stated)]
    | error failure =>
        have faults := (databaseVersion_of_error stated).symm.trans
          (databaseVersion_of_error (same.symm.trans stated))
        simpa using faults
  · intro same
    unfold heading at same
    unfold databaseVersion
    rw [same]

theorem databaseVersion_unifyNewlines_iff (text : List Char) :
    databaseVersion text = databaseVersion (unifyNewlines text) ↔ firstLineWhole text = true := by
  rw [databaseVersion_eq_iff]
  exact trim_takeWhile_unifyNewlines_iff text

end CharacterTables
