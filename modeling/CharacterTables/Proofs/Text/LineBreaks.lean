import Mathlib
import CharacterTables.Proofs.Text.Joining

/-!
# Where lines break

A text falls into lines at its breaks, of which a carriage return with a line feed behind it is
one. The breaks themselves do not show: unified they leave the same lines.
-/

set_option autoImplicit false

namespace CharacterTables.Text

/-- How a text falls into lines. What stands behind the last break is a line if there is
anything. -/
inductive SplitsInto : List Char → List (List Char) → Prop
  | nil : SplitsInto [] []
  | last {line : List Char} : line ≠ [] → Unbroken line → SplitsInto line [line]
  | pair {line rest : List Char} {sheet : List (List Char)} : Unbroken line →
      SplitsInto rest sheet → SplitsInto (line ++ '\r' :: '\n' :: rest) (line :: sheet)
  | single {line rest : List Char} {sheet : List (List Char)} {c : Char} : Unbroken line →
      isLineBreak c = true → (c = '\r' → ∀ after, rest ≠ '\n' :: after) →
      SplitsInto rest sheet → SplitsInto (line ++ c :: rest) (line :: sheet)

variable {text line more rest : List Char} {others sheet : List (List Char)} {c : Char}

/-! ## The lines that are read -/

theorem lines_pair (rest : List Char) : lines ('\r' :: '\n' :: rest) = [] :: lines rest := by
  unfold lines
  rw [unifyNewlines_pair]
  exact breakLines_cons_of_break (by decide) _

theorem lines_cons_of_break (breaks : isLineBreak c = true)
    (alone : c = '\r' → ∀ after, rest ≠ '\n' :: after) :
    lines (c :: rest) = [] :: lines rest := by
  unfold lines
  by_cases returns : c = '\r'
  · rw [returns, unifyNewlines_return (alone returns)]
    exact breakLines_cons_of_break (by decide) _
  · rw [unifyNewlines_cons returns]
    exact breakLines_cons_of_break breaks _

theorem ne_return_of_keep (keeps : isLineBreak c = false) : c ≠ '\r' := by
  rintro rfl
  have breaks : isLineBreak '\r' = true := by decide
  cases keeps.symm.trans breaks

theorem lines_cons_of_keep (keeps : isLineBreak c = false) (found : lines rest = line :: others) :
    lines (c :: rest) = (c :: line) :: others := by
  unfold lines at found ⊢
  rw [unifyNewlines_cons (ne_return_of_keep keeps)]
  exact breakLines_cons_of_keep keeps found

theorem lines_append_of_unbroken (unbroken : Unbroken line) (found : lines more = [] :: others) :
    lines (line ++ more) = line :: others := by
  induction line with
  | nil => exact found
  | cons c line ih =>
      obtain ⟨keeps, plain⟩ := List.forall_mem_cons.mp unbroken
      exact lines_cons_of_keep keeps (ih plain)

theorem lines_of_unbroken (filled : line ≠ []) (unbroken : Unbroken line) :
    lines line = [line] := by
  induction line with
  | nil => exact absurd rfl filled
  | cons c line ih =>
      obtain ⟨keeps, plain⟩ := List.forall_mem_cons.mp unbroken
      cases line with
      | nil =>
          unfold lines
          rw [unifyNewlines_cons (ne_return_of_keep keeps)]
          simp [breakLines, keeps]
      | cons d line => exact lines_cons_of_keep keeps (ih (List.cons_ne_nil d line) plain)

/-! ## Falling into lines -/

theorem SplitsInto.unbroken (splits : SplitsInto text sheet) : ∀ line ∈ sheet, Unbroken line := by
  induction splits with
  | nil => exact List.forall_mem_nil _
  | last _ unbroken => exact List.forall_mem_singleton.mpr unbroken
  | pair unbroken _ ih => exact List.forall_mem_cons.mpr ⟨unbroken, ih⟩
  | single unbroken _ _ _ ih => exact List.forall_mem_cons.mpr ⟨unbroken, ih⟩

theorem SplitsInto.lines_eq (splits : SplitsInto text sheet) : lines text = sheet := by
  induction splits with
  | nil => rfl
  | last filled unbroken => exact lines_of_unbroken filled unbroken
  | pair unbroken _ ih =>
      apply lines_append_of_unbroken unbroken
      rw [lines_pair, ih]
  | single unbroken breaks alone _ ih =>
      apply lines_append_of_unbroken unbroken
      rw [lines_cons_of_break breaks alone, ih]

theorem SplitsInto.extend (keeps : isLineBreak c = false)
    (splits : SplitsInto rest (line :: sheet)) : SplitsInto (c :: rest) ((c :: line) :: sheet) := by
  have longer {line : List Char} (unbroken : Unbroken line) : Unbroken (c :: line) :=
    List.forall_mem_cons.mpr ⟨keeps, unbroken⟩
  cases splits with
  | last _ unbroken => exact .last (List.cons_ne_nil c _) (longer unbroken)
  | pair unbroken behind => exact .pair (longer unbroken) behind
  | single unbroken breaks alone behind => exact .single (longer unbroken) breaks alone behind

theorem splitsInto_lines (text : List Char) : SplitsInto text (lines text) := by
  induction text using newlineInduction with
  | nil => exact .nil
  | pair rest ih =>
      rw [lines_pair]
      exact .pair (List.forall_mem_nil _) ih
  | alone rest single ih =>
      have alone : '\r' = '\r' → ∀ after, rest ≠ '\n' :: after := fun _ => single
      rw [lines_cons_of_break (by decide) alone]
      exact .single (List.forall_mem_nil _) (by decide) alone ih
  | other c rest plain ih =>
      cases breaks : isLineBreak c with
      | true =>
          have alone : c = '\r' → ∀ after, rest ≠ '\n' :: after := fun same => absurd same plain
          rw [lines_cons_of_break breaks alone]
          exact .single (List.forall_mem_nil _) breaks alone ih
      | false =>
          -- The character goes in front of the first line, or is all of the last one.
          cases found : lines rest with
          | nil =>
              rw [found] at ih
              cases ih
              have unbroken : Unbroken [c] := List.forall_mem_singleton.mpr breaks
              rw [lines_of_unbroken (List.cons_ne_nil c []) unbroken]
              exact .last (List.cons_ne_nil c []) unbroken
          | cons line others =>
              rw [found] at ih
              rw [lines_cons_of_keep breaks found]
              exact ih.extend breaks

/-- A text is read as the lines into which it falls. -/
theorem lines_eq_iff : lines text = sheet ↔ SplitsInto text sheet := by
  constructor
  · rintro rfl
    exact splitsInto_lines text
  · exact SplitsInto.lines_eq

end CharacterTables.Text
