import Mathlib
import CharacterTables.Proofs.Text.Newlines

/-!
# Lines of joined texts

A text that ends with a line feed keeps its lines whatever follows it. Lines in which nothing
breaks are the lines of the text that ends each of them with a line feed.
-/

set_option autoImplicit false

namespace CharacterTables.Text

/-- Nothing in the text ends a line. -/
def Unbroken (text : List Char) : Prop :=
  ∀ c ∈ text, isLineBreak c = false

instance (text : List Char) : Decidable (Unbroken text) :=
  List.decidableBAll (fun c => isLineBreak c = false) text

/-- No line of the text goes on behind it: the text is empty, or ends with a line feed. -/
def Ended (text : List Char) : Prop :=
  text = [] ∨ text.getLast? = some '\n'

instance (text : List Char) : Decidable (Ended text) :=
  inferInstanceAs (Decidable (_ ∨ _))

/-- The text that ends each of the lines with a line feed. -/
def unlines (sheet : List (List Char)) : List Char :=
  sheet.flatMap (· ++ ['\n'])

variable {text line more rest : List Char} {c : Char}

/-! ## Single lines -/

theorem Unbroken.append {first second : List Char} (plain : Unbroken first)
    (others : Unbroken second) : Unbroken (first ++ second) :=
  List.forall_mem_append.mpr ⟨plain, others⟩

theorem Unbroken.return_not_mem (unbroken : Unbroken text) : '\r' ∉ text := by
  intro listed
  have breaks : isLineBreak '\r' = true := by decide
  simp [unbroken '\r' listed] at breaks

theorem breakLines_cons_of_break (breaks : isLineBreak c = true) (rest : List Char) :
    breakLines (c :: rest) = [] :: breakLines rest := by
  simp [breakLines, breaks]

theorem breakLines_cons_of_keep {others : List (List Char)} (keeps : isLineBreak c = false)
    (found : breakLines rest = line :: others) :
    breakLines (c :: rest) = (c :: line) :: others := by
  unfold breakLines at found ⊢
  simp [found, keeps]

theorem exists_breakLines_cons (c : Char) (rest : List Char) :
    ∃ line others, breakLines (c :: rest) = line :: others := by
  cases breaks : isLineBreak c with
  | true => exact ⟨[], breakLines rest, breakLines_cons_of_break breaks rest⟩
  | false =>
      cases found : breakLines rest with
      | nil =>
          simp only [breakLines] at found
          exact ⟨[c], [], by simp [breakLines, breaks, found]⟩
      | cons line others => exact ⟨c :: line, others, breakLines_cons_of_keep breaks found⟩

theorem breakLines_line (unbroken : Unbroken line) (rest : List Char) :
    breakLines (line ++ '\n' :: rest) = line :: breakLines rest := by
  induction line with
  | nil => exact breakLines_cons_of_break (by decide) rest
  | cons c line ih =>
      obtain ⟨keeps, others⟩ := List.forall_mem_cons.mp unbroken
      exact breakLines_cons_of_keep keeps (ih others)

/-- Lines in which nothing breaks can be read back. -/
theorem lines_unlines {sheet : List (List Char)} (unbroken : ∀ line ∈ sheet, Unbroken line) :
    lines (unlines sheet) = sheet := by
  have unified : '\r' ∉ unlines sheet := by
    intro listed
    obtain ⟨line, member, inside⟩ := List.mem_flatMap.mp listed
    have plain : '\r' ∉ line := (unbroken line member).return_not_mem
    simp [plain] at inside
  unfold lines
  rw [unifyNewlines_eq_self unified]
  clear unified
  induction sheet with
  | nil => rfl
  | cons line sheet ih =>
      obtain ⟨plain, others⟩ := List.forall_mem_cons.mp unbroken
      have joined : unlines (line :: sheet) = line ++ '\n' :: unlines sheet := by simp [unlines]
      rw [joined, breakLines_line plain, ih others]

/-! ## Texts one behind the other -/

theorem ended_cons_iff :
    Ended (c :: rest) ↔ (rest = [] ∧ c = '\n') ∨ (rest ≠ [] ∧ Ended rest) := by
  cases rest with
  | nil => simp [Ended]
  | cons d others => simp [Ended]

theorem Ended.tail (ended : Ended (c :: rest)) : Ended rest := by
  rcases ended_cons_iff.mp ended with ⟨rfl, _⟩ | ⟨_, later⟩
  · exact .inl rfl
  · exact later

theorem breakLines_append (ended : Ended text) (more : List Char) :
    breakLines (text ++ more) = breakLines text ++ breakLines more := by
  induction text with
  | nil => rfl
  | cons c rest ih =>
      have later := ih ended.tail
      cases breaks : isLineBreak c with
      | true =>
          rw [List.cons_append, breakLines_cons_of_break breaks, breakLines_cons_of_break breaks,
            later]
          rfl
      | false =>
          cases rest with
          | nil =>
              -- The last character of the text ends a line.
              have last : c = '\n' := by simpa [Ended] using ended
              have feed : isLineBreak '\n' = true := by decide
              rw [last, feed] at breaks
              cases breaks
          | cons d others =>
              obtain ⟨line, behind, found⟩ := exists_breakLines_cons d others
              rw [found] at later
              have joined := breakLines_cons_of_keep breaks later
              have alone := breakLines_cons_of_keep breaks found
              simpa [alone] using joined

/-- A carriage return at the end would make one line break with a line feed behind it; a text that
is ended has none there. -/
theorem unifyNewlines_append (ended : Ended text) (more : List Char) :
    unifyNewlines (text ++ more) = unifyNewlines text ++ unifyNewlines more ∧
      Ended (unifyNewlines text) := by
  have filled : unifyNewlines (text ++ more) = unifyNewlines text ++ unifyNewlines more ∧
      Ended (unifyNewlines text) ∧ (text ≠ [] → unifyNewlines text ≠ []) := by
    induction text using newlineInduction with
    | nil => simp [Ended]
    | pair rest ih =>
        obtain ⟨same, kept, filled⟩ := ih ended.tail.tail
        refine ⟨by simp [unifyNewlines_pair, same], ?_, by simp [unifyNewlines_pair]⟩
        rw [unifyNewlines_pair, ended_cons_iff]
        by_cases empty : rest = []
        · simp [empty]
        · exact .inr ⟨filled empty, kept⟩
    | alone rest single ih =>
        obtain ⟨same, kept, filled⟩ := ih ended.tail
        have inside : rest ≠ [] := by
          rintro rfl
          simp [Ended] at ended
        have apart : ∀ after, rest ++ more ≠ '\n' :: after := by
          intro after joined
          obtain ⟨d, others, rfl⟩ := List.exists_cons_of_ne_nil inside
          exact single others (by simp_all)
        refine ⟨?_, ?_, by simp [unifyNewlines_return single]⟩
        · rw [List.cons_append, unifyNewlines_return apart, unifyNewlines_return single, same]
          rfl
        · rw [unifyNewlines_return single, ended_cons_iff]
          exact .inr ⟨filled inside, kept⟩
    | other c rest plain ih =>
        obtain ⟨same, kept, filled⟩ := ih ended.tail
        refine ⟨by simp [unifyNewlines_cons plain, same], ?_, by simp [unifyNewlines_cons plain]⟩
        rw [unifyNewlines_cons plain, ended_cons_iff]
        rcases ended_cons_iff.mp ended with ⟨rfl, last⟩ | ⟨inside, _⟩
        · exact .inl ⟨rfl, last⟩
        · exact .inr ⟨filled inside, kept⟩
  obtain ⟨same, kept, _⟩ := filled
  exact ⟨same, kept⟩

theorem lines_append (ended : Ended text) (more : List Char) :
    lines (text ++ more) = lines text ++ lines more := by
  obtain ⟨same, kept⟩ := unifyNewlines_append ended more
  unfold lines
  rw [same, breakLines_append kept]

end CharacterTables.Text
