import Mathlib
import CharacterTables.Text.Blank
import CharacterTables.Text.Lines

/-!
# Unified line breaks

A text in which every carriage return has become a line feed keeps its lines. Its first line may
become shorter: a carriage return then ends a part that only a line feed ended before.
-/

set_option autoImplicit false

namespace CharacterTables.Text

variable {text rest : List Char}

/-! ## Character by character -/

theorem unifyNewlines_go_append (text first second : List Char) :
    unifyNewlines.go text (first ++ second) = second.reverse ++ unifyNewlines.go text first := by
  induction text, first using unifyNewlines.go.induct with
  | case1 first => simp [unifyNewlines.go]
  | case2 rest first ih => simpa [unifyNewlines.go] using ih
  | case3 rest first single ih => simpa [unifyNewlines.go, single] using ih
  | case4 c rest first paired single ih => simpa [unifyNewlines.go, single] using ih

@[simp] theorem unifyNewlines_nil : unifyNewlines [] = [] := rfl

theorem unifyNewlines_pair (rest : List Char) :
    unifyNewlines ('\r' :: '\n' :: rest) = '\n' :: unifyNewlines rest :=
  unifyNewlines_go_append rest [] ['\n']

theorem unifyNewlines_return (single : ∀ after, rest ≠ '\n' :: after) :
    unifyNewlines ('\r' :: rest) = '\n' :: unifyNewlines rest := by
  have opened : unifyNewlines ('\r' :: rest) = unifyNewlines.go rest ['\n'] := by
    unfold unifyNewlines
    rw [unifyNewlines.go]
    exact single
  rw [opened]
  exact unifyNewlines_go_append rest [] ['\n']

theorem unifyNewlines_cons {c : Char} (other : c ≠ '\r') (rest : List Char) :
    unifyNewlines (c :: rest) = c :: unifyNewlines rest := by
  have opened : unifyNewlines (c :: rest) = unifyNewlines.go rest [c] := by
    unfold unifyNewlines
    rw [unifyNewlines.go]
    · exact fun _ same => absurd same other
    · exact other
  rw [opened]
  exact unifyNewlines_go_append rest [] [c]

/-- Induction on a text that takes a carriage return and a line feed behind it together. -/
@[elab_as_elim]
theorem newlineInduction {motive : List Char → Prop} (nil : motive [])
    (pair : ∀ rest, motive rest → motive ('\r' :: '\n' :: rest))
    (alone : ∀ rest, (∀ after, rest ≠ '\n' :: after) → motive rest → motive ('\r' :: rest))
    (other : ∀ c rest, c ≠ '\r' → motive rest → motive (c :: rest)) (text : List Char) :
    motive text := by
  -- The cases are those of the function that unifies; what it has done so far plays no part.
  have general : ∀ text done : List Char, motive text := by
    intro text done
    induction text, done using unifyNewlines.go.induct with
    | case1 done => exact nil
    | case2 rest done ih => exact pair rest ih
    | case3 rest done single ih => exact alone rest (fun after same => single after same) ih
    | case4 c rest done paired single ih => exact other c rest single ih
  exact general text []

/-! ## Lines -/

theorem return_not_mem_unifyNewlines (text : List Char) : '\r' ∉ unifyNewlines text := by
  induction text using newlineInduction with
  | nil => simp
  | pair rest ih => simpa [unifyNewlines_pair] using ih
  | alone rest single ih => simpa [unifyNewlines_return single] using ih
  | other c rest plain ih => simpa [unifyNewlines_cons plain, Ne.symm plain] using ih

theorem unifyNewlines_eq_self (unified : '\r' ∉ text) : unifyNewlines text = text := by
  induction text with
  | nil => rfl
  | cons c rest ih =>
      rw [List.mem_cons, not_or] at unified
      rw [unifyNewlines_cons (Ne.symm unified.1), ih unified.2]

theorem lines_unifyNewlines (text : List Char) : lines (unifyNewlines text) = lines text := by
  unfold lines
  rw [unifyNewlines_eq_self (return_not_mem_unifyNewlines text)]

theorem takeWhile_unifyNewlines (text : List Char) :
    (unifyNewlines text).takeWhile (· != '\n') =
      (text.takeWhile (· != '\n')).takeWhile (· != '\r') := by
  induction text using newlineInduction with
  | nil => rfl
  | pair rest ih => simp [unifyNewlines_pair]
  | alone rest single ih => simp [unifyNewlines_return single]
  | other c rest plain ih =>
      rw [unifyNewlines_cons plain]
      by_cases ended : c = '\n'
      · simp [ended]
      · simpa [ended, plain] using ih

/-! ## The first line -/

theorem dropWhile_isBlank_eq_nil_iff (text : List Char) :
    text.dropWhile isBlank = [] ↔ isBlankText text = true := by
  unfold isBlankText
  simp

theorem trim_eq_nil_iff : trim text = [] ↔ isBlankText text = true := by
  unfold trim
  rw [List.reverse_eq_nil_iff, dropWhile_isBlank_eq_nil_iff,
    ← dropWhile_isBlank_eq_nil_iff text]
  cases opened : text.dropWhile isBlank with
  | nil => simp [isBlankText]
  | cons c rest =>
      have first : isBlank ((text.dropWhile isBlank).head (by simp [opened])) = false :=
        List.head_dropWhile_not isBlank _
      simp only [opened, List.head_cons] at first
      simp [isBlankText, first]

theorem trim_append_eq_iff (text more : List Char) :
    trim (text ++ more) = trim text ↔ isBlankText more = true := by
  by_cases blank : isBlankText text = true
  · have both : isBlankText (text ++ more) = isBlankText more := by
      unfold isBlankText at blank ⊢
      rw [List.all_append, blank, Bool.true_and]
    rw [trim_eq_nil_iff.mpr blank, trim_eq_nil_iff, both]
  · have kept : text.dropWhile isBlank ≠ [] := mt (dropWhile_isBlank_eq_nil_iff text).mp blank
    have reversed : isBlankText more = true ↔ more.reverse.dropWhile isBlank = [] := by
      rw [dropWhile_isBlank_eq_nil_iff]
      simp [isBlankText]
    unfold trim
    rw [List.dropWhile_append, if_neg (by simpa using kept), List.reverse_append,
      List.dropWhile_append, reversed]
    cases ending : more.reverse.dropWhile isBlank with
    | nil => simp
    | cons c rest =>
        have shorter := ((text.dropWhile isBlank).reverse.dropWhile_sublist isBlank).length_le
        simp only [List.isEmpty_cons, Bool.false_eq_true, if_false, reduceCtorEq, iff_false]
        intro same
        have lengths := congrArg List.length same
        simp only [List.length_reverse, List.length_append, List.length_cons] at lengths shorter
        omega

/-- Whether nothing but blanks stands between a carriage return in the first line and the line
feed that ends it. -/
def firstLineWhole (text : List Char) : Bool :=
  isBlankText ((text.takeWhile (· != '\n')).dropWhile (· != '\r'))

theorem trim_takeWhile_unifyNewlines_iff (text : List Char) :
    trim (text.takeWhile (· != '\n')) = trim ((unifyNewlines text).takeWhile (· != '\n')) ↔
      firstLineWhole text = true := by
  rw [takeWhile_unifyNewlines]
  unfold firstLineWhole
  rw [← trim_append_eq_iff ((text.takeWhile (· != '\n')).takeWhile (· != '\r')),
    List.takeWhile_append_dropWhile]

end CharacterTables.Text
