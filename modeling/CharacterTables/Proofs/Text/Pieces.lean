import Mathlib
import CharacterTables.Proofs.Text.Newlines

/-!
# Pieces of joined texts

A separator divides the pieces of a text into those before it and those behind it, and blanks the
words. So texts without a separator are the pieces of the text that joins them.
-/

set_option autoImplicit false

namespace CharacterTables.Text

variable {separates : Char → Bool} {c : Char} {text more : List Char}

/-! ## Pieces -/

theorem pieces_append_cons (cut : separates c = true) (text more : List Char) :
    pieces separates (text ++ c :: more) = pieces separates text ++ pieces separates more := by
  induction text with
  | nil => exact pieces_cons_of_separates cut more
  | cons d rest ih =>
      cases kept : separates d with
      | true =>
          rw [List.cons_append, pieces_cons_of_separates kept, pieces_cons_of_separates kept, ih]
          rfl
      | false =>
          obtain ⟨piece, others, found, joined⟩ := exists_pieces_cons kept rest
          obtain ⟨first, behind, whole, longer⟩ := exists_pieces_cons kept (rest ++ c :: more)
          rw [ih, found] at whole
          obtain ⟨rfl, rfl⟩ := List.cons.inj whole
          simpa [joined] using longer

theorem pieces_eq_singleton (kept : ∀ c ∈ text, separates c = false) :
    pieces separates text = [text] := by
  induction text with
  | nil => rfl
  | cons c rest ih =>
      obtain ⟨own, others⟩ := List.forall_mem_cons.mp kept
      obtain ⟨piece, behind, found, joined⟩ := exists_pieces_cons own rest
      rw [ih others] at found
      obtain ⟨rfl, rfl⟩ := List.cons.inj found
      exact joined

theorem pieces_intercalate (cut : separates c = true) {parts : List (List Char)}
    (filled : parts ≠ []) (kept : ∀ part ∈ parts, ∀ c ∈ part, separates c = false) :
    pieces separates ([c].intercalate parts) = parts := by
  induction parts with
  | nil => exact absurd rfl filled
  | cons part parts ih =>
      obtain ⟨own, others⟩ := List.forall_mem_cons.mp kept
      cases parts with
      | nil => simpa using pieces_eq_singleton own
      | cons next parts =>
          have joined : [c].intercalate (part :: next :: parts) =
              part ++ c :: [c].intercalate (next :: parts) := by
            simp [List.intercalate_cons_cons]
          rw [joined, pieces_append_cons cut, pieces_eq_singleton own,
            ih (List.cons_ne_nil next parts) others]
          rfl

/-! ## Words -/

theorem isBlankText_iff : isBlankText text = true ↔ ∀ c ∈ text, isBlank c = true :=
  List.all_eq_true

/-- A text with a character that is not blank is not blank. -/
theorem isBlankText_of_mem (listed : c ∈ text) (visible : isBlank c = false) :
    isBlankText text = false := by
  by_contra blank
  rw [isBlankText_iff.mp (by simpa using blank) c listed] at visible
  cases visible

theorem words_append_cons (blank : isBlank c = true) (text more : List Char) :
    words (text ++ c :: more) = words text ++ words more := by
  unfold words
  rw [pieces_append_cons blank, List.filter_append]

theorem words_cons_of_isBlank (blank : isBlank c = true) (text : List Char) :
    words (c :: text) = words text :=
  words_append_cons blank [] text

theorem words_append_of_isBlankText (blank : isBlankText more = true) (text : List Char) :
    words (text ++ more) = words text := by
  induction more generalizing text with
  | nil => rw [List.append_nil]
  | cons c more ih =>
      have each : isBlank c = true ∧ isBlankText more = true := by simpa [isBlankText] using blank
      have none : words more = [] := ih each.2 []
      rw [words_append_cons each.1, none, List.append_nil]

theorem words_append_left {before : List Char} (blank : isBlankText before = true)
    (text : List Char) : words (before ++ text) = words text := by
  induction before with
  | nil => rfl
  | cons c before ih =>
      have each : isBlank c = true ∧ isBlankText before = true := by simpa [isBlankText] using blank
      exact (words_cons_of_isBlank each.1 (before ++ text)).trans (ih each.2)

theorem words_intercalate {tokens : List (List Char)}
    (proper : ∀ token ∈ tokens, token ≠ [] ∧ ∀ c ∈ token, isBlank c = false) :
    words ([' '].intercalate tokens) = tokens := by
  cases tokens with
  | nil => rfl
  | cons token tokens =>
      have space : isBlank ' ' = true := by decide
      unfold words
      rw [pieces_intercalate space (List.cons_ne_nil token tokens) fun part listed =>
        (proper part listed).2]
      refine List.filter_eq_self.mpr fun part listed => ?_
      simpa using (proper part listed).1

/-! ## Trimmed texts -/

/-- A text with no blank at either end. -/
structure IsTrimmed (text : List Char) : Prop where
  first : ∀ c ∈ text.head?, isBlank c = false
  last : ∀ c ∈ text.getLast?, isBlank c = false

theorem isTrimmed_iff : IsTrimmed text ↔
    text.head?.any isBlank = false ∧ text.getLast?.any isBlank = false := by
  rw [Option.any_eq_false, Option.any_eq_false]
  exact ⟨fun trimmed => ⟨trimmed.first, trimmed.last⟩, fun ends => ⟨ends.1, ends.2⟩⟩

instance (text : List Char) : Decidable (IsTrimmed text) :=
  decidable_of_iff _ isTrimmed_iff.symm

theorem isTrimmed_of_forall (visible : ∀ c ∈ text, isBlank c = false) : IsTrimmed text where
  first c found := visible c (List.mem_of_mem_head? found)
  last c found := visible c (List.mem_of_mem_getLast? found)

theorem dropWhile_eq_self_of_head? {test : Char → Bool} (kept : ∀ c ∈ text.head?, test c = false) :
    text.dropWhile test = text := by
  cases text with
  | nil => rfl
  | cons c rest => simp [kept c rfl]

theorem IsTrimmed.trim_eq (trimmed : IsTrimmed text) : trim text = text := by
  have reversed : text.reverse.dropWhile isBlank = text.reverse := by
    refine dropWhile_eq_self_of_head? fun c found => trimmed.last c ?_
    simpa using found
  unfold trim
  rw [dropWhile_eq_self_of_head? trimmed.first, reversed, List.reverse_reverse]

theorem trim_cons_of_isBlank (blank : isBlank c = true) (text : List Char) :
    trim (c :: text) = trim text := by
  simp [trim, blank]

theorem trim_append_of_isBlankText (blank : isBlankText more = true) (text : List Char) :
    trim (text ++ more) = trim text :=
  (trim_append_eq_iff text more).mpr blank

/-- What trimming takes away are blanks. -/
theorem exists_trim (text : List Char) : ∃ before after,
    isBlankText before = true ∧ isBlankText after = true ∧ text = before ++ trim text ++ after := by
  have parts := List.takeWhile_append_dropWhile (p := isBlank) (l := text)
  have rest := List.takeWhile_append_dropWhile (p := isBlank)
    (l := (text.dropWhile isBlank).reverse)
  refine ⟨text.takeWhile isBlank, ((text.dropWhile isBlank).reverse.takeWhile isBlank).reverse,
    ?_, ?_, ?_⟩
  · simp [isBlankText, List.all_takeWhile]
  · simp [isBlankText, List.all_takeWhile]
  · have back := congrArg List.reverse rest
    rw [List.reverse_append, List.reverse_reverse] at back
    rw [List.append_assoc]
    unfold trim
    rw [back, parts]

theorem words_trim (text : List Char) : words (trim text) = words text := by
  obtain ⟨before, after, blankBefore, blankAfter, parts⟩ := exists_trim text
  conv_rhs => rw [parts]
  rw [words_append_of_isBlankText blankAfter, words_append_left blankBefore]

end CharacterTables.Text
