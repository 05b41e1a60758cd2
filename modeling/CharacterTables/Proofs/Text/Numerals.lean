import Mathlib
import CharacterTables.Proofs.Text.OneLine
import CharacterTables.Proofs.Text.Pieces

/-!
# Numerals read back

A code written in hexadecimal is read as that code, whatever its size and sign. A natural number
written in decimal is read as that number, unless it has more places than are read.
-/

set_option autoImplicit false

namespace CharacterTables.Text

variable {text rest : List Char} {c : Char} {value digit : Nat} {afterDigit : Bool}

/-! ## Hexadecimal digits -/

theorem readHexDigits_cons (worth : hexValue? c = some digit) (other : c ≠ '_') :
    readHexDigits value afterDigit (c :: rest) = readHexDigits (16 * value + digit) true rest := by
  simp [readHexDigits, other, worth]

theorem readHexDigits_zeros (count : Nat) (rest : List Char) :
    readHexDigits 0 afterDigit (List.replicate count '0' ++ rest) =
      readHexDigits 0 (afterDigit || decide (0 < count)) rest := by
  induction count generalizing afterDigit with
  | zero => simp
  | succ count ih =>
      have zero : hexValue? '0' = some 0 := by decide
      rw [List.replicate_succ, List.cons_append, readHexDigits_cons zero (by decide), ih]
      simp

theorem hexValue?_toUpper_digitChar : ∀ digit < 16,
    hexValue? (Nat.digitChar digit).toUpper = some digit ∧ (Nat.digitChar digit).toUpper ≠ '_' := by
  decide

theorem readHexDigits_toDigits (number : Nat) (rest : List Char) :
    readHexDigits 0 afterDigit ((Nat.toDigits 16 number).map Char.toUpper ++ rest) =
      readHexDigits number true rest := by
  induction number using Nat.strongRecOn generalizing rest with
  | ind number ih =>
      rw [Nat.toDigits_eq_if (by decide)]
      split
      · rename_i small
        obtain ⟨worth, other⟩ := hexValue?_toUpper_digitChar number small
        simp [readHexDigits_cons worth other]
      · rename_i large
        have last : number % 16 < 16 := Nat.mod_lt number (by decide)
        obtain ⟨worth, other⟩ := hexValue?_toUpper_digitChar (number % 16) last
        have shorter : number / 16 < number := Nat.div_lt_self (by omega) (by decide)
        rw [List.map_append, List.append_assoc, ih (number / 16) shorter, List.map_cons,
          List.map_nil, List.singleton_append, readHexDigits_cons worth other, Nat.div_add_mod]

/-! ## Written codes -/

/-- A character that is no blank, no line break and no separator, and no mark of a numeral but the
minus sign. -/
structure IsPlain (c : Char) : Prop where
  visible : isBlank c = false
  unbroken : isLineBreak c = false
  other : c ∉ [';', '#', '.', '+', 'x', 'X']

theorem isPlain_minus : IsPlain '-' where
  visible := by decide
  unbroken := by decide
  other := by decide

theorem isPlain_toUpper_digitChar {digit : Nat} (small : digit < 16) :
    IsPlain (Nat.digitChar digit).toUpper := by
  have each : ∀ digit < 16, isBlank (Nat.digitChar digit).toUpper = false ∧
      isLineBreak (Nat.digitChar digit).toUpper = false ∧
      (Nat.digitChar digit).toUpper ∉ [';', '#', '.', '+', 'x', 'X'] := by
    decide
  obtain ⟨visible, unbroken, other⟩ := each digit small
  exact ⟨visible, unbroken, other⟩

theorem exists_digit_of_mem_zeroFill {width number : Nat}
    (listed : c ∈ zeroFill width ((Nat.toDigits 16 number).map Char.toUpper)) :
    ∃ digit < 16, c = (Nat.digitChar digit).toUpper := by
  rcases List.mem_append.mp listed with zero | other
  · obtain rfl := List.eq_of_mem_replicate zero
    exact ⟨0, by decide, by decide⟩
  · obtain ⟨lower, written, rfl⟩ := List.mem_map.mp other
    obtain ⟨digit, small, rfl⟩ := exists_digitChar (by decide) written
    exact ⟨digit, small, rfl⟩

theorem isPlain_of_mem_zeroFill {width number : Nat}
    (listed : c ∈ zeroFill width ((Nat.toDigits 16 number).map Char.toUpper)) :
    IsPlain c ∧ c ≠ '-' := by
  have unsigned : ∀ digit < 16, (Nat.digitChar digit).toUpper ≠ '-' := by decide
  obtain ⟨digit, small, rfl⟩ := exists_digit_of_mem_zeroFill listed
  exact ⟨isPlain_toUpper_digitChar small, unsigned digit small⟩

theorem isPlain_of_mem_hexCode {code : Int} : ∀ c ∈ (hexCode code).toList, IsPlain c := by
  intro c listed
  unfold hexCode at listed
  rw [String.toList_ofList] at listed
  split at listed
  · rcases List.mem_cons.mp listed with rfl | digit
    · exact isPlain_minus
    · exact (isPlain_of_mem_zeroFill digit).1
  · exact (isPlain_of_mem_zeroFill listed).1

theorem isBlank_of_mem_hexCode {code : Int} : ∀ c ∈ (hexCode code).toList, isBlank c = false :=
  fun c listed => (isPlain_of_mem_hexCode c listed).visible

theorem hexCode_ne_nil (code : Int) : (hexCode code).toList ≠ [] := by
  unfold hexCode
  rw [String.toList_ofList]
  split
  · exact List.cons_ne_nil _ _
  · simp [zeroFill]

/-! ## Reading codes -/

theorem readHexMagnitude?_of_unmarked (unmarked : ∀ c ∈ text, c ≠ 'x' ∧ c ≠ 'X') :
    readHexMagnitude? text = readHexDigits 0 false text := by
  match text with
  | [] | [_] => rfl
  | zero :: mark :: rest =>
      have other := unmarked mark (by simp)
      simp [readHexMagnitude?, other]

theorem readHexMagnitude?_zeroFill (width number : Nat) :
    readHexMagnitude? (zeroFill width ((Nat.toDigits 16 number).map Char.toUpper)) =
      some number := by
  rw [readHexMagnitude?_of_unmarked fun c listed => by
    have other := (isPlain_of_mem_zeroFill listed).1.other
    simp only [List.mem_cons, List.not_mem_nil, or_false, not_or] at other
    exact ⟨other.2.2.2.2.1, other.2.2.2.2.2⟩]
  unfold zeroFill
  rw [readHexDigits_zeros, ← List.append_nil ((Nat.toDigits 16 number).map Char.toUpper),
    readHexDigits_toDigits]
  rfl

/-- Where there are no blanks, none are taken away. -/
theorem dropWhile_surroundsNumeral (visible : ∀ c ∈ text, isBlank c = false) :
    ((text.dropWhile surroundsNumeral).reverse.dropWhile surroundsNumeral).reverse = text := by
  have kept : ∀ text : List Char, (∀ c ∈ text, isBlank c = false) →
      text.dropWhile surroundsNumeral = text := by
    intro text visible
    refine dropWhile_eq_self_of_head? fun c found => ?_
    simp [surroundsNumeral, visible c (List.mem_of_mem_head? found)]
  rw [kept text visible, kept text.reverse (by simpa using visible), List.reverse_reverse]

theorem readHex?_minus {value : Nat} (visible : ∀ c ∈ text, isBlank c = false)
    (magnitude : readHexMagnitude? text = some value) :
    readHex? ('-' :: text) = some (-(value : Int)) := by
  have minus : isBlank '-' = false := by decide
  unfold readHex?
  rw [dropWhile_surroundsNumeral (List.forall_mem_cons.mpr ⟨minus, visible⟩)]
  simp [magnitude]

theorem readHex?_unsigned {value : Nat} (visible : ∀ c ∈ text, isBlank c = false)
    (unsigned : ∀ c ∈ text, c ≠ '-' ∧ c ≠ '+')
    (magnitude : readHexMagnitude? text = some value) : readHex? text = some (value : Int) := by
  unfold readHex?
  rw [dropWhile_surroundsNumeral visible]
  split
  · exact absurd rfl (unsigned '-' List.mem_cons_self).1
  · exact absurd rfl (unsigned '+' List.mem_cons_self).2
  · simp [magnitude]

/-- A written code is read as that code. -/
theorem readHex?_hexCode (code : Int) : readHex? (hexCode code).toList = some code := by
  have visible {width : Nat} : ∀ c ∈ zeroFill width
      ((Nat.toDigits 16 code.natAbs).map Char.toUpper), isBlank c = false :=
    fun c listed => (isPlain_of_mem_zeroFill listed).1.visible
  unfold hexCode
  rw [String.toList_ofList]
  by_cases negative : code < 0
  · have value : -(code.natAbs : Int) = code := by omega
    rw [if_pos negative, readHex?_minus visible (readHexMagnitude?_zeroFill 3 code.natAbs), value]
  · have value : (code.natAbs : Int) = code := by omega
    have unsigned : ∀ c ∈ zeroFill 4 ((Nat.toDigits 16 code.natAbs).map Char.toUpper),
        c ≠ '-' ∧ c ≠ '+' := by
      intro c listed
      obtain ⟨plain, minus⟩ := isPlain_of_mem_zeroFill listed
      exact ⟨minus, fun plus => plain.other (by simp [plus])⟩
    rw [if_neg negative, readHex?_unsigned visible unsigned
      (readHexMagnitude?_zeroFill 4 code.natAbs), value]

/-! ## Decimal numbers -/

theorem decimalValue?_digitChar : ∀ digit < 10,
    decimalValue? (Nat.digitChar digit) = some digit := by
  decide

theorem exists_decimalValue? {number : Nat} (listed : c ∈ Nat.toDigits 10 number) :
    ∃ digit < 10, decimalValue? c = some digit := by
  obtain ⟨digit, small, rfl⟩ := exists_digitChar (by decide) listed
  exact ⟨digit, small, decimalValue?_digitChar digit small⟩

theorem isDigitText_toDigits (number : Nat) : isDigitText (Nat.toDigits 10 number) = true := by
  have filled : Nat.toDigits 10 number ≠ [] := Nat.toDigits_ne_nil
  have digits : ∀ c ∈ Nat.toDigits 10 number, isDigitForm c = true := by
    intro c listed
    obtain ⟨digit, _, worth⟩ := exists_decimalValue? listed
    simp [isDigitForm, worth]
  simpa [isDigitText, filled] using digits

theorem leadingDigits_toDigits (number : Nat) :
    leadingDigits (Nat.toDigits 10 number) = (Nat.toDigits 10 number).length := by
  have all : ∀ c ∈ Nat.toDigits 10 number, (decimalValue? c).isSome = true := by
    intro c listed
    obtain ⟨digit, _, worth⟩ := exists_decimalValue? listed
    simp [worth]
  unfold leadingDigits
  rw [List.takeWhile_eq_self_iff.mpr all]

theorem foldlM_toDigits (number : Nat) :
    (Nat.toDigits 10 number).foldlM (fun value c => (decimalValue? c).map (10 * value + ·)) 0 =
      some number := by
  induction number using Nat.strongRecOn with
  | ind number ih =>
      rw [Nat.toDigits_eq_if (by decide)]
      split
      · rename_i small
        simp [decimalValue?_digitChar number small]
      · rename_i large
        have last : number % 10 < 10 := Nat.mod_lt number (by decide)
        have shorter : number / 10 < number := Nat.div_lt_self (by omega) (by decide)
        rw [List.foldlM_append, ih (number / 10) shorter]
        simp [decimalValue?_digitChar (number % 10) last, Nat.div_add_mod]

theorem readDecimal?_toDigits (number : Nat) :
    readDecimal? (Nat.toDigits 10 number) = some number := by
  have filled : (Nat.toDigits 10 number).isEmpty = false := by simp [Nat.toDigits_ne_nil]
  unfold readDecimal?
  rw [filled]
  exact foldlM_toDigits number

theorem length_toDigits_le_iff (number : Nat) :
    (Nat.toDigits 10 number).length ≤ maxDecimalPlaces ↔ number < decimalLimit := by
  -- Stated for any number of places, so that the limit is not worked out.
  have general : ∀ places, 0 < places →
      ((Nat.toDigits 10 number).length ≤ places ↔ number < Nat.pow 10 places) :=
    fun places some => Nat.length_toDigits_le_iff (by decide) some
  unfold decimalLimit
  exact general maxDecimalPlaces (by decide)

end CharacterTables.Text
