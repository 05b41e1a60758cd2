import Mathlib
import CharacterTables.Text.Lines
import CharacterTables.Text.Quoted

/-!
# Wordings of one line

Numbers, codes and quoted texts are written without any line break, so that a wording made of them
is a single line. So are words, since every line break is a blank.
-/

set_option autoImplicit false

namespace CharacterTables.Text

/-- A text in which no line ends. -/
def OneLine (text : String) : Prop :=
  ∀ c ∈ text.toList, isLineBreak c = false

instance (text : String) : Decidable (OneLine text) :=
  List.decidableBAll (fun c => isLineBreak c = false) text.toList

theorem OneLine.append {first second : String} (plain : OneLine first) (others : OneLine second) :
    OneLine (first ++ second) := by
  unfold OneLine
  rw [String.toList_append]
  exact List.forall_mem_append.mpr ⟨plain, others⟩

theorem oneLine_ofList_iff {chars : List Char} :
    OneLine (String.ofList chars) ↔ ∀ c ∈ chars, isLineBreak c = false := by
  unfold OneLine
  rw [String.toList_ofList]

theorem oneLine_intercalate {separator : String} {texts : List String} (between : OneLine separator)
    (each : ∀ text ∈ texts, OneLine text) : OneLine (separator.intercalate texts) := by
  induction texts with
  | nil =>
      rw [String.intercalate_nil]
      decide
  | cons text rest ih =>
      obtain ⟨first, others⟩ := List.forall_mem_cons.mp each
      cases rest with
      | nil => rwa [String.intercalate_singleton]
      | cons next rest =>
          rw [String.intercalate_cons_cons]
          exact (first.append between).append (ih others)

/-! ## Numbers -/

theorem exists_digitChar {base : Nat} (proper : 1 < base) {number : Nat} {c : Char}
    (listed : c ∈ Nat.toDigits base number) : ∃ digit < base, c = Nat.digitChar digit := by
  induction number using Nat.strongRecOn with
  | ind number ih =>
      rw [Nat.toDigits_eq_if proper] at listed
      split at listed
      · rename_i small
        exact ⟨number, small, by simpa using listed⟩
      · rename_i large
        rcases List.mem_append.mp listed with earlier | last
        · exact ih (number / base) (Nat.div_lt_self (by omega) proper) earlier
        · exact ⟨number % base, Nat.mod_lt number (by omega), by simpa using last⟩

/-- No hexadecimal digit is a line break, in either case. -/
theorem isLineBreak_digitChar : ∀ digit < 16, isLineBreak (Nat.digitChar digit) = false ∧
    isLineBreak (Nat.digitChar digit).toUpper = false := by
  decide

theorem oneLine_toString (number : Nat) : OneLine (toString number) := by
  intro c listed
  rw [Nat.toString_eq_repr, Nat.toList_repr] at listed
  obtain ⟨digit, small, rfl⟩ := exists_digitChar (by decide) listed
  exact (isLineBreak_digitChar digit (by omega)).1

theorem oneLine_toString_int (number : Int) : OneLine (toString number) := by
  cases number with
  | ofNat size => exact oneLine_toString size
  | negSucc size =>
      have minus : OneLine "-" := by decide
      exact minus.append (oneLine_toString (size + 1))

theorem isLineBreak_of_mem_zeroFill {width : Nat} {digits : List Char}
    (plain : ∀ c ∈ digits, isLineBreak c = false) :
    ∀ c ∈ zeroFill width digits, isLineBreak c = false := by
  intro c listed
  rcases List.mem_append.mp listed with zero | digit
  · rw [List.eq_of_mem_replicate zero]
    decide
  · exact plain c digit

theorem isLineBreak_of_mem_hexLower {width value : Nat} :
    ∀ c ∈ hexLower width value, isLineBreak c = false := by
  refine isLineBreak_of_mem_zeroFill fun c listed => ?_
  obtain ⟨digit, small, rfl⟩ := exists_digitChar (by decide) listed
  exact (isLineBreak_digitChar digit small).1

/-! ## Codes -/

theorem oneLine_codeName (code : Int) : OneLine (codeName code) := by
  have digits : ∀ c ∈ (Nat.toDigits 16 code.natAbs).map Char.toUpper, isLineBreak c = false := by
    intro c listed
    obtain ⟨lower, written, rfl⟩ := List.mem_map.mp listed
    obtain ⟨digit, small, rfl⟩ := exists_digitChar (by decide) written
    exact (isLineBreak_digitChar digit small).2
  unfold codeName hexCode
  refine OneLine.append (by decide) (oneLine_ofList_iff.mpr ?_)
  split
  · have minus : isLineBreak '-' = false := by decide
    exact List.forall_mem_cons.mpr ⟨minus, isLineBreak_of_mem_zeroFill digits⟩
  · exact isLineBreak_of_mem_zeroFill digits

theorem oneLine_codeNames (codes : List Int) :
    OneLine (", ".intercalate (codes.map codeName)) := by
  refine oneLine_intercalate (by decide) fun text listed => ?_
  obtain ⟨code, _, rfl⟩ := List.mem_map.mp listed
  exact oneLine_codeName code

theorem oneLine_codeList (codes : List Int) : OneLine (codeList codes) := by
  have brackets : OneLine "[" ∧ OneLine "]" := by decide
  exact (brackets.1.append (oneLine_codeNames codes)).append brackets.2

/-! ## Quoted texts and words -/

theorem toNat_of_isLineBreak {c : Char} (breaks : isLineBreak c = true) :
    c.toNat ∈ [0x0A, 0x0B, 0x0C, 0x0D, 0x1C, 0x1D, 0x1E, 0x85, 0x2028, 0x2029] := by
  simp only [isLineBreak, Bool.or_eq_true, Bool.and_eq_true, decide_eq_true_eq, beq_iff_eq]
    at breaks
  simp only [List.mem_cons, List.not_mem_nil, or_false]
  omega

theorem isLineBreak_of_isPrintable {c : Char} (shown : isPrintable c = true) :
    isLineBreak c = false := by
  have hidden : ∀ value ∈ [0x0A, 0x0B, 0x0C, 0x0D, 0x1C, 0x1D, 0x1E, 0x85, 0x2028, 0x2029],
      hiddenRanges.holds value = true := by
    decide +kernel
  by_contra breaks
  have held := hidden c.toNat (toNat_of_isLineBreak (by simpa using breaks))
  simp [isPrintable, held] at shown

theorem isLineBreak_of_mem_escape {quote c : Char} (plain : isLineBreak quote = false) :
    ∀ other ∈ escape quote c, isLineBreak other = false := by
  have slash : isLineBreak backslash = false := by decide
  have marked {mark : Char} {rest : List Char} (known : isLineBreak mark = false)
      (others : ∀ other ∈ rest, isLineBreak other = false) :
      ∀ other ∈ backslash :: mark :: rest, isLineBreak other = false :=
    List.forall_mem_cons.mpr ⟨slash, List.forall_mem_cons.mpr ⟨known, others⟩⟩
  have none : ∀ other ∈ ([] : List Char), isLineBreak other = false :=
    fun other listed => absurd listed List.not_mem_nil
  unfold escape
  split_ifs with escaped _ _ _ shown _ _
  · rcases escaped with rfl | rfl
    · exact marked plain none
    · exact marked slash none
  · exact marked (by decide) none
  · exact marked (by decide) none
  · exact marked (by decide) none
  · exact List.forall_mem_cons.mpr ⟨isLineBreak_of_isPrintable shown, none⟩
  · exact marked (by decide) isLineBreak_of_mem_hexLower
  · exact marked (by decide) isLineBreak_of_mem_hexLower
  · exact marked (by decide) isLineBreak_of_mem_hexLower

theorem oneLine_quoted (text : List Char) : OneLine (quoted text) := by
  have plain : isLineBreak (quoteFor text) = false := by
    unfold quoteFor
    split <;> decide
  unfold quoted
  rw [oneLine_ofList_iff]
  intro c listed
  rcases List.mem_append.mp listed with body | closing
  · rcases List.mem_cons.mp body with rfl | escaped
    · exact plain
    · obtain ⟨other, _, written⟩ := List.mem_flatMap.mp escaped
      exact isLineBreak_of_mem_escape plain c written
  · rwa [List.mem_singleton.mp closing]

end CharacterTables.Text
