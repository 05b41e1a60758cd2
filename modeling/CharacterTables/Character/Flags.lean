import CharacterTables.Text.Numeral

/-!
# Character flags

Three marks of a character, packed into the lowest bits of a number. Other bits, also the
endless ones of a negative number, are kept as they are.
-/

set_option autoImplicit false

namespace CharacterTables

/-- What a lexer asks about a character. -/
inductive Flag where
  | space
  | identifierStart
  | identifierContinueOnly
  deriving DecidableEq, Repr

def Flag.weight : Flag → Int
  | space => 1
  | identifierStart => 2
  | identifierContinueOnly => 4

/-- Flags of a character, as the bits of a number. -/
structure Flags where
  bits : Int
  deriving DecidableEq, Repr

namespace Flags

def none : Flags := ⟨0⟩

/-- Whether a flag is set: its bit in two's complement is one. -/
def has (flags : Flags) (flag : Flag) : Bool :=
  flags.bits / flag.weight % 2 == 1

def set (flags : Flags) (flag : Flag) : Flags :=
  if flags.has flag then flags else ⟨flags.bits + flag.weight⟩

def setIf (flags : Flags) (flag : Flag) (condition : Bool) : Flags :=
  if condition then flags.set flag else flags

def describe (flags : Flags) : String :=
  "Flags(" ++ Text.markedHex flags.bits ++ ")"

@[simp] theorem has_none (flag : Flag) : none.has flag = false := by
  cases flag with
  | space => rfl
  | identifierStart => rfl
  | identifierContinueOnly => rfl

theorem has_set_self (flags : Flags) (flag : Flag) : (flags.set flag).has flag = true := by
  unfold set
  split
  · assumption
  · rename_i missing
    cases flag <;> simp_all only [has, Flag.weight, beq_iff_eq] <;> omega

theorem has_set_of_ne (flags : Flags) {flag other : Flag} (distinct : other ≠ flag) :
    (flags.set flag).has other = flags.has other := by
  unfold set
  split
  · rfl
  · rename_i missing
    cases flag <;> cases other <;>
      simp_all only [has, Flag.weight, beq_iff_eq, ne_eq, not_true_eq_false, not_false_eq_true,
        reduceCtorEq] <;>
      rw [Bool.eq_iff_iff] <;> simp only [beq_iff_eq] <;> omega

theorem has_setIf_self (flags : Flags) (flag : Flag) (condition : Bool) :
    (flags.setIf flag condition).has flag = (flags.has flag || condition) := by
  cases condition with
  | false => exact (Bool.or_false _).symm
  | true => exact (flags.has_set_self flag).trans (Bool.or_true _).symm

theorem has_setIf_of_ne (flags : Flags) {flag other : Flag} (distinct : other ≠ flag)
    (condition : Bool) : (flags.setIf flag condition).has other = flags.has other := by
  cases condition with
  | false => rfl
  | true => exact flags.has_set_of_ne distinct

end Flags

end CharacterTables
