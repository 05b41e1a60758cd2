import Mathlib
import CharacterTables.Proofs.Collection.OrderedMap

/-!
# The last item wins

When items are put under keys one after another, what stands under a key is the last item with
that key. An item that is the only one with its key is the last one too.
-/

set_option autoImplicit false

namespace CharacterTables

section Last

variable {α : Type} {test : α → Bool} {items : List α} {item : α}

/-- The last item that passes a test. -/
def lastWith (test : α → Bool) (items : List α) : Option α :=
  items.reverse.find? test

@[simp] theorem lastWith_nil : lastWith test [] = none := rfl

theorem lastWith_append_singleton (items : List α) (item : α) :
    lastWith test (items ++ [item]) = if test item then some item else lastWith test items := by
  unfold lastWith
  rw [List.reverse_append, List.reverse_singleton, List.singleton_append, List.find?_cons]
  cases test item with
  | true => rfl
  | false => rfl

theorem mem_of_lastWith (found : lastWith test items = some item) :
    item ∈ items ∧ test item = true :=
  ⟨List.mem_reverse.mp (List.mem_of_find?_eq_some found), List.find?_some found⟩

theorem lastWith_eq_none_iff : lastWith test items = none ↔ ∀ item ∈ items, test item = false := by
  simp [lastWith]

theorem lastWith_append_cons {before after : List α} (passes : test item = true)
    (last : ∀ other ∈ after, test other = false) :
    lastWith test (before ++ item :: after) = some item := by
  induction after using List.reverseRecOn with
  | nil => rw [lastWith_append_singleton, if_pos passes]
  | append_singleton after other ih =>
      have skipped : test other = false :=
        last other (List.mem_append_right after (List.mem_singleton_self other))
      rw [← List.cons_append, ← List.append_assoc, lastWith_append_singleton, skipped]
      exact ih fun earlier listed => last earlier (List.mem_append_left [other] listed)

/-- The last item that passes the test stands before items none of which does. -/
theorem lastWith_eq_some_iff_append :
    lastWith test items = some item ↔
      ∃ before after, items = before ++ item :: after ∧ test item = true ∧
        ∀ other ∈ after, test other = false := by
  constructor
  · intro found
    obtain ⟨passes, after, before, split, skipped⟩ := List.find?_eq_some_iff_append.mp found
    refine ⟨before.reverse, after.reverse, ?_, passes, ?_⟩
    · rw [← items.reverse_reverse, split]
      simp
    · intro other listed
      simpa using skipped other (List.mem_reverse.mp listed)
  · rintro ⟨before, after, rfl, passes, last⟩
    exact lastWith_append_cons passes last

theorem exists_lastWith_iff :
    (∃ item, lastWith test items = some item) ↔ ∃ item ∈ items, test item = true := by
  rw [← Option.isSome_iff_exists, ← not_iff_not, Option.not_isSome_iff_eq_none,
    lastWith_eq_none_iff]
  simp

/-- Where no two items pass the test, the last one that does is the only one. -/
theorem lastWith_eq_some_iff
    (unique : ∀ first ∈ items, ∀ second ∈ items, test first = true → test second = true →
      first = second) :
    lastWith test items = some item ↔ item ∈ items ∧ test item = true := by
  constructor
  · exact mem_of_lastWith
  · rintro ⟨listed, passes⟩
    cases found : lastWith test items with
    | none =>
        rw [lastWith_eq_none_iff.mp found item listed] at passes
        cases passes
    | some last =>
        obtain ⟨lastListed, lastPasses⟩ := mem_of_lastWith found
        rw [unique last lastListed item listed lastPasses passes]

/-- Where no two items pass the test, the order of the items does not matter. -/
theorem lastWith_perm {others : List α} (reordered : others.Perm items)
    (unique : ∀ first ∈ items, ∀ second ∈ items, test first = true → test second = true →
      first = second) :
    lastWith test others = lastWith test items := by
  refine Option.ext fun item => ?_
  rw [lastWith_eq_some_iff unique, lastWith_eq_some_iff, reordered.mem_iff]
  intro first firstListed second secondListed
  exact unique first (reordered.mem_iff.mp firstListed) second (reordered.mem_iff.mp secondListed)

end Last

end CharacterTables
