import Mathlib
import CharacterTables.Proofs.TwoStage.Growth

/-!
# What checking a split tells

A split is checked entry by entry, from the first on. It passes just if it gives every entry of the
table; else the fault is that of the first index where it does not. This is so for every split,
whether or not it was ever taken from a builder: its blocks may be missing, or end behind the second
stage.
-/

set_option autoImplicit false

namespace CharacterTables.TwoStage

/-! ## Shifts that are used in part -/

namespace Split

variable {split : Split} {entries : List Int} {index : Nat} {expected : Int}

/-! ## The first flaw -/

/-- What is reported of an index where another entry is expected than the split gives. -/
def flawAt (split : Split) (index : Nat) (expected : Int) : TableFault :=
  match split.lookup index with
  | .ok given => .mismatch split.shift given expected index
  | .error fault => fault

/-- The first index where the split does not give the entry of a list. -/
structure FirstFlaw (split : Split) (entries : List Int) (index : Nat) (expected : Int) :
    Prop where
  entry : entries[index]? = some expected
  before : split.Gives (entries.take index)
  flawed : split.lookup index ≠ .ok expected

theorem Gives.append_singleton (gives : split.Gives entries)
    (last : split.lookup entries.length = .ok expected) : split.Gives (entries ++ [expected]) := by
  intro index entry found
  rcases Nat.lt_or_ge index entries.length with inside | behind
  · exact gives index entry ((List.getElem?_append_left inside).symm.trans found)
  · have bound := (List.getElem?_eq_some_iff.mp found).1
    rw [List.length_append, List.length_singleton] at bound
    have same : index = entries.length := by omega
    subst same
    rw [List.getElem?_concat_length] at found
    cases found
    exact last

theorem FirstFlaw.not_gives (flaw : split.FirstFlaw entries index expected) :
    ¬ split.Gives entries :=
  fun gives => flaw.flawed (gives index expected flaw.entry)

/-- Checking goes on behind entries that the split gives, until it meets the first flaw. -/
theorem verifyFrom_gives_or_flawed {done : List Int} (gives : split.Gives done)
    (entries : List Int) :
    (split.Gives (done ++ entries) ∧ split.verifyFrom done.length entries = .ok ()) ∨
      ∃ index expected, split.FirstFlaw (done ++ entries) index expected ∧
        split.verifyFrom done.length entries = .error (split.flawAt index expected) := by
  induction entries generalizing done with
  | nil => exact .inl ⟨by rwa [List.append_nil], rfl⟩
  | cons entry rest ih =>
      have flaw (flawed : split.lookup done.length ≠ .ok entry) :
          split.FirstFlaw (done ++ entry :: rest) done.length entry := by
        refine ⟨?_, by rwa [List.take_left], flawed⟩
        rw [List.getElem?_append_right (Nat.le_refl _), Nat.sub_self, List.getElem?_cons_zero]
      cases seen : split.lookup done.length with
      | error fault =>
          refine .inr ⟨done.length, entry, flaw (by rw [seen]; exact nofun), ?_⟩
          rw [verifyFrom, seen, flawAt, seen]
      | ok given =>
          by_cases same : given = entry
          · subst same
            have step : split.verifyFrom done.length (given :: rest) =
                split.verifyFrom (done ++ [given]).length rest := by
              rw [verifyFrom, seen, List.length_append, List.length_singleton]
              exact if_pos rfl
            have whole : done ++ given :: rest = done ++ [given] ++ rest := by simp
            rw [step, whole]
            exact ih (gives.append_singleton seen)
          · have other : split.lookup done.length ≠ .ok entry := by
              rw [seen]
              exact fun equal => same (Except.ok.inj equal)
            refine .inr ⟨done.length, entry, flaw other, ?_⟩
            rw [verifyFrom, seen, flawAt, seen]
            exact if_neg same

theorem verify_gives_or_flawed (split : Split) (table : Array Int) :
    (split.Gives table.toList ∧ split.verify table = .ok ()) ∨
      ∃ index expected, split.FirstFlaw table.toList index expected ∧
        split.verify table = .error (split.flawAt index expected) := by
  have nothing : split.Gives [] := fun _ _ found => by cases found
  exact verifyFrom_gives_or_flawed nothing table.toList

theorem verify_eq_ok_iff {table : Array Int} :
    split.verify table = .ok () ↔ split.Gives table.toList := by
  rcases split.verify_gives_or_flawed table with ⟨gives, passed⟩ | ⟨_, _, flaw, stopped⟩
  · exact iff_of_true passed gives
  · refine iff_of_false (fun passed => ?_) flaw.not_gives
    cases stopped.symm.trans passed

/-! ## Where an index leads -/

theorem gives_toList_iff {table : Array Int} : split.Gives table.toList ↔
    ∀ (index : Nat) (inside : index < table.size), split.lookup index = .ok table[index] := by
  constructor
  · intro gives index inside
    exact gives index _ (by simp [inside])
  · intro each index entry found
    obtain ⟨inside, rfl⟩ := List.getElem?_eq_some_iff.mp found
    exact each index (by simpa using inside)

end Split

end CharacterTables.TwoStage
