import Mathlib
import CharacterTables.Proofs.Session.Loading

/-!
# What loading leaves in the data directory

In a directory that can be saved to, loading a file adds it if it is missing, as the network gives
it. It changes nothing else, and a load that fails changes nothing at all.
-/

set_option autoImplicit false

namespace CharacterTables

open Text

variable {surroundings : Surroundings} {file : DataFile} {files : List DataFile}
  {start middle directory after : Directory}

theorem DataFile.name_inj {first second : DataFile} (same : first.name = second.name) :
    first = second := by
  have found := congrArg DataFile.ofName? same
  rw [ofName?_name, ofName?_name] at found
  exact Option.some.inj found

theorem DataFile.name_of_ofName? {text : String} (found : DataFile.ofName? text = some file) :
    text = file.name := by
  unfold ofName? at found
  have same := List.find?_some found
  exact (eq_of_beq same).symm

theorem Directory.entry?_insert (entries : Entries) (name : String) (contents : Bytes)
    (other : String) :
    Directory.entry? (.present (entries.insert name (.file contents))) other =
      if name = other then some (.file contents) else entries[other]? := by
  show (entries.insert name (.file contents))[other]? = _
  rw [Std.TreeMap.getElem?_insert]
  simp

namespace Surroundings

theorem savable_absent (named : ∀ file, textProblem? (surroundings.pathOf file) = none) :
    surroundings.Savable .absent :=
  ⟨named, fun _ => ⟨∅, rfl, fun _ => Std.TreeMap.getElem?_emptyc⟩⟩

/-! ## Added files -/

/-- One directory has come from another by adding what was missing of some files, as the network
gives it. -/
structure Adds (surroundings : Surroundings) (files : List DataFile) (before after : Directory) :
    Prop where
  kept : ∀ name entry, before.entry? name = some entry → after.entry? name = some entry
  added : ∀ file ∈ files, before.entry? file.name = none →
    ∃ contents, surroundings.served file = .ok contents ∧
      after.entry? file.name = some (.file contents)
  others : ∀ name, (∀ file ∈ files, file.name ≠ name) → after.entry? name = before.entry? name
  untouched : (∀ file ∈ files, before.entry? file.name ≠ none) → after = before

theorem adds_nil (directory : Directory) : surroundings.Adds [] directory directory where
  kept _ _ found := found
  added _ listed := absurd listed List.not_mem_nil
  others _ _ := rfl
  untouched _ := rfl

theorem Adds.entry?_eq (adds : surroundings.Adds files start middle) (new : file ∉ files) :
    middle.entry? file.name = start.entry? file.name :=
  adds.others file.name fun _ listed same => new (DataFile.name_inj same ▸ listed)

theorem Adds.present (adds : surroundings.Adds files start after) (listed : file ∈ files) :
    ∃ entry, after.entry? file.name = some entry := by
  cases found : start.entry? file.name with
  | none =>
      obtain ⟨contents, _, saved⟩ := adds.added file listed found
      exact ⟨.file contents, saved⟩
  | some entry => exact ⟨entry, adds.kept file.name entry found⟩

/-- The next file is there already. -/
theorem Adds.stored (adds : surroundings.Adds files start middle) {entry : Entry}
    (found : middle.entry? file.name = some entry) :
    surroundings.Adds (files ++ [file]) start middle := by
  refine ⟨adds.kept, ?_, ?_, ?_⟩
  · intro other listed missing
    by_cases seen : other ∈ files
    · exact adds.added other seen missing
    · have same : other = file := by simpa [seen] using listed
      rw [same] at seen missing
      rw [adds.entry?_eq seen, missing] at found
      cases found
  · intro name different
    exact adds.others name fun other listed => different other (List.mem_append_left _ listed)
  · intro present
    exact adds.untouched fun other listed => present other (List.mem_append_left _ listed)

/-- The next file is missing, and is saved. -/
theorem Adds.saved (adds : surroundings.Adds files start middle) {entries : Entries}
    {contents : Bytes} (revealed : ∀ name : String, entries[name]? = middle.entry? name)
    (missing : middle.entry? file.name = none) (served : surroundings.served file = .ok contents) :
    surroundings.Adds (files ++ [file]) start
      (.present (entries.insert file.name (.file contents))) := by
  have absent : start.entry? file.name = none := by
    cases found : start.entry? file.name with
    | none => rfl
    | some entry =>
        rw [adds.kept file.name entry found] at missing
        cases missing
  refine ⟨?_, ?_, ?_, ?_⟩
  · intro name entry found
    have different : file.name ≠ name := by
      intro same
      rw [← same, absent] at found
      cases found
    rw [Directory.entry?_insert, if_neg different, revealed]
    exact adds.kept name entry found
  · intro other listed lacking
    rw [Directory.entry?_insert]
    by_cases same : file = other
    · subst same
      exact ⟨contents, served, if_pos rfl⟩
    · rw [if_neg fun names => same (DataFile.name_inj names), revealed]
      refine adds.added other ?_ lacking
      simpa [Ne.symm same] using listed
  · intro name different
    rw [Directory.entry?_insert, if_neg (different file (by simp)), revealed]
    exact adds.others name fun other listed => different other (List.mem_append_left _ listed)
  · intro present
    exact absurd absent (present file (by simp))

theorem textOf_congr (same : middle.entry? file.name = start.entry? file.name) :
    surroundings.textOf middle file = surroundings.textOf start file := by
  have entry : surroundings.entry? middle file = surroundings.entry? start file := by
    unfold Surroundings.entry?
    rw [same]
  unfold textOf
  rw [entry]

/-! ## Other networks -/

/-- The same surroundings with another network. -/
def withNetwork (surroundings : Surroundings) (network : Network) : Surroundings :=
  { surroundings with network }

theorem Savable.withNetwork (savable : surroundings.Savable directory)
    (network : Network) : (surroundings.withNetwork network).Savable directory :=
  ⟨savable.named, savable.made⟩

theorem textOf_withNetwork {first second : Network}
    (savable : surroundings.Savable directory)
    (known : directory.entry? file.name = none → first file = second file) :
    (surroundings.withNetwork first).textOf directory file =
      (surroundings.withNetwork second).textOf directory file := by
  unfold textOf
  rw [(savable.withNetwork first).entry?_eq, (savable.withNetwork second).entry?_eq]
  cases found : directory.entry? file.name with
  | none =>
      have same := known found
      simp only [served, withNetwork, same]
  | some entry =>
      cases entry with
      | file contents => rfl
      | directory => rfl

end Surroundings

namespace Work

open Surroundings

/-! ## One file -/

theorem Unsaved.not_savable {fault : PathFault}
    (unsaved : Unsaved surroundings file directory fault after)
    (missing : directory.entry? file.name = none) : ¬ surroundings.Savable directory := by
  intro savable
  cases unsaved with
  | unmade failed =>
      obtain ⟨_, made, _⟩ := savable.made file
      cases failed.symm.trans made
  | unopened made failed => cases failed.symm.trans (savable.checkWritable made missing)

theorem Loads.eq_of_error {failure : Failure} (savable : surroundings.Savable directory)
    (loads : Loads surroundings file directory (.error failure) after) : after = directory := by
  cases loads with
  | spoiled | blocked | unserved | garbled => rfl
  | unsaved missing _ _ unsaved =>
      rw [savable.entry?_eq] at missing
      exact absurd savable (unsaved.not_savable missing)

theorem Loads.adds {text : List Char} (savable : surroundings.Savable middle)
    (adds : surroundings.Adds files start middle)
    (loads : Loads surroundings file middle (.ok text) after) :
    surroundings.Savable after ∧ surroundings.Adds (files ++ [file]) start after := by
  cases loads with
  | stored found _ =>
      rw [savable.entry?_eq] at found
      exact ⟨savable, adds.stored found⟩
  | saved missing served _ made =>
      rw [savable.entry?_eq] at missing
      obtain ⟨_, same, revealed⟩ := savable.made file
      cases made.symm.trans same
      exact ⟨savable_present savable.named _, adds.saved revealed missing served⟩

theorem Loads.textOf_eq {result : Except Failure (List Char)}
    (savable : surroundings.Savable directory)
    (loads : Loads surroundings file directory result after) :
    surroundings.textOf directory file = result := by
  unfold textOf
  cases loads with
  | stored found decoded =>
      rw [found]
      simp [decoded, Except.map]
  | spoiled found failed =>
      rw [found]
      simp [failed, Except.map]
  | blocked found => rw [found]
  | unserved missing failed =>
      rw [missing, failed]
      rfl
  | garbled missing served failed =>
      rw [missing, served]
      simp [failed]
  | unsaved missing _ _ unsaved =>
      rw [savable.entry?_eq] at missing
      exact absurd savable (unsaved.not_savable missing)
  | saved missing served decoded _ =>
      rw [missing, served]
      simp [decoded]

end Work

end CharacterTables
