import Mathlib
import CharacterTables.Proofs.Outcome
import CharacterTables.Proofs.Session.Contract

/-!
# Loading a data file

A file is read where the directory has it, and otherwise it is fetched and saved. These are all
the ways in which that ends. In a directory that can be saved to, a load that fails changes nothing.
-/

set_option autoImplicit false

namespace CharacterTables

open Text

variable {surroundings : Surroundings} {file : DataFile} {directory after : Directory}

/-! ## Where a text comes from -/

/-- What the network gives for a data file. -/
def Surroundings.served (surroundings : Surroundings) (file : DataFile) : Except Failure Bytes :=
  (surroundings.network file).bytes

/-- The text that loading a data file gives, as long as it can be saved. -/
def Surroundings.textOf (surroundings : Surroundings) (directory : Directory) (file : DataFile) :
    Except Failure (List Char) :=
  match surroundings.entry? directory file with
  | some (.file contents) =>
      ((decodeUtf8 contents).mapError Failure.undecodable).map unifyNewlines
  | some .directory => .error (.path ⟨.isDirectory, surroundings.pathOf file⟩)
  | none => do
      let contents ← surroundings.served file
      (decodeUtf8 contents).mapError Failure.undecodable

/-! ## Directories that can be saved to -/

/-- Every data file can be opened by its path, and making the directory succeeds and brings
nothing to light that was not there before. -/
structure Surroundings.Savable (surroundings : Surroundings) (directory : Directory) : Prop where
  named : ∀ file, textProblem? (surroundings.pathOf file) = none
  made : ∀ file : DataFile, ∃ entries, directory.made file.name = .ok entries ∧
    ∀ name : String, entries[name]? = directory.entry? name

namespace Surroundings

theorem entry?_eq (named : textProblem? (surroundings.pathOf file) = none)
    (directory : Directory) :
    surroundings.entry? directory file = directory.entry? file.name := by
  unfold entry?
  rw [named]

theorem Savable.entry?_eq (savable : surroundings.Savable directory) (file : DataFile) :
    surroundings.entry? directory file = directory.entry? file.name :=
  Surroundings.entry?_eq (savable.named file) directory

theorem savable_present (named : ∀ file, textProblem? (surroundings.pathOf file) = none)
    (entries : Entries) : surroundings.Savable (.present entries) :=
  ⟨named, fun _ => ⟨entries, rfl, fun _ => rfl⟩⟩

theorem Savable.checkWritable (savable : surroundings.Savable directory) {entries : Entries}
    (made : directory.made file.name = .ok entries) (missing : directory.entry? file.name = none) :
    surroundings.checkWritable entries file = .ok () := by
  obtain ⟨others, same, revealed⟩ := savable.made file
  rw [made] at same
  cases same
  unfold Surroundings.checkWritable
  simp only [savable.named file, revealed, missing]

end Surroundings

namespace Work

/-! ## Saving -/

/-- The directory cannot be made, or the file cannot be opened in it. -/
inductive Unsaved (surroundings : Surroundings) (file : DataFile) (directory : Directory) :
    PathFault → Directory → Prop
  | unmade {fault} : directory.made file.name = .error fault →
      Unsaved surroundings file directory fault directory
  | unopened {entries fault} : directory.made file.name = .ok entries →
      surroundings.checkWritable entries file = .error fault →
      Unsaved surroundings file directory fault (.present entries)

theorem outcome_save (surroundings : Surroundings) (file : DataFile) (contents : Bytes)
    (session : Session) :
    (∃ fault after, Unsaved surroundings file session.directory fault after ∧
      (save surroundings file contents).outcome session =
        (.error (.path fault), { session with directory := after })) ∨
      ∃ entries, session.directory.made file.name = .ok entries ∧
        surroundings.checkWritable entries file = .ok () ∧
        (save surroundings file contents).outcome session =
          (.ok (), { session with
            directory := .present (entries.insert file.name (.file contents)) }) := by
  have opened : (save surroundings file contents).outcome session =
      (do
        let entries ← ofExcept ((session.directory.made file.name).mapError Failure.path)
        modify fun session => { session with directory := .present entries }
        ofExcept ((surroundings.checkWritable entries file).mapError Failure.path)
        modify fun session => { session with
          directory := .present (entries.insert file.name (.file contents)) } : Work Unit).outcome
        session := rfl
  rw [opened]
  cases made : session.directory.made file.name with
  | error fault => exact .inl ⟨fault, session.directory, .unmade made, rfl⟩
  | ok entries =>
      cases checked : surroundings.checkWritable entries file with
      | error fault =>
          refine .inl ⟨fault, .present entries, .unopened made checked, ?_⟩
          rw [mapError_ok, outcome_bind_of_ok (outcome_ofExcept _ _),
            outcome_bind_of_ok (outcome_modify _ _), checked, mapError_error]
          exact outcome_bind_of_error (outcome_ofExcept _ _) _
      | ok writable =>
          refine .inr ⟨entries, rfl, checked, ?_⟩
          rw [mapError_ok, outcome_bind_of_ok (outcome_ofExcept _ _),
            outcome_bind_of_ok (outcome_modify _ _), checked, mapError_ok]
          exact outcome_bind_of_ok (outcome_ofExcept _ _) _

/-! ## Loading -/

/-- How loading a file from a directory ends, and the directory that it leaves. -/
inductive Loads (surroundings : Surroundings) (file : DataFile) (directory : Directory) :
    Except Failure (List Char) → Directory → Prop
  | stored {contents text} :
      surroundings.entry? directory file = some (.file contents) → decodeUtf8 contents = .ok text →
      Loads surroundings file directory (.ok (unifyNewlines text)) directory
  | spoiled {contents fault} :
      surroundings.entry? directory file = some (.file contents) →
      decodeUtf8 contents = .error fault →
      Loads surroundings file directory (.error (.undecodable fault)) directory
  | blocked :
      surroundings.entry? directory file = some .directory →
      Loads surroundings file directory
        (.error (.path ⟨.isDirectory, surroundings.pathOf file⟩)) directory
  | unserved {failure} :
      surroundings.entry? directory file = none → surroundings.served file = .error failure →
      Loads surroundings file directory (.error failure) directory
  | garbled {contents fault} :
      surroundings.entry? directory file = none → surroundings.served file = .ok contents →
      decodeUtf8 contents = .error fault →
      Loads surroundings file directory (.error (.undecodable fault)) directory
  | unsaved {contents text fault after} :
      surroundings.entry? directory file = none → surroundings.served file = .ok contents →
      decodeUtf8 contents = .ok text → Unsaved surroundings file directory fault after →
      Loads surroundings file directory (.error (.path fault)) after
  | saved {contents text entries} :
      surroundings.entry? directory file = none → surroundings.served file = .ok contents →
      decodeUtf8 contents = .ok text → directory.made file.name = .ok entries →
      Loads surroundings file directory (.ok text)
        (.present (entries.insert file.name (.file contents)))

theorem loads_fetch {session : Session}
    (missing : surroundings.entry? session.directory file = none) :
    Loads surroundings file session.directory ((fetch surroundings file).outcome session).1
      ((fetch surroundings file).outcome session).2.directory := by
  have served : (surroundings.network file).bytes = surroundings.served file := rfl
  unfold fetch decode
  rw [outcome_bind_of_ok (outcome_tell _ _), served]
  cases given : surroundings.served file with
  | error failure =>
      rw [outcome_bind_of_error (outcome_ofExcept _ _)]
      exact .unserved missing given
  | ok contents =>
      rw [outcome_bind_of_ok (outcome_ofExcept _ _), outcome_bind_of_ok (outcome_tellLine _ _)]
      cases decoded : decodeUtf8 contents with
      | error fault =>
          rw [mapError_error, outcome_bind_of_error (outcome_ofExcept _ _)]
          exact .garbled missing given decoded
      | ok text =>
          rw [mapError_ok, outcome_bind_of_ok (outcome_ofExcept _ _)]
          rcases outcome_save surroundings file contents
              ((session.told ("Loading " ++ fileUrl pinnedVersion file.name ++ "… ")).told
                ("Completed." ++ "\n")) with
            ⟨fault, after, unsaved, ended⟩ | ⟨entries, made, _, ended⟩
          · rw [outcome_bind_of_error ended]
            exact .unsaved missing given decoded unsaved
          · rw [outcome_bind_of_ok ended, outcome_bind_of_ok (outcome_tellLine _ _)]
            exact .saved missing given decoded made

theorem loads_load (surroundings : Surroundings) (file : DataFile) (session : Session) :
    Loads surroundings file session.directory ((load surroundings file).outcome session).1
      ((load surroundings file).outcome session).2.directory := by
  have opened : (load surroundings file).outcome session =
      (match surroundings.entry? session.directory file with
        | some (.file contents) => do return unifyNewlines (← decode contents)
        | some .directory => throw (.path ⟨.isDirectory, surroundings.pathOf file⟩)
        | none => fetch surroundings file : Work (List Char)).outcome session := rfl
  rw [opened]
  cases found : surroundings.entry? session.directory file with
  | none => exact loads_fetch found
  | some entry =>
      cases entry with
      | directory => exact .blocked found
      | file contents =>
          dsimp only
          unfold decode
          cases decoded : decodeUtf8 contents with
          | error fault =>
              rw [mapError_error, outcome_bind_of_error (outcome_ofExcept _ _)]
              exact .spoiled found decoded
          | ok text =>
              rw [mapError_ok, outcome_bind_of_ok (outcome_ofExcept _ _)]
              exact .stored found decoded

end Work

end CharacterTables
