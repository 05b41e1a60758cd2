import Mathlib
import CharacterTables.Proofs.Faults.Compiling
import CharacterTables.Proofs.Generation
import CharacterTables.Proofs.Session.Saving

/-!
# How runs fail

A run reads nothing but what its directory has under the names of the data files and what the
network gives. It fails in a way that is reported, except where a path cannot be used, the bytes
of a file are no text, a stated total cannot be compared, or a code is too far below zero.
-/

set_option autoImplicit false

namespace CharacterTables

open Text

variable {surroundings : Surroundings} {file : DataFile} {start directory after : Directory}

namespace Surroundings

/-! ## What a run meets -/

/-- The directory has the entry under the name of a data file, if only once it is made, or the
network gives it. -/
inductive Meets (surroundings : Surroundings) (start : Directory) (file : DataFile) : Entry → Prop
  | kept {name entries entry} : start.made name = .ok entries → entries[file.name]? = some entry →
      Meets surroundings start file entry
  | served {contents} : surroundings.served file = .ok contents →
      Meets surroundings start file (.file contents)

/-- The text is that of bytes that a run meets, either as they are or with every line break made
a line feed. -/
def Gives (surroundings : Surroundings) (start : Directory) (file : DataFile) (text : List Char) :
    Prop :=
  ∃ contents decoded, surroundings.Meets start file (.file contents) ∧
    decodeUtf8 contents = .ok decoded ∧ (text = decoded ∨ text = unifyNewlines decoded)

/-- In the course of a run the directory has nothing under the names of the data files but what
the run meets, and its way fails only as it did at the start. -/
structure Traces (surroundings : Surroundings) (start directory : Directory) : Prop where
  entries : ∀ name entries, directory.made name = .ok entries →
    ∀ (file : DataFile) entry, entries[file.name]? = some entry →
      surroundings.Meets start file entry
  faults : ∀ name fault, directory.made name = .error fault → start.made name = .error fault

theorem Traces.present (traces : surroundings.Traces start directory) {name : String}
    {entries : Entries} (made : directory.made name = .ok entries) :
    surroundings.Traces start (.present entries) where
  entries := by
    intro other same listed file entry found
    cases listed
    exact traces.entries name entries made file entry found
  faults := by
    intro other fault failed
    cases failed

theorem Traces.saved (traces : surroundings.Traces start directory) {name : String}
    {entries : Entries} {contents : Bytes} (made : directory.made name = .ok entries)
    (served : surroundings.served file = .ok contents) :
    surroundings.Traces start (.present (entries.insert file.name (.file contents))) where
  entries := by
    intro other same listed another entry found
    cases listed
    rw [Std.TreeMap.getElem?_insert] at found
    split at found
    · rename_i own
      cases DataFile.name_inj (Std.LawfulEqCmp.eq_of_compare own)
      cases found
      exact .served served
    · exact traces.entries name entries made another entry found
  faults := by
    intro other fault failed
    cases failed

/-! ## Failures that are reported -/

/-- A failure that is reported: a fault of the data, in a single line, or what the network says in
place of a data file, in a single line if that is worded so. -/
structure Reports (surroundings : Surroundings) (failure : Failure) : Prop where
  kind : (failure.isCorpusFault || failure.isNetworkFault) = true
  data : failure.isCorpusFault = true → OneLine failure.message
  network : failure.isNetworkFault = true → ∃ file, surroundings.served file = .error failure ∧
    ((surroundings.network file).Worded → OneLine failure.message)

variable {failure : Failure}

end Surroundings

/-! ## Failures that are not reported -/

/-- A failure that is not reported, with what a run met that brings it about. -/
inductive Unreported (surroundings : Surroundings) (start : Directory) : Failure → Prop
  | undecodable {file : DataFile} {contents fault} :
      surroundings.Meets start file (.file contents) → decodeUtf8 contents = .error fault →
      Unreported surroundings start (.undecodable fault)
  | unnamed {file : DataFile} {problem} : textProblem? (surroundings.pathOf file) = some problem →
      Unreported surroundings start (.path ⟨problem, surroundings.pathOf file⟩)
  | blocked {file : DataFile} : surroundings.Meets start file .directory →
      Unreported surroundings start (.path ⟨.isDirectory, surroundings.pathOf file⟩)
  | unmade {file : DataFile} {fault} : start.made file.name = .error fault →
      Unreported surroundings start (.path fault)
  | total {text fault} : surroundings.Gives start .properties text → BadTotal text fault →
      Unreported surroundings start (.read fault)
  | character {text code fault} : surroundings.Gives start .characters text →
      code ∈ (readCharacters text).records.map (·.code) → Code.Deep code →
      Unreported surroundings start (.store fault)
  | fold {text code fault} : surroundings.Gives start .foldings text →
      code ∈ (readFolds text).records.map (·.code) → Code.Deep code →
      Unreported surroundings start (.store fault)
  | specialCase {text code fault} : surroundings.Gives start .specialCasings text →
      code ∈ (readSpecialCases text).records.map (·.code) → Code.Deep code →
      Unreported surroundings start (.lookup fault)

theorem Unreported.kind {failure : Failure} (unreported : Unreported surroundings start failure) :
    (failure.isCorpusFault || failure.isNetworkFault) = false := by
  cases unreported with
  | total _ bad => cases bad <;> rfl
  | undecodable | unnamed | blocked | unmade | character | fold | specialCase => rfl

namespace Work

variable {α β : Type}

theorem Unsaved.unreported {fault : PathFault} (traces : surroundings.Traces start directory)
    (unsaved : Unsaved surroundings file directory fault after) :
    Unreported surroundings start (.path fault) := by
  cases unsaved with
  | unmade failed => exact .unmade (traces.faults file.name fault failed)
  | unopened made failed =>
      unfold Surroundings.checkWritable at failed
      split at failed
      · rename_i problem named
        cases failed
        exact .unnamed named
      · split at failed
        · rename_i found
          cases failed
          exact .blocked (traces.entries file.name _ made file .directory found)
        · cases failed

/-! ## Accounting for failures -/

/-- In a directory that traces back to the start, work gives a value as is known of it or fails
in a way that is accounted for, and the directory still traces back. -/
def Accounts (surroundings : Surroundings) (start : Directory) (work : Work α) (known : α → Prop) :
    Prop :=
  Ensures (surroundings.Traces start) work
    (fun value directory => known value ∧ surroundings.Traces start directory)
    fun failure _ => surroundings.Reports failure ∨ Unreported surroundings start failure

theorem Accounts.mono {work : Work α} {known other : α → Prop}
    (accounts : Accounts surroundings start work known)
    (wider : ∀ value, known value → other value) : Accounts surroundings start work other :=
  Ensures.mono accounts (fun value _ reached => ⟨wider value reached.1, reached.2⟩)
    fun _ _ stopped => stopped

theorem Accounts.bind {work : Work α} {next : α → Work β} {known : α → Prop} {other : β → Prop}
    (first : Accounts surroundings start work known)
    (rest : ∀ value, known value → Accounts surroundings start (next value) other) :
    Accounts surroundings start (work >>= next) other :=
  Ensures.bind first fun value session begun => rest value begun.1 session begun.2

end Work

end CharacterTables
