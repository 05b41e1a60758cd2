import Mathlib
import CharacterTables.Proofs.Corpus.BreakStyle
import CharacterTables.Proofs.Heading
import CharacterTables.Proofs.Session.Run

/-!
# Repeated runs

The first run reads what the network gives, and later runs what the first has saved, where every
line break is a line feed. The files have the same lines either way. Only the heading can differ,
and then the first run has another result than all later ones, unless no tables are made at all.
-/

set_option autoImplicit false

namespace CharacterTables

open Text

/-! ## Texts with the same lines -/

section Alike

variable {text other : List Char} (alike : ReadAlike text other)
include alike

theorem Registry.ofText_congr : ofText text = ofText other := by
  unfold ofText
  rw [alike.characters]

theorem PropertySets.ofText_congr : ofText text = ofText other := by
  unfold ofText
  rw [alike.properties]

theorem Folding.ofText_congr : ofText text = ofText other := by
  unfold ofText
  rw [alike.folds]

theorem Overrides.ofText_congr (plane : BasicPlane) : ofText plane text = ofText plane other := by
  unfold ofText
  rw [alike.specialCases]

end Alike

theorem Tables.fromTexts_congr {first second : DataFile → List Char}
    (same : ∀ file, lines (first file) = lines (second file))
    (version : databaseVersion (first .properties) = databaseVersion (second .properties)) :
    fromTexts (fun file => .ok (first file)) = fromTexts (fun file => .ok (second file)) := by
  have compiled : Compiled.fromTexts (fun file => .ok (first file)) =
      Compiled.fromTexts (fun file => .ok (second file)) := by
    have alike (file : DataFile) : ReadAlike (first file) (second file) :=
      readAlike_of_lines (same file)
    unfold Compiled.fromTexts
    simp only [ok_bind, version, Registry.ofText_congr (alike .characters),
      PropertySets.ofText_congr (alike .properties), Folding.ofText_congr (alike .foldings),
      Overrides.ofText_congr (alike .specialCasings)]
  unfold fromTexts
  rw [compiled]

theorem Tables.version_of_fromTexts {texts : DataFile → List Char} {tables : Tables}
    (made : fromTexts (fun file => .ok (texts file)) = .ok tables) :
    databaseVersion (texts .properties) = .ok tables.version := by
  unfold fromTexts at made
  obtain ⟨compiled, opened, made⟩ := bind_eq_ok_iff.mp made
  obtain ⟨_, _, made⟩ := bind_eq_ok_iff.mp made
  obtain ⟨_, _, made⟩ := bind_eq_ok_iff.mp made
  cases made
  exact (Compiled.ofTexts_of_fromTexts opened).version

/-! ## Directories that hold what was served -/

namespace Surroundings

variable {surroundings : Surroundings} {directory after : Directory} {files : List DataFile}
  {texts : DataFile → List Char}

/-- The network gives every data file, with a given text. -/
def Serves (surroundings : Surroundings) (texts : DataFile → List Char) : Prop :=
  ∀ file, ∃ contents, surroundings.served file = .ok contents ∧
    decodeUtf8 contents = .ok (texts file)

/-- Every data file is missing, or as the network gives it. -/
structure Mirrors (surroundings : Surroundings) (directory : Directory) : Prop where
  savable : surroundings.Savable directory
  entry : ∀ file : DataFile, directory.entry? file.name = none ∨
    ∃ contents, surroundings.served file = .ok contents ∧
      directory.entry? file.name = some (.file contents)

theorem Mirrors.adds (mirrors : surroundings.Mirrors directory)
    (savable : surroundings.Savable after) (adds : surroundings.Adds files directory after) :
    surroundings.Mirrors after := by
  refine ⟨savable, fun file => ?_⟩
  rcases mirrors.entry file with missing | ⟨contents, served, stored⟩
  · by_cases loaded : file ∈ files
    · exact .inr (adds.added file loaded missing)
    · exact .inl ((adds.entry?_eq loaded).trans missing)
  · exact .inr ⟨contents, served, adds.kept file.name (.file contents) stored⟩

/-- The text of a file that is missing is as it is given, and that of a stored file has unified
line breaks. -/
theorem Mirrors.textOf_eq (mirrors : surroundings.Mirrors directory)
    (serves : surroundings.Serves texts) :
    surroundings.textOf directory = fun file => .ok
      (if directory.entry? file.name = none then texts file else unifyNewlines (texts file)) := by
  funext file
  obtain ⟨contents, served, decoded⟩ := serves file
  unfold textOf
  rw [mirrors.savable.entry?_eq]
  rcases mirrors.entry file with missing | ⟨others, otherServed, stored⟩
  · simp [missing, served, decoded]
  · cases served.symm.trans otherServed
    simp [stored, decoded, Except.map]

end Surroundings

/-! ## One run after another -/

namespace Work

variable {surroundings : Surroundings} {session : Session} {texts : DataFile → List Char}

/-- The session after a number of runs. -/
def sessionAfter (surroundings : Surroundings) (session : Session) (runs : Nat) : Session :=
  (fun session => ((generate surroundings).outcome session).2)^[runs] session

/-- The result of the run that follows a number of runs. -/
def resultAfter (surroundings : Surroundings) (session : Session) (runs : Nat) :
    Except Failure Tables :=
  ((generate surroundings).outcome (sessionAfter surroundings session runs)).1

theorem resultAfter_of_outcome {runs : Nat} {result : Except Failure Tables} {after : Session}
    (ended : (generate surroundings).outcome (sessionAfter surroundings session runs) =
      (result, after)) : resultAfter surroundings session runs = result := by
  unfold resultAfter
  rw [ended]

theorem sessionAfter_succ (surroundings : Surroundings) (session : Session) (runs : Nat) :
    sessionAfter surroundings session (runs + 1) =
      ((generate surroundings).outcome (sessionAfter surroundings session runs)).2 :=
  Function.iterate_succ_apply' _ runs session

/-- Once the first file can be loaded, it is in the directory after a run. -/
theorem mirrors_generate (mirrors : surroundings.Mirrors session.directory)
    (serves : surroundings.Serves texts) :
    surroundings.Mirrors ((generate surroundings).outcome session).2.directory ∧
      Directory.entry? ((generate surroundings).outcome session).2.directory
        DataFile.properties.name ≠ none := by
  have stored {loaded : List DataFile} {directory : Directory}
      (reached : Reached surroundings session.directory loaded directory)
      (begun : .properties ∈ loaded) :
      surroundings.Mirrors directory ∧ directory.entry? DataFile.properties.name ≠ none := by
    obtain ⟨entry, found⟩ := reached.2.present begun
    exact ⟨mirrors.adds reached.1 reached.2, by simp [found]⟩
  have returns := returns_generate surroundings session.directory session
    (reached_nil mirrors.savable)
  cases ended : (generate surroundings).outcome session with
  | mk result after =>
      rw [ended] at returns
      cases result with
      | ok tables => exact stored returns.2 (by decide)
      | error failure =>
          obtain ⟨_, loaded, listed, reached, stopped⟩ := returns
          refine stored reached ?_
          cases loaded with
          | nil =>
              obtain ⟨_, failed⟩ := stopped rfl
              rw [mirrors.textOf_eq serves] at failed
              cases failed
          | cons file rest =>
              obtain ⟨rfl, _⟩ := List.cons_prefix_cons.mp listed
              exact List.mem_cons_self

theorem mirrors_sessionAfter (mirrors : surroundings.Mirrors session.directory)
    (serves : surroundings.Serves texts) (runs : Nat) :
    surroundings.Mirrors (sessionAfter surroundings session (runs + 1)).directory ∧
      Directory.entry? (sessionAfter surroundings session (runs + 1)).directory
        DataFile.properties.name ≠ none := by
  induction runs with
  | zero =>
      rw [sessionAfter_succ]
      exact mirrors_generate mirrors serves
  | succ runs ih =>
      rw [sessionAfter_succ]
      exact mirrors_generate ih.1 serves

theorem result_first (savable : surroundings.Savable session.directory)
    (missing : ∀ file : DataFile, session.directory.entry? file.name = none)
    (serves : surroundings.Serves texts) :
    resultAfter surroundings session 0 = Tables.fromTexts fun file => .ok (texts file) := by
  have mirrors : surroundings.Mirrors session.directory :=
    ⟨savable, fun file => .inl (missing file)⟩
  have returned : resultAfter surroundings session 0 =
      Tables.fromTexts (surroundings.textOf session.directory) :=
    (returns_generate surroundings session.directory).outcome_eq (reached_nil savable)
  rw [returned, mirrors.textOf_eq serves]
  simp only [missing, if_true]

theorem result_later (mirrors : surroundings.Mirrors session.directory)
    (serves : surroundings.Serves texts) (runs : Nat) :
    resultAfter surroundings session (runs + 1) =
      Tables.fromTexts fun file => .ok (unifyNewlines (texts file)) := by
  obtain ⟨stored, present⟩ := mirrors_sessionAfter mirrors serves runs
  unfold resultAfter
  rw [(returns_generate surroundings _).outcome_eq (reached_nil stored.savable),
    stored.textOf_eq serves]
  refine Tables.fromTexts_congr (fun file => ?_) (by rw [if_neg present])
  split
  · rw [lines_unifyNewlines]
  · rfl

/-- Beginning without any of the data files, all runs but the first have the same result. So has
the first if its heading has no carriage return with more than blanks behind it, and only then,
except where no tables are made. -/
theorem generate_repeats (surroundings : Surroundings) (session : Session)
    (texts : DataFile → List Char) (savable : surroundings.Savable session.directory)
    (missing : ∀ file : DataFile, session.directory.entry? file.name = none)
    (serves : surroundings.Serves texts) :
    (∀ runs, resultAfter surroundings session (runs + 1) = resultAfter surroundings session 1) ∧
      (firstLineWhole (texts .properties) = true →
        ∀ runs, resultAfter surroundings session runs = resultAfter surroundings session 0) ∧
      ∀ runs tables, resultAfter surroundings session runs = .ok tables →
        (resultAfter surroundings session 0 = resultAfter surroundings session 1 ↔
          firstLineWhole (texts .properties) = true) := by
  have mirrors : surroundings.Mirrors session.directory :=
    ⟨savable, fun file => .inl (missing file)⟩
  have first := result_first savable missing serves
  have later := result_later mirrors serves
  have whole : firstLineWhole (texts .properties) = true →
      ∀ runs, resultAfter surroundings session runs = resultAfter surroundings session 0 := by
    intro whole runs
    cases runs with
    | zero => rfl
    | succ runs =>
        rw [later, first]
        exact Tables.fromTexts_congr (fun file => lines_unifyNewlines (texts file))
          ((databaseVersion_unifyNewlines_iff (texts .properties)).mpr whole).symm
  refine ⟨fun runs => (later runs).trans (later 0).symm, whole, ?_⟩
  intro runs tables made
  refine ⟨fun same => ?_, fun held => (whole held 1).symm⟩
  have both : resultAfter surroundings session 0 = .ok tables ∧
      resultAfter surroundings session 1 = .ok tables := by
    cases runs with
    | zero => exact ⟨made, same.symm.trans made⟩
    | succ runs =>
        rw [later] at made
        exact ⟨same.trans ((later 0).trans made), (later 0).trans made⟩
  rw [first, later] at both
  refine (databaseVersion_unifyNewlines_iff (texts .properties)).mp ?_
  rw [Tables.version_of_fromTexts both.1, Tables.version_of_fromTexts both.2]

/-- The texts that a network gives, where all of them are ASCII. -/
def asciiTexts (network : Network) (file : DataFile) : List Char :=
  match network file with
  | .content bytes => bytes.map fun byte => Char.ofNat byte.toNat
  | _ => []

theorem generate_repeats_letter :
    (⟨letterNetwork, [], ""⟩ : Surroundings).Savable .absent ∧
      (∀ file : DataFile, Directory.absent.entry? file.name = none) ∧
      (⟨letterNetwork, [], ""⟩ : Surroundings).Serves (asciiTexts letterNetwork) ∧
      ∀ runs, resultAfter ⟨letterNetwork, [], ""⟩ ⟨.absent, ""⟩ runs =
        resultAfter ⟨letterNetwork, [], ""⟩ ⟨.absent, ""⟩ 0 := by
  have savable : (⟨letterNetwork, [], ""⟩ : Surroundings).Savable .absent :=
    Surroundings.savable_absent fun file => by cases file <;> decide
  have serves : (⟨letterNetwork, [], ""⟩ : Surroundings).Serves (asciiTexts letterNetwork) :=
    fun file => ⟨_, rfl, by cases file <;> decide +kernel⟩
  exact ⟨savable, fun _ => rfl, serves,
    (generate_repeats ⟨letterNetwork, [], ""⟩ ⟨.absent, ""⟩ _ savable (fun _ => rfl) serves).2.1
      (by decide +kernel)⟩

/-- The letters again, with a heading that a carriage return ends, and a comment behind it. -/
def returnNetwork : DataFile → Answer
  | .properties =>
      .content ("# DerivedCoreProperties-13.0.0.txt\r#".toList.map fun c => c.toNat.toUInt8)
  | file => letterNetwork file

/-- The first run takes the comment for a part of the heading and finds no version, and the second
makes tables. -/
theorem generate_differs_return :
    (⟨returnNetwork, [], ""⟩ : Surroundings).Serves (asciiTexts returnNetwork) ∧
      ∃ line tables,
        resultAfter ⟨returnNetwork, [], ""⟩ ⟨.absent, ""⟩ 0 =
          .error (.shape (.noVersion line)) ∧
        resultAfter ⟨returnNetwork, [], ""⟩ ⟨.absent, ""⟩ 1 = .ok tables := by
  have serves : (⟨returnNetwork, [], ""⟩ : Surroundings).Serves (asciiTexts returnNetwork) :=
    fun file => by cases file <;> exact ⟨_, rfl, by decide +kernel⟩
  have savable : (⟨returnNetwork, [], ""⟩ : Surroundings).Savable .absent :=
    Surroundings.savable_absent fun file => by cases file <;> decide
  have failed : databaseVersion (asciiTexts returnNetwork .properties) =
      .error (.shape (.noVersion (asciiTexts returnNetwork .properties))) := by
    decide +kernel
  have first : resultAfter ⟨returnNetwork, [], ""⟩ ⟨.absent, ""⟩ 0 =
      .error (.shape (.noVersion (asciiTexts returnNetwork .properties))) := by
    rw [result_first savable (fun _ => rfl) serves]
    unfold Tables.fromTexts Compiled.fromTexts
    rw [ok_bind, failed, error_bind, error_bind]
  have compiles : ((compile ⟨returnNetwork, [], ""⟩).outcome
      (sessionAfter ⟨returnNetwork, [], ""⟩ ⟨.absent, ""⟩ 1)).1.isOk = true := by
    decide +kernel
  obtain ⟨compiled, after, ended⟩ := exists_of_isOk compiles
  obtain ⟨tables, _, made, _⟩ := outcome_generate ended
  exact ⟨serves, _, tables, first, resultAfter_of_outcome made⟩

end Work

end CharacterTables
