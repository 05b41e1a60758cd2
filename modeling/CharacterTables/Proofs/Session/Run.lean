import Mathlib
import CharacterTables.Proofs.Generation
import CharacterTables.Proofs.Session.Saving

/-!
# A run

A run loads the data files in a fixed order, each once, so that its result depends on nothing but
their texts. When it stops it has added what was missing of the files that it came to load, and
changed nothing else.
-/

set_option autoImplicit false

namespace CharacterTables

open Text TwoStage

variable {surroundings : Surroundings} {file : DataFile} {files : List DataFile}
  {start directory : Directory}

/-! ## Tables from texts -/

/-- What a table is split into. -/
def splitOf (table : Array Int) : Except Failure Split := do
  let found ← (search table).mapError Failure.table
  (found.split.verify table).mapError Failure.table
  return found.split

/-- What is compiled from the texts of the data files. The first file without a text, and the
first fault, are met in the order in which the files are loaded. -/
def Compiled.fromTexts (text : DataFile → Except Failure (List Char)) : Except Failure Compiled := do
  let propertyText ← text .properties
  let version ← databaseVersion propertyText
  let registry ← (do Registry.ofText (← text .characters))
  let properties ← PropertySets.ofText propertyText
  let basic ← BasicPlane.ofRegistry registry properties
  let supplementary ← SupplementaryPlanes.ofRegistry registry properties
  let whiteSpace ← CharacterTables.whiteSpace registry
  let folding ← (do Folding.ofText (← text .foldings))
  let overrides ← (do Overrides.ofText basic (← text .specialCasings))
  return { version, registry, properties, basic, supplementary, whiteSpace, folding, overrides }

def Tables.fromTexts (text : DataFile → Except Failure (List Char)) : Except Failure Tables := do
  let compiled ← Compiled.fromTexts text
  let basicSplit ← splitOf compiled.basic.index
  let foldSplit ← splitOf compiled.folding.index.toArray
  return { compiled with basicSplit, foldSplit }

theorem Compiled.ofTexts_of_fromTexts {texts : DataFile → List Char} {compiled : Compiled}
    (made : fromTexts (fun file => .ok (texts file)) = .ok compiled) :
    compiled.OfTexts (texts .properties) (texts .characters) (texts .foldings)
      (texts .specialCasings) := by
  unfold fromTexts at made
  simp only [ok_bind] at made
  obtain ⟨version, versioned, made⟩ := bind_eq_ok_iff.mp made
  obtain ⟨registry, registered, made⟩ := bind_eq_ok_iff.mp made
  obtain ⟨sets, noted, made⟩ := bind_eq_ok_iff.mp made
  obtain ⟨basic, listed, made⟩ := bind_eq_ok_iff.mp made
  obtain ⟨supplementary, recorded, made⟩ := bind_eq_ok_iff.mp made
  obtain ⟨whiteSpace, spaced, made⟩ := bind_eq_ok_iff.mp made
  obtain ⟨folding, folded, made⟩ := bind_eq_ok_iff.mp made
  obtain ⟨overrides, overridden, made⟩ := bind_eq_ok_iff.mp made
  cases made
  exact ⟨versioned, registered, noted, listed, recorded, spaced, folded, overridden⟩

namespace Work

/-! ## Directories in the course of a run -/

/-- The order in which a run loads the data files. -/
def loadOrder : List DataFile := [.properties, .characters, .foldings, .specialCasings]

/-- What a run has made of a directory once it has loaded some files. -/
def Reached (surroundings : Surroundings) (start : Directory) (files : List DataFile)
    (directory : Directory) : Prop :=
  surroundings.Savable directory ∧ surroundings.Adds files start directory

/-- What a run has made of a directory when it stops somewhere. It stops before it has loaded
anything only if the first file cannot be loaded. -/
def Stopped (surroundings : Surroundings) (start directory : Directory) : Prop :=
  ∃ loaded, loaded <+: loadOrder ∧ Reached surroundings start loaded directory ∧
    (loaded = [] → ∃ failure, surroundings.textOf start .properties = .error failure)

theorem Reached.stopped (listed : files <+: loadOrder) (begun : files ≠ [])
    (directory : Directory) (reached : Reached surroundings start files directory) :
    Stopped surroundings start directory :=
  ⟨files, listed, reached, fun none => absurd none begun⟩

theorem returns_load (files : List DataFile) (file : DataFile) (new : file ∉ files)
    (listed : files ++ [file] <+: loadOrder) :
    Returns (Reached surroundings start files) (load surroundings file)
      (surroundings.textOf start file) (Reached surroundings start (files ++ [file]))
      (Stopped surroundings start) := by
  intro session reached
  have loads := loads_load surroundings file session
  rw [← Surroundings.textOf_congr (reached.2.entry?_eq new), loads.textOf_eq reached.1]
  cases ended : (load surroundings file).outcome session with
  | mk result final =>
      rw [ended] at loads
      cases result with
      | ok text => exact ⟨rfl, loads.adds reached.1 reached.2⟩
      | error failure =>
          have same : final.directory = session.directory := loads.eq_of_error reached.1
          refine ⟨rfl, files, (List.prefix_append files [file]).trans listed, by rwa [same], ?_⟩
          rintro rfl
          have first : file = .properties := (List.cons_prefix_cons.mp listed).1
          subst first
          have failed := loads.textOf_eq reached.1
          rw [Surroundings.textOf_congr (reached.2.entry?_eq new)] at failed
          exact ⟨failure, failed⟩

/-- A file is loaded, and its text is read. -/
theorem returns_read {α : Type} (files : List DataFile) (file : DataFile) (new : file ∉ files)
    (listed : files ++ [file] <+: loadOrder) (read : List Char → Except Failure α) :
    Returns (Reached surroundings start files) (do ofExcept (read (← load surroundings file)))
      (do read (← surroundings.textOf start file)) (Reached surroundings start (files ++ [file]))
      (Stopped surroundings start) :=
  (returns_load files file new listed).bind fun text =>
    returns_ofExcept (Reached.stopped listed (by simp)) (read text)

theorem returns_split {before stopped : Directory → Prop}
    (stops : ∀ directory, before directory → stopped directory) (table : Array Int) :
    Returns before (split table) (splitOf table) before stopped := by
  refine (returns_ofExcept stops _).bind fun found => ?_
  refine (returns_forM_tellLine found.report).bind_unit ?_
  exact (returns_ofExcept stops _).bind fun _ => returns_pure found.split

theorem returns_compile (surroundings : Surroundings) (start : Directory) :
    Returns (Reached surroundings start []) (compile surroundings)
      (Compiled.fromTexts (surroundings.textOf start)) (Reached surroundings start loadOrder)
      (Stopped surroundings start) := by
  have first : [DataFile.properties] <+: loadOrder := by decide
  have second : [DataFile.properties, .characters] <+: loadOrder := by decide
  have third : [DataFile.properties, .characters, .foldings] <+: loadOrder := by decide
  have stops : ∀ directory, Reached surroundings start [.properties, .characters] directory →
      Stopped surroundings start directory := Reached.stopped second (by decide)
  refine (returns_load [] .properties (by decide) first).bind fun propertyText => ?_
  refine (returns_ofExcept (Reached.stopped first (by decide)) _).bind fun version => ?_
  refine (returns_tellLine _).bind_unit ?_
  refine (returns_read [.properties] .characters (by decide) second _).bind fun registry => ?_
  refine (returns_ofExcept stops _).bind fun properties => ?_
  refine (returns_ofExcept stops _).bind fun basic => ?_
  refine (returns_ofExcept stops _).bind fun supplementary => ?_
  refine (returns_ofExcept stops _).bind fun whiteSpace => ?_
  refine (returns_read [.properties, .characters] .foldings (by decide) third _).bind
    fun folding => ?_
  refine (returns_read [.properties, .characters, .foldings] .specialCasings (by decide)
    (List.prefix_refl loadOrder) _).bind fun overrides => ?_
  exact returns_pure _

theorem returns_generate (surroundings : Surroundings) (start : Directory) :
    Returns (Reached surroundings start []) (generate surroundings)
      (Tables.fromTexts (surroundings.textOf start)) (Reached surroundings start loadOrder)
      (Stopped surroundings start) := by
  have stops : ∀ directory, Reached surroundings start loadOrder directory →
      Stopped surroundings start directory :=
    Reached.stopped (List.prefix_refl loadOrder) (by decide)
  refine (returns_compile surroundings start).bind fun compiled => ?_
  refine (returns_tellLine _).bind_unit ?_
  refine (returns_split stops _).bind fun basicSplit => ?_
  refine (returns_tellLine _).bind_unit ?_
  exact (returns_split stops _).bind fun foldSplit => returns_pure _

theorem reached_nil (savable : surroundings.Savable start) : Reached surroundings start [] start :=
  ⟨savable, surroundings.adds_nil start⟩

/-! ## What is left in the directory -/

theorem loadNamed_adds {name : String} {session after : Session} {text : List Char}
    (savable : surroundings.Savable session.directory)
    (ended : (loadNamed surroundings name).outcome session = (.ok text, after)) :
    ∃ file : DataFile, name = file.name ∧
      surroundings.Adds [file] session.directory after.directory := by
  unfold loadNamed at ended
  cases known : DataFile.ofName? name with
  | none =>
      rw [known] at ended
      cases ended
  | some file =>
      rw [known] at ended
      have loads := loads_load surroundings file session
      rw [ended] at loads
      exact ⟨file, DataFile.name_of_ofName? known,
        (loads.adds savable (surroundings.adds_nil session.directory)).2⟩

theorem loadNamed_untouched {name : String} {session after : Session} {failure : Failure}
    (savable : surroundings.Savable session.directory)
    (ended : (loadNamed surroundings name).outcome session = (.error failure, after)) :
    after.directory = session.directory := by
  unfold loadNamed at ended
  cases known : DataFile.ofName? name with
  | none =>
      rw [known] at ended
      cases ended
      rfl
  | some file =>
      rw [known] at ended
      have loads := loads_load surroundings file session
      rw [ended] at loads
      exact loads.eq_of_error savable

/-- The network is asked for nothing that is in the directory. -/
theorem generate_withNetwork {session : Session} {first second : Network}
    (reached : Reached surroundings start files session.directory)
    (agree : ∀ file, file ∉ files → first file = second file) :
    ((generate (surroundings.withNetwork first)).outcome session).1 =
      ((generate (surroundings.withNetwork second)).outcome session).1 := by
  obtain ⟨savable, adds⟩ := reached
  have same : (surroundings.withNetwork first).textOf session.directory =
      (surroundings.withNetwork second).textOf session.directory := by
    funext file
    refine Surroundings.textOf_withNetwork savable fun missing => agree file fun loaded => ?_
    obtain ⟨entry, found⟩ := adds.present loaded
    cases missing.symm.trans found
  rw [(returns_generate _ session.directory).outcome_eq (reached_nil (savable.withNetwork first)),
    (returns_generate _ session.directory).outcome_eq (reached_nil (savable.withNetwork second)),
    same]

/-- In a directory that can be saved to, a file that is loaded by its name is the only one added,
and nothing changes if that fails. A run adds what is missing of the files that it loads, which
are all of them unless it fails, and later runs do not ask the network for these. -/
theorem generate_only_adds (surroundings : Surroundings) (session : Session)
    (savable : surroundings.Savable session.directory) :
    (∀ name failure after, (loadNamed surroundings name).outcome session = (.error failure, after) →
        after.directory = session.directory) ∧
      (∀ name text after, (loadNamed surroundings name).outcome session = (.ok text, after) →
        ∃ file : DataFile, name = file.name ∧
          surroundings.Adds [file] session.directory after.directory) ∧
      ∀ result after, (generate surroundings).outcome session = (result, after) →
        ∃ loaded, loaded <+: loadOrder ∧
          surroundings.Adds loaded session.directory after.directory ∧
          (result.isOk = true → loaded = loadOrder) ∧
          ∀ later : Session, later.directory = after.directory →
            ∀ first second : Network, (∀ file, file ∉ loaded → first file = second file) →
              ((generate (surroundings.withNetwork first)).outcome later).1 =
                ((generate (surroundings.withNetwork second)).outcome later).1 := by
  refine ⟨fun _ _ _ ended => loadNamed_untouched savable ended,
    fun _ _ _ ended => loadNamed_adds savable ended, ?_⟩
  intro result after ended
  have returns := returns_generate surroundings session.directory session (reached_nil savable)
  rw [ended] at returns
  obtain ⟨loaded, listed, reached, complete⟩ : ∃ loaded, loaded <+: loadOrder ∧
      Reached surroundings session.directory loaded after.directory ∧
      (result.isOk = true → loaded = loadOrder) := by
    cases result with
    | ok tables => exact ⟨loadOrder, List.prefix_refl loadOrder, returns.2, fun _ => rfl⟩
    | error failure =>
        obtain ⟨_, loaded, listed, reached, _⟩ := returns
        exact ⟨loaded, listed, reached, fun made => by cases made⟩
  refine ⟨loaded, listed, reached.2, complete, ?_⟩
  intro later same first second agree
  rw [← same] at reached
  exact generate_withNetwork reached agree

/-- A note that stands in the directory is still there after a run. -/
theorem generate_only_adds_note :
    (⟨letterNetwork, [], ""⟩ : Surroundings).Savable (.ofFiles [("note", [0x2D])]) ∧
      Directory.entry? ((generate ⟨letterNetwork, [], ""⟩).outcome
        ⟨.ofFiles [("note", [0x2D])], ""⟩).2.directory "note" = some (.file [0x2D]) := by
  have savable : (⟨letterNetwork, [], ""⟩ : Surroundings).Savable
      (.ofFiles [("note", [0x2D])]) :=
    Surroundings.savable_present (fun file => by cases file <;> decide) _
  have noted : Directory.entry? (.ofFiles [("note", [0x2D])]) "note" = some (.file [0x2D]) := by
    decide +kernel
  cases ended : (generate ⟨letterNetwork, [], ""⟩).outcome
      ⟨.ofFiles [("note", [0x2D])], ""⟩ with
  | mk result after =>
      obtain ⟨_, _, adds, _⟩ := (generate_only_adds ⟨letterNetwork, [], ""⟩
        ⟨.ofFiles [("note", [0x2D])], ""⟩ savable).2.2 result after ended
      exact ⟨savable, adds.kept "note" (.file [0x2D]) noted⟩

end Work

end CharacterTables
