import CharacterTables.Text.Digit
import CharacterTables.Text.Quoted

/-!
# Command line arguments

Three switches, each with a short and a long spelling. Long spellings may be cut short as
long as one switch is meant; short ones may share a dash, and the value of a switch may be
joined to it.
-/

set_option autoImplicit false

namespace CharacterTables.CommandLine

open Text

/-- What a switch asks for. -/
inductive Switch where
  | help
  | dataDirectory
  | quiet
  deriving DecidableEq, Repr

namespace Switch

/-- The spellings of all switches, in the order in which they are listed. -/
def spellings : List (List Char × Switch) :=
  [("-h".toList, help), ("--help".toList, help), ("-d".toList, dataDirectory),
    ("--data-dir".toList, dataDirectory), ("-q".toList, quiet), ("--quiet".toList, quiet)]

def ofSpelling? (spelling : List Char) : Option Switch :=
  spellings.lookup spelling

def name : Switch → String
  | help => "-h/--help"
  | dataDirectory => "-d/--data-dir"
  | quiet => "-q/--quiet"

end Switch

/-- Why arguments are not accepted. -/
inductive UsageFault where
  | ambiguous (argument : List Char) (spellings : List (List Char))
  | missingValue (switch : Switch)
  | unwantedValue (switch : Switch) (value : List Char)
  | unrecognized (arguments : List (List Char))
  deriving DecidableEq, Repr

/-- The wording of a fault. -/
def UsageFault.message : UsageFault → String
  | ambiguous argument spellings =>
      "ambiguous option: " ++ String.ofList argument ++ " could match " ++
        ", ".intercalate (spellings.map String.ofList)
  | missingValue switch => "argument " ++ switch.name ++ ": expected one argument"
  | unwantedValue switch value =>
      "argument " ++ switch.name ++ ": ignored explicit argument " ++ quoted value
  | unrecognized arguments =>
      "unrecognized arguments: " ++ " ".intercalate (arguments.map String.ofList)

/-! ## Single arguments -/

/-- A switch as an argument spells it: whether by a long spelling, and the text joined to
the spelling, if any. -/
structure SpelledSwitch where
  switch : Switch
  long : Bool
  joined : Option (List Char)
  deriving DecidableEq, Repr

/-- What an argument is by itself. -/
inductive Word where
  /-- A value, or something that is left over. -/
  | plain
  /-- The mark behind which all arguments are plain. -/
  | endOfSwitches
  | switch (spelled : SpelledSwitch)
  /-- Something that looks like a switch and is none. -/
  | unknownSwitch
  deriving DecidableEq, Repr

/-- The text before the first equals sign, and the text behind it if there is one. -/
def cutAtEquals (text : List Char) : List Char × Option (List Char) :=
  match text.dropWhile (· != '=') with
  | [] => (text, none)
  | _ :: value => (text.takeWhile (· != '='), some value)

/-- Whether an argument is a negative number: a dash and decimal digits, which a full stop
may precede or divide. A line feed may follow. -/
def isNegativeNumber (argument : List Char) : Bool :=
  match argument with
  | '-' :: rest =>
      let number := if rest.getLast? = some '\n' then rest.dropLast else rest
      let whole := number.takeWhile isDecimal
      match number.dropWhile isDecimal with
      | [] => !whole.isEmpty
      | '.' :: places => !places.isEmpty && places.all isDecimal
      | _ => false
  | _ => false
where
  isDecimal (c : Char) : Bool := (decimalValue? c).isSome

/-- The switches that an argument may mean, each with the spelling that it stands for. Two
dashes begin a long spelling, which may be cut short before an equals sign; one dash begins
a short spelling, to which anything may be joined. -/
def meanings (argument : List Char) : List (List Char × SpelledSwitch) :=
  match argument with
  | '-' :: '-' :: _ =>
      let (opening, value) := cutAtEquals argument
      (Switch.spellings.filter fun (spelling, _) => opening.isPrefixOf spelling).map
        fun (spelling, switch) =>
          (spelling, { switch, long := true, joined := value })
  | '-' :: letter :: joined =>
      match Switch.ofSpelling? ['-', letter] with
      | some switch =>
          [(['-', letter], { switch, long := false, joined := some joined })]
      | none => []
  | _ => []

def isLong (spelling : List Char) : Bool :=
  "--".toList.isPrefixOf spelling

def classify (argument : List Char) : Except UsageFault Word :=
  if argument.head? ≠ some '-' ∨ argument = ['-'] then .ok .plain
  else if argument = ['-', '-'] then .ok .endOfSwitches
  else
    match Switch.ofSpelling? argument with
    | some switch => .ok (.switch { switch, long := isLong argument, joined := none })
    | none =>
        let (opening, value) := cutAtEquals argument
        match value.bind fun _ => Switch.ofSpelling? opening with
        | some switch =>
            .ok (.switch { switch, long := isLong opening, joined := value })
        | none =>
            match meanings argument with
            | [(_, spelled)] => .ok (.switch spelled)
            | [] =>
                if isNegativeNumber argument || argument.contains ' ' then .ok .plain
                else .ok .unknownSwitch
            | several => .error (.ambiguous argument (several.map Prod.fst))

/-- What each of the arguments is. Behind the end of switches all are plain. -/
def classifyAll : List (List Char) → Except UsageFault (List (List Char × Word))
  | [] => .ok []
  | argument :: rest => do
      match ← classify argument with
      | .endOfSwitches => return (argument, .endOfSwitches) :: rest.map (·, .plain)
      | word => return (argument, word) :: (← classifyAll rest)

/-! ## Arguments in sequence -/

/-- Where the data files are to be kept. -/
inductive Keeping where
  | usual
  | inDirectory (path : List Char)
  /-- In no place: two dashes were given for the path, and they are dropped. -/
  | nowhere
  deriving DecidableEq, Repr

def Keeping.ofValue (value : List Char) : Keeping :=
  if value = ['-', '-'] then nowhere else inDirectory value

/-- A switch that is complete. -/
inductive Setting where
  | help
  | dataDirectory (keeping : Keeping)
  | quiet
  deriving DecidableEq, Repr

/-- The setting of a switch that takes no value. -/
def Setting.ofSwitch? : Switch → Option Setting
  | .help => some .help
  | .quiet => some .quiet
  | .dataDirectory => none

/-- What one argument comes to: settings in order, and whether a switch behind them needs the
next argument for its value. -/
structure Unfolded where
  settings : List Setting
  needsValue : Bool
  deriving DecidableEq, Repr

def unfoldBare (settings : List Setting) (switch : Switch) : Unfolded :=
  match Setting.ofSwitch? switch with
  | some setting => { settings := settings ++ [setting], needsValue := false }
  | none => { settings, needsValue := true }

/-- Takes apart a switch with text joined to it. Behind a short switch without value the text
spells further short switches, up to one that takes the rest as its value. -/
def unfoldJoined (settings : List Setting) (switch : Switch) (long : Bool) :
    List Char → Except UsageFault Unfolded
  | [] =>
      match Setting.ofSwitch? switch with
      | some _ => .error (.unwantedValue switch [])
      | none =>
          .ok { settings := settings ++ [.dataDirectory (.ofValue [])], needsValue := false }
  | letter :: rest =>
      match Setting.ofSwitch? switch with
      | none =>
          .ok { settings := settings ++ [.dataDirectory (.ofValue (letter :: rest))],
                needsValue := false }
      | some setting =>
          match if long then none else Switch.ofSpelling? ['-', letter] with
          | none => .error (.unwantedValue switch (letter :: rest))
          | some next =>
              if rest.isEmpty then .ok (unfoldBare (settings ++ [setting]) next)
              else unfoldJoined (settings ++ [setting]) next false rest

def SpelledSwitch.unfold (spelled : SpelledSwitch) : Except UsageFault Unfolded :=
  match spelled.joined with
  | none => .ok (unfoldBare [] spelled.switch)
  | some text => unfoldJoined [] spelled.switch spelled.long text

/-- What the arguments ask for. -/
inductive Request where
  | help
  | run (keeping : Keeping) (quiet : Bool)
  deriving DecidableEq, Repr

/-- What is settled by the arguments so far. -/
structure Settled where
  keeping : Keeping
  quiet : Bool
  leftOver : List (List Char)
  deriving DecidableEq, Repr

/-- Carries out settings up to the first that asks for help; nothing is settled then. -/
def Settled.apply : Settled → List Setting → Option Settled
  | settled, [] => some settled
  | _, .help :: _ => none
  | settled, .dataDirectory keeping :: rest => apply { settled with keeping } rest
  | settled, .quiet :: rest => apply { settled with quiet := true } rest

/-- Goes through classified arguments. Asking for help takes effect at once, left-over
arguments only at the end. -/
def settle (settled : Settled) : List (List Char × Word) → Except UsageFault Request
  | [] =>
      if settled.leftOver.isEmpty then .ok (.run settled.keeping settled.quiet)
      else .error (.unrecognized settled.leftOver)
  | (_, .switch spelled) :: rest =>
      match spelled.unfold with
      | .error fault => .error fault
      | .ok unfolded =>
          if unfolded.needsValue then
            match rest with
            | (value, .plain) :: rest =>
                match settled.apply (unfolded.settings ++ [.dataDirectory (.ofValue value)]) with
                | none => .ok .help
                | some settled => settle settled rest
            | _ => .error (.missingValue .dataDirectory)
          else
            match settled.apply unfolded.settings with
            | none => .ok .help
            | some settled => settle settled rest
  | (argument, _) :: rest =>
      settle { settled with leftOver := settled.leftOver ++ [argument] } rest

def parse (arguments : List (List Char)) : Except UsageFault Request := do
  let words ← classifyAll arguments
  settle { keeping := .usual, quiet := false, leftOver := [] } words

end CharacterTables.CommandLine
