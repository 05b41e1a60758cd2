import CharacterTables.Corpus.Line

/-!
# Readings

The outcome of reading a data file: the records before its end or its first fault, and
that fault. A single line may stand for a great many records, so records are kept in runs
and counted out only when asked for.
-/

set_option autoImplicit false

namespace CharacterTables

/-! ## Runs of records -/

/-- Records for `size` consecutive codes, beginning with `first`. -/
structure Run (α : Type) where
  first : Int
  size : Nat
  record : Int → α

namespace Run

variable {α : Type}

def single (record : α) : Run α :=
  { first := 0, size := 1, record := fun _ => record }

/-- One record for each code from `first` to `last`; none if the codes run backward. -/
def between (first last : Int) (record : Int → α) : Run α :=
  { first, size := (last + 1 - first).toNat, record }

def records (run : Run α) : List α :=
  (List.range run.size).map fun (offset : Nat) => run.record (run.first + offset)

def take (run : Run α) (count : Nat) : Run α :=
  { run with size := min count run.size }

def drop (run : Run α) (count : Nat) : Run α :=
  { run with first := run.first + (count : Int), size := run.size - count }

@[simp] theorem records_single (record : α) : (single record).records = [record] := rfl

@[simp] theorem length_records (run : Run α) : run.records.length = run.size := by
  simp [records]

end Run

/-! ## Readings -/

/-- What reading a data file gives: runs of records, and the fault that stopped the
reading, if one did. -/
structure Reading (α : Type) where
  runs : List (Run α)
  stop : Option ReadFault

namespace Reading

variable {α : Type}

def records (reading : Reading α) : List α :=
  reading.runs.flatMap Run.records

/-- Reads line by line, where a line gives at most one record. The runs found so far are
held last first. -/
def ofLines (file : DataFile) (read : Line → Except LineFault (Option α)) :
    List Line → List (Run α) → Reading α
  | [], found => { runs := found.reverse, stop := none }
  | line :: rest, found =>
      match read line with
      | .error cause => { runs := found.reverse, stop := some (line.fault file cause) }
      | .ok none => ofLines file read rest found
      | .ok (some record) => ofLines file read rest (Run.single record :: found)

/-- Folds a step that may fail over the records; then the fault that stopped the reading,
if any, is the outcome. A failing step hides a later fault of the file. -/
def foldRecords {ε σ : Type} (reading : Reading α) (ofFault : ReadFault → ε)
    (step : σ → α → Except ε σ) (start : σ) : Except ε σ :=
  match reading.records.foldlM step start with
  | .error cause => .error cause
  | .ok final =>
      match reading.stop with
      | some fault => .error (ofFault fault)
      | none => .ok final

def complete (reading : Reading α) : Except ReadFault (List α) :=
  match reading.stop with
  | some fault => .error fault
  | none => .ok reading.records

/-! ## Reading piecewise -/

/-- How a reading ends. -/
inductive Ending where
  | done
  | failed (fault : ReadFault)
  deriving DecidableEq, Repr

/-- Records handed out at one request, and the ending if the request ran into it. -/
structure Delivery (α : Type) where
  records : List α
  ending : Option Ending

def splitRuns : Nat → List (Run α) → List α × List (Run α)
  | _, [] => ([], [])
  | count, run :: rest =>
      if count < run.size then ((run.take count).records, run.drop count :: rest)
      else
        let (others, remaining) := splitRuns (count - run.size) rest
        (run.records ++ others, remaining)

def exhausted : Reading α :=
  { runs := [], stop := none }

/-- Asks for up to `limit` records, or for all of them. A request that asks for more than
there is meets the ending; behind it nothing is left, and a fault is reported once. -/
def pull (reading : Reading α) (limit : Option Nat) : Delivery α × Reading α :=
  let ending := some (reading.stop.elim Ending.done Ending.failed)
  match limit with
  | none => ({ records := reading.records, ending }, exhausted)
  | some count =>
      let (records, remaining) := splitRuns count reading.runs
      if records.length < count then ({ records, ending }, exhausted)
      else ({ records, ending := none }, { reading with runs := remaining })

end Reading

end CharacterTables
