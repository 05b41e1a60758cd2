import Mathlib
import CharacterTables.Proofs.Corpus.LineReader
import CharacterTables.Proofs.Corpus.Requests

/-!
# Reading on demand

A reader that goes line by line may rest wherever a record has been handed out: among the records of
a range, just before a bad line, or between the two lines of a range. It looks at a further line
only when a record is asked for and none is at hand. What it hands out is what reading the whole text
at once finds, for any number of such readers on one text.
-/

set_option autoImplicit false

namespace CharacterTables

/-- A reader at rest: what it has at hand of the lines behind it, its state there and the lines ahead
of it. Once it has told the ending it is finished. -/
inductive Suspended (σ α : Type) where
  | within (pending : List α) (state : σ) (lines : List Line)
  | finished

namespace LineReader

open Reading (Ending Delivery)

variable {σ α : Type} (reader : LineReader σ α)

/-- Looks for a record, in as many further lines as it takes. -/
def resume : List α → σ → List Line → Except Ending α × Suspended σ α
  | record :: pending, state, lines => (.ok record, .within pending state lines)
  | [], state, [] => (.error ((reader.close state).elim .done .failed), .finished)
  | [], state, line :: lines =>
      match reader.step state line with
      | .error fault => (.error (.failed fault), .finished)
      | .ok (next, runs) => resume (runs.flatMap Run.records) next lines

/-- The next record, or else the ending, which is told once. -/
def next : Suspended σ α → Except Ending α × Suspended σ α
  | .within pending state lines => reader.resume pending state lines
  | .finished => (.error .done, .finished)

/-- What reading on to the end would find. -/
def remaining : Suspended σ α → Reading α
  | .within pending state lines => (reader.read state lines).behind (pending.map Run.single)
  | .finished => .exhausted

/-! ## One record after the other -/

/-- A record that is handed out is the first of those that remain. -/
structure Yields (before : Reading α) (record : α) (after : Reading α) : Prop where
  records : before.records = record :: after.records
  stop : before.stop = after.stop

/-- An ending is told when no record remains. -/
structure Ends (before : Reading α) (ending : Ending) (after : Reading α) : Prop where
  records : before.records = []
  ending : before.ending = ending
  after : after = .exhausted

theorem records_remaining (pending : List α) (state : σ) (lines : List Line) :
    (reader.remaining (.within pending state lines)).records =
      pending ++ (reader.read state lines).records := by
  simp [remaining, Reading.behind, Reading.records, List.flatMap_map]

theorem resume_cases (pending : List α) (state : σ) (lines : List Line) :
    (∃ record rest, reader.resume pending state lines = (.ok record, rest) ∧
      Yields (reader.remaining (.within pending state lines)) record (reader.remaining rest)) ∨
    ∃ ending rest, reader.resume pending state lines = (.error ending, rest) ∧
      Ends (reader.remaining (.within pending state lines)) ending (reader.remaining rest) := by
  fun_induction resume reader pending state lines with
  | case1 record pending state lines =>
      refine .inl ⟨record, _, rfl, ?_, rfl⟩
      rw [records_remaining, records_remaining, List.cons_append]
  | case2 state => exact .inr ⟨_, _, rfl, rfl, rfl, rfl⟩
  | case3 state line lines fault stuck =>
      refine .inr ⟨_, _, rfl, ?_, ?_, rfl⟩
      · rw [records_remaining, read_cons_of_error lines stuck]
        rfl
      · rw [remaining, read_cons_of_error lines stuck]
        rfl
  | case4 state line lines next runs stepped ih =>
      have same : (reader.remaining (.within [] state (line :: lines))).records =
          (reader.remaining (.within (runs.flatMap Run.records) next lines)).records := by
        rw [records_remaining, records_remaining, read_cons_of_ok lines stepped]
        simp [Reading.behind, Reading.records]
      have stop : (reader.remaining (.within [] state (line :: lines))).stop =
          (reader.remaining (.within (runs.flatMap Run.records) next lines)).stop := by
        rw [remaining, read_cons_of_ok lines stepped]
        rfl
      refine ih.imp ?_ ?_
      · rintro ⟨record, rest, found, yields⟩
        exact ⟨record, rest, found, same.trans yields.records, stop.trans yields.stop⟩
      · rintro ⟨ending, rest, found, ends⟩
        refine ⟨ending, rest, found, same.trans ends.records, ?_, ends.after⟩
        rw [Reading.ending, stop]
        exact ends.ending

theorem next_cases (suspended : Suspended σ α) :
    (∃ record rest, reader.next suspended = (.ok record, rest) ∧
      Yields (reader.remaining suspended) record (reader.remaining rest)) ∨
    ∃ ending rest, reader.next suspended = (.error ending, rest) ∧
      Ends (reader.remaining suspended) ending (reader.remaining rest) := by
  cases suspended with
  | within pending state lines => exact reader.resume_cases pending state lines
  | finished => exact .inr ⟨.done, .finished, rfl, rfl, rfl, rfl⟩

theorem yields_of_next {suspended rest : Suspended σ α} {record : α}
    (found : reader.next suspended = (.ok record, rest)) :
    Yields (reader.remaining suspended) record (reader.remaining rest) := by
  rcases reader.next_cases suspended with ⟨_, _, same, yields⟩ | ⟨_, _, same, _⟩
  · cases found.symm.trans same
    exact yields
  · cases found.symm.trans same

theorem ends_of_next {suspended rest : Suspended σ α} {ending : Ending}
    (told : reader.next suspended = (.error ending, rest)) :
    Ends (reader.remaining suspended) ending (reader.remaining rest) := by
  rcases reader.next_cases suspended with ⟨_, _, same, _⟩ | ⟨_, _, same, ends⟩
  · cases told.symm.trans same
  · cases told.symm.trans same
    exact ends

/-! ## Requests -/

/-- Asks for one record after the other, up to a limit if there is one, until the ending is told. -/
def pull (limit : Option Nat) (suspended : Suspended σ α) : Delivery α × Suspended σ α :=
  if limit = some 0 then ({ records := [], ending := none }, suspended)
  else
    match _ : reader.next suspended with
    | (.error ending, rest) => ({ records := [], ending := some ending }, rest)
    | (.ok record, rest) =>
        let (delivery, last) := pull (limit.map (· - 1)) rest
        ({ delivery with records := record :: delivery.records }, last)
  termination_by (reader.remaining suspended).records.length
  decreasing_by
    rename_i found
    rw [(reader.yields_of_next found).records]
    exact Nat.lt_succ_self _

section Delivering

variable {before after rest : Reading α} {limit : Option Nat} {record : α} {ending : Ending}
  {delivery : Delivery α}

theorem amount_eq_succ (more : limit ≠ some 0) :
    Reading.amount limit = Reading.amount (limit.map (· - 1)) + 1 := by
  cases limit with
  | none => rfl
  | some count =>
      cases count with
      | zero => exact absurd rfl more
      | succ count => simp [Reading.amount]

theorem Yields.delivers (yields : Yields before record after) (more : limit ≠ some 0)
    (delivers : after.Delivers (limit.map (· - 1)) delivery rest) :
    before.Delivers limit { delivery with records := record :: delivery.records } rest := by
  have length : (before.records.length : ℕ∞) = after.records.length + 1 := by
    rw [yields.records, List.length_cons, Nat.cast_succ]
  have reach : Reading.amount limit ≤ (before.records.length : ℕ∞) ↔
      Reading.amount (limit.map (· - 1)) ≤ after.records.length := by
    rw [length, amount_eq_succ more]
    exact WithTop.add_le_add_iff_right ENat.one_ne_top
  refine ⟨?_, ?_, fun small => ?_, fun large => ?_⟩
  · rw [yields.records, delivers.records, List.cons_append]
  · rw [length, amount_eq_succ more, min_add_add_right, ← delivers.length]
    exact Nat.cast_succ _
  · obtain ⟨quiet, same⟩ := delivers.inside (reach.mp small)
    exact ⟨quiet, same.trans yields.stop.symm⟩
  · obtain ⟨told, last⟩ := delivers.beyond ((lt_iff_lt_of_le_iff_le reach).mp large)
    rw [Reading.ending, yields.stop]
    exact ⟨told, last⟩

theorem Ends.delivers (ends : Ends before ending after) (more : limit ≠ some 0) :
    before.Delivers limit { records := [], ending := some ending } after := by
  have large : (before.records.length : ℕ∞) < Reading.amount limit := by
    rw [ends.records]
    exact pos_iff_ne_zero.mpr fun nothing => more (Reading.amount_eq_zero_iff.mp nothing)
  refine ⟨?_, ?_, fun small => absurd small large.not_ge, fun _ => ⟨?_, ?_⟩⟩
  · rw [ends.records, ends.after]
    rfl
  · rw [min_eq_right large.le, ends.records]
  · rw [ends.ending]
  · rw [ends.after]
    rfl

end Delivering

theorem delivers_pull (limit : Option Nat) (suspended : Suspended σ α) :
    (reader.remaining suspended).Delivers limit (reader.pull limit suspended).1
      (reader.remaining (reader.pull limit suspended).2) := by
  fun_induction pull reader limit suspended with
  | case1 suspended =>
      refine ⟨rfl, ?_, fun _ => ⟨rfl, rfl⟩, fun beyond => ?_⟩
      · exact (min_eq_left zero_le).symm
      · cases beyond.not_ge zero_le
  | case2 limit suspended more ending rest told =>
      exact (reader.ends_of_next told).delivers more
  | case3 limit suspended more record rest found delivery last pulled ih =>
      rw [pulled] at ih
      exact (reader.yields_of_next found).delivers more ih

/-- What one request after the other is answered. -/
def answers (suspended : Suspended σ α) : List (Option Nat) → List (Delivery α)
  | [] => []
  | limit :: limits =>
      (reader.pull limit suspended).1 :: answers (reader.pull limit suspended).2 limits

theorem deliversAll_answers (suspended : Suspended σ α) (limits : List (Option Nat)) :
    (reader.remaining suspended).DeliversAll limits (reader.answers suspended limits) := by
  induction limits generalizing suspended with
  | nil => exact .nil _
  | cons limit limits ih => exact .cons (reader.delivers_pull limit suspended) (ih _)

end LineReader

/-! ## Several cursors on one text -/

/-- Whatever is asked of any number of cursors, and in whatever order: each of them is answered as a
reader of its own would be that reads on demand, with the records and the ending of the full reading,
and whatever is asked of the others. -/
structure ServedOnDemand {σ α : Type} (reader : LineReader σ α) (start : σ) (lines : List Line)
    (reading : Reading α) : Prop where
  onDemand : ∀ schedule cursor, ofCursor cursor ((Cursors.start reading).serve schedule) =
    reader.answers (.within [] start lines) (ofCursor cursor schedule)
  serves : ∀ schedule cursor, reading.Serves (ofCursor cursor schedule)
    (ofCursor cursor ((Cursors.start reading).serve schedule))
  apart : ∀ schedule others cursor, ofCursor cursor schedule = ofCursor cursor others →
    ofCursor cursor ((Cursors.start reading).serve schedule) =
      ofCursor cursor ((Cursors.start reading).serve others)

theorem servedOnDemand_read {σ α : Type} (reader : LineReader σ α) (start : σ)
    (lines : List Line) : ServedOnDemand reader start lines (reader.read start lines) := by
  have alone (schedule : List (Int × Option Nat)) (cursor : Int) :
      ofCursor cursor ((Cursors.start (reader.read start lines)).serve schedule) =
        (reader.read start lines).answers (ofCursor cursor schedule) := by
    rw [Cursors.ofCursor_serve, Cursors.remaining_start]
  refine ⟨fun schedule cursor => ?_, fun schedule cursor => ?_, fun schedule others cursor same => ?_⟩
  · rw [alone]
    exact (Reading.deliversAll_answers _ _).unique (reader.deliversAll_answers _ _) rfl rfl
  · rw [alone]
    exact (Reading.deliversAll_answers _ _).serves
  · rw [alone, alone, same]

/-- Reading on demand agrees with reading everything, for all four files. -/
theorem cursors_serve (text : List Char) :
    ServedOnDemand characterReader none (numberedLines text) (readCharacters text) ∧
      ServedOnDemand propertyReader 0 (numberedLines text) (readProperties text) ∧
      ServedOnDemand (recordReader .foldings readFold) () (numberedLines text) (readFolds text) ∧
      ServedOnDemand (recordReader .specialCasings readSpecialCase) () (numberedLines text)
        (readSpecialCases text) := by
  rw [readCharacters_eq_read, readProperties_eq_read, readFolds_eq_read, readSpecialCases_eq_read]
  exact ⟨servedOnDemand_read _ _ _, servedOnDemand_read _ _ _, servedOnDemand_read _ _ _,
    servedOnDemand_read _ _ _⟩

/-- A fault is told once, to each cursor that meets it. -/
example : ((Cursors.start (readFolds "0041; C; 0061;\n0042; X; 0062;\n".toList)).serve
      [(0, some 1), (1, none), (0, some 1), (0, some 1)]).map
        (fun answer => (answer.1, answer.2.records.map CaseFold.code, answer.2.ending)) =
    [(0, [0x41], none),
      (1, [0x41],
        some (.failed (.line .foldings 2 "0042; X; 0062;".toList (.unknownStatus ['X'])))),
      (0, [],
        some (.failed (.line .foldings 2 "0042; X; 0062;".toList (.unknownStatus ['X'])))),
      (0, [], some .done)] := by
  decide +kernel

end CharacterTables
